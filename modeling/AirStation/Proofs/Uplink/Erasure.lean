import AirStation.Proofs.Publisher.Ghost
import AirStation.Proofs.Uplink.Chronicle

/-! The chronicle changes nothing. Without it, each run of the recorded system is a run of the
system, and each run of the system is one that was recorded; so whatever every chronicle tells
is told of every run of the two tasks. -/

namespace AirStation.Uplink

open Session

namespace Chronicle

theorem start_shows : Act.Shows (Hub.map Chronicle.desk) broker.start Uplink.broker.start :=
  fun _ _ => rfl

theorem stop_shows : Act.Shows (Hub.map Chronicle.desk) broker.stop Uplink.broker.stop :=
  fun _ _ => rfl

theorem publish_shows (topic : String) (payload : Bytes) :
    Act.Shows (Hub.map Chronicle.desk) (broker.publish topic payload)
      (Uplink.broker.publish topic payload) := by
  intro h js
  have hget : hubPart.get h = h.map Chronicle.desk := rfl
  simp only [broker, Act.bind_apply, Act.on_apply, hget]
  generalize Uplink.broker.publish topic payload (h.map Chronicle.desk) js = x
  obtain ⟨⟨result, k⟩, js'⟩ := x
  cases result <;> rfl

theorem broker_shows : broker.Shows Chronicle.desk Uplink.broker where
  start := start_shows
  stop := stop_shows
  publish := publish_shows

end Chronicle

/-- What the session task does has nothing to do with the notices that were left before. -/
theorem resume_unnoticed {access : BrokerAccess} (p : Phase) (r : (p.demand access).Reply)
    (h : Hub Desk) (js : Array Notice) :
    ((session access).resume p r h js).1 = ((session access).resume p r h #[]).1 := by
  cases p with
  | idle =>
    cases r with
    | publish topic payload => rfl
    | start =>
      simp only [session, resume, onCommand, Act.bind_apply, locate]
      cases Ipv4.parse? access.host <;> rfl
  | serving sent => rcases r with _ | (_ | _) | _ <;> rfl
  | resolving => rcases r with _ | (_ | _) <;> rfl
  | connecting | opening | sending | pinging | closing => cases r <;> rfl

namespace Recorded

variable {cfg : PublisherConfig} {access : BrokerAccess} {s t : Recorded}
  {calls : List (Request × Bool)}

/-- The system without its chronicle, with the calls of the session at hand. -/
def system (s : Recorded) (calls : List (Request × Bool)) : System where
  site := Publisher.Site.map Chronicle.desk s.site
  publisher := s.publisher
  session := s.session
  calls := calls

/-- A move that is recorded is one of the system. -/
theorem Move.erase (h : Move cfg access s t) (calls : List (Request × Bool)) :
    ∃ calls', System.Move cfg access (s.system calls) (t.system calls') := by
  cases h with
  | publisherBegins js hp hstart =>
    have hshows := Publisher.run_start_shows cfg Chronicle.broker_shows s.site js
    rw [hstart] at hshows
    exact ⟨calls, .publisherBegins js hp (congrArg Prod.fst hshows)⟩
  | publisherGoesOn r js hp hresume =>
    have hshows := Publisher.run_resume_shows cfg Chronicle.broker_shows _ r s.site js
    rw [hresume] at hshows
    exact ⟨calls, .publisherGoesOn r js hp (congrArg Prod.fst hshows)⟩
  | sessionGoesOn r hmeets hresume =>
    exact ⟨_, .sessionGoesOn (s := s.system calls) r #[] hmeets (congrArg Prod.fst hresume)⟩
  | linkReports e js => exact ⟨calls, .linkReports (s := s.system calls) e js⟩
  | linkCooledDown js => exact ⟨calls, .linkCooledDown (s := s.system calls) js⟩
  | aside store changed join listening =>
    exact ⟨calls, .aside (s := s.system calls) store changed join listening⟩

/-- A move of the system can be recorded. -/
theorem exists_move {u : System} (h : System.Move cfg access (s.system calls) u) :
    ∃ t, Move cfg access s t ∧ u = t.system u.calls := by
  cases h with
  | publisherBegins js hp hstart =>
    have hshows := Publisher.run_start_shows cfg Chronicle.broker_shows s.site js
    obtain ⟨hw, rfl⟩ := Prod.mk.inj (hshows ▸ hstart)
    exact ⟨_, .publisherBegins js hp (Prod.ext hw rfl), rfl⟩
  | publisherGoesOn r js hp hresume =>
    have hshows := Publisher.run_resume_shows cfg Chronicle.broker_shows _ r s.site js
    obtain ⟨hw, rfl⟩ := Prod.mk.inj (hshows ▸ hresume)
    exact ⟨_, .publisherGoesOn r js hp (Prod.ext hw rfl), rfl⟩
  | sessionGoesOn r js hmeets hresume =>
    have hquiet := (resume_unnoticed _ r _ js).symm.trans hresume
    exact ⟨_, .sessionGoesOn r hmeets (Prod.ext hquiet rfl), rfl⟩
  | linkReports e js => exact ⟨_, .linkReports e js, rfl⟩
  | linkCooledDown js => exact ⟨_, .linkCooledDown js, rfl⟩
  | aside store changed join listening => exact ⟨_, .aside store changed join listening, rfl⟩

theorem Reachable.erase (h : Reachable cfg access s) :
    ∃ calls, System.Reachable cfg access (s.system calls) := by
  induction h with
  | powerOn maxRetries => exact ⟨[], .powerOn maxRetries⟩
  | move _ hm ih =>
    obtain ⟨calls, hs⟩ := ih
    obtain ⟨calls', hmove⟩ := hm.erase calls
    exact ⟨calls', hs.move hmove⟩

/-- Every run of the system was recorded. -/
theorem exists_reachable {u : System} (h : System.Reachable cfg access u) :
    ∃ s, Reachable cfg access s ∧ u = s.system u.calls := by
  induction h with
  | powerOn maxRetries => exact ⟨powerOn maxRetries, .powerOn maxRetries, rfl⟩
  | move _ hm ih =>
    obtain ⟨s, hs, heq⟩ := ih
    rw [heq] at hm
    obtain ⟨t, hmove, ht⟩ := exists_move hm
    exact ⟨t, hs.move hmove, ht⟩

end Recorded

end AirStation.Uplink
