import AirStation.Proofs.Publisher.Run
import AirStation.Proofs.Uplink.Dispatch
import AirStation.Rig.Network
import AirStation.Uplink.Session

/-! The publisher, the session task and the link around one hub, each going on only where
it waits and each reply the network may give. Beside the state a system keeps the calls
that the session at hand has made, with whether they succeeded. The board gives its
session task no reply that the system would not. -/

namespace AirStation.Uplink

/-- Whether a call succeeded. -/
def Request.succeeds : (r : Request) → r.Reply → Bool
  | .runStack, x => nomatch x
  | .resolve _, x => x.isOk
  | .configureRadio _, x | .startRadio, x | .joinNetwork, x | .connect .., x
  | .openSession _, x | .send .., x | .ping, x | .closeSession, x => x.isOk

namespace Session

/-- The replies that the hub has for a demand, and the hub without what was taken. A call
may come back with anything; a ping is due only where neither a stop nor a command is. -/
def Demand.Meets : (d : Demand) → d.Reply → Hub Desk → Hub Desk → Prop
  | .command, c, h, h' => ∃ js, (Desk.takeCommand h js).1 = (some c, h')
  | .call _, _, h, h' => h' = h
  | .turn _, t, h, h' =>
    (∃ js, (takeTurn h js).1 = (some t, h')) ∨
      (t = .pingDue ∧ ∃ js, (takeTurn h js).1 = (none, h'))

/-- The calls of the session at hand once a reply is there. A command to start begins
another session. -/
def Demand.record : (d : Demand) → d.Reply → List (Request × Bool) → List (Request × Bool)
  | .command, .start, _ => []
  | .command, .publish .., calls => calls
  | .call r, x, calls => calls ++ [(r, r.succeeds x)]
  | .turn _, _, calls => calls

/-- The session is open and answers commands. -/
def Phase.Stands : Phase → Prop
  | .serving _ | .sending .. | .pinging _ => True
  | _ => False

/-- A session was asked for and is not open yet. -/
def Phase.Opens : Phase → Prop
  | .resolving | .connecting _ | .opening => True
  | _ => False

end Session

structure System where
  site : Publisher.Site Desk
  /-- What the publisher waits for, once it has begun. -/
  publisher : Option Publisher.Waiting
  session : Session.Phase
  calls : List (Request × Bool)

namespace System

def hub (s : System) : Hub Desk := s.site.2

def withHub (h : Hub Desk) (s : System) : System := { s with site := (s.site.1, h) }

/-- The system before any task has begun. -/
def powerOn (maxRetries : UInt8) : System where
  site := ({}, ⟨.ofMaxRetries maxRetries, .empty, {}⟩)
  publisher := none
  session := .idle
  calls := []

variable (cfg : PublisherConfig) (access : BrokerAccess)

/-- One task goes on, or something happens outside. -/
inductive Move : System → System → Prop where
  | publisherBegins {s : System} {w : Publisher.Waiting} {site : Publisher.Site Desk}
      (js : Array Notice) : s.publisher = none →
      ((Publisher.run cfg broker).start s.site js).1 = (.paused w, site) →
      Move s { s with site := site, publisher := some w }
  | publisherGoesOn {s : System} {v w : Publisher.Waiting} {site : Publisher.Site Desk}
      (r : (v.demand cfg).Reply) (js : Array Notice) : s.publisher = some v →
      ((Publisher.run cfg broker).resume v r s.site js).1 = (.paused w, site) →
      Move s { s with site := site, publisher := some w }
  | sessionGoesOn {s : System} {p : Session.Phase} {h h' : Hub Desk}
      (r : (s.session.demand access).Reply) (js : Array Notice) :
      (s.session.demand access).Meets r s.hub h →
      ((Uplink.session access).resume s.session r h js).1 = (.paused p, h') →
      Move s { s.withHub h' with
        session := p, calls := (s.session.demand access).record r s.calls }
  | linkReports {s : System} (e : LinkEvent) (js : Array Notice) :
      Move s (s.withHub (dispatch e s.hub js).1.2)
  | linkCooledDown {s : System} (js : Array Notice) :
      Move s (s.withHub (Link.cooledDown s.hub js).1.2)
  /-- The readings, the latch of newly set flags and what else is no flag and no command. -/
  | aside {s : System} (store : Store) (changed join listening : Bool) :
      Move s (s.withHub { s.hub with
        store := store
        net.changed := changed
        desk.joinRequested := join
        desk.listening := listening })

inductive Reachable : System → Prop where
  | powerOn (maxRetries : UInt8) : Reachable (powerOn maxRetries)
  | move {s t : System} : Reachable s → Move cfg access s t → Reachable t

end System

/-! ### What a reply takes -/

open Session

/-- The oldest command is taken off the queue. -/
theorem takeCommand_some {h k : Hub Desk} {c : Command} {js : Array Notice}
    (hc : (Desk.takeCommand h js).1 = (some c, k)) :
    ∃ queue : CommandQueue, h.desk.queue.commands = c :: queue.commands ∧
      k = { h with desk.queue := queue } := by
  simp only [Desk.takeCommand, Act.bind_apply, Act.get_apply] at hc
  cases hq : h.desk.queue.take? with
  | none =>
    rw [hq] at hc
    cases hc
  | some taken =>
    obtain ⟨c', queue⟩ := taken
    rw [hq] at hc
    cases hc
    exact ⟨queue, CommandQueue.take?_eq_some_iff.1 hq, rfl⟩

theorem takeCommand_none {h k : Hub Desk} {js : Array Notice}
    (hc : (Desk.takeCommand h js).1 = (none, k)) : k = h := by
  simp only [Desk.takeCommand, Act.bind_apply, Act.get_apply] at hc
  cases hq : h.desk.queue.take? with
  | none =>
    rw [hq] at hc
    cases hc
    rfl
  | some taken =>
    rw [hq] at hc
    cases hc

theorem takeTurn_stop {h : Hub Desk} (hstop : h.desk.stopRequested = true) (js : Array Notice) :
    (takeTurn h js).1 = (some .stop, { h with desk.stopRequested := false }) := by
  simp only [takeTurn, Desk.takeStop, Desk.forgetStop, Act.bind_apply, Act.get_apply, hstop,
    ↓reduceIte]
  rfl

/-- A request to stop is taken first, then the oldest command; else nothing is there. -/
theorem takeTurn_cases {h k : Hub Desk} {t : Option Turn} {js : Array Notice}
    (ht : (takeTurn h js).1 = (t, k)) :
    (h.desk.stopRequested = true ∧ t = some .stop ∧ k = { h with desk.stopRequested := false }) ∨
      (h.desk.stopRequested = false ∧ ∃ c, (Desk.takeCommand h js).1 = (c, k) ∧
        t = c.map .command) := by
  cases hstop : h.desk.stopRequested with
  | true =>
    left
    rw [takeTurn_stop hstop js] at ht
    cases ht
    exact ⟨rfl, rfl, rfl⟩
  | false =>
    right
    refine ⟨rfl, ?_⟩
    have hnone : Desk.takeStop h js = ((none, h), js) := by simp [Desk.takeStop, hstop]
    rw [takeTurn, Act.bind_apply, hnone] at ht
    simp only [Act.bind_apply] at ht
    cases hc : (Desk.takeCommand h js).1 with
    | mk c k' =>
      rw [hc] at ht
      refine ⟨c, ?_, ?_⟩ <;> cases c <;> cases ht <;> rfl

theorem meets_turn_cases {limit : Millis} {t : Turn} {h k : Hub Desk}
    (hm : (Demand.turn limit).Meets t h k) :
    (h.desk.stopRequested = true ∧ t = .stop ∧ k = { h with desk.stopRequested := false }) ∨
      (h.desk.stopRequested = false ∧
        ((∃ c, ∃ queue : CommandQueue, t = .command c ∧
            h.desk.queue.commands = c :: queue.commands ∧ k = { h with desk.queue := queue }) ∨
          (t = .pingDue ∧ k = h))) := by
  rcases hm with ⟨js, hm⟩ | ⟨rfl, js, hm⟩
  · rcases takeTurn_cases hm with ⟨hstop, ht, rfl⟩ | ⟨hstop, c, hc, ht⟩
    · cases ht
      exact .inl ⟨hstop, rfl, rfl⟩
    · cases c with
      | none => cases ht
      | some c =>
        cases ht
        obtain ⟨queue, hqueue, rfl⟩ := takeCommand_some hc
        exact .inr ⟨hstop, .inl ⟨c, queue, rfl, hqueue, rfl⟩⟩
  · rcases takeTurn_cases hm with ⟨-, ht, -⟩ | ⟨hstop, c, hc, ht⟩
    · cases ht
    · cases c with
      | some c => cases ht
      | none => exact .inr ⟨hstop, .inr ⟨rfl, takeCommand_none hc⟩⟩

/-- Where a stop is asked for, a standing session gets nothing else. -/
theorem meets_turn_iff_stop {limit : Millis} {t : Turn} {h k : Hub Desk}
    (hstop : h.desk.stopRequested = true) :
    (Demand.turn limit).Meets t h k ↔
      t = .stop ∧ k = { h with desk.stopRequested := false } := by
  constructor
  · intro hm
    rcases meets_turn_cases hm with ⟨-, ht, hk⟩ | ⟨hnone, -⟩
    · exact ⟨ht, hk⟩
    · exact absurd hstop (by simp [hnone])
  · rintro ⟨rfl, rfl⟩
    exact .inl ⟨#[], takeTurn_stop hstop #[]⟩

/-! ### The board -/

open Rig

variable {now : Millis} {w : Timed.Wait} {h h' : Hub Desk} {n n' : Network} {js : Array Notice}

theorem react_state {r : Request} (hr : r ≠ .startRadio) (a : Rig.Answer) (s : Field)
    (js : Array Notice) : (Network.react a r s js).1.2 = s := by
  cases r <;> first | rfl | exact absurd rfl hr

theorem settle_hub {r : Request} (hr : r ≠ .startRadio) (s : Field) (js : Array Notice) :
    (Network.settle w r s js).1.2.1 = s.1 := by
  simp only [Network.settle, Act.bind_apply, Act.get_apply, Act.modify_apply, react_state hr]
  cases (s.2.next (Service.of r)).reply? r <;> rfl

/-- A call does to the hub nothing but what is done where it comes back. -/
theorem call_keeps {P : Hub Desk → Prop} {r : Request} (same : P h)
    (settles : ∀ n js, P (Network.settle w r (h, n) js).1.2.1) (n : Network)
    (js : Array Notice) : P (Network.call now w r (h, n) js).1.2.1 := by
  unfold Network.call
  cases w.fetch with
  | never => exact same
  | unasked =>
    simp only [Network.record, Act.bind_apply, Act.get_apply, Act.modify_apply]
    by_cases hd : Network.delay r { n with requests := n.requests.push (now, r) } = 0
    · simp only [hd, ↓reduceIte]
      exact settles _ _
    · simp only [hd, ↓reduceIte]
      exact same
  | due moment =>
    by_cases hm : moment ≤ now
    · simp only [hm, ↓reduceIte]
      exact settles _ _
    · simp only [hm, ↓reduceIte]
      exact same

theorem call_over {r : Request} (hr : r ≠ .startRadio) {x : r.Reply}
    (hover : (Network.call now w r (h, n) js).1 = (.over x, (h', n'))) : h' = h := by
  have hhub : (Network.call now w r (h, n) js).1.2.1 = h :=
    call_keeps (P := (· = h)) rfl (fun n js => settle_hub hr (h, n) js) n js
  rw [hover] at hhub
  exact hhub

theorem await_over {σ α : Type} {attempt : Act σ (Option α)} {s s' : σ} {a : α}
    (hover : (Timed.await w attempt s js).1 = (.over a, s')) :
    (attempt s js).1 = (some a, s') := by
  simp only [Timed.await, Act.bind_apply] at hover
  generalize attempt s js = x at hover ⊢
  obtain ⟨⟨o, t⟩, js'⟩ := x
  cases o with
  | none => cases hover
  | some b =>
    cases hover
    rfl

theorem attendSession_serving (access : BrokerAccess) (sent : UInt16) (now : Millis)
    (w : Timed.Wait) (h : Hub Desk) (n : Network) (js : Array Notice) :
    Network.attendSession now w ((Phase.serving sent).demand access) (h, n) js =
      (match (takeTurn h js).1.1 with
        | some t => pure (.over t)
        | none => pure (if w.isOver now (pingPause access) then .over .pingDue else .still w) :
        Act Field (Timed.Look Turn)) ((takeTurn h js).1.2, n) (takeTurn h js).2 := rfl

/-- The replies that the board's network gives to the session task are among those that
the system lets it have. -/
theorem attendSession_meets {access : BrokerAccess} {p : Phase} {r : (p.demand access).Reply}
    (hover : (Network.attendSession now w (p.demand access) (h, n) js).1 = (.over r, (h', n'))) :
    (p.demand access).Meets r h h' := by
  cases p with
  | idle =>
    obtain ⟨hc, hs⟩ := Prod.mk.inj (await_over hover)
    exact ⟨js, Prod.ext hc (congrArg Prod.fst hs)⟩
  | serving sent =>
    rw [attendSession_serving] at hover
    generalize htaken : takeTurn h js = x at hover
    obtain ⟨⟨o, t⟩, js'⟩ := x
    cases o with
    | some turn =>
      cases hover
      exact .inl ⟨js, congrArg Prod.fst htaken⟩
    | none =>
      by_cases hdue : w.isOver now (pingPause access) = true
      · simp only [hdue, ↓reduceIte] at hover
        cases hover
        exact .inr ⟨rfl, js, congrArg Prod.fst htaken⟩
      · simp only [hdue] at hover
        cases hover
  | resolving => exact call_over (r := .resolve access.host) (by simp) hover
  | connecting address => exact call_over (r := .connect address access.port) (by simp) hover
  | opening => exact call_over (r := .openSession access) (by simp) hover
  | sending sent topic payload => exact call_over (r := .send topic payload) (by simp) hover
  | pinging sent => exact call_over (r := .ping) (by simp) hover
  | closing => exact call_over (r := .closeSession) (by simp) hover

end AirStation.Uplink
