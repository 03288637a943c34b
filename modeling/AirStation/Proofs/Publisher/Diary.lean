import AirStation.Proofs.Connectivity.Events
import AirStation.Proofs.Publisher.Cycle

/-! A publisher that is watched. Its broker is any broker, with each call and each event
of the network entered in a diary in the order they are handled; an event may be handled
while a call is under way or while the publisher waits. A turn is what the diary and the
flags show of one cycle. Two flags are followed through the diary: a request to
disconnect stays up once an event has raised it, and the session counts as up only if it
did so before or has reported that it is connected. -/

namespace AirStation.Publisher

/-- What is entered: an event that was handled, or a call to the broker. -/
inductive Entry where
  | event (e : NetEvent)
  | start
  | stop
  | publish (topic : String) (payload : Bytes)
  deriving DecidableEq

namespace Entry

/-- An event that asks for the broker session to be torn down. -/
def asksToDisconnect : Entry → Bool
  | event e => e.asksToDisconnect
  | _ => false

/-- The action that an entered call belongs to. -/
def call? : Entry → Option Action
  | event _ => none
  | start => some .startBroker
  | stop => some .stopBroker
  | publish .. => some .publish

/-- The broker session reports that it is connected. -/
def connected : Entry := event (.broker .connected)

end Entry

/-- A broker's own state with the diary beside it. -/
structure Diary (β : Type) where
  desk : β
  entries : List Entry

namespace Diary

variable {β : Type}

def enter (x : Entry) : Act (Hub (Diary β)) Unit :=
  modify fun h => { h with desk.entries := h.desk.entries ++ [x] }

/-- Events are handled one after the other. -/
def handle : List NetEvent → Act (Hub (Diary β)) Unit
  | [] => pure ()
  | e :: es => do
    e.toEvent.happen
    enter (.event e)
    handle es

end Diary

/-- What a call to the broker brings about before it returns: the events handled
meanwhile, the readings as they are by then, and the broker's own state. -/
structure Outcome (β : Type) where
  events : List NetEvent
  store : Store
  desk : β

/-- How a broker behaves, whatever the shared state it is called in. -/
structure Conduct (β : Type) where
  start : Hub β → Outcome β
  stop : Hub β → Outcome β
  publish : String → Bytes → Hub β → Except BrokerError Unit × Outcome β

namespace Conduct

variable {β : Type}

/-- A call is entered first, then what it brings about. -/
def call (x : Entry) (outcome : Hub β → Outcome β) : Act (Hub (Diary β)) Unit := do
  Diary.enter x
  let h ← get
  let o := outcome ⟨h.net, h.store, h.desk.desk⟩
  set { h with store := o.store, desk.desk := o.desk }
  Diary.handle o.events

def broker (c : Conduct β) : Broker (Diary β) where
  start := call .start c.start
  stop := call .stop c.stop
  publish topic payload := do
    let h ← get
    call (.publish topic payload) fun h => (c.publish topic payload h).2
    pure (c.publish topic payload ⟨h.net, h.store, h.desk.desk⟩).1

/-- Neither starting nor stopping brings an event about. -/
def Quiet (c : Conduct β) : Prop := ∀ h, (c.start h).events = [] ∧ (c.stop h).events = []

end Conduct

section

variable {β : Type}

/-- What may become of the state while the publisher waits: events are handled, and the
readings, the latch and the broker's own state are whatever they are by then. -/
def Meanwhile (s u : Site (Diary β)) : Prop :=
  ∃ (es : List NetEvent) (js : Array Notice) (changed : Bool) (store : Store) (desk : β),
    u = (s.1, { (Diary.handle es s.2 js).1.2 with
      net.changed := changed, store := store, desk.desk := desk })

/-! ### Following the flags through the diary -/

/-- The diary goes on with some entries, and the two flags agree with them. -/
structure Follows (s : Hub (Diary β)) (es : List Entry) (t : Hub (Diary β)) : Prop where
  entries : t.desk.entries = s.desk.entries ++ es
  mustDisconnect :
    t.net.has .mustDisconnect = (s.net.has .mustDisconnect || es.any Entry.asksToDisconnect)
  brokerUp : t.net.has .brokerUp = true → s.net.has .brokerUp = true ∨ .connected ∈ es

namespace Follows

variable {s t u : Hub (Diary β)} {es fs : List Entry}

theorem of_flags_eq (hnet : t.net.flags = s.net.flags) (hdesk : t.desk.entries = s.desk.entries) :
    Follows s [] t where
  entries := by rw [hdesk, List.append_nil]
  mustDisconnect := by simp [Connectivity.has, hnet]
  brokerUp h := by
    rw [Connectivity.has, hnet] at h
    exact .inl h

theorem refl (s : Hub (Diary β)) : Follows s [] s := of_flags_eq rfl rfl

theorem trans (h₁ : Follows s es t) (h₂ : Follows t fs u) : Follows s (es ++ fs) u where
  entries := by rw [h₂.entries, h₁.entries, List.append_assoc]
  mustDisconnect := by
    rw [h₂.mustDisconnect, h₁.mustDisconnect, List.any_append, Bool.or_assoc]
  brokerUp hu := by
    rcases h₂.brokerUp hu with ht | hin
    · rcases h₁.brokerUp ht with hs | hin
      · exact .inl hs
      · exact .inr (List.mem_append_left _ hin)
    · exact .inr (List.mem_append_right _ hin)

end Follows

theorem follows_enter (x : Entry) (hx : x.asksToDisconnect = false) (s : Hub (Diary β)) :
    Follows s [x] { s with desk.entries := s.desk.entries ++ [x] } where
  entries := rfl
  mustDisconnect := by simp [hx]
  brokerUp := .inl

theorem follows_event (e : NetEvent) (s : Hub (Diary β)) :
    Follows s [.event e]
      { s with net := e.after s.net, desk.entries := s.desk.entries ++ [.event e] } where
  entries := rfl
  mustDisconnect := by simp [e.has_mustDisconnect_after, Entry.asksToDisconnect]
  brokerUp hup := by
    rcases e.has_brokerUp_after s.net hup with h | rfl
    · exact .inl h
    · exact .inr (List.mem_singleton.2 rfl)

theorem follows_handle (es : List NetEvent) (s : Hub (Diary β)) (js : Array Notice) :
    Follows s (es.map .event) (Diary.handle es s js).1.2 := by
  induction es generalizing s js with
  | nil => exact .refl s
  | cons e es ih =>
    simp only [Diary.handle, Act.bind_apply, e.happen_state, List.map_cons]
    exact (follows_event e s).trans (ih _ _)

theorem follows_call (x : Entry) (hx : x.asksToDisconnect = false)
    (outcome : Hub β → Outcome β) (s : Hub (Diary β)) (js : Array Notice) :
    Follows s (x :: (outcome ⟨s.net, s.store, s.desk.desk⟩).events.map .event)
      (Conduct.call x outcome s js).1.2 := by
  simp only [Conduct.call, Diary.enter, Act.bind_apply, Act.modify_apply, Act.get_apply,
    Act.set_apply]
  have hends (h : Hub (Diary β)) : Follows h [] { h with
      store := (outcome ⟨s.net, s.store, s.desk.desk⟩).store
      desk.desk := (outcome ⟨s.net, s.store, s.desk.desk⟩).desk } :=
    .of_flags_eq rfl rfl
  exact (follows_enter x hx s).trans ((hends _).trans (follows_handle _ _ _))

theorem Meanwhile.follows {s u : Site (Diary β)} (h : Meanwhile s u) :
    ∃ es : List NetEvent, Follows s.2 (es.map .event) u.2 := by
  obtain ⟨es, js, changed, store, desk, rfl⟩ := h
  refine ⟨es, ?_⟩
  have hend := (follows_handle es s.2 js).trans (Follows.of_flags_eq (t := {
    (Diary.handle es s.2 js).1.2 with
      net.changed := changed, store := store, desk.desk := desk }) rfl rfl)
  rwa [List.append_nil] at hend

/-! ### What the actions enter -/

/-- Entries that an action of the publisher makes: calls that belong to it and whatever
is handled meanwhile, which is nothing if a quiet broker is started or stopped. -/
structure Enters (c : Conduct β) (m : Site (Diary β)) (action : Action) (es : List Entry)
    (u : Site (Diary β)) : Prop where
  follows : Follows m.2 es u.2
  calls : ∀ x ∈ es, ∀ a, x.call? = some a → a = action
  stops : action = .stopBroker → .stop ∈ es ∧ u.2.net.has .brokerUp = false
  starts : action = .startBroker → .start ∈ es
  quiet : c.Quiet → action ≠ .publish → ∀ e, .event e ∉ es

variable {c : Conduct β} {m s t u : Site (Diary β)} {action : Action}

/-- An attempt to publish enters whatever calls it makes, as long as they are its own. -/
theorem Follows.enters_publish {es : List Entry} (h : Follows s.2 es u.2)
    (hcalls : ∀ x ∈ es, ∀ a, x.call? = some a → a = .publish) : Enters c s .publish es u where
  follows := h
  calls := hcalls
  stops h := absurd h (by decide)
  starts h := absurd h (by decide)
  quiet _ h := absurd rfl h

theorem Meanwhile.enters (h : Meanwhile s u) : ∃ es, Enters c s .publish es u := by
  obtain ⟨es, hes⟩ := h.follows
  exact ⟨_, hes.enters_publish (by simp [Entry.call?])⟩

theorem publishes_enters (h : Publishes c.broker s u) : ∃ es, Enters c s .publish es u := by
  cases h with
  | aside watches store => exact ⟨[], Follows.enters_publish (.of_flags_eq rfl rfl) (by simp)⟩
  | publish topic payload js =>
    have hcall := follows_call (.publish topic payload) rfl
      (fun h => (c.publish topic payload h).2) s.2 js
    exact ⟨_, Follows.enters_publish hcall (by simp [Entry.call?])⟩

theorem Enters.trans_publish {es fs : List Entry} (h₁ : Enters c m .publish es s)
    (h₂ : Enters c s .publish fs u) : Enters c m .publish (es ++ fs) u := by
  refine (h₁.follows.trans h₂.follows).enters_publish ?_
  intro x hx
  rcases List.mem_append.1 hx with hx | hx
  · exact h₁.calls x hx
  · exact h₂.calls x hx

theorem effect_enters (h : Effect c.broker Meanwhile m action u) :
    ∃ es, Enters c m action es u := by
  cases action with
  | idle =>
    subst h
    exact ⟨[], {
      follows := .refl _
      calls := by simp
      stops h := absurd h (by decide)
      starts h := absurd h (by decide)
      quiet _ _ _ := List.not_mem_nil }⟩
  | startBroker =>
    obtain ⟨js, rfl⟩ := h
    exact ⟨_, {
      follows := follows_call .start rfl _ _ _
      calls := by simp [Entry.call?]
      stops h := absurd h (by decide)
      starts _ := List.mem_cons_self
      quiet hq _ := by simp [(hq _).1] }⟩
  | stopBroker =>
    obtain ⟨js, rfl⟩ := h
    have hcall := follows_call .stop rfl c.stop m.2 js
    have hlow : (stopped c.broker m js).2.net.has .brokerUp = false :=
      Connectivity.has_lower_self Flags.single_brokerUp _
    refine ⟨_, {
      follows := {
        entries := hcall.entries
        mustDisconnect := ?_
        brokerUp := fun h => absurd h (by simp [hlow]) }
      calls := by simp [Entry.call?]
      stops := fun _ => ⟨List.mem_cons_self, hlow⟩
      starts := fun h => absurd h (by decide)
      quiet := fun hq _ => by simp [(hq _).2] }⟩
    rw [← hcall.mustDisconnect]
    exact Connectivity.has_lower_of_ne Flags.single_brokerUp Flags.single_mustDisconnect
      (by decide) _
  | publish =>
    induction h with
    | refl => exact ⟨[], (Follows.refl _).enters_publish (by simp)⟩
    | tail _ hstep ih =>
      obtain ⟨es, hes⟩ := ih
      have hnext : ∃ fs, Enters c _ .publish fs _ := hstep.elim Meanwhile.enters publishes_enters
      obtain ⟨fs, hfs⟩ := hnext
      exact ⟨es ++ fs, hes.trans_publish hfs⟩

/-! ### Turns -/

/-- What the diary and the flags show of a cycle: the entries since the cycle before it
ended, the snapshot it took, the entries after that, its action, and the flags at its end. -/
structure Turn where
  before : List Entry
  seen : Flags
  after : List Entry
  action : Action
  left : Flags

/-- One cycle of the watched publisher, with the time between it and the cycle before. -/
inductive Takes (cfg : PublisherConfig) (c : Conduct β) (s : Site (Diary β)) (turn : Turn)
    (t : Site (Diary β)) : Prop where
  | intro {u m : Site (Diary β)} (gap : Meanwhile s u)
      (wait : (awaiting cfg).Performs Meanwhile u turn.seen m)
      (work : (cycle cfg c.broker).EndsFrom Meanwhile
        (act cfg c.broker (.done turn.seen)) m turn.action t)
      (before : m.2.desk.entries = s.2.desk.entries ++ turn.before)
      (after : t.2.desk.entries = m.2.desk.entries ++ turn.after)
      (left : turn.left = t.2.net.snapshot)

/-- How a turn went: from the snapshot `m` it acted up to `u`, and then settled. -/
structure Course (c : Conduct β) (s : Site (Diary β)) (turn : Turn)
    (m u t : Site (Diary β)) : Prop where
  before : Follows s.2 turn.before m.2
  seen : turn.seen = m.2.net.snapshot
  action : turn.action = decide turn.seen
  after : Enters c m turn.action turn.after u
  settled : t = settled turn.seen u
  left : turn.left = t.2.net.snapshot

variable {cfg : PublisherConfig} {turn : Turn}

theorem settled_entries (seen : Flags) (s : Site (Diary β)) :
    (settled seen s).2.desk.entries = s.2.desk.entries := by
  unfold settled
  split <;> rfl

theorem Follows.entries_unique {s t : Hub (Diary β)} {es fs : List Entry} (h : Follows s es t)
    (ht : t.desk.entries = s.desk.entries ++ fs) : es = fs :=
  List.append_cancel_left (h.entries.symm.trans ht)

theorem awaited_follows {seen : Flags} (h : (awaiting cfg).Performs Meanwhile s seen m) :
    seen = m.2.net.snapshot ∧ ∃ es, Follows s.2 es m.2 := by
  obtain ⟨hseen, hm⟩ := awaiting_performs_iff.1 h
  refine ⟨hseen, ?_⟩
  split at hm
  · subst hm
    exact ⟨[], .refl _⟩
  · obtain ⟨es, hes⟩ := hm.follows
    exact ⟨_, hes⟩

theorem Takes.course (h : Takes cfg c s turn t) : ∃ m u, Course c s turn m u t := by
  obtain ⟨gap, wait, work, before, after, left⟩ := h
  obtain ⟨es, hgap⟩ := gap.follows
  obtain ⟨hseen, fs, hwait⟩ := awaited_follows wait
  obtain ⟨haction, v, heff, hsettled⟩ := acted work
  obtain ⟨gs, henters⟩ := effect_enters heff
  have hbefore := hgap.trans hwait
  rw [hbefore.entries_unique before] at hbefore
  rw [hsettled, settled_entries] at after
  rw [henters.follows.entries_unique after] at henters
  exact ⟨_, v, {
    before := hbefore
    seen := hseen
    action := haction
    after := henters
    settled := hsettled
    left := left }⟩

/-- Every cycle has a turn. -/
theorem exists_takes (gap : Meanwhile s u)
    (h : (cycle cfg c.broker).Performs Meanwhile u action t) :
    ∃ turn, turn.action = action ∧ Takes cfg c s turn t := by
  obtain ⟨seen, m, wait, work⟩ := performs_cycle_iff.1 h
  obtain ⟨es, hgap⟩ := gap.follows
  obtain ⟨-, fs, hwait⟩ := awaited_follows wait
  obtain ⟨-, v, heff, hsettled⟩ := acted work
  obtain ⟨gs, henters⟩ := effect_enters heff
  refine ⟨⟨_, seen, gs, action, t.2.net.snapshot⟩, rfl, .intro gap wait work
    (hgap.trans hwait).entries ?_ rfl⟩
  rw [hsettled, settled_entries]
  exact henters.follows.entries

end

end AirStation.Publisher
