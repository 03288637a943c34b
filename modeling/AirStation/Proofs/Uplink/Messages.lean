import AirStation.Proofs.Entries
import AirStation.Proofs.Uplink.Steps
import Mathlib.Data.List.Induction

/-! No message crosses from one session to another. A session sends the messages that the
publisher has queued since that session reported that it is connected, in that order and each
at most once. What the proof rests on: the publisher asks for a session only between two of
its publishing cycles, and the request travels in the same queue as the messages. So whatever
was queued for a session that is gone stands before the request for the next one, where the
idle task drops it, or was thrown away with the queue when the session ended. -/

namespace AirStation.Uplink

open Session

/-! ### What belongs to a session -/

/-- The message that a command asks to be sent. -/
def Command.message? : Command → Option (String × Bytes)
  | .start => none
  | .publish topic payload => some (topic, payload)

/-- The messages among commands. -/
def messages (queue : List Command) : List (String × Bytes) :=
  queue.filterMap Command.message?

namespace Deed

/-- The message that the publisher has queued. -/
def queued? : Deed → Option (String × Bytes)
  | .queued topic payload => some (topic, payload)
  | _ => none

/-- The message that the session task begins to send. -/
def sent? : Deed → Option (String × Bytes)
  | .called (.send topic payload) => some (topic, payload)
  | _ => none

/-- Another session is begun, or the session at hand has reported its end. -/
def Bounds : Deed → Prop
  | .begun | .reported .disconnected => True
  | _ => False

/-- What was done since a session reported that it is connected, with one deed more. A
session may report it again. -/
def follow : Option (List Deed) → Deed → Option (List Deed)
  | _, .begun | _, .reported .disconnected => none
  | none, .reported .connected => some []
  | l, d => l.map (· ++ [d])

end Deed

/-- The messages queued, in that order. -/
def queued (ds : List Deed) : List (String × Bytes) := ds.filterMap Deed.queued?

/-- The messages that sessions have begun to send, in that order. -/
def sent (ds : List Deed) : List (String × Bytes) := ds.filterMap Deed.sent?

/-- What was done since the session at hand first reported that it is connected; nothing where
there is no such session. -/
def served (ds : List Deed) : Option (List Deed) := ds.foldl Deed.follow none

theorem served_append (ds es : List Deed) :
    served (ds ++ es) = es.foldl Deed.follow (served ds) := List.foldl_append

theorem served_concat (ds : List Deed) (d : Deed) :
    served (ds ++ [d]) = Deed.follow (served ds) d := served_append ds [d]

theorem Deed.follow_eq_some_iff {o : Option (List Deed)} {d : Deed} {l : List Deed} :
    follow o d = some l ↔ (o = none ∧ d = .reported .connected ∧ l = []) ∨
      ∃ k, o = some k ∧ ¬ d.Bounds ∧ l = k ++ [d] := by
  cases o with
  | none =>
    rcases d with _ | _ | _ | _ | _ | _ | (_ | _ | _ | _) <;> simp [follow, eq_comm]
  | some k =>
    rcases d with _ | _ | _ | _ | _ | _ | (_ | _ | _ | _) <;> simp [follow, Bounds, eq_comm]

/-- A session is served from its first report that it is connected up to its last, and nothing
bounds it in between. -/
theorem served_eq_some_iff {ds l : List Deed} :
    served ds = some l ↔ ∃ before, ds = before ++ .reported .connected :: l ∧
      served before = none ∧ ∀ d ∈ l, ¬ d.Bounds := by
  induction ds using List.reverseRecOn generalizing l with
  | nil => simp [served]
  | append_singleton ds d ih =>
    rw [served_concat, Deed.follow_eq_some_iff]
    constructor
    · rintro (⟨hnone, rfl, rfl⟩ | ⟨k, hk, hd, rfl⟩)
      · exact ⟨ds, rfl, hnone, by simp⟩
      · obtain ⟨before, rfl, hnone, hin⟩ := ih.1 hk
        exact ⟨before, by simp, hnone,
          List.forall_mem_append.2 ⟨hin, List.forall_mem_singleton.2 hd⟩⟩
    · rintro ⟨before, heq, hnone, hin⟩
      cases l using List.reverseRecOn with
      | nil =>
        obtain ⟨rfl, hd⟩ := List.append_inj' heq rfl
        exact .inl ⟨hnone, List.singleton_inj.1 hd, rfl⟩
      | append_singleton k x =>
        rw [← List.cons_append, ← List.append_assoc] at heq
        obtain ⟨rfl, hd⟩ := List.append_inj' heq rfl
        obtain rfl := List.singleton_inj.1 hd
        obtain ⟨hk, hd⟩ := List.forall_mem_append.1 hin
        exact .inr ⟨k, ih.2 ⟨before, rfl, hnone, hk⟩, hd d (.head _), rfl⟩

theorem served_append_of_some {ds es l : List Deed} (h : served ds = some l)
    (hes : ∀ d ∈ es, ¬ d.Bounds) : served (ds ++ es) = some (l ++ es) := by
  obtain ⟨before, rfl, hnone, hin⟩ := served_eq_some_iff.1 h
  exact served_eq_some_iff.2 ⟨before, by simp, hnone, List.forall_mem_append.2 ⟨hin, hes⟩⟩

theorem queued_append (ds es : List Deed) : queued (ds ++ es) = queued ds ++ queued es :=
  List.filterMap_append

theorem sent_append (ds es : List Deed) : sent (ds ++ es) = sent ds ++ sent es :=
  List.filterMap_append

/-! ### What the queue holds -/

/-- No message stands behind a request for a session. -/
def Drained : List Command → Prop
  | [] => True
  | .start :: rest => messages rest = []
  | .publish .. :: rest => Drained rest

theorem messages_append (q r : List Command) : messages (q ++ r) = messages q ++ messages r :=
  List.filterMap_append

theorem Drained.start {q : List Command} (h : Drained q) : Drained (q ++ [.start]) := by
  induction q with
  | nil => rfl
  | cons c q ih =>
    cases c with
    | start =>
      change messages (q ++ [.start]) = []
      rw [messages_append, (h : messages q = [])]
      rfl
    | publish topic payload => exact ih h

theorem Drained.publish {q : List Command} (h : Drained q) (hq : .start ∉ q) (topic : String)
    (payload : Bytes) : Drained (q ++ [.publish topic payload]) := by
  induction q with
  | nil => trivial
  | cons c q ih =>
    cases c with
    | start => exact absurd List.mem_cons_self hq
    | publish _ _ => exact ih h fun hin => hq (List.mem_cons_of_mem _ hin)

/-- A request for a session is no message, whether it is queued or there is no place. -/
theorem messages_of_start {q r : List Command} (h : r = q ∨ r = q ++ [.start]) :
    messages r = messages q := by
  rcases h with rfl | rfl
  · rfl
  · rw [messages_append]
    exact List.append_nil _

/-! ### What holds between the two tasks -/

/-- The session task waits for a request. A cycle that still publishes has asked for no
session, so what it queues stands before any request. -/
structure Resting (v : View) : Prop where
  down : v.up = false
  drained : Drained v.queue
  quiet : v.publishing = true → .start ∉ v.queue
  unserved : served v.deeds = none

/-- A session is being opened, and nothing is queued for it yet. -/
structure Opening (v : View) : Prop where
  down : v.up = false
  unstopped : v.stop = false
  calm : v.publishing = false
  empty : messages v.queue = []
  unserved : served v.deeds = none

/-- A session stands since when it was served as told: the messages that were queued and not
sent are those in the queue, and a request to stop is one of that time. -/
structure Standing (v : View) (l : List Deed) : Prop where
  unstopped : v.up = true → v.stop = false
  served : served v.deeds = some l
  balance : queued l = sent l ++ messages v.queue
  meant : v.stop = true → .stop ∈ l

/-- What is done while the session stands is added to it. -/
theorem Standing.further {v w : View} {l es : List Deed} (h : Standing v l)
    (hdeeds : w.deeds = v.deeds ++ es) (hes : ∀ d ∈ es, ¬ d.Bounds)
    (hmessages : messages v.queue ++ queued es = sent es ++ messages w.queue)
    (hup : w.up = true → w.stop = false) (hstop : w.stop = true → v.stop = true ∨ .stop ∈ es) :
    Standing w (l ++ es) where
  unstopped := hup
  served := by rw [hdeeds, served_append_of_some h.served hes]
  balance := by
    calc queued (l ++ es) = sent l ++ (messages v.queue ++ queued es) := by
          rw [queued_append, h.balance, List.append_assoc]
      _ = sent (l ++ es) ++ messages w.queue := by
          rw [hmessages, sent_append, List.append_assoc]
  meant hs := by
    rcases hstop hs with hs | hs
    · exact List.mem_append_left _ (h.meant hs)
    · exact List.mem_append_right _ hs

/-! ### What a step makes of it -/

section Steps

variable {v : View} {l : List Deed} {queue rest : List Command} {q : Phase}

/-- A cycle that publishes has asked for no session, so what it queues stands before any request. -/
theorem Resting.queues (h : Resting v) (hpub : v.publishing = true) (topic : String)
    (payload : Bytes) :
    Resting { v with
      queue := v.queue ++ [.publish topic payload]
      deeds := v.deeds ++ [.queued topic payload] } where
  down := h.down
  drained := h.drained.publish (h.quiet hpub) topic payload
  quiet _ := by simpa using h.quiet hpub
  unserved := by rw [served_concat, h.unserved]; rfl

/-- A request is made once the cycle has nothing more to queue. -/
theorem Resting.starts (h : Resting v) (hpub : v.publishing = false)
    (hqueue : queue = v.queue ∨ queue = v.queue ++ [.start]) :
    Resting { v with queue := queue, deeds := v.deeds ++ [.start] } where
  down := h.down
  drained := by
    rcases hqueue with rfl | rfl
    · exact h.drained
    · exact h.drained.start
  quiet hp := absurd hp (by simp [hpub])
  unserved := by rw [served_concat, h.unserved]; rfl

/-- A message for a session that is gone is dropped before the next request is seen. -/
theorem Resting.drops (h : Resting v) {topic : String} {payload : Bytes}
    (hqueue : v.queue = .publish topic payload :: rest) : Resting { v with queue := rest } where
  down := h.down
  drained := by
    have hdrained := h.drained
    rwa [hqueue] at hdrained
  quiet hpub hin := h.quiet hpub (hqueue ▸ List.mem_cons_of_mem _ hin)
  unserved := h.unserved

/-- Nothing is queued behind the request that the idle task takes. -/
theorem Resting.begun (h : Resting v) (hqueue : v.queue = .start :: rest) (r : Request) :
    Opening { v with
      phase := q, queue := rest, stop := false, deeds := v.deeds ++ [.begun, .called r] } where
  down := h.down
  unstopped := rfl
  calm := by
    rw [← Bool.not_eq_true]
    intro hpub
    exact h.quiet hpub (hqueue ▸ List.mem_cons_self)
  empty := by
    have hdrained := h.drained
    rwa [hqueue] at hdrained
  unserved := by rw [served_append, h.unserved]; rfl

/-- One more request for a session changes nothing for the one that is being opened. -/
theorem Opening.starts (h : Opening v) (hqueue : queue = v.queue ∨ queue = v.queue ++ [.start]) :
    Opening { v with queue := queue, deeds := v.deeds ++ [.start] } where
  down := h.down
  unstopped := h.unstopped
  calm := h.calm
  empty := (messages_of_start hqueue).trans h.empty
  unserved := by rw [served_concat, h.unserved]; rfl

theorem Opening.opens (h : Opening v) (r r' : Request) :
    Opening { v with phase := q, deeds := v.deeds ++ [.answered r true, .called r'] } where
  down := h.down
  unstopped := h.unstopped
  calm := h.calm
  empty := h.empty
  unserved := by rw [served_append, h.unserved]; rfl

/-- Since the session reported that it is connected nothing was queued, sent or asked yet. -/
theorem Opening.connects (h : Opening v) (r : Request) :
    Standing { v with
      phase := q, up := true
      deeds := v.deeds ++ [.answered r true, .reported .connected] } [] where
  unstopped _ := h.unstopped
  served := by rw [served_append, h.unserved]; rfl
  balance := h.empty.symm
  meant hstop := absurd hstop (by simp [h.unstopped])

theorem Standing.queues (h : Standing v l) (topic : String) (payload : Bytes) :
    Standing { v with
      queue := v.queue ++ [.publish topic payload]
      deeds := v.deeds ++ [.queued topic payload] } (l ++ [.queued topic payload]) := by
  refine h.further rfl (by simp [Deed.Bounds]) ?_ h.unstopped .inl
  rw [messages_append]
  rfl

theorem Standing.starts (h : Standing v l)
    (hqueue : queue = v.queue ∨ queue = v.queue ++ [.start]) :
    Standing { v with queue := queue, deeds := v.deeds ++ [.start] } (l ++ [.start]) :=
  h.further rfl (by simp [Deed.Bounds])
    ((List.append_nil _).trans (messages_of_start hqueue).symm) h.unstopped .inl

/-- A session that is asked to stop no longer counts as up. -/
theorem Standing.stops (h : Standing v l) :
    Standing { v with stop := true, up := false, deeds := v.deeds ++ [.stop] } (l ++ [.stop]) :=
  h.further rfl (by simp [Deed.Bounds]) (List.append_nil _) nofun fun _ => .inr (.head _)

end Steps

def Orderly (v : View) : Prop :=
  match v.phase with
  | .idle => Resting v
  | .resolving | .connecting _ | .opening => Opening v
  | .serving _ | .sending .. | .pinging _ => ∃ l, Standing v l
  | .closing => v.up = false

namespace Orderly

variable {access : BrokerAccess} {v w : View}

theorem of_idle (hp : v.phase = .idle) : Orderly v ↔ Resting v := by
  unfold Orderly
  rw [hp]

theorem of_opens (hp : v.phase.Opens) : Orderly v ↔ Opening v := by
  unfold Orderly
  cases hphase : v.phase <;> first | rfl | (rw [hphase] at hp; cases hp)

theorem of_stands (hp : v.phase.Stands) : Orderly v ↔ ∃ l, Standing v l := by
  unfold Orderly
  cases hphase : v.phase <;> first | rfl | (rw [hphase] at hp; cases hp)

/-- A step that leaves the session task where it is. -/
theorem congr (h : Orderly v) (hphase : w.phase = v.phase) (resting : Resting v → Resting w)
    (opening : Opening v → Opening w) (standing : ∀ l, Standing v l → ∃ l, Standing w l)
    (closing : v.up = false → w.up = false) : Orderly w := by
  unfold Orderly at h ⊢
  rw [hphase]
  cases hp : v.phase <;> rw [hp] at h
  case idle => exact resting h
  case closing => exact closing h
  case resolving | connecting | opening => exact opening h
  case serving | sending | pinging => exact h.elim standing

/-- A step that leaves the session standing. -/
theorem further (h : Orderly v) {es : List Deed} (hp : v.phase.Stands) (hq : w.phase.Stands)
    (hdeeds : w.deeds = v.deeds ++ es) (hes : ∀ d ∈ es, ¬ d.Bounds)
    (hmessages : messages v.queue ++ queued es = sent es ++ messages w.queue)
    (hup : w.up = true → w.stop = false) (hstop : w.stop = true → v.stop = true) :
    Orderly w := by
  obtain ⟨l, hl⟩ := (of_stands hp).1 h
  exact (of_stands hq).2 ⟨_, hl.further hdeeds hes hmessages hup fun hs => .inl (hstop hs)⟩

/-- The end of a session, however it comes. -/
theorem ended {ds : List Deed} (hphase : v.phase = .idle) (hdown : v.up = false)
    (hqueue : v.queue = []) (hdeeds : v.deeds = ds ++ [.reported .disconnected]) : Orderly v :=
  (of_idle hphase).2 {
    down := hdown
    drained := by rw [hqueue]; trivial
    quiet := by simp [hqueue]
    unserved := by rw [hdeeds, served_concat]; rfl }

/-- A session that counts as up stands. -/
theorem stands_of_up (h : Orderly v) (hup : v.up = true) : v.phase.Stands := by
  unfold Orderly at h
  cases hp : v.phase <;> rw [hp] at h
  case idle => exact absurd hup (by simp [h.down])
  case closing => exact absurd hup (by simp [h])
  case resolving | connecting | opening => exact absurd hup (by simp [h.down])
  case serving | sending | pinging => trivial

/-- A session that stands keeps standing where neither the queue nor the request to stop has
changed and no message was queued or sent. -/
theorem goesOn (h : Orderly v) {q : Phase} {es : List Deed} (hp : v.phase.Stands) (hq : q.Stands)
    (hes : ∀ d ∈ es, ¬ d.Bounds) (hqueued : queued es = []) (hsent : sent es = []) :
    Orderly { v with phase := q, deeds := v.deeds ++ es } := by
  obtain ⟨l, hs⟩ := (of_stands hp).1 h
  refine h.further hp hq rfl hes ?_ hs.unstopped id
  rw [hqueued, hsent]
  exact List.append_nil _

/-- What the publisher does keeps order, wherever the session task is. -/
theorem begins (h : Orderly v) (hup : v.up = true) : Orderly { v with publishing := true } :=
  h.congr rfl (fun hr => absurd hup (by simp [hr.down])) (fun ho => absurd hup (by simp [ho.down]))
    (fun l hs => ⟨l, hs.unstopped, hs.served, hs.balance, hs.meant⟩) id

theorem queues (h : Orderly v) (hpub : v.publishing = true) (topic : String) (payload : Bytes) :
    Orderly { v with
      queue := v.queue ++ [.publish topic payload]
      deeds := v.deeds ++ [.queued topic payload] } :=
  h.congr rfl (·.queues hpub topic payload) (fun ho => absurd hpub (by simp [ho.calm]))
    (fun _ hs => ⟨_, hs.queues topic payload⟩) id

theorem ends (h : Orderly v) : Orderly { v with publishing := false } :=
  h.congr rfl (fun hr => ⟨hr.down, hr.drained, nofun, hr.unserved⟩)
    (fun ho => ⟨ho.down, ho.unstopped, rfl, ho.empty, ho.unserved⟩)
    (fun l hs => ⟨l, hs.unstopped, hs.served, hs.balance, hs.meant⟩) id

theorem starts (h : Orderly v) (hpub : v.publishing = false) {queue : List Command}
    (hqueue : queue = v.queue ∨ queue = v.queue ++ [.start]) :
    Orderly { v with queue := queue, deeds := v.deeds ++ [.start] } :=
  h.congr rfl (·.starts hpub hqueue) (·.starts hqueue) (fun _ hs => ⟨_, hs.starts hqueue⟩) id

theorem stops (h : Orderly v) (hup : v.up = true) :
    Orderly { v with stop := true, up := false, deeds := v.deeds ++ [.stop] } :=
  h.congr rfl (fun hr => absurd hup (by simp [hr.down])) (fun ho => absurd hup (by simp [ho.down]))
    (fun _ hs => ⟨_, hs.stops⟩) fun _ => rfl

/-- A session that closes was asked to stop, so it counts as up no longer. -/
theorem obeys (h : Orderly v) {ds : List Deed} (hp : v.phase.Stands) (hstop : v.stop = true) :
    Orderly { v with phase := .closing, stop := false, deeds := ds } := by
  obtain ⟨l, hs⟩ := (of_stands hp).1 h
  change v.up = false
  rw [← Bool.not_eq_true]
  intro hup
  exact absurd hstop (by simp [hs.unstopped hup])

/-- Every step keeps order. -/
theorem step (h : Orderly v) (hstep : Step access v w) : Orderly w := by
  cases hstep with
  | begins hup => exact h.begins hup
  | queues topic payload hpub => exact h.queues hpub topic payload
  | ends => exact h.ends
  | starts hpub _ hqueue => exact h.starts hpub hqueue
  | stops _ hup => exact h.stops hup
  | begun hphase hqueue hq => exact (of_opens hq).2 (((of_idle hphase).1 h).begun hqueue _)
  | @drops topic payload rest hphase hqueue =>
    exact (of_idle (v := { v with queue := rest }) hphase).2 (((of_idle hphase).1 h).drops hqueue)
  | opens hp hq => exact (of_opens hq).2 (((of_opens hp).1 h).opens _ _)
  | connects hphase =>
    have ho : Opening v := (of_opens (by rw [hphase]; trivial)).1 h
    exact ⟨[], ho.connects _⟩
  | fails hphase hr hok => exact ended rfl rfl rfl (List.append_assoc _ [_, _] _).symm
  | obeys hphase hstop => exact h.obeys (by rw [hphase]; trivial) hstop
  | sends hphase hstop hqueue =>
    refine h.further (by rw [hphase]; trivial) trivial rfl (by simp [Deed.Bounds]) ?_
      (fun _ => hstop) id
    rw [hqueue]
    exact List.append_nil _
  | reports hphase hstop hqueue =>
    refine h.further (by rw [hphase]; trivial) (by rw [hphase]; trivial) rfl
      (by simp [Deed.Bounds]) ?_ (fun _ => hstop) id
    rw [hqueue]
    exact List.append_nil _
  | pings hphase | sent hphase | pinged hphase =>
    exact h.goesOn (by rw [hphase]; trivial) trivial (by simp [Deed.Bounds]) rfl rfl
  | closes ok hphase => exact ended rfl rfl rfl (List.append_assoc _ [_] _).symm

end Orderly

/-! ### Every chronicle -/

namespace Recorded

variable {cfg : PublisherConfig} {access : BrokerAccess} {s : Recorded}

/-- What is true of plain deeds, and of the others where they are done in order, is true of
every chronicle. -/
theorem Reachable.always {P : List Deed → Deed → Prop} (plain : ∀ {pre d}, d.Plain → P pre d)
    (allowed : ∀ {v : View} {d}, Orderly v → v.Allows d → P v.deeds d)
    (h : Reachable cfg access s) : Always P s.deeds := by
  refine (h.holds (P := fun v => Orderly v ∧ Always P v.deeds)
    ⟨⟨rfl, trivial, nofun, rfl⟩, .nil⟩ fun hstep hv => ⟨hv.1.step hstep, ?_⟩).2
  obtain ⟨es, hes, hplain | ⟨d, rfl, hd⟩⟩ := hstep.enters
  · rw [hes]
    refine hv.2.append fun pre d post heq => plain (hplain d ?_)
    exact heq ▸ List.mem_append_right _ (.head _)
  · rw [hes]
    refine hv.2.append fun pre x post heq => ?_
    obtain ⟨rfl, rfl, -⟩ := split_singleton heq
    rw [List.append_nil]
    exact allowed hv.1 hd

/-- A session sends only what was queued since it reported that it is connected: the messages
that it has sent, this one included, are the first that were queued since then. -/
theorem sends_in_order {topic : String} {payload : Bytes} {pre post : List Deed}
    (h : Reachable cfg access s) (hs : s.deeds = pre ++ .called (.send topic payload) :: post) :
    ∃ before during, pre = before ++ .reported .connected :: during ∧ served before = none ∧
      (∀ d ∈ during, ¬ d.Bounds) ∧ sent during ++ [(topic, payload)] <+: queued during := by
  have halways := h.always (P := fun pre d => ∀ topic payload, d = .called (.send topic payload) →
      ∃ during, served pre = some during ∧ sent during ++ [(topic, payload)] <+: queued during)
    (fun hplain topic payload heq => ?_) (fun ho hallows topic payload heq => ?_)
  · obtain ⟨during, hserved, hsent⟩ := halways pre _ post hs topic payload rfl
    obtain ⟨before, hpre, hnone, hin⟩ := served_eq_some_iff.1 hserved
    exact ⟨before, during, hpre, hnone, hin, hsent⟩
  · subst heq
    exact hplain.elim
  · subst heq
    obtain ⟨hstands, rest, hqueue⟩ := hallows
    obtain ⟨l, hl⟩ := (Orderly.of_stands hstands).1 ho
    refine ⟨l, hl.served, messages rest, ?_⟩
    rw [hl.balance, hqueue, List.append_assoc]
    rfl

/-! ### A reading is sent -/

/-- The reading of an empty slot. -/
def unread : SlotSnapshot CarbonDioxide := ⟨0, false, 0⟩

/-- The publisher copies the slots for the first session. -/
def copying (p : Store.Copying) : Recorded :=
  { connected with publisher := some (.copying (.union .linkUp .brokerUp) p) }

/-- What it takes to send that reading. -/
def delivered : List Deed :=
  opened ++ [.queued "sensors/dust/co2" [48], .called (.send "sensors/dust/co2" [48])]

/-- The publisher has seen that slot, and the session task is at some point since then. -/
def published (p : Phase) (queue : CommandQueue) (ds : List Deed) : Recorded where
  site := ({ co2 := { last := some 0 } },
    ⟨⟨.union .linkUp .brokerUp, true, .ofMax 3⟩, .empty, ⟨{ queue := queue }, ds⟩⟩)
  publisher := some .flags
  session := p

/-- The reading is on its way. -/
def sending : Recorded :=
  published (.sending 0 "sensors/dust/co2" [48]) .empty delivered

theorem reachable_sending : Reachable {} {} sending := by
  have hco2 : Reachable {} {} (copying .co2) := reachable_connected.move
    (.publisherGoesOn (v := .flags) (.expired : Timed Unit) #[] rfl rfl)
  have hdust : Reachable {} {} (copying (.dust (some unread))) := hco2.move
    (.publisherGoesOn (v := .copying _ .co2) (.ready () : Timed Unit) #[] rfl rfl)
  have hpressure : Reachable {} {} (copying (.pressure (some unread) none)) := hdust.move
    (.publisherGoesOn (v := .copying _ (.dust _)) (.expired : Timed Unit) #[] rfl rfl)
  have hqueued : Reachable {} {} (published (.serving 0)
      ⟨[.publish "sensors/dust/co2" [48]], by decide⟩
      (opened ++ [.queued "sensors/dust/co2" [48]])) := hpressure.move
    (.publisherGoesOn (v := .copying _ (.pressure _ _)) (.expired : Timed Unit) #[] rfl
      (by with_unfolding_all rfl))
  exact hqueued.sessionGoesOn (q := .sending 0 "sensors/dust/co2" [48])
    (.command (.publish "sensors/dust/co2" [48]) : Turn) (.inl ⟨#[], rfl⟩) rfl

theorem sends_in_order_sending :
    Reachable {} {} sending ∧
      sending.deeds = (opened ++ [.queued "sensors/dust/co2" [48]]) ++
        .called (.send "sensors/dust/co2" [48]) :: [] ∧
      ∃ before during, opened ++ [.queued "sensors/dust/co2" [48]] =
          before ++ .reported .connected :: during ∧ served before = none ∧
        (∀ d ∈ during, ¬ d.Bounds) ∧
        sent during ++ [("sensors/dust/co2", [48])] <+: queued during :=
  ⟨reachable_sending, rfl, sends_in_order reachable_sending rfl⟩

end Recorded

end AirStation.Uplink
