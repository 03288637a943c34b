import AirStation.Proofs.Activity
import AirStation.Proofs.Connectivity.Flags
import AirStation.Publisher.Cycle
import Mathlib.Logic.Relation

/-! What a cycle of the publisher does, one pause at a time and for any broker. The wait
for the flags changes nothing and ends with a snapshot; stopping and starting are one
action each; publishing copies slot by slot and then only calls the broker. A whole
cycle is a wait that takes a snapshot and, after it, what follows from that snapshot. -/

namespace AirStation.Publisher

variable {β : Type} (cfg : PublisherConfig) (b : Broker β) {seen : Flags}

/-! ### Decisions -/

theorem decide_eq_publish_iff (f : Flags) :
    decide f = .publish ↔ f.contains .linkUp = true ∧ f.contains .brokerUp = true ∧
      f.contains .mustDisconnect = false := by
  unfold decide
  split <;> simp_all

theorem decide_eq_startBroker_iff (f : Flags) :
    decide f = .startBroker ↔ f.contains .linkUp = true ∧ f.contains .brokerUp = false := by
  unfold decide
  split <;> simp_all

theorem decide_eq_stopBroker_iff (f : Flags) :
    decide f = .stopBroker ↔ f.contains .brokerUp = true ∧
      (f.contains .linkUp = false ∨ f.contains .mustDisconnect = true) := by
  unfold decide
  split <;> simp_all

/-! ### The end of a cycle -/

/-- The state after the request that the cycle saw is settled. -/
def settled (seen : Flags) (s : Site β) : Site β :=
  if seen.contains .mustDisconnect then
    (s.1, { s.2 with net := s.2.net.lower .mustDisconnect })
  else s

theorem settle_apply (action : Action) (s : Site β) (js : Array Notice) :
    settle seen action s js = ((.done action, settled seen s), js) := by
  unfold settle settled
  by_cases h : seen.contains .mustDisconnect = true <;> simp [h]

theorem has_mustDisconnect_settled (seen : Flags) (s : Site β) :
    (settled seen s).2.net.has .mustDisconnect =
      (s.2.net.has .mustDisconnect && !seen.contains .mustDisconnect) := by
  unfold settled
  split
  next h =>
    rw [Connectivity.has_lower_self Flags.single_mustDisconnect, h, Bool.not_true, Bool.and_false]
  next h => simp [h]

theorem has_brokerUp_settled (seen : Flags) (s : Site β) :
    (settled seen s).2.net.has .brokerUp = s.2.net.has .brokerUp := by
  unfold settled
  split
  · simp (disch := decide) only [Connectivity.has_lower_of_ne]
  · rfl

/-- The state after the publisher has asked for the session to be stopped: the session
does not count as up from then on. -/
def stopped (b : Broker β) (s : Site β) (js : Array Notice) : Site β :=
  (s.1, { (b.stop s.2 js).1.2 with net := (b.stop s.2 js).1.2.net.lower .brokerUp })

theorem act_stop (h : decide seen = .stopBroker) (s : Site β) (js : Array Notice) :
    ∃ js', (act cfg b (.done seen) s js).1 =
      (.done .stopBroker, settled seen (stopped b s js')) := by
  refine ⟨(js.push (.decided seen .stopBroker)).push .sessionStopping, ?_⟩
  simp [act, h, settle_apply, stopped, Part.snd]

theorem act_start (h : decide seen = .startBroker) (s : Site β) (js : Array Notice) :
    ∃ js', (act cfg b (.done seen) s js).1 =
      (.done .startBroker, settled seen (s.1, (b.start s.2 js').1.2)) := by
  refine ⟨(js.push (.decided seen .startBroker)).push .sessionStarting, ?_⟩
  simp [act, h, settle_apply, Part.snd]

theorem act_publish (h : decide seen = .publish) (s : Site β) (js : Array Notice) :
    (act cfg b (.done seen) s js).1 = (.paused (.copying seen .co2), s) := by
  simp [act, h, copying, Activity.on, Store.snapshot, copied, Part.comp, Part.snd,
    Hub.storePart]

theorem act_idle (h : decide seen = .idle) (s : Site β) (js : Array Notice) :
    (act cfg b (.done seen) s js).1 = (.done .idle, settled seen s) := by
  simp [act, h, settle_apply]

/-! ### Publishing -/

/-- What a publishing cycle does to the state at a time: it reads a slot or enters what
it has read, or it asks the broker to publish. -/
inductive Publishes (b : Broker β) : Site β → Site β → Prop where
  | aside (s : Site β) (watches : Watches) (store : Store) :
      Publishes b s (watches, { s.2 with store := store })
  | publish (s : Site β) (topic : String) (payload : Bytes) (js : Array Notice) :
      Publishes b s (s.1, (b.publish topic payload s.2 js).1.2)

/-- Any number of them. -/
abbrev Publishing (b : Broker β) : Site β → Site β → Prop :=
  Relation.ReflTransGen (Publishes b)

theorem publishAll_publishing (snap : Snapshot) (ms : List Metric) (s : Site β)
    (js : Array Notice) : Publishing b s (publishAll cfg b snap ms s js).1.2 := by
  induction ms generalizing s js with
  | nil => exact .refl
  | cons m rest ih =>
    unfold publishAll
    cases message cfg snap m with
    | error notice => exact ih s (js.push notice)
    | ok sent =>
      have hcall := Publishes.publish (b := b) s sent.1 sent.2.toUTF8.toList js
      simp only [Act.bind_apply, Act.on_apply, Part.snd]
      cases (b.publish sent.1 sent.2.toUTF8.toList s.2 js).1.1 with
      | error e => exact .single hcall
      | ok _ => exact .head hcall (ih _ _)

theorem copied_done (seen : Flags) (snap : Snapshot) (s : Site β) (js : Array Notice) :
    ∃ u, Publishing b s u ∧
      (copied cfg b seen (.done snap) s js).1 = (.done .publish, settled seen u) := by
  simp only [copied, Act.bind_apply, Act.on_apply, settle_apply, Part.fst]
  exact ⟨_, .head (.aside s _ s.2.store) (publishAll_publishing cfg b snap _ _ _), rfl⟩

/-- A reply about one slot's lock leads to the next slot or to the end of the cycle. -/
theorem resume_copying (seen : Flags) (p : Store.Copying) (r : Timed Unit) (s : Site β)
    (js : Array Notice) :
    ∃ u, Publishing b s u ∧
      ((∃ q, ((cycle cfg b).resume (.copying seen p) r s js).1 =
          (.paused (.copying seen q), u)) ∨
        ((cycle cfg b).resume (.copying seen p) r s js).1 = (.done .publish, settled seen u)) := by
  cases p with
  | co2 => exact ⟨_, .single (.aside s s.1 _), .inl ⟨_, rfl⟩⟩
  | dust c => exact ⟨_, .single (.aside s s.1 _), .inl ⟨_, rfl⟩⟩
  | pressure c d =>
    obtain ⟨u, hu, hdone⟩ := copied_done cfg b seen _ _ _
    exact ⟨u, .head (.aside s s.1 _) hu, .inr hdone⟩

/-! ### The wait for the flags -/

variable {cfg b}

theorem awaiting_start (s : Site β) (js : Array Notice) :
    (awaiting cfg).start s js =
      ((if s.2.net.snapshot.meets .mustDisconnect then .done s.2.net.snapshot else .paused (), s),
        js) := rfl

variable {meanwhile : Site β → Site β → Prop} {s m t : Site β} {action : Action}

/-- The wait ends at once if a request is there, and gives the flags as they are then. -/
theorem awaiting_performs_iff :
    (awaiting cfg).Performs meanwhile s seen m ↔
      seen = m.2.net.snapshot ∧
        if s.2.net.snapshot.meets .mustDisconnect then m = s else meanwhile s m := by
  by_cases hm : s.2.net.snapshot.meets .mustDisconnect = true
  · rw [if_pos hm]
    constructor
    · rintro ⟨js, h⟩
      rw [awaiting_start, if_pos hm] at h
      obtain ⟨rfl, rfl⟩ := Activity.ends_done_iff.1 h
      exact ⟨rfl, rfl⟩
    · rintro ⟨rfl, rfl⟩
      refine ⟨#[], ?_⟩
      rw [awaiting_start, if_pos hm]
      exact .done _ m
  · rw [if_neg hm]
    constructor
    · rintro ⟨js, h⟩
      rw [awaiting_start, if_neg hm] at h
      obtain ⟨u, hu, r, js', h⟩ := Activity.ends_paused_iff.1 h
      obtain ⟨rfl, rfl⟩ := Activity.ends_done_iff.1 h
      exact ⟨rfl, hu⟩
    · rintro ⟨rfl, h⟩
      refine ⟨#[], ?_⟩
      rw [awaiting_start, if_neg hm]
      exact .resume (A := awaiting cfg) (.expired : Timed Unit) #[] h (.done _ m)

/-! ### A whole cycle -/

/-- A cycle waits for the flags and then acts on what it has seen. -/
theorem performs_cycle_iff :
    (cycle cfg b).Performs meanwhile s action t ↔
      ∃ seen m, (awaiting cfg).Performs meanwhile s seen m ∧
        (cycle cfg b).EndsFrom meanwhile (act cfg b (.done seen)) m action t := by
  have hstart (js : Array Notice) : (cycle cfg b).start s js =
      act cfg b ((awaiting cfg).start s js).1.1 s js := rfl
  by_cases hm : s.2.net.snapshot.meets .mustDisconnect = true
  · simp only [awaiting_performs_iff, if_pos hm]
    constructor
    · rintro ⟨js, h⟩
      rw [hstart, awaiting_start, if_pos hm] at h
      exact ⟨_, s, ⟨rfl, rfl⟩, js, h⟩
    · rintro ⟨seen, m, ⟨rfl, rfl⟩, js, h⟩
      refine ⟨js, ?_⟩
      rw [hstart, awaiting_start, if_pos hm]
      exact h
  · simp only [awaiting_performs_iff, if_neg hm]
    constructor
    · rintro ⟨js, h⟩
      rw [hstart, awaiting_start, if_neg hm] at h
      obtain ⟨u, hu, r, js', h⟩ := Activity.ends_paused_iff.1 h
      exact ⟨u.2.net.snapshot, u, ⟨rfl, hu⟩, js', h⟩
    · rintro ⟨seen, m, ⟨rfl, hu⟩, js, h⟩
      refine ⟨js, ?_⟩
      rw [hstart, awaiting_start, if_neg hm]
      exact .resume (A := cycle cfg b) (p := .flags) (.expired : Timed Unit) js hu h

/-- What a cycle's action does before the request that the cycle saw is settled. -/
def Effect (b : Broker β) (meanwhile : Site β → Site β → Prop) (m : Site β) :
    Action → Site β → Prop
  | .stopBroker, u => ∃ js, u = stopped b m js
  | .startBroker, u => ∃ js, u = (m.1, (b.start m.2 js).1.2)
  | .publish, u => Relation.ReflTransGen (fun s t => meanwhile s t ∨ Publishes b s t) m u
  | .idle, u => u = m

/-- At every pause of a publishing cycle only waits and calls to publish lie behind, and at
its end what it saw is settled. -/
def Behind (b : Broker β) (meanwhile : Site β → Site β → Prop) (seen : Flags) (m : Site β) :
    CycleProgress → Site β → Prop
  | .paused .flags, _ => False
  | .paused (.copying seen' _), v => seen' = seen ∧ Effect b meanwhile m .publish v
  | .done action, v =>
    action = .publish ∧ ∃ u, Effect b meanwhile m .publish u ∧ v = settled seen u

theorem behind_resume {p : Waiting} {v w : Site β}
    (h : Behind b meanwhile seen m (.paused p) v) (hm : meanwhile v w)
    (r : (Waiting.demand cfg p).Reply) (js : Array Notice) :
    Behind b meanwhile seen m ((cycle cfg b).resume p r w js).1.1
      ((cycle cfg b).resume p r w js).1.2 := by
  cases p with
  | flags => cases h
  | copying seen' q =>
    obtain ⟨rfl, hv⟩ := h
    obtain ⟨u, hu, hres⟩ := resume_copying cfg b seen' q r w js
    have heff : Effect b meanwhile m .publish u :=
      (hv.tail (.inl hm)).trans (Relation.ReflTransGen.mono (fun _ _ => .inr) _ _ hu)
    rcases hres with ⟨q', hres⟩ | hres
    · rw [hres]
      exact ⟨rfl, heff⟩
    · rw [hres]
      exact ⟨rfl, u, heff, rfl⟩

theorem acted (h : (cycle cfg b).EndsFrom meanwhile (act cfg b (.done seen)) m action t) :
    action = decide seen ∧ ∃ u, Effect b meanwhile m action u ∧ t = settled seen u := by
  obtain ⟨js, h⟩ := h
  cases hd : decide seen with
  | stopBroker =>
    obtain ⟨js', hact⟩ := act_stop cfg b hd m js
    rw [hact] at h
    obtain ⟨rfl, rfl⟩ := Activity.ends_done_iff.1 h
    exact ⟨rfl, _, ⟨js', rfl⟩, rfl⟩
  | startBroker =>
    obtain ⟨js', hact⟩ := act_start cfg b hd m js
    rw [hact] at h
    obtain ⟨rfl, rfl⟩ := Activity.ends_done_iff.1 h
    exact ⟨rfl, _, ⟨js', rfl⟩, rfl⟩
  | idle =>
    rw [act_idle cfg b hd] at h
    obtain ⟨rfl, rfl⟩ := Activity.ends_done_iff.1 h
    exact ⟨rfl, _, rfl, rfl⟩
  | publish =>
    rw [act_publish cfg b hd] at h
    have hbegin : Behind b meanwhile seen m (.paused (.copying seen .co2)) m := ⟨rfl, .refl⟩
    obtain ⟨rfl, hu⟩ : Behind b meanwhile seen m (.done action) t :=
      h.preserves (fun _ _ _ r js hv hm => behind_resume hv hm r js) hbegin
    exact ⟨rfl, hu⟩

end AirStation.Publisher
