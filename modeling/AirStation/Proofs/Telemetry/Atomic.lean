import Mathlib.Data.List.Induction
import AirStation.Proofs.Telemetry.Calls

/-! Every use of a slot is one step for everybody else. Whatever calls are under way, in
whatever order they look at the locks, whenever their waits end and whoever outside takes a
lock and gives it back: a call that succeeds has run once, at its first look that found the
lock free, on what the uses before it left; a call that fails has not run; and between two
looks nobody but an outside holder has a lock. So stores are neither lost nor torn. -/

namespace AirStation.Telemetry

variable {α : Type}

/-! ### The log -/

inductive Entry where
  /-- Somebody outside has taken a lock. -/
  | took (q : Quantity)
  | gave (q : Quantity)
  /-- The call of this number has found something. -/
  | saw (i : Nat) (v : Sight)

/-- What call number `i` has found. -/
def seen (i : Nat) (log : List Entry) : List Sight :=
  log.filterMap fun
    | .saw j v => if j = i then some v else none
    | _ => none

/-- Whether somebody outside has the lock of a quantity. -/
def holds (log : List Entry) : Quantity → Bool :=
  log.foldl (fun h e =>
    match e with
    | .took q => Function.update h q true
    | .gave q => Function.update h q false
    | .saw _ _ => h) fun _ => false

/-- The slots' contents as the uses of them left them. -/
def left (log : List Entry) : (q : Quantity) → SlotState q.Value :=
  log.foldl (fun m e =>
    match e with
    | .saw _ (.ran q _ s) => Function.update m q s
    | _ => m) fun _ => .empty

/-- A look found what the entries before it say, and so did those outside. -/
def Found (pre : List Entry) : Entry → Prop
  | .took q => holds pre q = false
  | .gave q => holds pre q = true
  | .saw _ (.busy q) => holds pre q = true
  | .saw _ (.late _) => True
  | .saw _ (.ran q s _) => holds pre q = false ∧ s = left pre q

variable (log : List Entry) (e : Entry) (i j : Nat)

theorem seen_saw_self (v : Sight) : seen i (log ++ [.saw i v]) = seen i log ++ [v] := by
  simp [seen]

theorem seen_saw_of_ne (h : j ≠ i) (v : Sight) : seen i (log ++ [.saw j v]) = seen i log := by
  simp [seen, h]

theorem mem_seen {v : Sight} : v ∈ seen i log ↔ .saw i v ∈ log := by
  unfold seen
  rw [List.mem_filterMap]
  constructor
  · rintro ⟨e, he, hv⟩
    cases e with
    | saw j w =>
      by_cases h : j = i
      · subst h
        simp at hv
        exact hv ▸ he
      · simp [h] at hv
    | took q => simp at hv
    | gave q => simp at hv
  · exact fun h => ⟨_, h, by simp⟩

@[simp] theorem holds_saw (v : Sight) : holds (log ++ [.saw i v]) = holds log := by
  simp [holds]

@[simp] theorem holds_took (q : Quantity) :
    holds (log ++ [.took q]) = Function.update (holds log) q true := by
  simp [holds]

@[simp] theorem holds_gave (q : Quantity) :
    holds (log ++ [.gave q]) = Function.update (holds log) q false := by
  simp [holds]

@[simp] theorem left_took (q : Quantity) : left (log ++ [.took q]) = left log := by
  simp [left]

@[simp] theorem left_gave (q : Quantity) : left (log ++ [.gave q]) = left log := by
  simp [left]

@[simp] theorem left_busy (q : Quantity) : left (log ++ [.saw i (.busy q)]) = left log := by
  simp [left]

@[simp] theorem left_late (q : Quantity) : left (log ++ [.saw i (.late q)]) = left log := by
  simp [left]

@[simp] theorem left_ran (q : Quantity) (s t : SlotState q.Value) :
    left (log ++ [.saw i (.ran q s t)]) = Function.update (left log) q t := by
  simp [left]

/-! ### The system -/

/-- A call and where it stands. -/
structure Standing (α : Type) where
  call : Call α
  progress : Progress call.activity.Paused (Outcome α)

structure World (α : Type) where
  store : Store := .empty
  calls : List (Standing α) := []
  log : List Entry := []

inductive Move (α : Type) where
  /-- A call is begun. It gets the next number. -/
  | call (c : Call α)
  /-- A call looks at the lock it waits for. -/
  | look (i : Nat)
  /-- The time of a call's wait is up. -/
  | lapse (i : Nat)
  /-- Somebody outside takes a lock, if it is free. -/
  | take (q : Quantity)
  /-- Somebody outside gives back a lock. -/
  | give (q : Quantity)

namespace World

def call (w : World α) (c : Call α) : World α :=
  let out := (c.activity.start w.store #[]).1
  { w with store := out.2, calls := w.calls ++ [⟨c, out.1⟩] }

/-- Something is found by a call, which stands elsewhere then, over another store. -/
def finds (w : World α) (i : Nat) (v : Sight) (x : Standing α) (store : Store) : World α :=
  { store, calls := w.calls.set i x, log := w.log ++ [.saw i v] }

/-- With the lock the call goes on at once. -/
def look (w : World α) (i : Nat) : World α :=
  match w.calls[i]? with
  | some ⟨c, .paused p⟩ =>
    let q := c.quantity p
    let tried := Store.tryLock q w.store #[]
    match tried.1.1 with
    | none => w.finds i (.busy q) ⟨c, .paused p⟩ tried.1.2
    | some () =>
      let out := (c.activity.resume p (.ready () : Timed Unit) tried.1.2 tried.2).1
      w.finds i (.ran q (w.store.contents q) (out.2.contents q)) ⟨c, out.1⟩ out.2
  | _ => w

def lapse (w : World α) (i : Nat) : World α :=
  match w.calls[i]? with
  | some ⟨c, .paused p⟩ =>
    let out := (c.activity.resume p (.expired : Timed Unit) w.store #[]).1
    w.finds i (.late (c.quantity p)) ⟨c, out.1⟩ out.2
  | _ => w

def take (w : World α) (q : Quantity) : World α :=
  let tried := (Store.tryLock q w.store #[]).1
  match tried.1 with
  | none => { w with store := tried.2 }
  | some () => { w with store := tried.2, log := w.log ++ [.took q] }

def give (w : World α) (q : Quantity) : World α :=
  if holds w.log q then { w with store := w.store.setHeld false q, log := w.log ++ [.gave q] }
  else w

def move (w : World α) : Move α → World α
  | .call c => w.call c
  | .look i => w.look i
  | .lapse i => w.lapse i
  | .take q => w.take q
  | .give q => w.give q

end World

/-- What comes of some moves on a new store. -/
def run (moves : List (Move α)) : World α := moves.foldl World.move {}

/-- What a call finds while it has a lock is what it does. -/
def Call.Does (c : Call α) : Sight → Prop
  | .ran q s t => c.Runs q s t
  | _ => True

/-- What is so after any moves. -/
structure Atomic (w : World α) : Prop where
  /-- A call that has returned has found what its outcome says, and one that waits has not
  yet. -/
  stands {i : Nat} {x : Standing α} :
    w.calls[i]? = some x → x.call.Stands (seen i w.log) x.progress
  does {i : Nat} {v : Sight} :
    .saw i v ∈ w.log → ∃ x, w.calls[i]? = some x ∧ x.call.Does v
  found : Always Found w.log
  /-- A slot holds what the uses of it left. -/
  contents : w.store.contents = left w.log
  /-- Nobody but an outside holder has a lock. -/
  held : w.store.held = holds w.log

variable {w : World α}

theorem seen_eq_nil {i : Nat} (h : Atomic w) (hi : w.calls.length ≤ i) : seen i w.log = [] := by
  refine List.eq_nil_iff_forall_not_mem.2 fun v hv => ?_
  obtain ⟨x, hx, -⟩ := h.does ((mem_seen _ _).1 hv)
  rw [List.getElem?_eq_none hi] at hx
  exact absurd hx nofun

theorem atomic_new : Atomic ({} : World α) where
  stands h := absurd h nofun
  does h := absurd h nofun
  found := .nil
  contents := by funext q; cases q <;> rfl
  held := by funext q; cases q <;> rfl

theorem Atomic.call (h : Atomic w) (c : Call α) : Atomic (w.call c) := by
  obtain ⟨hstore, hstands⟩ := c.start_stands w.store #[]
  have hcall : w.call c =
      { w with calls := w.calls ++ [⟨c, (c.activity.start w.store #[]).1.1⟩] } := by
    rw [World.call, hstore]
  rw [hcall]
  exact {
    stands := by
      intro i x hx
      rcases Nat.lt_or_ge i w.calls.length with hlt | hge
      · rw [List.getElem?_append_left hlt] at hx
        exact h.stands hx
      · rw [seen_eq_nil h hge]
        rw [List.getElem?_append_right hge, List.getElem?_singleton] at hx
        split at hx
        · cases hx
          exact hstands
        · cases hx
    does := by
      intro i v hv
      obtain ⟨x, hx, hdoes⟩ := h.does hv
      have hlt : i < w.calls.length := (List.getElem?_eq_some_iff.1 hx).1
      exact ⟨x, (List.getElem?_append_left hlt).trans hx, hdoes⟩
    found := h.found
    contents := h.contents
    held := h.held }

/-- What a call that waits has found is added to the log, and it stands as it should then. -/
theorem Atomic.finds (h : Atomic w) {i : Nat} {c : Call α} {p : c.activity.Paused}
    (hi : w.calls[i]? = some ⟨c, .paused p⟩) {v : Sight}
    {progress : Progress c.activity.Paused (Outcome α)} {store : Store}
    (hstands : c.Stands (seen i w.log ++ [v]) progress) (hdoes : c.Does v)
    (hfound : Found w.log (.saw i v)) (hcontents : store.contents = left (w.log ++ [.saw i v]))
    (hheld : store.held = holds w.log) : Atomic (w.finds i v ⟨c, progress⟩ store) := by
  have hlt : i < w.calls.length := (List.getElem?_eq_some_iff.1 hi).1
  have hself : (w.calls.set i ⟨c, progress⟩)[i]? = some ⟨c, progress⟩ :=
    List.getElem?_set_self hlt
  have hother {j : Nat} (hj : i ≠ j) : (w.calls.set i ⟨c, progress⟩)[j]? = w.calls[j]? :=
    List.getElem?_set_ne hj
  exact {
    stands := by
      intro j x hx
      by_cases hj : i = j
      · subst hj
        obtain rfl := Option.some.inj (hself.symm.trans hx)
        rw [World.finds, seen_saw_self]
        exact hstands
      · rw [World.finds, seen_saw_of_ne _ _ _ hj]
        exact h.stands ((hother hj).symm.trans hx)
    does := by
      intro j u hu
      rcases List.mem_append.1 hu with hold | hnew
      · obtain ⟨x, hx, hxdoes⟩ := h.does hold
        by_cases hj : i = j
        · subst hj
          obtain rfl := Option.some.inj (hi.symm.trans hx)
          exact ⟨_, hself, hxdoes⟩
        · exact ⟨x, (hother hj).trans hx, hxdoes⟩
      · cases List.mem_singleton.1 hnew
        exact ⟨_, hself, hdoes⟩
    found := h.found.concat hfound
    contents := hcontents
    held := hheld.trans (holds_saw _ _ _).symm }

theorem look_of_held {i : Nat} {c : Call α} {p : c.activity.Paused}
    (hi : w.calls[i]? = some ⟨c, .paused p⟩) (hheld : w.store.held (c.quantity p) = true) :
    w.look i = w.finds i (.busy (c.quantity p)) ⟨c, .paused p⟩ w.store := by
  unfold World.look
  rw [hi]
  simp only [Store.tryLock_apply, hheld, if_true]

theorem look_of_free {i : Nat} {c : Call α} {p : c.activity.Paused}
    (hi : w.calls[i]? = some ⟨c, .paused p⟩) (hheld : w.store.held (c.quantity p) = false) :
    let q := c.quantity p
    let out := (c.activity.resume p (.ready () : Timed Unit)
      ((Store.part q).put ⟨true, w.store.contents q⟩ w.store) #[]).1
    w.look i = w.finds i (.ran q (w.store.contents q) (out.2.contents q)) ⟨c, out.1⟩ out.2 := by
  unfold World.look
  rw [hi]
  simp only [Store.tryLock_apply, hheld, if_false, Bool.false_eq_true]

theorem lapse_of_paused {i : Nat} {c : Call α} {p : c.activity.Paused}
    (hi : w.calls[i]? = some ⟨c, .paused p⟩) :
    let out := (c.activity.resume p (.expired : Timed Unit) w.store #[]).1
    w.lapse i = w.finds i (.late (c.quantity p)) ⟨c, out.1⟩ out.2 := by
  unfold World.lapse
  rw [hi]

theorem Atomic.look (h : Atomic w) (i : Nat) : Atomic (w.look i) := by
  rcases hi : w.calls[i]? with _ | ⟨c, p | o⟩
  · rw [World.look, hi]
    exact h
  · have hwaits : Waits c p (seen i w.log) := h.stands hi
    by_cases hheld : w.store.held (c.quantity p) = true
    · rw [look_of_held hi hheld]
      exact h.finds hi hwaits.busy trivial ((congrFun h.held _).symm.trans hheld)
        (h.contents.trans (left_busy _ _ _).symm) h.held
    · have hfree : w.store.held (c.quantity p) = false := Bool.eq_false_iff.2 hheld
      let q := c.quantity p
      let st := (Store.part q).put ⟨true, w.store.contents q⟩ w.store
      have hst : st.contents q = w.store.contents q := by
        rw [Store.contents_put, Function.update_self]
      obtain ⟨t, hruns, hstore, hstands⟩ := hwaits.ready st #[]
      rw [hst] at hruns hstands
      rw [Store.part_put_put] at hstore
      rw [look_of_free hi hfree, hstore, Store.contents_put, Function.update_self]
      refine h.finds hi hstands hruns ⟨h.held ▸ hfree, by rw [h.contents]⟩ ?_ ?_
      · rw [Store.contents_put, left_ran, h.contents]
      · rw [Store.held_put, ← hfree, Function.update_eq_self, h.held]
  · rw [World.look, hi]
    exact h

theorem Atomic.lapse (h : Atomic w) (i : Nat) : Atomic (w.lapse i) := by
  rcases hi : w.calls[i]? with _ | ⟨c, p | o⟩
  · rw [World.lapse, hi]
    exact h
  · have hwaits : Waits c p (seen i w.log) := h.stands hi
    obtain ⟨hstore, hstands⟩ := hwaits.expired w.store #[]
    rw [lapse_of_paused hi, hstore]
    exact h.finds hi hstands trivial trivial (h.contents.trans (left_late _ _ _).symm) h.held
  · rw [World.lapse, hi]
    exact h

/-- Somebody outside does something about a lock. -/
theorem Atomic.outside (h : Atomic w) {e : Entry} (he : ∀ i v, e ≠ .saw i v) {store : Store}
    (hfound : Found w.log e) (hcontents : store.contents = left (w.log ++ [e]))
    (hheld : store.held = holds (w.log ++ [e])) :
    Atomic { w with store, log := w.log ++ [e] } where
  stands := by
    intro i x hx
    have hseen : seen i (w.log ++ [e]) = seen i w.log := by
      cases e with
      | saw j v => exact absurd rfl (he j v)
      | took q => simp [seen]
      | gave q => simp [seen]
    rw [hseen]
    exact h.stands hx
  does := by
    intro i v hv
    rcases List.mem_append.1 hv with hold | hnew
    · exact h.does hold
    · exact absurd (List.mem_singleton.1 hnew).symm (he i v)
  found := h.found.concat hfound
  contents := hcontents
  held := hheld

theorem Atomic.take (h : Atomic w) (q : Quantity) : Atomic (w.take q) := by
  by_cases hheld : w.store.held q = true
  · have htake : w.take q = w := by simp [World.take, Store.tryLock_apply, hheld]
    exact htake.symm ▸ h
  · have hfree : w.store.held q = false := Bool.eq_false_iff.2 hheld
    have htake : w.take q = { w with
        store := (Store.part q).put ⟨true, w.store.contents q⟩ w.store
        log := w.log ++ [.took q] } := by
      simp [World.take, Store.tryLock_apply, hheld]
    rw [htake]
    refine h.outside (by simp) ((congrFun h.held q).symm.trans hfree) ?_ ?_
    · rw [Store.contents_put, Function.update_eq_self, left_took, h.contents]
    · rw [Store.held_put, holds_took, h.held]

theorem Atomic.give (h : Atomic w) (q : Quantity) : Atomic (w.give q) := by
  unfold World.give
  split
  next hheld =>
    rw [Store.setHeld_eq]
    refine h.outside (by simp) hheld ?_ ?_
    · rw [Store.contents_put, Function.update_eq_self, left_gave, h.contents]
    · rw [Store.held_put, holds_gave, h.held]
  · exact h

theorem atomic_run (moves : List (Move α)) : Atomic (run moves) := by
  induction moves using List.reverseRecOn with
  | nil => exact atomic_new
  | append_singleton moves m ih =>
    rw [run, List.foldl_append]
    cases m with
    | call c => exact ih.call c
    | look i => exact ih.look i
    | lapse i => exact ih.lapse i
    | take q => exact ih.take q
    | give q => exact ih.give q

end AirStation.Telemetry
