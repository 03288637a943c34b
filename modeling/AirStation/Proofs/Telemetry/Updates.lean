import Mathlib.Algebra.Group.Nat.Defs
import AirStation.Proofs.Telemetry.Atomic
import AirStation.Rig.Clock
import AirStation.Timed.Job

/-! No store on a slot is lost and none is seen in part, whatever else goes on. A slot holds
the last reading stored and counts the stores, and whoever uses it finds what the stores
before left. As long as nobody outside takes a lock and every wait looks before it gives up,
as the waits of both clocks do, every call succeeds. -/

namespace AirStation

/-! ### A slot after some stores -/

namespace SlotState

variable {ρ : Type}

def storeAll (rs : List ρ) (s : SlotState ρ) : SlotState ρ :=
  rs.foldl (fun s r => s.store r) s

/-- What a slot holds after these stores on it. -/
def after (rs : List ρ) : SlotState ρ := ⟨rs.getLast?, .ofNat rs.length⟩

theorem store_after (rs : List ρ) (r : ρ) : (after rs).store r = after (rs ++ [r]) := by
  have hcount : UInt32.ofNat rs.length + 1 = .ofNat (rs.length + 1) := (UInt32.ofNat_add _ _).symm
  rw [after, after, store, List.getLast?_concat, List.length_append, List.length_singleton, hcount]

theorem storeAll_after (rs ws : List ρ) : (after rs).storeAll ws = after (rs ++ ws) := by
  induction ws generalizing rs with
  | nil => rw [List.append_nil]; rfl
  | cons r ws ih =>
    rw [List.append_cons]
    exact (congrArg (storeAll ws) (store_after rs r)).trans (ih (rs ++ [r]))

/-- A slot holds the last of these readings whole and counts them all. -/
structure Keeps [Zero ρ] (rs : List ρ) (s : SlotState ρ) : Prop where
  value : s.value = rs.getLast?
  revision : s.revision.toNat = rs.length % 2 ^ 32
  updated : s.updated = true ↔ rs ≠ []
  snapshot : s.snapshot = ⟨rs.getLast?.getD 0, s.updated, s.revision⟩

theorem keeps_after [Zero ρ] (rs : List ρ) : Keeps rs (after rs) where
  value := rfl
  revision := UInt32.toNat_ofNat'
  updated := by simp [updated, after, Option.isSome_iff_ne_none]
  snapshot := rfl

end SlotState

namespace Telemetry

variable {α : Type}

/-! ### Stores -/

/-- What each call stores, in order, where it finds a slot in some state. -/
abbrev Writes := Nat → (q : Quantity) → SlotState q.Value → List q.Value

/-- Everything stored on each slot, in order. -/
def stores (writes : Writes) (log : List Entry) : (q : Quantity) → List q.Value :=
  log.foldl (fun m e =>
    match e with
    | .saw i (.ran q s _) => Function.update m q (m q ++ writes i q s)
    | _ => m) fun _ => []

/-- The calls of these moves, by their numbers. -/
def begun (moves : List (Move α)) : List (Call α) :=
  moves.filterMap fun
    | .call c => some c
    | _ => none

/-- The calls store these readings and do nothing else to a slot. -/
def Stores (calls : List (Call α)) (writes : Writes) : Prop :=
  ∀ (i : Nat) (c : Call α), calls[i]? = some c → ∀ (q : Quantity) (s t : SlotState q.Value),
    c.Runs q s t → t = s.storeAll (writes i q s)

/-- No store is lost and none is seen in part. -/
structure Kept (writes : Writes) (w : World α) : Prop where
  slots (q : Quantity) : (w.store.contents q).Keeps (stores writes w.log q)
  /-- Who has the lock finds what the stores before left. -/
  uses {pre post : List Entry} {i : Nat} {q : Quantity} {s t : SlotState q.Value} :
    w.log = pre ++ .saw i (.ran q s t) :: post → s.Keeps (stores writes pre q)

variable {writes : Writes} {log : List Entry}

theorem stores_concat (e : Entry) :
    stores writes (log ++ [e]) =
      match e with
      | .saw i (.ran q s _) => Function.update (stores writes log) q
          (stores writes log q ++ writes i q s)
      | _ => stores writes log := by
  rw [stores, List.foldl_append]
  rfl

theorem update_after (rs : (q : Quantity) → List q.Value) (q : Quantity) (ws : List q.Value) :
    Function.update (fun q => SlotState.after (rs q)) q (.after ws) =
      fun r => .after (Function.update rs q ws r) := by
  funext r
  by_cases h : r = q
  · subst h
    rw [Function.update_self, Function.update_self]
  · rw [Function.update_of_ne h, Function.update_of_ne h]

theorem left_eq_after (hfound : Always Found log)
    (hwrites : ∀ i q s t, .saw i (.ran q s t) ∈ log → t = s.storeAll (writes i q s)) :
    left log = fun q => .after (stores writes log q) := by
  induction log using List.reverseRecOn with
  | nil => rfl
  | append_singleton log e ih =>
    have hlog := ih hfound.of_append fun i q s t h => hwrites i q s t (List.mem_append_left _ h)
    rw [stores_concat]
    rcases e with q | q | ⟨i, q | q | ⟨q, s, t⟩⟩
    · rw [left_took, hlog]
    · rw [left_gave, hlog]
    · rw [left_busy, hlog]
    · rw [left_late, hlog]
    · have hs : s = .after (stores writes log q) := hfound.last.2.trans (congrFun hlog q)
      have ht : t = .after (stores writes log q ++ writes i q s) := by
        rw [hwrites i q s t (by simp), ← SlotState.storeAll_after, ← hs]
      rw [left_ran, hlog, ht, update_after]

section Numbers

variable {w : World α}

theorem calls_finds {i : Nat} {c : Call α} {p : Progress c.activity.Paused (Outcome α)}
    (hi : w.calls[i]? = some ⟨c, p⟩) (v : Sight) (progress : Progress c.activity.Paused (Outcome α))
    (store : Store) :
    (w.finds i v ⟨c, progress⟩ store).calls.map (·.call) = w.calls.map (·.call) := by
  obtain ⟨hlt, hx⟩ := List.getElem?_eq_some_iff.1 hi
  rw [World.finds, List.map_set]
  refine List.ext_getElem (by simp) fun j hj hj' => ?_
  rw [List.getElem_set]
  split
  next h =>
    subst h
    rw [List.getElem_map, hx]
  · rfl

theorem calls_look (i : Nat) : (w.look i).calls.map (·.call) = w.calls.map (·.call) := by
  rcases hi : w.calls[i]? with _ | ⟨c, p | o⟩
  · rw [World.look, hi]
  · by_cases hheld : w.store.held (c.quantity p) = true
    · rw [look_of_held hi hheld]
      exact calls_finds hi _ _ _
    · rw [look_of_free hi (Bool.eq_false_iff.2 hheld)]
      exact calls_finds hi _ _ _
  · rw [World.look, hi]

theorem calls_lapse (i : Nat) : (w.lapse i).calls.map (·.call) = w.calls.map (·.call) := by
  rcases hi : w.calls[i]? with _ | ⟨c, p | o⟩
  · rw [World.lapse, hi]
  · rw [lapse_of_paused hi]
    exact calls_finds hi _ _ _
  · rw [World.lapse, hi]

theorem calls_take (q : Quantity) : (w.take q).calls = w.calls := by
  simp only [World.take]
  split <;> rfl

theorem calls_give (q : Quantity) : (w.give q).calls = w.calls := by
  unfold World.give
  split <;> rfl

end Numbers

/-- Calls keep the numbers they got. -/
theorem calls_run (moves : List (Move α)) : (run moves).calls.map (·.call) = begun moves := by
  induction moves using List.reverseRecOn with
  | nil => rfl
  | append_singleton moves m ih =>
    rw [run, List.foldl_append, begun, List.filterMap_append]
    change ((run moves).move m).calls.map (·.call) = begun moves ++ _
    rw [← ih]
    cases m with
    | call c => exact List.map_append
    | look i => exact (calls_look i).trans (List.append_nil _).symm
    | lapse i => exact (calls_lapse i).trans (List.append_nil _).symm
    | take q => exact (congrArg _ (calls_take q)).trans (List.append_nil _).symm
    | give q => exact (congrArg _ (calls_give q)).trans (List.append_nil _).symm

theorem kept_run (moves : List (Move α)) (h : Stores (begun moves) writes) :
    Kept writes (run moves) := by
  have hatomic := atomic_run moves
  have hwrites : ∀ i q s t, .saw i (.ran q s t) ∈ (run moves).log →
      t = s.storeAll (writes i q s) := by
    intro i q s t hmem
    obtain ⟨x, hx, hruns⟩ := hatomic.does hmem
    refine h i x.call ?_ q s t hruns
    rw [← calls_run, List.getElem?_map, hx]
    rfl
  have hleft := left_eq_after hatomic.found hwrites
  exact {
    slots := by
      intro q
      rw [hatomic.contents, hleft]
      exact SlotState.keeps_after _
    uses := by
      intro pre post i q s t heq
      have hfound := hatomic.found
      rw [heq] at hfound hwrites
      have hpre := left_eq_after hfound.of_append fun i q s t hmem =>
        hwrites i q s t (List.mem_append_left _ hmem)
      have hs : s = left pre q := (hfound pre _ post rfl).2
      rw [hs, hpre]
      exact SlotState.keeps_after _ }

/-! ### Runs without an outside holder -/

/-- Nobody outside takes a lock, and the time of a wait is not up before its call has looked
and found the lock held. -/
def Calm (pre : List (Move α)) : Move α → Prop
  | .take _ => False
  | .lapse i => ∃ q, (seen i (run pre).log).getLast? = some (.busy q)
  | _ => True

def Outcome.succeeded : Outcome α → Bool
  | .answered (.ok _) => true
  | .tried (.ok _) => true
  | .copied s => s.co2.isSome && s.dust.isSome && s.pressure.isSome
  | _ => false

/-- No lock was ever found held and no time was ever up, and every call that has returned has
done what it was to do. -/
structure Undisturbed (w : World α) : Prop where
  ran {e : Entry} : e ∈ w.log → ∃ i q s t, e = .saw i (.ran q s t)
  succeeds {i : Nat} {c : Call α} {o : Outcome α} :
    w.calls[i]? = some ⟨c, .done o⟩ → o.succeeded = true

/-- Where no lock was taken from outside none is held. -/
theorem holds_eq_false {log : List Entry} (h : ∀ e ∈ log, ∃ i v, e = .saw i v) (q : Quantity) :
    holds log q = false := by
  induction log using List.reverseRecOn with
  | nil => rfl
  | append_singleton log e ih =>
    obtain ⟨i, v, rfl⟩ := h e (by simp)
    rw [holds_saw]
    exact ih fun e he => h e (List.mem_append_left _ he)

/-- A wait that did not find the lock held or its time up was over with one use. -/
theorem Settles.isSome {β : Type} {q : Quantity} {f : SlotState q.Value → β × SlotState q.Value}
    {ss : List Sight} {b : Option β} (h : Settles q f ss b)
    (hran : ∀ v ∈ ss, ∃ q s t, v = .ran q s t) : b.isSome = true := by
  cases h with
  | ran n s => rfl
  | late n =>
    obtain ⟨q', s, t, hv⟩ := hran (.late q) (by simp)
    exact absurd hv nofun

theorem Earned.succeeded {c : Call α} {ss : List Sight} {o : Outcome α} (h : Earned c ss o)
    (hran : ∀ v ∈ ss, ∃ q s t, v = .ran q s t) : o.succeeded = true := by
  cases h with
  | ok h => rfl
  | timeout h => exact h.isSome hran
  | retried _ _ _ => rfl
  | exhausted hfailed _ hlen _ =>
    -- At least one wait was in vain, and its time was up.
    obtain ⟨ss, hss⟩ := List.exists_mem_of_length_pos (by rw [hlen]; exact Nat.succ_pos _)
    have hvain := (hfailed ss hss).isSome fun v hv => hran v (List.mem_flatten_of_mem hss hv)
    exact absurd hvain nofun
  | copied h₁ h₂ h₃ =>
    simp only [Outcome.succeeded, Bool.and_eq_true]
    refine ⟨⟨h₁.isSome fun v hv => hran v ?_, h₂.isSome fun v hv => hran v ?_⟩,
      h₃.isSome fun v hv => hran v ?_⟩
    all_goals simp [hv]

theorem ran_of_calm (moves : List (Move α)) (h : Always Calm moves) :
    ∀ e ∈ (run moves).log, ∃ i q s t, e = .saw i (.ran q s t) := by
  induction moves using List.reverseRecOn with
  | nil => exact fun e he => absurd he List.not_mem_nil
  | append_singleton moves m ih =>
    have hlog := ih h.of_append
    have hatomic := atomic_run moves
    have hfree (q : Quantity) : (run moves).store.held q = false := by
      rw [hatomic.held]
      refine holds_eq_false (fun e he => ?_) q
      obtain ⟨i, q, s, t, rfl⟩ := hlog e he
      exact ⟨i, _, rfl⟩
    have hrun : run (moves ++ [m]) = (run moves).move m := by rw [run, List.foldl_append]; rfl
    rw [hrun]
    cases m with
    | call c => exact hlog
    | look i =>
      change ∀ e ∈ ((run moves).look i).log, _
      rcases hi : (run moves).calls[i]? with _ | ⟨c, p | o⟩
      · rwa [World.look, hi]
      · rw [look_of_free hi (hfree _)]
        intro e he
        rcases List.mem_append.1 he with hold | hnew
        · exact hlog e hold
        · exact ⟨_, _, _, _, List.mem_singleton.1 hnew⟩
      · rwa [World.look, hi]
    | lapse i =>
      -- The lock was found held, which it never was.
      obtain ⟨q, hq⟩ := h.last
      have hbusy := (mem_seen _ _).1 (List.mem_of_getLast? hq)
      obtain ⟨j, r, s, t, heq⟩ := hlog _ hbusy
      cases (Entry.saw.inj heq).2
    | take q => exact absurd h.last id
    | give q =>
      change ∀ e ∈ ((run moves).give q).log, _
      rw [World.give, if_neg (by rw [← hatomic.held, hfree q]; exact Bool.false_ne_true)]
      exact hlog

theorem undisturbed_of_calm (moves : List (Move α)) (h : Always Calm moves) :
    Undisturbed (run moves) where
  ran he := ran_of_calm moves h _ he
  succeeds hi := by
    have hearned := (atomic_run moves).stands hi
    refine hearned.succeeded fun v hv => ?_
    obtain ⟨j, q, s, t, heq⟩ := ran_of_calm moves h _ ((mem_seen _ _).1 hv)
    exact ⟨q, s, t, (Entry.saw.inj heq).2⟩

/-- Both clocks try a lock before they give up on it, so a free one is granted. The scripted
clock may grant no wait at all. -/
structure TryFirst : Prop where
  timed {q : Quantity} {st : Store} : st.held q = false →
    ∀ (now : Millis) (w : Timed.Wait) (limit : Millis) (js : Array Notice),
      (Timed.within now w limit (Store.tryLock q) st js).1 =
        (.over (.ready ()), (Store.part q).put ⟨true, st.contents q⟩ st)
  scripted {q : Quantity} {st : Store} : st.held q = false →
    ∀ (E : Type) (clock : Rig.Clock E) (happen : E → Act (Rig.Clock E × Store) Unit)
      (limit : Millis) (again : Act (Rig.Clock E × Store) (Option Unit)) (js : Array Notice),
      (Rig.Clock.timeout .fst happen limit ((Store.tryLock q).on .snd) again (clock, st) js).1.1 ∈
        [none, some (.ready ())]

theorem tryFirst : TryFirst where
  timed := by
    intro q st hfree now w limit js
    rw [Timed.within, Act.bind_apply, Store.tryLock_apply, hfree]
    rfl
  scripted := by
    intro q st hfree E clock happen limit again js
    rw [Rig.Clock.timeout, Act.bind_apply]
    rcases hgrant : clock.grant (.timeout limit) with _ | c
    · simp [Rig.Clock.ask, Part.fst, hgrant]
    · simp [Rig.Clock.ask, Part.fst, Part.snd, hgrant, Store.tryLock_apply, hfree]

/-- The uses of a slot are atomic and no store is lost. -/
theorem run_atomic (moves : List (Move α)) :
    Atomic (run moves) ∧
      (∀ writes, Stores (begun moves) writes → Kept writes (run moves)) ∧
      (Always Calm moves → Undisturbed (run moves)) ∧ TryFirst :=
  ⟨atomic_run moves, fun _ h => kept_run moves h, undisturbed_of_calm moves, tryFirst⟩

/-- A reading is to be stored while somebody outside has the lock. One wait is in vain, the next
is not; then all slots are copied. -/
def contended : List (Move Unit) :=
  [.call (.retrying .co2 100 1 (Slot.storing ⟨612⟩)), .take .co2, .look 0, .lapse 0,
    .call (.copies 50), .give .co2, .look 0, .look 1, .look 1, .look 1]

/-- Only the first call stores. -/
def contendedWrites : Writes
  | 0, .co2, _ => [⟨612⟩]
  | _, _, _ => []

theorem run_atomic_contended :
    Atomic (run contended) ∧ Kept contendedWrites (run contended) ∧
      Undisturbed (run [.call (.once .co2 100 (Slot.storing ⟨612⟩)), .look 0]) := by
  have hstores : Stores (begun contended) contendedWrites := by
    intro i c hc q s t hruns
    match i with
    | 0 =>
      cases hc
      cases hruns
      rfl
    | 1 =>
      cases hc
      cases hruns
      rfl
    | i + 2 => cases hc
  have hcalm : Always Calm
      [.call (.once .co2 100 (Slot.storing ⟨612⟩) : Call Unit), .look 0] :=
    (Always.nil.concat trivial).concat trivial
  exact ⟨(run_atomic contended).1, (run_atomic contended).2.1 contendedWrites hstores,
    (run_atomic _).2.2.1 hcalm⟩

end Telemetry

end AirStation
