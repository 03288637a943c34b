import AirStation.Proofs.Telemetry.Updates

/-! The mark of an updated slot. As a field of its own it is set by every store and never
cleared, so in every slot that holders of the lock get to it says just whether there is a value.
That makes it something to be read off the value: no holder can tell whether the mark is kept or
read off, whatever it does with the slot, and whatever calls are under way. -/

namespace AirStation

variable {ρ α : Type}

/-! ### Holders of the lock -/

/-- What the holder of a slot's lock does: it stores readings and looks at what is there, and
what it does next may depend on what it has seen. -/
inductive SlotUse (ρ α : Type) where
  | done (a : α)
  | store (r : ρ) (next : SlotUse ρ α)
  | look (next : Option ρ → SlotSnapshot ρ → SlotUse ρ α)

namespace SlotUse

variable [Zero ρ]

def onState : SlotUse ρ α → SlotState ρ → α × SlotState ρ
  | .done a, s => (a, s)
  | .store r next, s => next.onState (s.store r)
  | .look next, s => (next s.value s.snapshot).onState s

def onFields : SlotUse ρ α → SlotFields ρ → α × SlotFields ρ
  | .done a, s => (a, s)
  | .store r next, s => next.onFields (s.store r)
  | .look next, s => (next s.value s.snapshot).onFields s

theorem snapshot_fields (s : SlotState ρ) : s.fields.snapshot = s.snapshot := by
  rcases s with ⟨_ | r, revision⟩ <;> rfl

/-- Where the mark agrees with the value, a use comes to the same whether the mark is kept or
read off, and leaves the two in agreement. -/
theorem onFields_fields (u : SlotUse ρ α) (s : SlotState ρ) :
    u.onFields s.fields = ((u.onState s).1, (u.onState s).2.fields) := by
  induction u generalizing s with
  | done a => rfl
  | store r next ih => exact ih (s.store r)
  | look next ih =>
    rw [onFields, onState, snapshot_fields]
    exact ih s.value s.snapshot s

end SlotUse

namespace SlotFields

variable [Zero ρ]

/-- Fields that a fresh slot gets to as one holder of its lock after another uses it. -/
inductive Reached : SlotFields ρ → Prop where
  | empty : Reached .empty
  | use {s : SlotFields ρ} {α : Type} (u : SlotUse ρ α) : Reached s → Reached (u.onFields s).2

/-- The fields that are reached are those of contents without a mark. -/
theorem Reached.exists_state {s : SlotFields ρ} (h : Reached s) :
    ∃ t : SlotState ρ, t.fields = s := by
  induction h with
  | empty => exact ⟨.empty, rfl⟩
  | use u _ ih =>
    obtain ⟨t, rfl⟩ := ih
    exact ⟨(u.onState t).2, by rw [u.onFields_fields]⟩

/-- In every slot that is reached the mark tells whether there is a value. -/
theorem Reached.updated_eq {s : SlotFields ρ} (h : Reached s) : s.updated = s.value.isSome := by
  obtain ⟨t, rfl⟩ := h.exists_state
  rfl

end SlotFields

/-! ### The slots of a store -/

namespace Telemetry

/-- Whoever makes the call uses slots as holders of a lock do. -/
inductive Call.Uses : Call α → Prop where
  | once {q : Quantity} (limit : Millis) (u : SlotUse q.Value α) : Uses (.once q limit u.onState)
  | retrying {q : Quantity} (limit : Millis) (retries : UInt8) (u : SlotUse q.Value α) :
      Uses (.retrying q limit retries u.onState)
  | copies (limit : Millis) : Uses (.copies limit)

/-- The store of a reading is such a call. -/
theorem uses_storing (q : Quantity) (limit : Millis) (retries : UInt8) (r : q.Value) :
    (Call.retrying q limit retries (Slot.storing r)).Uses :=
  .retrying limit retries (.store r (.done ()))

variable {c : Call α} {q : Quantity} {s t : SlotState q.Value} {log : List Entry}

theorem Call.Uses.reached (hc : c.Uses) (h : c.Runs q s t) (hs : s.fields.Reached) :
    t.fields.Reached := by
  have huse {α : Type} (u : SlotUse q.Value α) : (u.onState s).2.fields.Reached := by
    have hnext := hs.use u
    rwa [u.onFields_fields] at hnext
  cases hc with
  | once limit u =>
    cases h
    exact huse u
  | retrying limit retries u =>
    cases h
    exact huse u
  | copies limit =>
    cases h
    exact hs

theorem left_reached (hfound : Always Found log)
    (hruns : ∀ i q s t, .saw i (.ran q s t) ∈ log → s.fields.Reached → t.fields.Reached) :
    ∀ q, (left log q).fields.Reached := by
  induction log using List.reverseRecOn with
  | nil => exact fun _ => .empty
  | append_singleton log e ih =>
    have hlog := ih hfound.of_append fun i q s t h => hruns i q s t (List.mem_append_left _ h)
    rcases e with q | q | ⟨i, q | q | ⟨q, s, t⟩⟩
    · rwa [left_took]
    · rwa [left_gave]
    · rwa [left_busy]
    · rwa [left_late]
    · have hs : s.fields.Reached := by
        rw [hfound.last.2]
        exact hlog q
      intro r
      rw [left_ran]
      by_cases h : r = q
      · subst h
        rw [Function.update_self]
        exact hruns i r s t (by simp) hs
      · rw [Function.update_of_ne h]
        exact hlog r

/-- Whatever calls are under way, every slot they get to is one in which the mark tells whether
there is a value. -/
theorem reached_run (moves : List (Move α)) (h : ∀ c ∈ begun moves, c.Uses) (q : Quantity) :
    ((run moves).store.contents q).fields.Reached := by
  have hatomic := atomic_run moves
  rw [hatomic.contents]
  refine left_reached hatomic.found (fun i q s t hmem hs => ?_) q
  obtain ⟨x, hx, hruns⟩ := hatomic.does hmem
  have hbegun : x.call ∈ begun moves := by
    rw [← calls_run]
    exact List.mem_map_of_mem (List.mem_of_getElem? hx)
  exact (h _ hbegun).reached hruns hs

end Telemetry

end AirStation
