/-! Bounded failure counting. One budget covers one operation: the reading of one
frame, the taking of one lock, one sequence of reconnects. The counter is a byte
and stays at 255 once it is there. -/

namespace AirStation

structure RetryBudget where
  failures : UInt8
  max : UInt8
  deriving DecidableEq

/-- The budget ran out at this many failures. -/
structure Exhausted where
  failures : UInt8
  deriving DecidableEq

namespace RetryBudget

def ofMax (max : UInt8) : RetryBudget := ⟨0, max⟩

/-- One more, up to 255. -/
def succ (n : UInt8) : UInt8 :=
  if n = 255 then 255 else n + 1

theorem toNat_lt_of_ne {n : UInt8} (h : n ≠ 255) : n.toNat < 255 := by
  have hne : n.toNat ≠ 255 := fun h' => h (UInt8.toNat_inj.1 h')
  have hlt := UInt8.toNat_lt n
  omega

theorem toNat_succ (n : UInt8) : (succ n).toNat = min (n.toNat + 1) 255 := by
  unfold succ
  split
  · next h => rw [h]; rfl
  · next h =>
    have hlt := toNat_lt_of_ne h
    rw [UInt8.toNat_add, UInt8.toNat_one, Nat.mod_eq_of_lt (by omega)]
    omega

def consume (b : RetryBudget) : RetryBudget :=
  { b with failures := succ b.failures }

def reset (b : RetryBudget) : RetryBudget :=
  { b with failures := 0 }

/-- Counts a failed attempt and tells whether the count has passed the maximum. -/
def recordFailure (b : RetryBudget) : Except Exhausted Unit × RetryBudget :=
  let counted := b.consume
  (if counted.max < counted.failures then .error ⟨counted.failures⟩ else .ok (), counted)

/-- A failed attempt is tolerated as long as the count does not pass the maximum. -/
theorem recordFailure_cases (b : RetryBudget) :
    (b.recordFailure = (.ok (), b.consume) ∧ (succ b.failures).toNat ≤ b.max.toNat) ∨
      (b.recordFailure = (.error ⟨succ b.failures⟩, b.consume) ∧
        b.max.toNat < (succ b.failures).toNat) := by
  by_cases h : b.max < succ b.failures
  · exact .inr ⟨by simp [recordFailure, consume, h], UInt8.lt_iff_toNat_lt.1 h⟩
  · exact .inl ⟨by simp [recordFailure, consume, h], UInt8.le_iff_toNat_le.1 (UInt8.not_lt.1 h)⟩

/-- Takes one retry if any is left. -/
def tryConsume (b : RetryBudget) : Bool × RetryBudget :=
  if b.failures < b.max then (true, b.consume) else (false, b)

end RetryBudget

end AirStation
