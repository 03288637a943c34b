import AirStation.Proofs.Activity
import AirStation.Proofs.Serial.FrameRead
import AirStation.Telemetry.Slot
import Mathlib.Algebra.Group.Nat.Defs

/-! How often the two loops that count failures try. A frame is read by as many reads as it
has bytes and the budget tolerates failures; a lock is asked for once more than the budget
tolerates. Both end once the counter passes the maximum. It stops at 255, so a budget of 255
never runs out, and a loop under it goes on for as long as every attempt fails. -/

namespace AirStation

/-- One failure more still fits the counter. -/
def RetryBudget.CountsOn (b : RetryBudget) : Prop := b.failures.toNat + 1 < 2 ^ 8

/-- A budget under way, which has tolerated every failure so far. -/
def RetryBudget.Tolerates (max : UInt8) (b : RetryBudget) : Prop :=
  b.max = max ∧ b.failures.toNat ≤ max.toNat

theorem RetryBudget.tolerates_ofMax (max : UInt8) : Tolerates max (ofMax max) :=
  ⟨rfl, Nat.zero_le _⟩

theorem RetryBudget.Tolerates.countsOn {max : UInt8} {b : RetryBudget} (h : Tolerates max b)
    (hmax : max ≠ 255) : b.CountsOn := by
  have hlt := toNat_lt_of_ne hmax
  have hle := h.2
  unfold CountsOn
  omega

/-- No counter passes the greatest maximum. -/
theorem RetryBudget.not_max_lt (failures : UInt8) : ¬ (255 : UInt8).toNat < failures.toNat :=
  Nat.not_lt.2 (Nat.le_of_lt_succ (UInt8.toNat_lt failures))

/-- Where the counter has room for one failure more, it counts it. -/
theorem RetryBudget.CountsOn.toNat_succ {b : RetryBudget} (h : b.CountsOn) :
    (succ b.failures).toNat = b.failures.toNat + 1 := by
  rw [RetryBudget.toNat_succ]
  unfold CountsOn at h
  omega

/-! ### The reading of a frame -/

namespace FrameRead

variable {σ : Type} {n : Nat} {limit : Millis} {max : UInt8}

/-- The reading of a frame of `n` bytes under a budget. -/
abbrev reading (σ : Type) (n : Nat) (limit : Millis) (max : UInt8) :
    Activity SensorDemand.Reply σ (Result n) :=
  activity n ⟨limit, max⟩

/-- What brings something takes up room, as long as there is some. -/
theorem room_append_lt {r : FrameRead n} (hi : r.frame.isComplete = false) {bs : Bytes}
    (hne : bs ≠ []) : (r.frame.append bs).room < r.frame.room := by
  have hfits := r.frame.fits
  have hlen := List.length_pos_iff.2 hne
  have hopen : r.frame.received.length ≠ n := by simpa [Frame.isComplete, Frame.filled] using hi
  simp only [Frame.room, Frame.filled, Frame.received_append, List.length_append,
    List.length_take]
  omega

/-- From where some room is left and some failures are tolerated, it takes at most as many
reads as both together. -/
theorem endsWithin_proceed (hmax : max ≠ 255) (k : Nat) (r : FrameRead n)
    (hb : RetryBudget.Tolerates max r.budget)
    (hk : r.frame.room + (max.toNat - r.budget.failures.toNat) ≤ k) :
    (reading σ n limit max).EndsWithin k r.proceed := by
  induction k generalizing r with
  | zero =>
    have hfits := r.frame.fits
    have hfull : r.frame.isComplete = true := by
      simp only [Frame.isComplete, Frame.filled, beq_iff_eq]
      simp only [Frame.room, Frame.filled] at hk
      omega
    rw [proceed, if_pos hfull]
    exact .done _ _
  | succ k ih =>
    unfold proceed
    split
    · exact .done _ _
    next hi =>
      refine .resume fun reply s js => ?_
      rcases r.resume_cases reply s js with ⟨-, -, hres⟩ | ⟨bs, hne, -, hres⟩
      · change (reading σ n limit max).EndsWithin k (r.resume reply s js).1.1
        rw [hres]
        have hsucc := (hb.countsOn hmax).toNat_succ
        rcases r.fail_cases with ⟨hfail, hle⟩ | ⟨hfail, -⟩
        · rw [hfail]
          rw [hb.1, hsucc] at hle
          refine ih _ ⟨hb.1, hsucc ▸ hle⟩ ?_
          simp only [RetryBudget.consume, hsucc]
          omega
        · rw [hfail]
          exact .done _ _
      · change (reading σ n limit max).EndsWithin k (r.resume reply s js).1.1
        rw [hres]
        have hroom := room_append_lt (Bool.eq_false_iff.2 hi) hne
        exact ih _ hb (by simp only; omega)

/-- All failures so far were tolerated, if the reading is still under way. -/
def Tolerated (max : UInt8) : Progress (FrameRead n) (Result n) → Prop
  | .paused r => RetryBudget.Tolerates max r.budget
  | .done _ => True

theorem tolerated_proceed {r : FrameRead n} (h : RetryBudget.Tolerates max r.budget) :
    Tolerated max r.proceed := by
  unfold proceed
  split
  · trivial
  · exact h

theorem tolerated_resume {r : FrameRead n} (h : RetryBudget.Tolerates max r.budget)
    (reply : Timed (Except PortFault Bytes)) (s : σ) (js : Array Notice) :
    Tolerated max (r.resume reply s js).1.1 := by
  rcases r.resume_cases reply s js with ⟨-, -, hres⟩ | ⟨bs, -, -, hres⟩
  · rw [hres]
    rcases r.fail_cases with ⟨hfail, hle⟩ | ⟨hfail, -⟩
    · rw [hfail]
      exact tolerated_proceed ⟨h.1, h.1 ▸ hle⟩
    · rw [hfail]
      trivial
  · rw [hres]
    exact tolerated_proceed h

theorem tolerates_of_reaches {r : FrameRead n} (h : (reading σ n limit max).Reaches (.paused r)) :
    RetryBudget.Tolerates max r.budget :=
  h.preserves (P := Tolerated max)
    (fun _ _ => tolerated_proceed (RetryBudget.tolerates_ofMax max))
    (fun _ reply s js hp => tolerated_resume hp reply s js)

/-- Under the greatest budget a silent line keeps a reading going for ever. -/
theorem not_endsWithin_start (s : σ) (js : Array Notice) (k : Nat) :
    ¬ (reading σ (n + 1) limit 255).EndsWithin k
      ((reading σ (n + 1) limit 255).start s js).1.1 := by
  refine Activity.not_endsWithin (A := reading σ (n + 1) limit 255)
    (P := fun r => r.frame.isComplete = false ∧ r.budget.max = 255) ?_ ⟨rfl, rfl⟩ k
  rintro (r : FrameRead (n + 1)) ⟨hi, hmax⟩
  refine ⟨.expired, s, js, { r with budget := r.budget.consume }, ?_, hi, hmax⟩
  rcases r.fail_cases with ⟨hfail, -⟩ | ⟨-, hlt⟩
  · change r.fail = .paused { r with budget := r.budget.consume }
    rw [hfail, proceed, if_neg (by simp [hi])]
  · rw [hmax] at hlt
    exact absurd hlt (RetryBudget.not_max_lt _)

end FrameRead

/-! ### The taking of a lock -/

namespace Slot

variable {ρ α : Type} {limit : Millis} {f : SlotState ρ → α × SlotState ρ} {max : UInt8}

/-- A lock that is not to be had costs one failure. -/
theorem resume_expired (b : RetryBudget) (s : Slot ρ) (js : Array Notice) :
    (((withLockRetrying limit max f).resume b (.expired : Timed Unit) s js).1.1 =
        .paused b.consume ∧ (RetryBudget.succ b.failures).toNat ≤ b.max.toNat) ∨
      (((withLockRetrying limit max f).resume b (.expired : Timed Unit) s js).1.1 =
        .done (.error ⟨RetryBudget.succ b.failures⟩) ∧
          b.max.toNat < (RetryBudget.succ b.failures).toNat) := by
  rcases b.recordFailure_cases with ⟨hrec, hle⟩ | ⟨hrec, hlt⟩
  · exact .inl ⟨by simp [withLockRetrying, hrec], hle⟩
  · exact .inr ⟨by simp [withLockRetrying, hrec], hlt⟩

/-- From where some failures are tolerated, it takes one attempt more than these. -/
theorem endsWithin_paused (hmax : max ≠ 255) (k : Nat) (b : RetryBudget)
    (hb : RetryBudget.Tolerates max b) (hk : max.toNat - b.failures.toNat < k) :
    (withLockRetrying limit max f).EndsWithin k (.paused b) := by
  induction k generalizing b with
  | zero => omega
  | succ k ih =>
    refine .resume fun reply s js => ?_
    cases reply with
    | ready u => exact .done _ _
    | expired =>
      rcases resume_expired b s js with ⟨hres, hle⟩ | ⟨hres, -⟩
      · have hsucc := (hb.countsOn hmax).toNat_succ
        rw [hres]
        rw [hb.1, hsucc] at hle
        refine ih _ ⟨hb.1, hsucc ▸ hle⟩ ?_
        simp only [RetryBudget.consume, hsucc]
        omega
      · rw [hres]
        exact .done _ _

/-- All failures so far were tolerated, if the taking is still under way. -/
def Tolerated (max : UInt8) : Progress RetryBudget (Except LockExhausted α) → Prop
  | .paused b => RetryBudget.Tolerates max b
  | .done _ => True

theorem tolerates_of_reaches {b : RetryBudget}
    (h : (withLockRetrying limit max f).Reaches (.paused b)) : RetryBudget.Tolerates max b := by
  refine h.preserves (P := Tolerated max) (fun _ _ => RetryBudget.tolerates_ofMax max) ?_
  intro b reply s js hb
  cases reply with
  | ready u => trivial
  | expired =>
    rcases resume_expired b s js with ⟨hres, hle⟩ | ⟨hres, -⟩
    · rw [hres]
      exact ⟨hb.1, hb.1 ▸ hle⟩
    · rw [hres]
      trivial

/-- Under the greatest budget a lock that is never to be had is asked for for ever. -/
theorem not_endsWithin_start (s : Slot ρ) (js : Array Notice) (k : Nat) :
    ¬ (withLockRetrying limit 255 f).EndsWithin k
      ((withLockRetrying limit 255 f).start s js).1.1 := by
  refine Activity.not_endsWithin (A := withLockRetrying limit 255 f)
    (P := fun b => b.max = 255) ?_ rfl k
  intro b hmax
  refine ⟨(.expired : Timed Unit), s, js, b.consume, ?_, hmax⟩
  rcases resume_expired b s js with ⟨hres, -⟩ | ⟨-, hlt⟩
  · exact hres
  · rw [hmax] at hlt
    exact absurd hlt (RetryBudget.not_max_lt _)

end Slot

/-! ### What a budget is worth -/

namespace RetryBudget

/-- A budget bounds both loops: a frame of `n` bytes is read or given up after at most
`n + max + 1` reads, a lock is taken or given up after at most `max + 1` attempts, and before
each of them the counter has room for one failure more. -/
structure Bounds (max : UInt8) : Prop where
  reads (σ : Type) (n : Nat) (limit : Millis) (s : σ) (js : Array Notice) :
    (FrameRead.reading σ n limit max).EndsWithin (n + max.toNat + 1)
      ((FrameRead.reading σ n limit max).start s js).1.1
  readsCounted (σ : Type) (n : Nat) (limit : Millis) (r : FrameRead n) :
    (FrameRead.reading σ n limit max).Reaches (.paused r) → r.budget.CountsOn
  locks (ρ α : Type) (limit : Millis) (f : SlotState ρ → α × SlotState ρ) (s : Slot ρ)
    (js : Array Notice) :
    (Slot.withLockRetrying limit max f).EndsWithin (max.toNat + 1)
      ((Slot.withLockRetrying limit max f).start s js).1.1
  locksCounted (ρ α : Type) (limit : Millis) (f : SlotState ρ → α × SlotState ρ)
    (b : RetryBudget) :
    (Slot.withLockRetrying limit max f).Reaches (.paused b) → b.CountsOn

/-- A budget bounds neither loop: no number of attempts is enough for every reply. -/
structure Endless (max : UInt8) : Prop where
  reads (σ : Type) (n : Nat) (limit : Millis) (s : σ) (js : Array Notice) (k : Nat) :
    ¬ (FrameRead.reading σ (n + 1) limit max).EndsWithin k
      ((FrameRead.reading σ (n + 1) limit max).start s js).1.1
  locks (ρ α : Type) (limit : Millis) (f : SlotState ρ → α × SlotState ρ) (s : Slot ρ)
    (js : Array Notice) (k : Nat) :
    ¬ (Slot.withLockRetrying limit max f).EndsWithin k
      ((Slot.withLockRetrying limit max f).start s js).1.1

theorem bounds_of_ne {max : UInt8} (hmax : max ≠ 255) : Bounds max where
  reads σ n limit s js := by
    have hroom : (Frame.empty : Frame n).room = n := rfl
    have hstart : (FrameRead.reading σ n limit max).EndsWithin (n + max.toNat)
        (FrameRead.proceed ⟨.empty, ofMax max⟩) :=
      FrameRead.endsWithin_proceed hmax _ _ (tolerates_ofMax max) (by rw [hroom]; omega)
    exact hstart.mono (Nat.le_succ _)
  readsCounted σ n limit r h := (FrameRead.tolerates_of_reaches h).countsOn hmax
  locks ρ α limit f s js :=
    Slot.endsWithin_paused hmax _ _ (tolerates_ofMax max) (Nat.lt_succ_of_le (Nat.sub_le _ _))
  locksCounted ρ α limit f b h := (Slot.tolerates_of_reaches h).countsOn hmax

theorem endless_max : Endless 255 where
  reads _ _ _ s js k := FrameRead.not_endsWithin_start s js k
  locks _ _ _ _ s js k := Slot.not_endsWithin_start s js k

theorem Endless.not_bounds {max : UInt8} (h : Endless max) : ¬ Bounds max :=
  fun hb => h.reads Unit 0 0 () #[] _ (hb.reads Unit 1 0 () #[])

/-- Every budget bounds both loops but the greatest one, which bounds neither. -/
theorem bounds_iff_ne_max (max : UInt8) :
    (Bounds max ↔ max ≠ 255) ∧ (Endless max ↔ max = 255) := by
  have hbounds : Bounds max ↔ max ≠ 255 := by
    constructor
    · rintro h rfl
      exact endless_max.not_bounds h
    · exact bounds_of_ne
  refine ⟨hbounds, ?_⟩
  constructor
  · intro h
    by_cases hmax : max = 255
    · exact hmax
    · exact absurd (hbounds.2 hmax) h.not_bounds
  · rintro rfl
    exact endless_max

/-- So not every budget bounds the loops it is given to. -/
theorem not_forall_bounds : ¬ ∀ max : UInt8, Bounds max :=
  fun h => endless_max.not_bounds (h 255)

end RetryBudget

end AirStation
