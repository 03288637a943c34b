import AirStation.Publisher.Staleness
import Mathlib.Data.List.Chain
import Mathlib.Data.List.Infix

/-! A slot that is watched. The watch counts only so far as a threshold can reach, so of the
observations so far it knows just how long a run of equal ones they end with, up to that
bound. That decides whether the slot is stale, and a report is due when that has changed. -/

namespace AirStation.Staleness

/-! ### Runs of equal observations -/

/-- The observations end with a run of one more than the threshold. A threshold of zero is
never reached. -/
def Stale (threshold : UInt8) (revisions : List UInt32) : Prop :=
  0 < threshold ∧ ∃ r, List.replicate (threshold.toNat + 1) r <:+ revisions

theorem replicate_suffix_concat_iff {α : Type} (n : Nat) (x y : α) (l : List α) :
    List.replicate (n + 1) x <:+ l ++ [y] ↔ x = y ∧ List.replicate n x <:+ l := by
  rw [List.replicate_succ', List.suffix_concat_iff]
  constructor
  · rintro (h | ⟨t, h, ht⟩)
    · simp at h
    · obtain ⟨rfl, rfl⟩ : List.replicate n x = t ∧ x = y := by simpa using h
      exact ⟨rfl, ht⟩
  · rintro ⟨rfl, h⟩
    exact .inr ⟨_, rfl, h⟩

/-- Such a run is one of the last observation. -/
theorem stale_iff (threshold : UInt8) (revisions : List UInt32) :
    Stale threshold revisions ↔ 0 < threshold ∧
      ∃ r ∈ revisions.getLast?, List.replicate (threshold.toNat + 1) r <:+ revisions := by
  refine and_congr_right fun _ => ⟨?_, fun ⟨r, _, h⟩ => ⟨r, h⟩⟩
  rintro ⟨r, h⟩
  refine ⟨r, ?_, h⟩
  obtain ⟨before, rfl⟩ := h
  simp [List.replicate_succ']

instance (threshold : UInt8) (revisions : List UInt32) : Decidable (Stale threshold revisions) :=
  decidable_of_iff _ (stale_iff threshold revisions).symm

/-- The watch as the observations so far have left it. -/
structure Tracks (threshold : UInt8) (revisions : List UInt32) (w : Staleness) : Prop where
  runs : ∀ n ≤ 255, ∀ r, List.replicate (n + 1) r <:+ revisions ↔
    w.last = some r ∧ n ≤ w.unchanged.toNat
  reported : w.reported = decide (Stale threshold revisions)

theorem tracks_fresh (threshold : UInt8) : Tracks threshold [] {} := by
  constructor
  · simp
  · simp [Stale]

/-- One more than before, unless the bound is reached. -/
theorem le_count_iff (w : Staleness) (r : UInt32) {n : Nat} (hn : n < 255) :
    n + 1 ≤ (w.count r).toNat ↔ w.last = some r ∧ n ≤ w.unchanged.toNat := by
  unfold count
  by_cases hlast : w.last = some r
  · by_cases hfull : w.unchanged = 255
    · simp only [hlast, hfull, ↓reduceIte, true_and, UInt8.reduceToNat]
      omega
    · have hroom : w.unchanged.toNat < 255 := by
        have hlt := w.unchanged.toNat_lt
        have hne : w.unchanged.toNat ≠ 255 := fun h => hfull (UInt8.toNat_inj.1 h)
        omega
      simp only [hlast, hfull, ↓reduceIte, true_and, UInt8.toNat_add, UInt8.reduceToNat]
      omega
  · simp [hlast]

theorem tracks_observe {threshold : UInt8} {revisions : List UInt32} {w : Staleness}
    (h : Tracks threshold revisions w) (r : UInt32) :
    Tracks threshold (revisions ++ [r]) (w.observe r threshold).2 := by
  have hruns : ∀ n ≤ 255, ∀ x, List.replicate (n + 1) x <:+ revisions ++ [r] ↔
      some r = some x ∧ n ≤ (w.count r).toNat := by
    intro n hn x
    rw [replicate_suffix_concat_iff, Option.some.injEq, eq_comm]
    refine and_congr_right ?_
    rintro rfl
    cases n with
    | zero => simp
    | succ n => rw [h.runs n (by omega), le_count_iff w r (by omega)]
  refine ⟨hruns, ?_⟩
  have hreached : threshold ≤ w.count r ↔
      ∃ x, List.replicate (threshold.toNat + 1) x <:+ revisions ++ [r] := by
    simp only [hruns threshold.toNat (Nat.le_of_lt_succ threshold.toNat_lt), UInt8.le_iff_toNat_le]
    exact ⟨fun h => ⟨r, rfl, h⟩, fun ⟨_, _, h⟩ => h⟩
  change (0 < threshold && threshold ≤ w.count r : Bool) = _
  rw [← Bool.decide_and]
  exact decide_eq_decide.2 (and_congr_right fun _ => hreached)

/-! ### Reports -/

/-- What is due when an observation makes this of that. -/
def change : Bool → Bool → Option Report
  | false, true => some .stale
  | true, false => some .resumed
  | _, _ => none

theorem observe_report {threshold : UInt8} {revisions : List UInt32} {w : Staleness}
    (h : Tracks threshold revisions w) (r : UInt32) :
    (w.observe r threshold).1 = change (decide (Stale threshold revisions))
      (decide (Stale threshold (revisions ++ [r]))) := by
  rw [← h.reported, ← (tracks_observe h r).reported]
  simp only [observe]
  generalize (_ && _ : Bool) = stale
  cases stale <;> cases w.reported <;> rfl

/-- What is due over all observations. -/
def reports (threshold : UInt8) (revisions : List UInt32) : List Report :=
  (List.range revisions.length).filterMap fun n =>
    change (decide (Stale threshold (revisions.take n)))
      (decide (Stale threshold (revisions.take (n + 1))))

theorem reports_concat (threshold : UInt8) (revisions : List UInt32) (r : UInt32) :
    reports threshold (revisions ++ [r]) = reports threshold revisions ++
      (change (decide (Stale threshold revisions))
        (decide (Stale threshold (revisions ++ [r])))).toList := by
  have hearlier : ∀ n ∈ List.range revisions.length,
      change (decide (Stale threshold ((revisions ++ [r]).take n)))
        (decide (Stale threshold ((revisions ++ [r]).take (n + 1)))) =
      change (decide (Stale threshold (revisions.take n)))
        (decide (Stale threshold (revisions.take (n + 1)))) := by
    intro n hn
    have hlt := List.mem_range.1 hn
    rw [List.take_append_of_le_length (by omega), List.take_append_of_le_length (by omega)]
  have hbefore : (revisions ++ [r]).take revisions.length = revisions := List.take_left
  have hafter : (revisions ++ [r]).take (revisions.length + 1) = revisions ++ [r] :=
    List.take_of_length_le (by simp)
  unfold reports
  rw [List.length_append, List.length_singleton, List.range_succ, List.filterMap_append,
    List.filterMap_congr hearlier, List.filterMap_cons, hbefore, hafter]
  rfl

/-- A cycle may bring no observation. -/
theorem reports_next (threshold : UInt8) (revisions : List UInt32) (o : Option UInt32) :
    reports threshold (revisions ++ o.toList) = reports threshold revisions ++
      (change (decide (Stale threshold revisions))
        (decide (Stale threshold (revisions ++ o.toList)))).toList := by
  cases o with
  | none =>
    rw [Option.toList_none, List.append_nil]
    cases decide (Stale threshold revisions) <;> exact (List.append_nil _).symm
  | some r => exact reports_concat threshold revisions r

theorem reports_zero (revisions : List UInt32) : reports 0 revisions = [] := by
  have hfresh (seen : List UInt32) : ¬ Stale 0 seen := fun h => absurd h.1 (by decide)
  simp [reports, hfresh, change]

theorem reports_alternate (threshold : UInt8) (revisions : List UInt32) :
    (.resumed :: reports threshold revisions).IsChain (· ≠ ·) := by
  -- the last report tells whether the slot is stale
  have hlast : (.resumed :: reports threshold revisions).IsChain (· ≠ ·) ∧
      (.resumed :: reports threshold revisions).getLast? =
        some (if Stale threshold revisions then .stale else .resumed) := by
    induction revisions using List.reverseRecOn with
    | nil => simp [reports, Stale]
    | append_singleton revisions r ih =>
      obtain ⟨hchain, hlast⟩ := ih
      rw [reports_concat, ← List.cons_append]
      generalize Report.resumed :: reports threshold revisions = told at hchain hlast ⊢
      by_cases hbefore : Stale threshold revisions <;>
        by_cases hafter : Stale threshold (revisions ++ [r]) <;>
        simp_all [change, List.isChain_append]
  exact hlast.1

end AirStation.Staleness
