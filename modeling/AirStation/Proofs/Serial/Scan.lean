import Mathlib.Data.List.Induction
import AirStation.Proofs.Activity
import AirStation.Proofs.Serial.FrameRead

/-! The reading of a frame against a scan of what its reads find. The scan knows nothing of
a buffer or a counter: it goes through the outcomes of the reads until the bytes in them are
as many as the frame holds, or those that brought nothing are one more than the budget
tolerates. The reading asks for just these outcomes, each time for the room that is left,
and its frame is what they brought. What the frame held before plays no part. -/

namespace AirStation.FrameRead

open Serial.Line

/-! ### The scan -/

/-- What one read finds in its time. -/
abbrev Outcome := Timed (Except PortFault Bytes)

/-- The bytes of some reads, in order. -/
def gathered (os : List Outcome) : Bytes := Trace.delivered (os.map .read)

/-- How many reads brought nothing. -/
def misses (os : List Outcome) : Nat := Trace.emptyReads (os.map .read)

/-- The frame is full, or one read too many has brought nothing. -/
def IsOver (n : Nat) (retries : UInt8) (os : List Outcome) : Prop :=
  n ≤ (gathered os).length ∨ retries.toNat < misses os

instance (n : Nat) (retries : UInt8) (os : List Outcome) : Decidable (IsOver n retries os) :=
  inferInstanceAs (Decidable (_ ∨ _))

/-- As long as reading goes on, no read brings more than there is room for. -/
def Fits (n : Nat) (retries : UInt8) (os : List Outcome) : Prop :=
  ∀ i, ∀ h : i < os.length, ¬ IsOver n retries (os.take i) →
    (gathered (os.take i)).length + (Event.read os[i]).delivery.length ≤ n

instance (n : Nat) (retries : UInt8) (os : List Outcome) : Decidable (Fits n retries os) :=
  inferInstanceAs (Decidable (∀ i, ∀ _ : i < os.length, _))

/-- The limits and the rooms with which these reads were asked for. -/
def asks (n : Nat) (limit : Millis) (os : List Outcome) : List (Millis × Nat) :=
  (List.range os.length).map fun i => (limit, n - (gathered (os.take i)).length)

variable {n : Nat} {retries : UInt8} {limit : Millis} (os : List Outcome) (o : Outcome)

theorem gathered_concat : gathered (os ++ [o]) = gathered os ++ (Event.read o).delivery := by
  rw [gathered, List.map_append, List.map_singleton, Trace.delivered_concat, gathered]

theorem misses_concat :
    misses (os ++ [o]) = misses os + if (Event.read o).isEmptyRead then 1 else 0 := by
  rw [misses, List.map_append, List.map_singleton, Trace.emptyReads_concat, misses]

theorem asks_concat :
    asks n limit (os ++ [o]) = asks n limit os ++ [(limit, n - (gathered os).length)] := by
  rw [asks, List.length_append, List.length_singleton, List.range_succ, List.map_append,
    List.map_singleton, List.take_left]
  congr 1
  refine List.map_congr_left fun i hi => ?_
  rw [List.take_append_of_le_length (Nat.le_of_lt (List.mem_range.1 hi))]

/-- Each read counts for a byte at least, or as one that brought nothing. -/
theorem length_le_gathered_add_misses : os.length ≤ (gathered os).length + misses os := by
  induction os using List.reverseRecOn with
  | nil => exact Nat.zero_le _
  | append_singleton os o ih =>
    rw [gathered_concat, misses_concat, List.length_append, List.length_append,
      List.length_singleton]
    have hone : 1 ≤ (Event.read o).delivery.length +
        if (Event.read o).isEmptyRead then 1 else 0 := by
      rcases o with ((_ | _ | _) | _) <;> simp [Event.delivery, Event.isEmptyRead]
    omega

variable {os}

/-- A reading that is over stays over. -/
theorem IsOver.concat (h : IsOver n retries os) : IsOver n retries (os ++ [o]) := by
  rw [IsOver, gathered_concat, misses_concat, List.length_append]
  unfold IsOver at h
  omega

/-- Reading is over by so many reads. -/
theorem isOver_of_length (h : n + retries.toNat ≤ os.length) : IsOver n retries os := by
  have hcount := length_le_gathered_add_misses os
  unfold IsOver
  omega

/-! ### Reading under a script -/

/-- What reads are to find, and what those that are over were asked with. -/
structure Script where
  left : List Outcome
  asked : List (Millis × Nat) := []

/-- Answers reads in the order of the script. -/
def Script.serve : (d : SensorDemand) → Act Script (Option d.Reply)
  | .pause _ => pure none
  | .read limit room => do
    let s ← get
    match s.left with
    | [] => pure none
    | o :: left => do
      set (⟨left, s.asked ++ [(limit, room)]⟩ : Script)
      pure (some o)

/-- What a reading that is over reports of the reads it has consumed. -/
structure Reports (n : Nat) (retries : UInt8) (pre : List Outcome) (x : Result n) : Prop where
  filled : x.1.filled = (gathered pre).length
  buffer : x.1.buffer = gathered pre ++ List.replicate (n - (gathered pre).length) 0
  complete_iff : x.1.isComplete = true ↔ x.2 = .ok ()
  full : (gathered pre).length = n → x.2 = .ok () ∧ misses pre ≤ retries.toNat
  short : (gathered pre).length ≠ n → x.2 = .error (.exhausted (gathered pre).length n) ∧
    (gathered pre).length < n ∧ misses pre = retries.toNat + 1

/-- A reading has consumed `pre` of these outcomes: no more than it takes, and the rest is
left. -/
structure Scans (n : Nat) (policy : ReadPolicy) (os pre : List Outcome)
    (out : Progress (FrameRead n) (Result n) × Script) : Prop where
  split : os = pre ++ out.2.left
  asked : out.2.asked = asks n policy.limit pre
  shortest : ∀ i < pre.length, ¬ IsOver n policy.retries (pre.take i)
  ends : IsOver n policy.retries pre → ∃ x, out.1 = .done x ∧ Reports n policy.retries pre x
  /-- Where the script is too short, one more read is asked for. -/
  waits : ¬ IsOver n policy.retries pre → out.2.left = [] ∧
    ∃ r, out.1 = .paused r ∧ r.frame.room = n - (gathered pre).length

variable {policy : ReadPolicy} {pre left : List Outcome} {r : FrameRead n}

theorem reports_of_full {f : Frame n} (hf : f.received = gathered pre)
    (hc : f.isComplete = true) (hm : misses pre ≤ retries.toNat) :
    Reports n retries pre (f, .ok ()) := by
  have hlen : f.filled = (gathered pre).length := by rw [Frame.filled, hf]
  have hfull : (gathered pre).length = n := by
    rw [← hlen]
    exact beq_iff_eq.1 hc
  exact {
    filled := hlen
    buffer := by rw [Frame.buffer, Frame.room, hf, hlen]
    complete_iff := by simp [hc]
    full := fun _ => ⟨rfl, hm⟩
    short := fun h => absurd hfull h }

theorem reports_of_short {f : Frame n} (hf : f.received = gathered pre)
    (hi : f.isComplete = false) (hm : misses pre = retries.toNat + 1) :
    Reports n retries pre (f, .error (.exhausted f.filled n)) := by
  have hlen : f.filled = (gathered pre).length := by rw [Frame.filled, hf]
  have hshort : (gathered pre).length ≠ n := by
    rw [← hlen]
    exact beq_eq_false_iff_ne.1 hi
  have hlt : (gathered pre).length < n := by
    have hfits := f.fits
    rw [hf] at hfits
    omega
  exact {
    filled := hlen
    buffer := by rw [Frame.buffer, Frame.room, hf, hlen]
    complete_iff := by simp [hi]
    full := fun h => absurd h hshort
    short := fun _ => ⟨by rw [hlen], hlt, hm⟩ }

/-- A budget that runs out runs out after one failure more than it tolerates. -/
theorem ranOut_iff (hmax : retries ≠ 255) (k : Nat) :
    RetryBudget.RanOut retries k ↔ retries.toNat < k := by
  have hlt := RetryBudget.toNat_lt_of_ne hmax
  unfold RetryBudget.RanOut
  omega

/-- The frame of a reading that agrees with the reads so far holds what they brought. -/
theorem Tracks.filled_eq (ht : Tracks policy (pre.map .read) r) :
    r.frame.filled = (gathered pre).length :=
  congrArg List.length ht.received

theorem Tracks.room_eq (ht : Tracks policy (pre.map .read) r) :
    r.frame.room = n - (gathered pre).length := by
  rw [Frame.room, ht.filled_eq]

/-- While the reading agrees with the reads so far and its frame is not full, it is not over. -/
theorem Tracks.not_isOver (ht : Tracks policy (pre.map .read) r)
    (hi : r.frame.isComplete = false) (hmax : policy.retries ≠ 255) :
    ¬ IsOver n policy.retries pre := by
  have hlen := ht.filled_eq
  have hfits := r.frame.fits
  have hshort : r.frame.filled ≠ n := beq_eq_false_iff_ne.1 hi
  have htime := (not_congr (ranOut_iff hmax _)).1 ht.inTime
  rintro (hfull | hlate)
  · rw [← hlen, Frame.filled] at hfull
    rw [Frame.filled] at hshort
    omega
  · exact htime hlate

/-- One read more: the reading goes on in agreement with the reads, or it is over and reports
them. -/
theorem resume_scans (ht : Tracks policy (pre.map .read) r) (hi : r.frame.isComplete = false)
    (hmax : policy.retries ≠ 255) {o : Outcome}
    (hfit : (gathered pre).length + (Event.read o).delivery.length ≤ n) (s : Script)
    (js : Array Notice) :
    (∃ r', (r.resume o s js).1 = (.paused r', s) ∧
        Tracks policy ((pre ++ [o]).map .read) r' ∧ r'.frame.isComplete = false) ∨
      ∃ x, (r.resume o s js).1 = (.done x, s) ∧ IsOver n policy.retries (pre ++ [o]) ∧
        Reports n policy.retries (pre ++ [o]) x := by
  have hopen := ht.not_isOver hi hmax
  have hmap : (pre ++ [o]).map Event.read = pre.map Event.read ++ [.read o] := by simp
  rcases r.resume_cases o s js with ⟨hempty, hnone, hres⟩ | ⟨bs, hne, rfl, hres⟩
  · have hstands := fail_stands ht hi hempty hnone
    rcases r.fail_cases with ⟨hfail, -⟩ | ⟨hfail, hlt⟩
    · have hpaused : r.fail = .paused { r with budget := r.budget.consume } := by
        rw [hfail, proceed, if_neg (by simp [hi])]
      rw [hpaused] at hres hstands
      exact .inl ⟨_, hres, by rw [hmap]; exact hstands.1, hi⟩
    · have hgathered : gathered (pre ++ [o]) = gathered pre := by
        rw [gathered_concat, hnone, List.append_nil]
      have hmisses : misses (pre ++ [o]) = policy.retries.toNat + 1 := by
        have hcount : r.budget.failures.toNat = min (misses pre) 255 := ht.failures
        have hmaxlt := UInt8.toNat_lt policy.retries
        rw [ht.max, RetryBudget.toNat_succ, hcount] at hlt
        have hle : misses pre ≤ policy.retries.toNat := Nat.le_of_not_lt fun h => hopen (.inr h)
        rw [misses_concat, if_pos hempty]
        omega
      refine .inr ⟨_, hres.trans (by rw [hfail]), .inr (by omega), ?_⟩
      exact reports_of_short (ht.received.trans hgathered.symm) hi hmisses
  · have hroom : bs.length ≤ r.frame.room := by
      rw [ht.room_eq]
      have hfit : (gathered pre).length + bs.length ≤ n := hfit
      omega
    have hstands := append_stands ht hroom hne
    by_cases hc : (r.frame.append bs).isComplete = true
    · rw [proceed, if_pos hc] at hres hstands
      rw [← hmap] at hstands
      have hle := (not_congr (ranOut_iff hmax _)).1 (hstands.inTime hc)
      refine .inr ⟨_, hres, .inl ?_, reports_of_full hstands.received hc (Nat.le_of_not_lt hle)⟩
      have hfull : (r.frame.append bs).received.length = n := beq_iff_eq.1 hc
      rw [hstands.received] at hfull
      exact Nat.le_of_eq hfull.symm
    · rw [proceed, if_neg hc] at hres hstands
      exact .inl ⟨_, hres, by rw [hmap]; exact hstands.1, Bool.eq_false_iff.2 hc⟩

/-- No prefix of an unfinished reading was over. -/
theorem not_isOver_take (h : ¬ IsOver n retries os) (i : Nat) :
    ¬ IsOver n retries (os.take i) := by
  induction os using List.reverseRecOn with
  | nil => simpa using h
  | append_singleton os o ih =>
    have hos : ¬ IsOver n retries os := fun hover => h (hover.concat o)
    rcases Nat.lt_or_ge os.length i with hlt | hle
    · rwa [List.take_of_length_le (by simp; omega)]
    · rw [List.take_append_of_le_length hle]
      exact ih hos

/-- The script was too short for the reading. -/
theorem Tracks.scans (ht : Tracks policy (pre.map .read) r) (hi : r.frame.isComplete = false)
    (hmax : policy.retries ≠ 255) :
    Scans n policy pre pre (.paused r, ⟨[], asks n policy.limit pre⟩) where
  split := (List.append_nil pre).symm
  asked := rfl
  shortest i _ := not_isOver_take (ht.not_isOver hi hmax) i
  ends h := absurd h (ht.not_isOver hi hmax)
  waits _ := ⟨rfl, r, rfl, ht.room_eq⟩

/-- The last read was the one that ended the reading. -/
theorem Reports.scans {o : Outcome} {x : Result n} (hopen : ¬ IsOver n policy.retries pre)
    (hover : IsOver n policy.retries (pre ++ [o]))
    (h : Reports n policy.retries (pre ++ [o]) x) (left : List Outcome) :
    Scans n policy (pre ++ o :: left) (pre ++ [o])
      (.done x, ⟨left, asks n policy.limit (pre ++ [o])⟩) where
  split := List.append_cons pre o left
  asked := rfl
  shortest i hlt := by
    have hle : i ≤ pre.length := by
      rw [List.length_append] at hlt
      exact Nat.le_of_lt_succ hlt
    rw [List.take_append_of_le_length hle]
    exact not_isOver_take hopen i
  ends _ := ⟨x, rfl, h⟩
  waits hnot := absurd hover hnot

/-- From where a reading stands after some reads, it goes on through the rest. -/
theorem drive_scans (frame : Frame n) (hmax : policy.retries ≠ 255)
    (ht : Tracks policy (pre.map .read) r) (hi : r.frame.isComplete = false)
    (hfit : Fits n policy.retries (pre ++ left)) {patience : Nat} (hp : left.length ≤ patience)
    (js : Array Notice) :
    ∃ more, Scans n policy (pre ++ left) more
      ((into frame policy).drive Script.serve patience (.paused r)
        ⟨left, asks n policy.limit pre⟩ js).1 := by
  -- Along the script, `pre` is what was consumed without the reading being over.
  induction left generalizing pre r patience js with
  | nil =>
    have hdrive : ((into frame policy).drive Script.serve patience (.paused r)
        ⟨[], asks n policy.limit pre⟩ js).1 = (.paused r, ⟨[], asks n policy.limit pre⟩) := by
      cases patience <;> rfl
    rw [hdrive, List.append_nil]
    exact ⟨pre, ht.scans hi hmax⟩
  | cons o left ih =>
    obtain ⟨patience, rfl⟩ : ∃ k, patience = k + 1 :=
      ⟨patience - 1, by simp only [List.length_cons] at hp; omega⟩
    have hopen := ht.not_isOver hi hmax
    have hchunk : (gathered pre).length + (Event.read o).delivery.length ≤ n := by
      have hat := hfit pre.length (by simp)
      simpa [hopen] using hat
    have hasked : asks n policy.limit pre ++ [(policy.limit, r.frame.room)] =
        asks n policy.limit (pre ++ [o]) := by
      rw [asks_concat, ht.room_eq]
    have hdrive : (into frame policy).drive Script.serve (patience + 1) (.paused r)
        ⟨o :: left, asks n policy.limit pre⟩ js =
          (into frame policy).drive Script.serve patience
            (r.resume o (⟨left, asks n policy.limit (pre ++ [o])⟩ : Script) js).1.1
            (r.resume o (⟨left, asks n policy.limit (pre ++ [o])⟩ : Script) js).1.2
            (r.resume o (⟨left, asks n policy.limit (pre ++ [o])⟩ : Script) js).2 := by
      rw [← hasked]
      rfl
    rcases resume_scans ht hi hmax hchunk ⟨left, asks n policy.limit (pre ++ [o])⟩ js with
      ⟨r', hres, ht', hi'⟩ | ⟨x, hres, hover, hreports⟩
    · rw [hdrive, hres, List.append_cons]
      exact ih ht' hi' (by rwa [List.append_cons] at hfit)
        (by simp only [List.length_cons] at hp; omega) _
    · have hdone : ((into frame policy).drive Script.serve (patience + 1) (.paused r)
          ⟨o :: left, asks n policy.limit pre⟩ js).1 =
            (.done x, ⟨left, asks n policy.limit (pre ++ [o])⟩) := by
        rw [hdrive, hres]
        exact congrArg Prod.fst (Activity.drive_done patience x _ _)
      rw [hdone]
      exact ⟨pre ++ [o], hreports.scans hopen hover left⟩

/-- Reading into a frame goes through the scan of the reads, whatever the frame held. -/
theorem perform_scans (frame : Frame n) (policy : ReadPolicy) (hmax : policy.retries ≠ 255)
    {os : List Outcome} (hfit : Fits n policy.retries os) {patience : Nat}
    (hp : os.length ≤ patience) (js : Array Notice) :
    ∃ pre, Scans n policy os pre
      ((into frame policy).perform Script.serve patience ⟨os, []⟩ js).1 := by
  have hstands : Stands policy ([].map .read)
      (proceed (⟨frame.clear, .ofMax policy.retries⟩ : FrameRead n)) := start_stands rfl rfl
  have hstart : (into frame policy).perform Script.serve patience ⟨os, []⟩ js =
      (into frame policy).drive Script.serve patience
        (proceed ⟨frame.clear, .ofMax policy.retries⟩) ⟨os, []⟩ js := rfl
  rw [hstart]
  by_cases hc : (frame.clear : Frame n).isComplete = true
  · have hdone : ((into frame policy).drive Script.serve patience
        (proceed ⟨frame.clear, .ofMax policy.retries⟩) ⟨os, []⟩ js).1 =
          (.done (frame.clear, .ok ()), ⟨os, []⟩) := by
      rw [proceed, if_pos hc]
      exact congrArg Prod.fst (Activity.drive_done patience _ _ _)
    rw [hdone]
    refine ⟨[], {
      split := rfl
      asked := rfl
      shortest := fun i hi => absurd hi (Nat.not_lt_zero i)
      ends := fun _ => ⟨_, rfl, reports_of_full rfl hc (Nat.zero_le _)⟩
      waits := fun h => absurd (.inl (Nat.le_of_eq (beq_iff_eq.1 hc).symm)) h }⟩
  · rw [proceed, if_neg hc] at hstands ⊢
    exact drive_scans frame hmax hstands.1 (Bool.eq_false_iff.2 hc) hfit hp js

/-- Reading into a frame comes to what the scan of the reads says, whatever the frame held. So
many reads are enough for it to end, and none is made for a frame of no bytes. -/
theorem into_scans (frame : Frame n) (policy : ReadPolicy) (hmax : policy.retries ≠ 255)
    (os : List Outcome) (hfit : Fits n policy.retries os) (patience : Nat)
    (hp : os.length ≤ patience) (js : Array Notice) :
    ∃ pre, Scans n policy os pre
        ((into frame policy).perform Script.serve patience ⟨os, []⟩ js).1 ∧
      (n + policy.retries.toNat ≤ os.length → IsOver n policy.retries pre) ∧
      (n = 0 → pre = []) := by
  obtain ⟨pre, hscans⟩ := perform_scans frame policy hmax hfit hp js
  refine ⟨pre, hscans, fun hlen => ?_, fun hzero => ?_⟩
  · by_contra hopen
    have hall : os = pre := by
      have hsplit := hscans.split
      rwa [(hscans.waits hopen).1, List.append_nil] at hsplit
    exact hopen (isOver_of_length (hall ▸ hlen))
  · subst hzero
    by_contra hne
    exact hscans.shortest 0 (List.length_pos_iff.2 hne) (.inl (Nat.zero_le _))

/-- A frame with old bytes is read again: the time passes, two bytes come, a read brings
nothing, the last byte comes, and what else there was to read is left. -/
theorem into_scans_again :
    ∃ pre, Scans 3 ⟨100, 2⟩
        [.expired, .ready (.ok [1, 2]), .ready (.ok []), .ready (.ok [3]), .ready (.ok [9])] pre
        ((into (⟨[7, 8], by decide⟩ : Frame 3) ⟨100, 2⟩).perform Script.serve 5
          ⟨[.expired, .ready (.ok [1, 2]), .ready (.ok []), .ready (.ok [3]),
            .ready (.ok [9])], []⟩ #[]).1 ∧
      (3 + (2 : UInt8).toNat ≤ 5 → IsOver 3 2 pre) ∧ (3 = 0 → pre = []) :=
  into_scans ⟨[7, 8], by decide⟩ ⟨100, 2⟩ (by decide) _ (by decide) 5 (by decide) #[]

end AirStation.FrameRead
