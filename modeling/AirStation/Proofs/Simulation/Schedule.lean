import Mathlib.Algebra.Group.Nat.Defs
import AirStation.Proofs.Acquisition.Exchange
import AirStation.Proofs.Simulation.Cycle

/-! The schedule of faults of a simulated sensor as the task at its line gets to see it. Every
missing answer is one failure of input, every spoiled one is one of the checksum, and both store
the zero reading; all other cycles store what the sensor measured. Silence goes before
corruption, and nothing of one request is left for the next. -/

namespace AirStation.Simulation.Uart

variable {ρ : Type} {m : Model ρ}

/-- A fault falls on the requests its number divides, which for zero are none. -/
theorem falls_iff {every : UInt32} {k : Nat} (hpos : 0 < k) (hlt : k < 2 ^ 32) :
    falls every (.ofNat k) = true ↔ every.toNat ∣ k := by
  have hk : (UInt32.ofNat k).toNat = k := UInt32.toNat_ofNat_of_lt' hlt
  rw [falls, Bool.and_eq_true, decide_eq_true_iff, beq_iff_eq, UInt32.lt_iff_toNat_lt,
    ← UInt32.toNat_inj, UInt32.toNat_mod, hk]
  constructor
  · exact fun h => Nat.dvd_of_mod_eq_zero h.2
  · exact fun h => ⟨Nat.pos_of_dvd_of_pos h hpos, Nat.mod_eq_zero_of_dvd h⟩

/-! ### What a task makes of an answer -/

section Verdicts

variable {faults : Faults} {k : UInt32}

theorem verdict_of_response {v : Vector UInt8 m.codec.size}
    (h : response m faults k = v.toList) :
    verdict m faults k = (m.codec.decode v).mapError (.checksum m.codec.part) := by
  have hfull : (⟨response m faults k, response_fits m faults k⟩ : Frame m.codec.size).full? =
      some v := Acquisition.full?_eq_some_iff.2 h
  simp only [verdict, AirStation.Uart.validate, hfull]
  cases m.codec.decode v <;> rfl

theorem verdict_silent (hpos : 0 < m.codec.size) (h : falls faults.silentEvery k = true) :
    ∃ e, verdict m faults k = .error e ∧ e.isChecksum = false := by
  let f : Frame m.codec.size := ⟨response m faults k, response_fits m faults k⟩
  have hfilled : f.filled = 0 := congrArg List.length (if_pos h)
  have hnone : f.full? = none := by
    refine dif_neg ?_
    rw [← Frame.filled, hfilled]
    omega
  refine ⟨.incomplete m.codec.part 0 m.codec.size, ?_, rfl⟩
  change AirStation.Uart.validate m.codec f = _
  rw [AirStation.Uart.validate, hnone, hfilled]

theorem verdict_corrupt (hm : m.Faithful) (hs : falls faults.silentEvery k = false)
    (hc : falls faults.corruptEvery k = true) :
    ∃ e, verdict m faults k = .error e ∧ e.isChecksum = true := by
  have hresponse : response m faults k = spoil (m.encode (m.measure k)).toList := by
    rw [response, if_neg (by simp [hs]), if_pos hc]
  let v : Vector UInt8 m.codec.size := ⟨(response m faults k).toArray, by
    rw [hresponse]
    simp [length_spoil]⟩
  obtain ⟨mismatch, hdecode⟩ := hm.decode_spoiled (r := m.measure k) (v := v) hresponse
  refine ⟨.checksum m.codec.part mismatch, ?_, rfl⟩
  rw [verdict_of_response (v := v) rfl, hdecode]
  rfl

theorem verdict_whole (hm : m.Faithful) (hs : falls faults.silentEvery k = false)
    (hc : falls faults.corruptEvery k = false) : verdict m faults k = .ok (m.measure k) := by
  have hresponse : response m faults k = (m.encode (m.measure k)).toList := by
    rw [response, if_neg (by simp [hs]), if_neg (by simp [hc])]
  rw [verdict_of_response hresponse, hm.decode_encode]
  rfl

/-- Silence goes before corruption. -/
theorem verdict_cases (faults : Faults) (hm : m.Faithful) {n : Nat} (hpos : 0 < n) (hlt : n < 2 ^ 32) :
    (faults.silentEvery.toNat ∣ n ∧
        ∃ e, verdict m faults (.ofNat n) = .error e ∧ e.isChecksum = false) ∨
      (¬ faults.silentEvery.toNat ∣ n ∧ faults.corruptEvery.toNat ∣ n ∧
        ∃ e, verdict m faults (.ofNat n) = .error e ∧ e.isChecksum = true) ∨
      (¬ faults.silentEvery.toNat ∣ n ∧ ¬ faults.corruptEvery.toNat ∣ n ∧
        verdict m faults (.ofNat n) = .ok (m.measure (.ofNat n))) := by
  rw [← falls_iff hpos hlt, ← falls_iff hpos hlt]
  by_cases hs : falls faults.silentEvery (.ofNat n) = true
  · exact .inl ⟨hs, verdict_silent hm.size_pos hs⟩
  · by_cases hc : falls faults.corruptEvery (.ofNat n) = true
    · exact .inr (.inl ⟨hs, hc, verdict_corrupt hm (Bool.eq_false_iff.2 hs) hc⟩)
    · exact .inr (.inr ⟨hs, hc,
        verdict_whole hm (Bool.eq_false_iff.2 hs) (Bool.eq_false_iff.2 hc)⟩)

end Verdicts

/-! ### Runs of cycles -/

/-- A task before its first step, whatever is on its line, and an empty slot. -/
def fresh (m : Model ρ) (faults : Faults) (rx : Bytes) : Site m :=
  ({ device := { faults, rx } }, .empty)

/-- Where a task stands after `n` cycles. -/
structure Rests (faults : Faults) (n : Nat) (s : Site m) : Prop where
  idle : s.1.phase = .idle
  free : s.2.held = false
  faults : s.1.device.faults = faults
  requests : s.1.device.requests = .ofNat n

theorem rests_fresh (m : Model ρ) (faults : Faults) (rx : Bytes) :
    Rests faults 0 (fresh m faults rx) := ⟨rfl, rfl, rfl, rfl⟩

variable [Measured ρ] {policy : ReadPolicy} {pace : Pace} {faults : Faults} {n : Nat}
  {s t : Site m} {slots : List (SlotState ρ)}

/-- Cycles one after another, with what the slot holds after each. -/
inductive Cycles (policy : ReadPolicy) (pace : Pace) (s : Site m) :
    List (SlotState ρ) → Site m → Prop where
  | none : Cycles policy pace s [] s
  | next {slots : List (SlotState ρ)} {t v : Site m} : Cycles policy pace s slots t →
      Cycle policy pace t v → Cycles policy pace s (slots ++ [v.2.state]) v

/-- The task after one more cycle, in which the answer comes to `x`. -/
def after (s : Site m) (x : Except SensorError ρ) : Site m :=
  (⟨{ s.1.device with rx := [], requests := s.1.device.requests + 1 }, .idle,
    turned s.1.stats x⟩, ⟨false, s.2.state.store (yielded x)⟩)

theorem Rests.after (h : Rests faults n s) (x : Except SensorError ρ) :
    Rests faults (n + 1) (after s x) where
  idle := rfl
  free := rfl
  faults := h.faults
  requests := (congrArg (· + 1) h.requests).trans (UInt32.ofNat_add n 1).symm

/-- Each cycle is decided by its number. -/
theorem Rests.cycle_iff (h : Rests faults n s) (hm : m.Faithful)
    (hlimit : chunkDelay < policy.limit) (hmax : policy.retries ≠ 255) (v : Site m) :
    Cycle policy pace s v ↔ v = Uart.after s (verdict m faults (.ofNat (n + 1))) := by
  obtain ⟨⟨u, phase, stats⟩, slot⟩ := s
  obtain rfl : phase = .idle := h.idle
  obtain rfl : u.faults = faults := h.faults
  have hrequests : u.requests + 1 = .ofNat (n + 1) := (h.after (.ok 0)).requests
  rw [← hrequests]
  exact Uart.cycle_iff u stats slot hm hlimit hmax h.free v

theorem Cycles.rests (hm : m.Faithful) (hlimit : chunkDelay < policy.limit)
    (hmax : policy.retries ≠ 255) (h0 : Rests faults 0 s) (h : Cycles policy pace s slots t) :
    Rests faults slots.length t := by
  induction h with
  | none => exact h0
  | next _ hcycle ih =>
    rw [(ih.cycle_iff hm hlimit hmax _).1 hcycle, List.length_append]
    exact ih.after _

/-- There are as many cycles as one likes. -/
theorem exists_cycles (hm : m.Faithful) (hlimit : chunkDelay < policy.limit)
    (hmax : policy.retries ≠ 255) (h0 : Rests faults 0 s) (n : Nat) :
    ∃ slots t, slots.length = n ∧ Cycles policy pace s slots t := by
  induction n with
  | zero => exact ⟨[], s, rfl, .none⟩
  | succ n ih =>
    obtain ⟨slots, t, rfl, hcycles⟩ := ih
    have hrests := hcycles.rests hm hlimit hmax h0
    exact ⟨_, _, by rw [List.length_append]; rfl,
      hcycles.next ((hrests.cycle_iff hm hlimit hmax _).2 rfl)⟩

/-! ### The schedule -/

/-- The reading that is stored in the `k`-th cycle. -/
def scheduled (m : Model ρ) (faults : Faults) (k : Nat) : ρ :=
  if faults.silentEvery.toNat ∣ k ∨ faults.corruptEvery.toNat ∣ k then 0
  else m.measure (.ofNat k)

/-- The counts and the slots after as many cycles as there are slots. -/
structure Reproduces (m : Model ρ) (faults : Faults) (slots : List (SlotState ρ)) (s : Site m) :
    Prop where
  cycles : s.1.stats.cycles.toNat = slots.length
  revision : s.2.state.revision.toNat = slots.length
  ioFailures : s.1.stats.ioFailures.toNat =
    (List.range' 1 slots.length).countP fun k => faults.silentEvery.toNat ∣ k
  checksumFailures : s.1.stats.checksumFailures.toNat =
    (List.range' 1 slots.length).countP fun k =>
      faults.corruptEvery.toNat ∣ k ∧ ¬ faults.silentEvery.toNat ∣ k
  stored : slots.map (·.value) =
    (List.range' 1 slots.length).map fun k => some (scheduled m faults k)

/-- What the answer to the `n`-th request does to the counts, and the reading it yields. -/
theorem turned_verdict (faults : Faults) (hm : m.Faithful) (hpos : 0 < n) (hlt : n < 2 ^ 32)
    (stats : Acquisition.Stats) :
    (turned stats (verdict m faults (.ofNat n))).ioFailures =
        (if faults.silentEvery.toNat ∣ n then stats.ioFailures + 1 else stats.ioFailures) ∧
      (turned stats (verdict m faults (.ofNat n))).checksumFailures =
        (if faults.corruptEvery.toNat ∣ n ∧ ¬ faults.silentEvery.toNat ∣ n then
          stats.checksumFailures + 1 else stats.checksumFailures) ∧
      yielded (verdict m faults (.ofNat n)) = scheduled m faults n := by
  rcases verdict_cases faults hm hpos hlt with
    ⟨hs, e, hv, he⟩ | ⟨hs, hc, e, hv, he⟩ | ⟨hs, hc, hv⟩
  · simp [hv, turned, yielded, scheduled, Acquisition.Stats.countFailure, he, hs]
  · simp [hv, turned, yielded, scheduled, Acquisition.Stats.countFailure, he, hs, hc]
  · simp [hv, turned, yielded, scheduled, hs, hc]

/-- A count of cycles that is kept up for one cycle more. -/
theorem toNat_succ_of_lt {a : UInt32} (h : a.toNat = n) (hlt : n + 1 < 2 ^ 32) :
    (a + 1).toNat = n + 1 := by
  rw [UInt32.toNat_add, h]
  exact Nat.mod_eq_of_lt hlt

/-- A count of the cycles with a property that is kept up for one cycle more. -/
theorem toNat_countP_succ {p : Nat → Bool} {a b : UInt32}
    (h : a.toNat = (List.range' 1 n).countP p) (hlt : n + 1 < 2 ^ 32)
    (hb : b = if p (n + 1) then a + 1 else a) :
    b.toNat = (List.range' 1 (n + 1)).countP p := by
  rw [List.range'_1_concat, List.countP_append, List.countP_singleton, Nat.add_comm 1 n, hb]
  split
  · have hle : (List.range' 1 n).countP p ≤ n :=
      Nat.le_trans List.countP_le_length (Nat.le_of_eq List.length_range')
    exact toNat_succ_of_lt h (Nat.lt_of_le_of_lt (Nat.succ_le_succ hle) hlt)
  · exact h

theorem reproduces_fresh (m : Model ρ) (faults : Faults) (rx : Bytes) :
    Reproduces m faults [] (fresh m faults rx) := ⟨rfl, rfl, rfl, rfl, rfl⟩

theorem Reproduces.after (h : Reproduces m faults slots s) (hm : m.Faithful)
    (hlt : slots.length + 1 < 2 ^ 32) {v : Site m}
    (hv : v = Uart.after s (verdict m faults (.ofNat (slots.length + 1)))) :
    Reproduces m faults (slots ++ [v.2.state]) v := by
  have hlength : (slots ++ [v.2.state]).length = slots.length + 1 := List.length_append
  obtain ⟨hio, hchecksum, hyielded⟩ :=
    turned_verdict faults hm (Nat.succ_pos slots.length) hlt s.1.stats
  exact {
    cycles := by
      rw [hlength, hv, Uart.after, turned_cycles]
      exact toNat_succ_of_lt h.cycles hlt
    revision := by
      rw [hlength, hv]
      exact toNat_succ_of_lt h.revision hlt
    ioFailures := by
      rw [hlength, hv]
      exact toNat_countP_succ h.ioFailures hlt (hio.trans (by simp only [decide_eq_true_iff]))
    checksumFailures := by
      rw [hlength, hv]
      exact toNat_countP_succ h.checksumFailures hlt (hchecksum.trans (by simp only [decide_eq_true_iff]))
    stored := by
      have hvalue : v.2.state.value = some (scheduled m faults (slots.length + 1)) := by
        rw [hv, ← hyielded]
        rfl
      rw [hlength, List.map_append, h.stored, List.range'_1_concat, List.map_append,
        Nat.add_comm 1 slots.length, List.map_singleton, hvalue, List.map_singleton] }

theorem Cycles.reproduces (hm : m.Faithful) (hlimit : chunkDelay < policy.limit)
    (hmax : policy.retries ≠ 255) {rx : Bytes}
    (h : Cycles policy pace (fresh m faults rx) slots t) (hlt : slots.length < 2 ^ 32) :
    Reproduces m faults slots t := by
  induction h with
  | none => exact reproduces_fresh m faults rx
  | @next slots t v hcycles hcycle ih =>
    have hlt' : slots.length + 1 < 2 ^ 32 := by
      rw [List.length_append] at hlt
      exact hlt
    have hrests := hcycles.rests hm hlimit hmax (rests_fresh m faults rx)
    exact (ih (Nat.lt_of_succ_lt hlt')).after hm hlt' ((hrests.cycle_iff hm hlimit hmax v).1 hcycle)

/-- A task at the sensor finishes as many cycles as there is a number for, and all of them go as
the schedule of faults says. -/
def OnSchedule (m : Model ρ) : Prop :=
  ∀ (faults : Faults) (rx : Bytes) (policy : ReadPolicy) (pace : Pace),
    chunkDelay < policy.limit → policy.retries < 255 → ∀ n < 2 ^ 32,
      (∃ slots t, slots.length = n ∧ Cycles policy pace (fresh m faults rx) slots t) ∧
        ∀ slots t, slots.length = n → Cycles policy pace (fresh m faults rx) slots t →
          Reproduces m faults slots t

theorem onSchedule_of_faithful (hm : m.Faithful) : OnSchedule m := by
  intro faults rx policy pace hlimit hretries n hlt
  have hmax : policy.retries ≠ 255 := by
    rintro heq
    rw [heq] at hretries
    exact UInt8.lt_irrefl _ hretries
  constructor
  · exact exists_cycles hm hlimit hmax (rests_fresh m faults rx) n
  · rintro slots t rfl hcycles
    exact hcycles.reproduces hm hlimit hmax hlt

/-- Both simulated sensors are on schedule. -/
theorem schedules_reproduced : OnSchedule co2Model ∧ OnSchedule dustModel :=
  ⟨onSchedule_of_faithful co2Model_faithful, onSchedule_of_faithful dustModel_faithful⟩

/-- Every second answer is spoiled and every third is missing; the sixth is just missing. -/
theorem schedules_reproduced_six :
    ∃ slots t, Cycles ⟨200, 20⟩ {} (fresh co2Model ⟨2, 3⟩ []) slots t ∧
      t.1.stats.cycles = 6 ∧ t.1.stats.ioFailures = 2 ∧ t.1.stats.checksumFailures = 2 ∧
      slots.map (·.value) =
        [some (co2Model.measure 1), some 0, some 0, some 0, some (co2Model.measure 5), some 0] := by
  obtain ⟨⟨slots, t, hlength, hcycles⟩, hall⟩ :=
    schedules_reproduced.1 ⟨2, 3⟩ [] ⟨200, 20⟩ {} (by decide) (by decide) 6 (by decide)
  have h := hall slots t hlength hcycles
  have hio := h.ioFailures
  have hchecksum := h.checksumFailures
  have hstored := h.stored
  rw [hlength] at hio hchecksum hstored
  exact ⟨slots, t, hcycles, UInt32.toNat_inj.1 (h.cycles.trans hlength), UInt32.toNat_inj.1 hio,
    UInt32.toNat_inj.1 hchecksum, hstored⟩

end AirStation.Simulation.Uart
