import AirStation.Proofs.Activity
import AirStation.Sensor.Bmp280
import Mathlib.Data.Nat.Bitwise

/-! How the BMP280 is read out. A forced conversion is waited for by looking at the status
until the measuring bit is clear, with a sleep after each look that finds it set; the data
registers are read right after a look that finds it clear and at no other time. What is done is
told apart by how many looks in a row find the bit set, and by what comes after them. -/

namespace AirStation.Bmp280

/-! ### The bus -/

/-- What is done for the sensor. -/
inductive Deed where
  | transacted (address : UInt8) (parts : List BusOp)
  | slept (length : Millis)
  deriving DecidableEq

/-- How each transaction from now on ends: it fails, or it reads the bytes given, as many as
are asked for. -/
abbrev Answers := Nat → Except BusFault (Nat → UInt8)

/-- A bus that plays a script, with what has been done so far. -/
structure Script where
  answers : Answers
  deeds : List Deed := []

namespace Script

/-- The bytes that a transaction asks for. -/
def asked : List BusOp → Nat
  | [] => 0
  | .write _ :: rest => asked rest
  | .read n :: rest => n + asked rest

def enter (deed : Deed) (b : Script) : Script := { b with deeds := b.deeds ++ [deed] }

/-- The bus once a transaction is over. -/
def answered (address : UInt8) (parts : List BusOp) (b : Script) : Script :=
  ⟨fun k => b.answers (k + 1), b.deeds ++ [.transacted address parts]⟩

instance : I2cBus Script where
  transact address parts := do
    let b ← get
    set (b.answered address parts)
    pure ((b.answers 0).map fun bytes => (List.range (asked parts)).map bytes)

/-- A pause that is demanded is slept. -/
def serve : (d : SensorDemand) → Act (Device Script) (Option d.Reply)
  | .pause length => do
    modify fun d => { d with bus := d.bus.enter (.slept length) }
    pure (some ())
  | .read _ _ => pure none

end Script

open Script

variable {s : Setup} {answers : Answers} {d : Device Script} {js : Array Notice}
  {bytes : Nat → UInt8} {fault : BusFault}

theorem buffer_map_range (n : Nat) (f : Nat → UInt8) :
    buffer n ((List.range n).map f) = Vector.ofFn fun i => f i := by
  refine Vector.ext fun i hi => ?_
  simp [buffer]

theorem readRegisters_apply (first : UInt8) (n : Nat) (d : Device Script) (js : Array Notice) :
    readRegisters s first n d js =
      (((d.bus.answers 0).map fun bytes => Vector.ofFn fun i => bytes i,
        { d with bus := d.bus.answered s.address [.write [first], .read n] }), js) := by
  simp only [readRegisters, I2cBus.transact, Act.bind_apply, Act.on_apply, Act.get_apply,
    Act.set_apply, Act.pure_apply, Device.busPart]
  cases d.bus.answers 0 with
  | error fault => rfl
  | ok bytes => simp only [Except.map, asked, Nat.add_zero, buffer_map_range]

/-! ### One look at the status -/

/-- The look at the status. -/
def poll (s : Setup) : Deed := .transacted s.address [.write [0xF3], .read 1]

/-- The read of the data registers. -/
def fetch (s : Setup) : Deed := .transacted s.address [.write [0xF7], .read 6]

/-- A status with the measuring bit set. -/
def Measuring (bytes : Nat → UInt8) : Prop := (bytes 0).toNat.testBit 3 = true

instance (bytes : Nat → UInt8) : Decidable (Measuring bytes) := inferInstanceAs (Decidable (_ = _))

theorem and_measuring (b : UInt8) :
    b &&& Barometer.measuring = 0 ↔ b.toNat.testBit 3 = false := by
  have hmask : Barometer.measuring.toNat = 2 ^ 3 := by decide
  rw [← UInt8.toNat_inj, UInt8.toNat_and, hmask, Nat.and_two_pow]
  cases b.toNat.testBit 3 <;> simp

/-- What comes of the read of the data registers. -/
def fetched : Except BusFault (Nat → UInt8) → Except SensorError (Vector UInt8 6)
  | .ok bytes => .ok (Vector.ofFn fun i => bytes i)
  | .error _ => .error (.readFailed "BMP280" "read measurement registers" "I2C communication error")

theorem readData_apply (d : Device Script) (js : Array Notice) :
    ∃ js', readData s d js = ((.done (fetched (d.bus.answers 0)),
      { d with bus := d.bus.answered s.address [.write [0xF7], .read 6] }), js') := by
  simp only [readData, Act.bind_apply, readRegisters_apply]
  cases d.bus.answers 0 with
  | error fault => exact ⟨_, rfl⟩
  | ok bytes => exact ⟨_, rfl⟩

/-- The device after a look at the status. -/
def looked (s : Setup) (d : Device Script) : Device Script :=
  { d with bus := d.bus.answered s.address [.write [0xF3], .read 1] }

/-- A look fails, or it finds the conversion over, or it finds it running. -/
theorem awaitConversion_apply (left : Nat) (d : Device Script) (js : Array Notice) :
    (∃ fault js', d.bus.answers 0 = .error fault ∧ awaitConversion s (left + 1) d js =
        ((.done (.error (.readFailed "BMP280" "read status" "I2C communication error")),
          looked s d), js')) ∨
      (∃ bytes, d.bus.answers 0 = .ok bytes ∧ ¬ Measuring bytes ∧
        awaitConversion s (left + 1) d js = readData s (looked s d) js) ∨
      ∃ bytes, d.bus.answers 0 = .ok bytes ∧ Measuring bytes ∧
        awaitConversion s (left + 1) d js = ((.paused left, looked s d), js) := by
  simp only [awaitConversion, Act.bind_apply, readRegisters_apply]
  cases d.bus.answers 0 with
  | error fault => exact .inl ⟨fault, _, rfl, rfl⟩
  | ok bytes =>
    simp only [Except.map, Vector.getElem_ofFn, and_measuring]
    by_cases hbit : Measuring bytes
    · refine .inr (.inr ⟨bytes, rfl, hbit, ?_⟩)
      rw [if_neg (by simpa [Measuring] using hbit)]
      rfl
    · refine .inr (.inl ⟨bytes, rfl, hbit, ?_⟩)
      rw [if_pos (by simpa [Measuring] using hbit)]
      rfl

/-! ### Looks until the conversion is over -/

/-- Such a look finds the conversion running. -/
def Busy (answers : Answers) (k : Nat) : Prop := ∃ bytes, answers k = .ok bytes ∧ Measuring bytes

/-- And such a look finds it over. -/
def Over (answers : Answers) (k : Nat) : Prop := ∃ bytes, answers k = .ok bytes ∧ ¬ Measuring bytes

/-- So many looks in a row find the conversion running. -/
def Running (answers : Answers) (n : Nat) : Prop := ∀ k < n, Busy answers k

/-- Looks that each find the conversion running, with a sleep after each. -/
def waits (s : Setup) (n : Nat) : List Deed := (List.replicate n [poll s, .slept 2]).flatten

/-- What is done and what comes of it, with so many looks left. -/
inductive Ends (s : Setup) (answers : Answers) (left : Nat) :
    List Deed → Except SensorError (Vector UInt8 6) → Prop where
  | endless : Running answers left → Ends s answers left (waits s left)
      (.error (.readFailed "BMP280" "wait for conversion" "measurement still running"))
  | unread {n : Nat} {fault : BusFault} : n < left → Running answers n →
      answers n = .error fault → Ends s answers left (waits s n ++ [poll s])
        (.error (.readFailed "BMP280" "read status" "I2C communication error"))
  | finished {n : Nat} : n < left → Running answers n → Over answers n →
      Ends s answers left (waits s n ++ [poll s, fetch s]) (fetched (answers (n + 1)))

theorem Running.zero (answers : Answers) : Running answers 0 :=
  fun k hk => absurd hk (Nat.not_lt_zero k)

theorem Running.succ {n : Nat} (hzero : Busy answers 0)
    (h : Running (fun k => answers (k + 1)) n) : Running answers (n + 1) := by
  intro k hk
  cases k with
  | zero => exact hzero
  | succ k => exact h k (Nat.lt_of_succ_lt_succ hk)

theorem waits_succ (s : Setup) (n : Nat) : waits s (n + 1) = [poll s, .slept 2] ++ waits s n := rfl

/-- A look that finds the conversion running comes before the rest. -/
theorem Ends.later {left : Nat} {deeds : List Deed} {result : Except SensorError (Vector UInt8 6)}
    (hzero : Busy answers 0) (h : Ends s (fun k => answers (k + 1)) left deeds result) :
    Ends s answers (left + 1) ([poll s, .slept 2] ++ deeds) result := by
  cases h with
  | endless hrun => exact .endless (hrun.succ hzero)
  | unread hn hrun hfault =>
    rw [← List.append_assoc, ← waits_succ]
    exact .unread (Nat.succ_lt_succ hn) (hrun.succ hzero) hfault
  | finished hn hrun hover =>
    rw [← List.append_assoc, ← waits_succ]
    exact .finished (Nat.succ_lt_succ hn) (hrun.succ hzero) hover

/-- What follows once a conversion is waited for. -/
def attend (s : Setup) (left patience : Nat) :
    Act (Device Script) (Progress Nat (Except SensorError (Vector UInt8 6))) := do
  (receive s).drive serve patience (← awaitConversion s left)

theorem attend_done {left : Nat} {result : Except SensorError (Vector UInt8 6)}
    {t : Device Script} {js' : Array Notice}
    (h : awaitConversion s left d js = ((.done result, t), js')) (patience : Nat) :
    attend s left patience d js = ((.done result, t), js') := by
  rw [attend, Act.bind_apply, h]
  exact Activity.drive_done patience result t js'

/-- The device after a look and the sleep that follows it. -/
def waited (s : Setup) (d : Device Script) : Device Script :=
  { d with bus := (looked s d).bus.enter (.slept 2) }

theorem attend_running {left : Nat}
    (h : awaitConversion s (left + 1) d js = ((.paused left, looked s d), js)) (patience : Nat) :
    attend s (left + 1) (patience + 1) d js = attend s left patience (waited s d) js := by
  rw [attend, Act.bind_apply, h]
  rfl

/-- With patience for as many sleeps as there are looks left, the wait comes to an end. -/
theorem attend_ends (left extra : Nat) (d : Device Script) (js : Array Notice) :
    ∃ result t js' deeds, attend s left (left + extra) d js = ((.done result, t), js') ∧
      t.bus.deeds = d.bus.deeds ++ deeds ∧ Ends s d.bus.answers left deeds result := by
  induction left generalizing d js with
  | zero =>
    have hend : awaitConversion s 0 d js = ((.done (.error (.readFailed "BMP280"
        "wait for conversion" "measurement still running")), d), js.push .conversionEndless) := rfl
    exact ⟨_, d, _, [], attend_done hend _, (List.append_nil _).symm, .endless (.zero _)⟩
  | succ left ih =>
    have hpatience : left + 1 + extra = left + extra + 1 := by omega
    rw [hpatience]
    rcases awaitConversion_apply (s := s) left d js with
      ⟨fault, js', hfault, hlook⟩ | ⟨bytes, hok, hclear, hlook⟩ | ⟨bytes, hok, hbit, hlook⟩
    · exact ⟨_, looked s d, js', [poll s], attend_done hlook _, rfl,
        .unread (Nat.succ_pos left) (.zero _) hfault⟩
    · obtain ⟨js', hread⟩ := readData_apply (s := s) (looked s d) js
      refine ⟨_, _, js', [poll s, fetch s], attend_done (hlook.trans hread) _, ?_,
        .finished (Nat.succ_pos left) (.zero _) ⟨bytes, hok, hclear⟩⟩
      exact List.append_assoc ..
    · obtain ⟨result, t, js', deeds, hrun, hdeeds, hends⟩ := ih (waited s d) js
      refine ⟨result, t, js', [poll s, .slept 2] ++ deeds, ?_, ?_, hends.later ⟨bytes, hok, hbit⟩⟩
      · rw [attend_running hlook, hrun]
      · rw [hdeeds]
        simp [waited, looked, enter, answered, poll]

/-! ### When the data registers are read -/

/-- There is but one first look that does not find the conversion running. -/
theorem Running.unique {m n : Nat} (hm : Running answers m) (hn : Running answers n)
    (hm' : ¬ Busy answers m) (hn' : ¬ Busy answers n) : m = n := by
  rcases Nat.lt_trichotomy m n with h | h | h
  · exact absurd (hn m h) hm'
  · exact h
  · exact absurd (hm n h) hn'

theorem not_busy_of_over {k : Nat} (h : Over answers k) : ¬ Busy answers k := by
  obtain ⟨bytes, hok, hclear⟩ := h
  rintro ⟨bytes', hok', hbit⟩
  rw [hok] at hok'
  cases hok'
  exact hclear hbit

/-- A transaction that fails reads nothing at all. -/
theorem not_ok_of_error {k : Nat} {P : (Nat → UInt8) → Prop} (h : answers k = .error fault) :
    ¬ ∃ bytes, answers k = .ok bytes ∧ P bytes := by
  rintro ⟨bytes, hok, -⟩
  rw [h] at hok
  cases hok

theorem not_busy_of_error {k : Nat} (h : answers k = .error fault) : ¬ Busy answers k :=
  not_ok_of_error h

theorem not_over_of_error {k : Nat} (h : answers k = .error fault) : ¬ Over answers k :=
  not_ok_of_error h

theorem fetch_not_mem_waits (s : Setup) (n : Nat) : fetch s ∉ waits s n := by
  simp [waits, fetch, poll]

theorem count_waits (s : Setup) (n : Nat) : (waits s n).count (poll s) = n := by
  induction n with
  | zero => rfl
  | succ n ih =>
    rw [waits_succ, List.count_append, ih]
    simp [poll]
    omega

section Ends

variable {left : Nat} {deeds : List Deed} {result : Except SensorError (Vector UInt8 6)}

theorem Ends.count_le (h : Ends s answers left deeds result) : deeds.count (poll s) ≤ left := by
  have hfetch : fetch s ≠ poll s := by simp [fetch, poll]
  cases h with
  | endless hrun => exact (count_waits s left).le
  | unread hn hrun hfault =>
    rw [List.count_append, count_waits]
    simp
    omega
  | finished hn hrun hover =>
    rw [List.count_append, count_waits]
    simp [hfetch]
    omega

theorem Ends.fetch_mem_iff (h : Ends s answers left deeds result) :
    fetch s ∈ deeds ↔ ∃ n < left, Running answers n ∧ Over answers n := by
  have hpoll : fetch s ≠ poll s := by simp [fetch, poll]
  cases h with
  | endless hrun =>
    refine iff_of_false (fetch_not_mem_waits s left) ?_
    rintro ⟨n, hn, -, hover⟩
    exact not_busy_of_over hover (hrun n hn)
  | @unread n fault hn hrun hfault =>
    refine iff_of_false (by simp [fetch_not_mem_waits, hpoll]) ?_
    rintro ⟨m, -, hrun', hover⟩
    obtain rfl := hrun.unique hrun' (not_busy_of_error hfault) (not_busy_of_over hover)
    exact not_over_of_error hfault hover
  | @finished n hn hrun hover => exact iff_of_true (by simp) ⟨n, hn, hrun, hover⟩

theorem Ends.endless_iff (h : Ends s answers left deeds result) :
    result = .error (.readFailed "BMP280" "wait for conversion" "measurement still running") ↔
      Running answers left := by
  cases h with
  | endless hrun => exact iff_of_true rfl hrun
  | unread hn hrun hfault =>
    exact iff_of_false (by simp) fun hall => not_busy_of_error hfault (hall _ hn)
  | @finished n hn hrun hover =>
    refine iff_of_false ?_ fun hall => not_busy_of_over hover (hall _ hn)
    cases answers (n + 1) <;> simp [fetched]

theorem Ends.unread_iff (h : Ends s answers left deeds result) :
    result = .error (.readFailed "BMP280" "read status" "I2C communication error") ↔
      ∃ n < left, Running answers n ∧ ∃ fault, answers n = .error fault := by
  cases h with
  | endless hrun =>
    refine iff_of_false (by simp) ?_
    rintro ⟨n, hn, -, fault, hfault⟩
    exact not_busy_of_error hfault (hrun n hn)
  | @unread n fault hn hrun hfault => exact iff_of_true rfl ⟨n, hn, hrun, fault, hfault⟩
  | @finished n hn hrun hover =>
    refine iff_of_false ?_ ?_
    · cases answers (n + 1) <;> simp [fetched]
    · rintro ⟨m, -, hrun', fault, hfault⟩
      obtain rfl := hrun.unique hrun' (not_busy_of_over hover) (not_busy_of_error hfault)
      exact not_over_of_error hfault hover

/-- No failure of the wait touches the data registers. -/
theorem Ends.untouched (h : Ends s answers left deeds result)
    (hresult : result =
        .error (.readFailed "BMP280" "wait for conversion" "measurement still running") ∨
      result = .error (.readFailed "BMP280" "read status" "I2C communication error")) :
    fetch s ∉ deeds := by
  have hpoll : fetch s ≠ poll s := by simp [fetch, poll]
  cases h with
  | endless hrun => exact fetch_not_mem_waits s left
  | @unread n => simp [fetch_not_mem_waits, hpoll]
  | @finished n => cases hdata : answers (n + 1) <;> simp [hdata, fetched] at hresult

end Ends

/-- A forced measurement is polled until it is over, and only then read. -/
structure PollsBeforeReading (s : Setup) (answers : Answers) (deeds : List Deed)
    (result : Except SensorError (Vector UInt8 6)) : Prop where
  ends : Ends s answers 32 deeds result
  polls : deeds.count (poll s) ≤ 32
  read_iff : fetch s ∈ deeds ↔ ∃ n < 32, Running answers n ∧ Over answers n
  endless_iff :
    result = .error (.readFailed "BMP280" "wait for conversion" "measurement still running") ↔
      Running answers 32
  unread_iff : result = .error (.readFailed "BMP280" "read status" "I2C communication error") ↔
    ∃ n < 32, Running answers n ∧ ∃ fault, answers n = .error fault
  untouched : result =
      .error (.readFailed "BMP280" "wait for conversion" "measurement still running") ∨
    result = .error (.readFailed "BMP280" "read status" "I2C communication error") →
      fetch s ∉ deeds

/-- Whatever the bus answers, a forced conversion is not read while it runs, and in the other
modes the data registers are read at once. -/
theorem receive_pollsBeforeReading (s : Setup) (answers : Answers)
    (calibration : Option Barometer.Calibration) (extra : Nat) (js : Array Notice) :
    ∃ result t js', (receive s).perform serve (32 + extra) ⟨⟨answers, []⟩, calibration⟩ js =
        ((.done result, t), js') ∧
      (s.measurement.mode = .forced → PollsBeforeReading s answers t.bus.deeds result) ∧
      (s.measurement.mode ≠ .forced →
        t.bus.deeds = [fetch s] ∧ result = fetched (answers 0)) := by
  let d : Device Script := ⟨⟨answers, []⟩, calibration⟩
  by_cases hmode : s.measurement.mode = .forced
  · have hstart : (receive s).perform serve (32 + extra) d js =
        attend s 32 (32 + extra) d js := by
      simp [Activity.perform, receive, hmode, attend, maxStatusReads]
    obtain ⟨result, t, js', deeds, hrun, hdeeds, hends⟩ := attend_ends (s := s) 32 extra d js
    refine ⟨result, t, js', hstart.trans hrun, fun _ => ?_, fun hne => absurd hmode hne⟩
    rw [hdeeds]
    exact ⟨hends, hends.count_le, hends.fetch_mem_iff, hends.endless_iff, hends.unread_iff,
      hends.untouched⟩
  · obtain ⟨js', hread⟩ := readData_apply (s := s) d js
    have hstart : (receive s).start d js = readData s d js := by simp [receive, hmode]
    exact ⟨_, _, js', Activity.perform_done (hstart.trans hread) _, fun h => absurd h hmode,
      fun _ => ⟨rfl, rfl⟩⟩

/-! ### A conversion that is over at the second look -/

def forced : Setup := { measurement := { mode := .forced } }

/-- The first look finds the measuring bit set among others, and the second finds all but that
one set. -/
def secondLook : Answers
  | 0 => .ok fun _ => 0x0C
  | 1 => .ok fun _ => 0xF7
  | _ => .ok fun k => UInt8.ofNat k

theorem receive_pollsBeforeReading_secondLook :
    ∃ result t js', (receive forced).perform serve 32 ⟨⟨secondLook, []⟩, none⟩ #[] =
        ((.done result, t), js') ∧
      PollsBeforeReading forced secondLook t.bus.deeds result ∧
      t.bus.deeds = [poll forced, .slept 2, poll forced, fetch forced] := by
  obtain ⟨result, t, js', hrun, hforced, -⟩ :=
    receive_pollsBeforeReading forced secondLook none 0 #[]
  have hdeeds : ((receive forced).perform serve 32 ⟨⟨secondLook, []⟩, none⟩ #[]).1.2.bus.deeds =
      [poll forced, .slept 2, poll forced, fetch forced] := by decide
  refine ⟨result, t, js', hrun, hforced rfl, ?_⟩
  rw [← hdeeds, hrun]

end AirStation.Bmp280
