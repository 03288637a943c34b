import AirStation.Proofs.Sensor.Conversion
import AirStation.Rig.Chip

/-! How the BMP280 is brought up: five transactions, each of which has to go well before the
next, and a pause after the reset. Whatever a bus answers, what is done is decided by how many
of the transactions go well in a row. On a register-level chip all of them do, and nothing but
the two setup registers is different afterwards. -/

namespace AirStation.Bmp280

open Script

/-! ### The course of a bring-up -/

def Deed.isTransaction : Deed → Bool
  | .transacted _ _ => true
  | .slept _ => false

/-- The transactions in their order. -/
def plan (s : Setup) : List Deed :=
  [.transacted s.address [.write [0xD0], .read 1],
    .transacted s.address [.write [0xE0, 0xB6]],
    .transacted s.address [.write [0x88], .read 24],
    .transacted s.address [.write [0xF5, s.measurement.config]],
    .transacted s.address [.write [0xF4, s.measurement.ctrlMeas]]]

/-- The same with the pause after the reset. -/
def course (s : Setup) : List Deed :=
  (plan s).take 2 ++ .slept 2 :: (plan s).drop 2

/-- Such a transaction goes well, and the first one also finds the chip. -/
def Passes (answers : Answers) (k : Nat) : Prop :=
  ∃ bytes, answers k = .ok bytes ∧ (k = 0 → bytes 0 = 0x58)

/-- So many transactions go well in a row, and then one does not, if there is one more. -/
structure Stops (answers : Answers) (n : Nat) : Prop where
  le : n ≤ 5
  passed : ∀ k < n, Passes answers k
  stopped : n < 5 → ¬ Passes answers n

/-- What is done if so many go well. -/
def carriedOut (s : Setup) (n : Nat) : List Deed :=
  (course s).take (if n < 2 then n + 1 else n + 2)

/-- What is told of the first transaction that does not go well. -/
def complaint (answers : Answers) : Nat → String
  | 0 =>
    match answers 0 with
    | .error _ => "I2C communication error"
    | .ok _ => "unexpected chip id"
  | 1 => "soft reset failed"
  | 2 => "failed to read calibration"
  | 3 => "failed to write config"
  | _ => "failed to write ctrl_meas"

def verdict (answers : Answers) (n : Nat) : Except SensorError Unit :=
  if n = 5 then .ok () else .error (.bringUpFailed "BMP280" (complaint answers n))

/-- The calibration afterwards, given what the third transaction reads. -/
def learned (answers : Answers) (n : Nat) (before : Option Barometer.Calibration) :
    Option Barometer.Calibration :=
  match answers 2 with
  | .ok bytes => if 3 ≤ n then some (.decode (Vector.ofFn fun i => bytes i)) else before
  | .error _ => before

variable {s : Setup} {answers : Answers} {n : Nat}

theorem Stops.passed_iff (h : Stops answers n) {m : Nat} (hm : m ≤ 5) :
    (∀ k < m, Passes answers k) ↔ m ≤ n := by
  constructor
  · intro hall
    by_contra hlt
    have hn : n < m := by omega
    exact h.stopped (by omega) (hall n hn)
  · intro hle k hk
    exact h.passed k (by omega)

theorem filter_carriedOut (s : Setup) (hn : n ≤ 5) :
    (carriedOut s n).filter Deed.isTransaction = (plan s).take (n + 1) := by
  match n, hn with
  | 0, _ | 1, _ | 2, _ | 3, _ | 4, _ | 5, _ => rfl
  | k + 6, h => omega

theorem passes_of_ok {k : Nat} (hk : k ≠ 0) {bytes : Nat → UInt8} (h : answers k = .ok bytes) :
    Passes answers k := ⟨bytes, h, fun hzero => absurd hzero hk⟩

theorem not_passes_of_error {k : Nat} {fault : BusFault} (h : answers k = .error fault) :
    ¬ Passes answers k := not_ok_of_error h

theorem Stops.of_error {fault : BusFault} (hn : n < 5) (h : ∀ k < n, Passes answers k)
    (hfault : answers n = .error fault) : Stops answers n :=
  ⟨hn.le, h, fun _ => not_passes_of_error hfault⟩

/-! ### The transactions, one after another

A stage of the bring-up is entered with the answers shifted by the transactions before it, all of
which went well, and with a front of the course done. The stages are taken from the last to the
first, so that each ends with what comes of the one after it. -/

theorem writeRegister_apply (register value : UInt8) (d : Device Script) (js : Array Notice) :
    writeRegister s register value d js =
      (((d.bus.answers 0).map fun _ => (),
        { d with bus := d.bus.answered s.address [.write [register, value]] }), js) := by
  simp only [writeRegister, I2cBus.transact, Act.bind_apply, Act.on_apply, Act.get_apply,
    Act.set_apply, Act.pure_apply, Device.busPart]
  cases d.bus.answers 0 <;> rfl

theorem configure_stops {d : Device Script} (h : ∀ k < 3, Passes answers k)
    (hanswers : d.bus.answers = fun k => answers (k + 3))
    (hdeeds : d.bus.deeds = (course s).take 4) (js : Array Notice) :
    ∃ n t js', Stops answers n ∧ 3 ≤ n ∧
      configure s d js = ((.done (verdict answers n), t), js') ∧
      t.bus.deeds = carriedOut s n ∧ t.calibration = d.calibration := by
  simp only [configure, Act.bind_apply, writeRegister_apply, answered, hanswers, hdeeds]
  cases h3 : answers (0 + 3) with
  | error fault =>
    exact ⟨3, _, _, .of_error (by decide) h h3, Nat.le_refl 3, rfl, rfl, rfl⟩
  | ok bytes =>
    have h' := Nat.forall_lt_succ_right.2 ⟨h, passes_of_ok (by decide) h3⟩
    simp only [Except.map, Act.bind_apply, writeRegister_apply, answered]
    cases h4 : answers (0 + 1 + 3) with
    | error fault =>
      exact ⟨4, _, _, .of_error (by decide) h' h4, by decide, rfl, rfl, rfl⟩
    | ok bytes' =>
      have h'' := Nat.forall_lt_succ_right.2 ⟨h', passes_of_ok (by decide) h4⟩
      have hstops : Stops answers 5 := ⟨Nat.le_refl 5, h'', fun h => absurd h (Nat.lt_irrefl 5)⟩
      exact ⟨5, _, _, hstops, by decide, rfl, rfl, rfl⟩

theorem calibrate_stops {d : Device Script} (h : ∀ k < 2, Passes answers k)
    (hanswers : d.bus.answers = fun k => answers (k + 2))
    (hdeeds : d.bus.deeds = (course s).take 3) (js : Array Notice) :
    ∃ n t js', Stops answers n ∧ calibrate s d js = ((.done (verdict answers n), t), js') ∧
      t.bus.deeds = carriedOut s n ∧ t.calibration = learned answers n d.calibration := by
  simp only [calibrate, Act.bind_apply, readRegisters_apply, answered, hanswers, hdeeds]
  cases h2 : answers (0 + 2) with
  | error fault =>
    refine ⟨2, _, _, .of_error (by decide) h h2, rfl, rfl, ?_⟩
    simp [learned, h2]
  | ok bytes =>
    have h' := Nat.forall_lt_succ_right.2 ⟨h, passes_of_ok (by decide) h2⟩
    let next : Device Script :=
      ⟨⟨fun k => answers (k + 3), (course s).take 4⟩, some (.decode (Vector.ofFn fun i => bytes i))⟩
    obtain ⟨n, t, js', hstops, hn, hrun, hdone, hkept⟩ :=
      configure_stops (s := s) (d := next) h' rfl rfl js
    refine ⟨n, t, js', hstops, hrun, hdone, hkept.trans ?_⟩
    simp [learned, h2, hn, next]

/-- The device after so many of the first two transactions. -/
def begun (s : Setup) (answers : Answers) (calibration : Option Barometer.Calibration) (n : Nat) :
    Device Script :=
  ⟨⟨fun k => answers (k + n), (course s).take n⟩, calibration⟩

theorem identify_stops (s : Setup) (answers : Answers)
    (calibration : Option Barometer.Calibration) (js : Array Notice) :
    (∃ n t js', Stops answers n ∧ n < 2 ∧
        identify s (⟨⟨answers, []⟩, calibration⟩ : Device Script) js =
          ((.done (verdict answers n), t), js') ∧
        t.bus.deeds = carriedOut s n ∧ t.calibration = calibration) ∨
      (∀ k < 2, Passes answers k) ∧
        identify s (⟨⟨answers, []⟩, calibration⟩ : Device Script) js =
          ((.paused (), begun s answers calibration 2), js) := by
  have hnone : ∀ k < 0, Passes answers k := fun k hk => absurd hk (Nat.not_lt_zero k)
  simp only [identify, Act.bind_apply, readRegisters_apply, answered]
  cases h0 : answers 0 with
  | error fault =>
    have hverdict : verdict answers 0 =
        .error (.bringUpFailed "BMP280" "I2C communication error") := by
      simp [verdict, complaint, h0]
    refine .inl ⟨0, begun s answers calibration 1, js.push (.chipIdUnread fault),
      .of_error (by decide) hnone h0, by decide, ?_, rfl, rfl⟩
    rw [hverdict]
    rfl
  | ok bytes =>
    simp only [Except.map, Vector.getElem_ofFn]
    by_cases hid : bytes 0 = Barometer.chipId
    · have h := Nat.forall_lt_succ_right.2 ⟨hnone, bytes, h0, fun _ => hid⟩
      rw [if_neg (not_not_intro hid)]
      simp only [Act.bind_apply, writeRegister_apply, answered]
      cases h1 : answers (0 + 1) with
      | error fault =>
        exact .inl ⟨1, begun s answers calibration 2, js.push (.resetFailed fault),
          .of_error (by decide) h h1, by decide, rfl, rfl, rfl⟩
      | ok bytes' =>
        exact .inr ⟨Nat.forall_lt_succ_right.2 ⟨h, passes_of_ok (by decide) h1⟩, rfl⟩
    · have hforeign : ¬ Passes answers 0 := by
        rintro ⟨bytes', hok, hid'⟩
        rw [h0] at hok
        cases hok
        exact hid (hid' rfl)
      have hverdict : verdict answers 0 =
          .error (.bringUpFailed "BMP280" "unexpected chip id") := by
        simp [verdict, complaint, h0]
      rw [if_pos hid]
      refine .inl ⟨0, begun s answers calibration 1, js.push (.chipIdForeign (bytes 0)),
        ⟨by decide, hnone, fun _ => hforeign⟩, by decide, ?_, rfl, rfl⟩
      rw [hverdict]
      rfl

theorem learned_of_lt (hn : n < 3) (before : Option Barometer.Calibration) :
    learned answers n before = before := by
  unfold learned
  cases answers 2 with
  | error fault => rfl
  | ok bytes => exact if_neg (by omega)

/-- What is done for a bring-up, and what comes of it, by how far it gets. -/
theorem bringUp_stops (s : Setup) (answers : Answers) (calibration : Option Barometer.Calibration)
    (extra : Nat) (js : Array Notice) :
    ∃ n t js', Stops answers n ∧
      (bringUp s).perform serve (1 + extra) ⟨⟨answers, []⟩, calibration⟩ js =
        ((.done (verdict answers n), t), js') ∧
      t.bus.deeds = carriedOut s n ∧ t.calibration = learned answers n calibration := by
  rcases identify_stops s answers calibration js with
    ⟨n, t, js', hstops, hn, hstart, hdone, hkept⟩ | ⟨hpassed, hstart⟩
  · refine ⟨n, t, js', hstops, Activity.perform_done hstart _, hdone, ?_⟩
    rw [hkept, learned_of_lt (by omega)]
  · -- The pause comes between the stages and is the only deed that is no transaction.
    let slept : Device Script :=
      ⟨⟨fun k => answers (k + 2), (course s).take 3⟩, calibration⟩
    obtain ⟨n, t, js', hstops, hrun, hdone, hlearned⟩ :=
      calibrate_stops (s := s) (d := slept) hpassed rfl rfl js
    refine ⟨n, t, js', hstops, ?_, hdone, hlearned⟩
    rw [Nat.add_comm]
    exact Activity.perform_replied hstart rfl hrun extra

/-- On a bus that answers so the bring-up stops at the first transaction that does not go well:
which transactions are issued, when the sensor is said to be up, when it pauses, what calibration
it has afterwards, and what is told of a failure. -/
structure StopsAtFirstFailure (s : Setup) (answers : Answers)
    (before : Option Barometer.Calibration) (deeds : List Deed) (result : Except SensorError Unit)
    (after : Option Barometer.Calibration) : Prop where
  issued : ∃ n < 5, deeds.filter Deed.isTransaction = (plan s).take (n + 1) ∧
    (∀ k < n, Passes answers k) ∧ (n < 4 → ¬ Passes answers n)
  ordered : deeds <+: course s
  ok_iff : result = .ok () ↔ ∀ k < 5, Passes answers k
  slept_iff (length : Millis) : .slept length ∈ deeds ↔ length = 2 ∧ ∀ k < 2, Passes answers k
  loaded (bytes : Nat → UInt8) : (∀ k < 3, Passes answers k) → answers 2 = .ok bytes →
    after = some (.decode (Vector.ofFn fun i => bytes i))
  kept : (¬ ∀ k < 3, Passes answers k) → after = before
  told (n : Nat) : n < 5 → (∀ k < n, Passes answers k) → ¬ Passes answers n →
    result = .error (.bringUpFailed "BMP280" (complaint answers n))

theorem slept_mem_carriedOut (s : Setup) (hn : n ≤ 5) (length : Millis) :
    .slept length ∈ carriedOut s n ↔ length = 2 ∧ 2 ≤ n := by
  match n, hn with
  | 0, _ | 1, _ | 2, _ | 3, _ | 4, _ | 5, _ => simp [carriedOut, course, plan]
  | k + 6, h => omega

theorem Stops.eq_of_stopped (h : Stops answers n) {m : Nat} (hm : m < 5)
    (hpassed : ∀ k < m, Passes answers k) (hstopped : ¬ Passes answers m) : m = n := by
  have hle := (h.passed_iff hm.le).1 hpassed
  by_contra hne
  exact hstopped (h.passed m (by omega))

theorem Stops.stopsAtFirstFailure (h : Stops answers n) (before : Option Barometer.Calibration) :
    StopsAtFirstFailure s answers before (carriedOut s n) (verdict answers n)
      (learned answers n before) where
  issued := by
    have hfilter := filter_carriedOut s h.le
    rcases Nat.lt_or_ge n 5 with hn | hn
    · exact ⟨n, hn, hfilter, h.passed, fun _ => h.stopped hn⟩
    · obtain rfl : n = 5 := Nat.le_antisymm h.le hn
      refine ⟨4, by decide, hfilter, fun k hk => h.passed k (by omega), fun hlt => ?_⟩
      exact absurd hlt (by decide)
  ordered := List.take_prefix _ _
  ok_iff := by
    rw [h.passed_iff (Nat.le_refl 5), verdict]
    have hle := h.le
    split
    · exact iff_of_true rfl (by omega)
    · exact iff_of_false nofun (by omega)
  slept_iff length := by
    rw [slept_mem_carriedOut s h.le, h.passed_iff (by decide)]
  loaded bytes hpassed hbytes := by
    have hn := (h.passed_iff (by decide)).1 hpassed
    simp only [learned, hbytes, if_pos hn]
  kept hnot := by
    rw [h.passed_iff (by decide)] at hnot
    exact learned_of_lt (by omega) before
  told m hm hpassed hstopped := by
    obtain rfl := h.eq_of_stopped hm hpassed hstopped
    exact if_neg (by omega)

end AirStation.Bmp280

/-! ### Registers -/

namespace AirStation.Barometer.RegisterFile

@[simp] theorem get_point (r : RegisterFile) (p a : UInt8) : (r.point p).get a = r.get a := rfl

@[simp] theorem get_advance (r : RegisterFile) (a : UInt8) : r.advance.get a = r.get a := rfl

theorem get_put (r : RegisterFile) (a v b : UInt8) :
    (r.put a v).get b = if b = a then v else r.get b := by
  split
  · next h => rw [h, get_put_self]
  · next h => exact get_put_of_ne (Ne.symm h) r v

theorem add_ofNat_zero (p : UInt8) : p + UInt8.ofNat 0 = p := UInt8.add_zero p

/-- A read leaves the registers as they are and moves the pointer past what was read. -/
theorem take_apply (r : RegisterFile) (n : Nat) :
    r.take n = ((List.range n).map fun k => r.get (r.pointer + UInt8.ofNat k),
      r.point (r.pointer + UInt8.ofNat n)) := by
  induction n generalizing r with
  | zero =>
    rw [take, add_ofNat_zero]
    rfl
  | succ n ih =>
    have hstep (k : Nat) : r.advance.pointer + UInt8.ofNat k = r.pointer + UInt8.ofNat (k + 1) := by
      rw [advance, point, UInt8.add_assoc, UInt8.ofNat_add, UInt8.add_comm 1]
      rfl
    rw [take, ih]
    simp only [hstep, get_advance, List.range_succ_eq_map, List.map_cons, List.map_map,
      add_ofNat_zero]
    rfl

end AirStation.Barometer.RegisterFile

/-! ### The chip -/

namespace AirStation

open Barometer

namespace Rig.Chip

/-- The chip with its pointer moved. -/
def pointed (c : Chip) (register : UInt8) : Chip :=
  { c with registers := c.registers.point register }

theorem dead_store (c : Chip) (value : UInt8) : (c.store value).dead = c.dead := by
  rw [store]
  split
  · rfl
  · split <;> rfl

theorem dead_writeBytes (c : Chip) (register value : UInt8) :
    (c.writeBytes [register, value]).dead = c.dead := dead_store (c.pointed register) value

/-- The reset command clears the setup and is not kept itself. -/
theorem get_reset (c : Chip) (a : UInt8) :
    (c.writeBytes [Register.reset, resetCommand]).registers.get a =
      if a = Register.ctrlMeas ∨ a = Register.config then 0 else c.registers.get a := by
  change (Bus.store (c.registers.point Register.reset) resetCommand).get a = _
  rw [Bus.store, if_pos ⟨rfl, rfl⟩, RegisterFile.get_advance, RegisterFile.get_put,
    RegisterFile.get_put, RegisterFile.get_point]
  by_cases hmeas : a = Register.ctrlMeas
  · simp [hmeas]
  · simp [hmeas]

/-- What is written anywhere else is kept there. -/
theorem get_writeBytes {register : UInt8} (hregister : register ≠ Register.reset) (value : UInt8)
    (c : Chip) (a : UInt8) :
    (c.writeBytes [register, value]).registers.get a =
      if a = register then value else c.registers.get a := by
  change (Bus.store (c.registers.point register) value).get a = _
  rw [Bus.store, if_neg (fun h => hregister h.1), RegisterFile.get_advance, RegisterFile.get_put]
  rfl

/-- Reading registers leaves what is in them, unless it starts at the status. -/
theorem carryOut_read {first : UInt8} (hfirst : first ≠ Register.status) (n : Nat) (c : Chip) :
    carryOut [.write [first], .read n] c =
      ((List.range n).map fun k => c.registers.get (first + UInt8.ofNat k),
        c.pointed (first + UInt8.ofNat n)) := by
  have hrefresh : (c.writeBytes [first]).refresh = c.writeBytes [first] := if_neg hfirst
  simp only [carryOut, hrefresh, RegisterFile.take_apply, List.append_nil]
  rfl

theorem transact_apply {c : Chip} (halive : c.dead = false) (parts : List BusOp)
    (js : Array Notice) :
    transact busAddress parts c js = ((.ok (carryOut parts c).1, (carryOut parts c).2), js) := by
  simp [transact, halive]

end Rig.Chip

namespace Bmp280

variable {s : Setup} {c : Rig.Chip} {calibration : Option Calibration}

/-- The bytes that stand in the registers from `first` on. -/
def window (r : RegisterFile) (first : UInt8) (n : Nat) : Vector UInt8 n :=
  Vector.ofFn fun i => r.get (first + UInt8.ofNat i)

theorem readRegisters_chip (haddress : s.address = busAddress) (halive : c.dead = false)
    {first : UInt8} (hfirst : first ≠ Register.status) (n : Nat) (js : Array Notice) :
    readRegisters s first n ⟨c, calibration⟩ js = ((.ok (window c.registers first n),
      ⟨c.pointed (first + UInt8.ofNat n), calibration⟩), js) := by
  have htransact := Rig.Chip.transact_apply halive [.write [first], .read n] js
  simp only [readRegisters, I2cBus.transact, Act.bind_apply, Act.on_apply, Act.pure_apply,
    Device.busPart, haddress, htransact, Rig.Chip.carryOut_read hfirst, Except.map,
    buffer_map_range]
  rfl

theorem writeRegister_chip (haddress : s.address = busAddress) (halive : c.dead = false)
    (register value : UInt8) (js : Array Notice) :
    writeRegister s register value ⟨c, calibration⟩ js =
      ((.ok (), ⟨c.writeBytes [register, value], calibration⟩), js) := by
  have htransact := Rig.Chip.transact_apply halive [.write [register, value]] js
  simp only [writeRegister, I2cBus.transact, Act.bind_apply, Act.on_apply, Act.pure_apply,
    Device.busPart, haddress, htransact]
  rfl

/-- The chip answers to its address, works, and is what it should be. -/
structure Fit (s : Setup) (c : Rig.Chip) : Prop where
  address : s.address = busAddress
  alive : c.dead = false
  identity : c.registers.get 0xD0 = 0x58

theorem identify_chip (h : Fit s c) (js : Array Notice) :
    identify s ⟨c, calibration⟩ js = ((.paused (),
      ⟨(c.pointed 0xD1).writeBytes [Register.reset, resetCommand], calibration⟩), js) := by
  have hid : (window c.registers Register.chipId 1)[0] = chipId := by
    rw [window, Vector.getElem_ofFn]
    exact h.identity
  have halive : (c.pointed (Register.chipId + UInt8.ofNat 1)).dead = false := h.alive
  rw [identify, Act.bind_apply, readRegisters_chip h.address h.alive (by decide)]
  simp only [hid, ne_eq, not_true_eq_false, if_false]
  rw [Act.bind_apply, writeRegister_chip h.address halive]
  rfl

/-- The chip once its setup is written. -/
def configured (s : Setup) (c : Rig.Chip) : Rig.Chip :=
  (c.writeBytes [Register.config, s.measurement.config]).writeBytes
    [Register.ctrlMeas, s.measurement.ctrlMeas]

theorem configure_chip (haddress : s.address = busAddress) (halive : c.dead = false)
    (js : Array Notice) :
    ∃ js', configure s ⟨c, calibration⟩ js =
      ((.done (.ok ()), ⟨configured s c, calibration⟩), js') := by
  have halive' := (c.dead_writeBytes Register.config s.measurement.config).trans halive
  refine ⟨js.push (.configured s.measurement.ctrlMeas s.measurement.config), ?_⟩
  rw [configure, Act.bind_apply, writeRegister_chip haddress halive]
  simp only
  rw [Act.bind_apply, writeRegister_chip haddress halive']
  rfl

theorem get_configured (s : Setup) (c : Rig.Chip) (a : UInt8) :
    (configured s c).registers.get a =
      if a = Register.ctrlMeas then s.measurement.ctrlMeas
      else if a = Register.config then s.measurement.config else c.registers.get a := by
  rw [configured, Rig.Chip.get_writeBytes (by decide), Rig.Chip.get_writeBytes (by decide)]

theorem calibrate_chip (haddress : s.address = busAddress) (halive : c.dead = false)
    (calibration : Option Calibration) (js : Array Notice) :
    ∃ js', calibrate s ⟨c, calibration⟩ js = ((.done (.ok ()), ⟨configured s (c.pointed 0xA0),
      some (.decode (window c.registers Register.calibration 24))⟩), js') := by
  rw [calibrate, Act.bind_apply, readRegisters_chip haddress halive (by decide)]
  exact configure_chip (c := c.pointed 0xA0) haddress halive js

/-- Nothing happens to the device in a pause. -/
def rest {B : Type} : (d : SensorDemand) → Act (Device B) (Option d.Reply)
  | .pause _ => pure (some ())
  | .read _ _ => pure none

/-- The device once the sensor is brought up on a chip that held `before`. -/
structure Equipped (s : Setup) (before : RegisterFile) (d : Device Rig.Chip) : Prop where
  calibration : d.calibration = some (.decode (window before 0x88 24))
  ctrlMeas : d.bus.registers.get 0xF4 = s.measurement.ctrlMeas
  config : d.bus.registers.get 0xF5 = s.measurement.config
  kept (a : UInt8) : a ≠ 0xF4 → a ≠ 0xF5 → d.bus.registers.get a = before.get a

/-- A chip that is fit is brought up, whatever else it holds. -/
theorem bringUp_chip (h : Fit s c) (calibration : Option Calibration) (extra : Nat)
    (js : Array Notice) :
    ∃ t js', (bringUp s).perform rest (1 + extra) ⟨c, calibration⟩ js =
      ((.done (.ok ()), t), js') ∧ Equipped s c.registers t := by
  let r := (c.pointed 0xD1).writeBytes [Register.reset, resetCommand]
  have halive : r.dead = false := (Rig.Chip.dead_writeBytes ..).trans h.alive
  have hcleared (a : UInt8) : r.registers.get a =
      if a = Register.ctrlMeas ∨ a = Register.config then 0 else c.registers.get a :=
    Rig.Chip.get_reset _ a
  obtain ⟨js', hresume⟩ := calibrate_chip h.address halive calibration js
  refine ⟨⟨configured s (r.pointed 0xA0), some (.decode (window r.registers 0x88 24))⟩, js', ?_, ?_⟩
  · rw [Nat.add_comm]
    exact Activity.perform_replied (identify_chip h js) rfl hresume extra
  -- The reset clears none of the registers that hold the calibration.
  have hwindow : window r.registers 0x88 24 = window c.registers 0x88 24 := by
    have hapart : ∀ i : Fin 24, 0x88 + UInt8.ofNat i ≠ Register.ctrlMeas ∧
        0x88 + UInt8.ofNat i ≠ Register.config := by decide
    unfold window
    congr 1
    funext i
    rw [hcleared, if_neg (not_or.2 (hapart i))]
  have hset := get_configured s (r.pointed 0xA0)
  refine ⟨congrArg (some ∘ Calibration.decode) hwindow, (hset _).trans (if_pos rfl),
    (hset _).trans (if_neg (by decide)), fun a hmeas hconfig => ?_⟩
  calc (configured s (r.pointed 0xA0)).registers.get a
      = r.registers.get a := ((hset a).trans (if_neg hmeas)).trans (if_neg hconfig)
    _ = c.registers.get a := (hcleared a).trans (if_neg (not_or.2 ⟨hmeas, hconfig⟩))

/-- Whatever a bus answers, the sensor is brought up as far as it goes well, and on a chip that is
fit it is brought up whatever the chip holds. -/
theorem bringUp_stopsAtFirstFailure (s : Setup) (calibration : Option Calibration) (extra : Nat)
    (js : Array Notice) :
    (∀ answers, ∃ result t js',
      (bringUp s).perform Script.serve (1 + extra) ⟨⟨answers, []⟩, calibration⟩ js =
        ((.done result, t), js') ∧
      StopsAtFirstFailure s answers calibration t.bus.deeds result t.calibration) ∧
    ∀ c, Fit s c → ∃ t js',
      (bringUp s).perform rest (1 + extra) ⟨c, calibration⟩ js = ((.done (.ok ()), t), js') ∧
      Equipped s c.registers t := by
  refine ⟨fun answers => ?_, fun c h => bringUp_chip h calibration extra js⟩
  obtain ⟨n, t, js', hstops, hrun, hdone, hlearned⟩ := bringUp_stops s answers calibration extra js
  refine ⟨_, t, js', hrun, ?_⟩
  rw [hdone, hlearned]
  exact hstops.stopsAtFirstFailure calibration

/-! ### A bus that loses the calibration, and the chip as it comes -/

def calibrationLost : Answers
  | 0 => .ok fun _ => 0x58
  | 2 => .error .bus
  | _ => .ok fun _ => 0

theorem bringUp_stopsAtFirstFailure_calibrationLost :
    (∃ result t js', (bringUp {}).perform Script.serve 1 ⟨⟨calibrationLost, []⟩, none⟩ #[] =
        ((.done result, t), js') ∧
      StopsAtFirstFailure {} calibrationLost none t.bus.deeds result t.calibration ∧
      t.bus.deeds = (course {}).take 4 ∧
      result = .error (.bringUpFailed "BMP280" "failed to read calibration")) ∧
    Fit {} {} ∧ ∃ t js',
      (bringUp {}).perform rest 1 ⟨({} : Rig.Chip), none⟩ #[] = ((.done (.ok ()), t), js') ∧
      Equipped {} ({} : Rig.Chip).registers t := by
  have hfit : Fit {} {} := ⟨rfl, rfl, by decide⟩
  obtain ⟨hany, hchip⟩ := bringUp_stopsAtFirstFailure {} none 0 #[]
  obtain ⟨result, t, js', hrun, hstops⟩ := hany calibrationLost
  have hran : ((bringUp {}).perform Script.serve 1 ⟨⟨calibrationLost, []⟩, none⟩ #[]).1 =
      (.done (.error (.bringUpFailed "BMP280" "failed to read calibration")),
        ⟨⟨fun k => calibrationLost (k + 3), (course {}).take 4⟩, none⟩) := rfl
  rw [hrun] at hran
  cases hran
  exact ⟨⟨_, _, js', hrun, hstops, rfl, rfl⟩, hfit, hchip {} hfit⟩

end Bmp280

end AirStation
