import AirStation.Barometer.Calibration
import AirStation.Barometer.Registers
import AirStation.Board.SharedBus
import AirStation.Config
import AirStation.Sensor

/-! The BMP280 on a bus. The bring-up checks the chip, resets it, reads its
calibration and writes the measurement setup. In forced mode every cycle triggers a
conversion and looks at the status until it is over, at most 32 times. -/

namespace AirStation

namespace Bmp280

open Barometer

def part : String := "BMP280"

/-- The start-up time after a reset. -/
def resetDelay : Millis := 2

/-- The pause between two looks at the status. -/
def statusDelay : Millis := 2

def maxStatusReads : Nat := 32

/-- Where the sensor is, how it measures, and how its temperature is corrected. -/
structure Setup where
  address : UInt8 := busAddress
  measurement : Measurement := {}
  correction : TemperatureCorrection := {}

structure Device (B : Type) where
  bus : B
  calibration : Option Calibration := none

def Device.busPart {B : Type} : Part (Device B) B := ⟨Device.bus, fun b d => { d with bus := b }⟩

/-- A buffer of `n` zeros with the given bytes written over its front. -/
def buffer (n : Nat) (bs : Bytes) : Vector UInt8 n :=
  Vector.ofFn fun i => bs.getD i 0

variable {B : Type} [I2cBus B]

/-- Reads registers from `first` on. -/
def readRegisters (s : Setup) (first : UInt8) (n : Nat) :
    Act (Device B) (Except BusFault (Vector UInt8 n)) := do
  let r ← (I2cBus.transact s.address [.write [first], .read n]).on Device.busPart
  pure (r.map (buffer n))

def writeRegister (s : Setup) (register value : UInt8) : Act (Device B) (Except BusFault Unit) := do
  let r ← (I2cBus.transact s.address [.write [register, value]]).on Device.busPart
  pure (r.map fun _ => ())

/-! ### Bring-up -/

abbrev BringUp := Progress Unit (Except SensorError Unit)

def bringUpFailed (details : String) : BringUp :=
  .done (.error (.bringUpFailed part details))

/-- Checks the chip and resets it, then pauses. -/
def identify (s : Setup) : Act (Device B) BringUp := do
  match ← readRegisters s Register.chipId 1 with
  | .error fault =>
    note (.chipIdUnread fault)
    pure (bringUpFailed "I2C communication error")
  | .ok id =>
    if id[0] ≠ chipId then
      note (.chipIdForeign id[0])
      pure (bringUpFailed "unexpected chip id")
    else
      match ← writeRegister s Register.reset resetCommand with
      | .error fault =>
        note (.resetFailed fault)
        pure (bringUpFailed "soft reset failed")
      | .ok () => pure (.paused ())

/-- Writes the setup; the first register counts only while the chip sleeps, so it goes
first. -/
def configure (s : Setup) : Act (Device B) BringUp := do
  match ← writeRegister s Register.config s.measurement.config with
  | .error _ => pure (bringUpFailed "failed to write config")
  | .ok () =>
    match ← writeRegister s Register.ctrlMeas s.measurement.ctrlMeas with
    | .error _ => pure (bringUpFailed "failed to write ctrl_meas")
    | .ok () =>
      note (.configured s.measurement.ctrlMeas s.measurement.config)
      pure (.done (.ok ()))

def calibrate (s : Setup) : Act (Device B) BringUp := do
  match ← readRegisters s Register.calibration 24 with
  | .error fault =>
    note (.calibrationUnread fault)
    pure (bringUpFailed "failed to read calibration")
  | .ok raw =>
    modify fun d => { d with calibration := some (.decode raw) }
    configure s

/-! ### One cycle -/

def readFailed (operation details : String) : SensorError :=
  .readFailed part operation details

def busTrouble (operation : String) : SensorError :=
  readFailed operation "I2C communication error"

/-- Only forced mode needs a trigger. -/
def request (s : Setup) : Act (Device B) (Except SensorError Unit) := do
  if s.measurement.mode ≠ .forced then pure (.ok ())
  else
    match ← writeRegister s Register.ctrlMeas s.measurement.ctrlMeas with
    | .ok () => pure (.ok ())
    | .error fault =>
      note (.triggerFailed fault)
      pure (.error (busTrouble "trigger forced measurement"))

/-- The state is the number of status reads left. -/
abbrev Receive := Progress Nat (Except SensorError (Vector UInt8 6))

def readData (s : Setup) : Act (Device B) Receive := do
  match ← readRegisters s Register.data 6 with
  | .error fault =>
    note (.dataUnread fault)
    pure (.done (.error (busTrouble "read measurement registers")))
  | .ok data =>
    note (.dataRead data.toList)
    pure (.done (.ok data))

/-- Looks at the status, if it may do so once more, and reads the data if no conversion
is running. -/
def awaitConversion (s : Setup) : Nat → Act (Device B) Receive
  | 0 => do
    note .conversionEndless
    pure (.done (.error (readFailed "wait for conversion" "measurement still running")))
  | left + 1 => do
    match ← readRegisters s Register.status 1 with
    | .error fault =>
      note (.statusUnread fault)
      pure (.done (.error (busTrouble "read status")))
    | .ok status =>
      if status[0] &&& measuring = 0 then readData s else pure (.paused left)

def receive (s : Setup) :
    Activity SensorDemand.Reply (Device B) (Except SensorError (Vector UInt8 6)) where
  Paused := Nat
  demand _ := .pause statusDelay
  start := if s.measurement.mode = .forced then awaitConversion s maxStatusReads else readData s
  resume left _ := awaitConversion s left

def bringUp (s : Setup) : Activity SensorDemand.Reply (Device B) (Except SensorError Unit) where
  Paused := Unit
  demand _ := .pause resetDelay
  start := identify s
  resume _ _ := calibrate s

def validate (s : Setup) (d : Device B) (raw : Vector UInt8 6) : Except SensorError Atmosphere :=
  match d.calibration with
  | none => .error (readFailed "compensate measurement" "calibration not loaded")
  | some c =>
    match c.compensate (.decode raw) with
    | none => .error (readFailed "compensate measurement" "no valid sample available")
    | some (celsius, pascals) => .ok ⟨s.correction.apply celsius, pascals⟩

def sensor (B : Type) [I2cBus B] (s : Setup) :
    Sensor (Device B) (Vector UInt8 6) Atmosphere where
  quantity := .pressure
  part := part
  bringUp := bringUp s
  request := request s
  receive := receive s
  validate := validate s
  arrive _ := pure .never
  deliver _ := pure []

end Bmp280

end AirStation
