import AirStation.Barometer.RegisterFile
import AirStation.Sensor.Bmp280
import AirStation.Simulation.Uart

/-! A simulated BMP280. Each transaction that begins by selecting the data registers
loads them with the next sample, and on a fixed schedule is not acknowledged. -/

namespace AirStation.Simulation

open Barometer

structure Bmp where
  registers : RegisterFile
  samples : UInt32 := 0
  /-- Every so many samples one is not acknowledged; zero for never. -/
  nackEvery : UInt32

namespace Bmp

def ofNackEvery (nackEvery : UInt32) : Bmp where
  registers := RegisterFile.fresh Calibration.datasheet.encode.toList
  nackEvery := nackEvery

/-- The raw pressure and temperature of the `k`-th sample. -/
def rawSample (k : UInt32) : UInt32 × UInt32 :=
  ((415148.0 + 900.0 * (k.toFloat / 30.0).sin).toUInt32,
    (519888.0 + 4000.0 * (k.toFloat / 50.0).cos).toUInt32)

/-- Loads the next sample into the data registers. -/
def sample (b : Bmp) : Bmp :=
  let samples := b.samples + 1
  let (pressure, temperature) := rawSample samples
  { b with
    samples
    registers := b.registers.load Register.data
      (RawSample.split pressure ++ RawSample.split temperature) }

/-- One byte at the pointer. A reset is told and not stored. -/
def store (value : UInt8) : Act RegisterFile Unit := do
  let r ← get
  if r.pointer = Register.reset ∧ value = resetCommand then
    note .simulatedReset
    set r.advance
  else set (r.put r.pointer value).advance

def writeBytes : Bytes → Act RegisterFile Unit
  | [] => pure ()
  | register :: values => do
    modify (·.point register)
    values.forM store

def carryOut : List BusOp → Act RegisterFile Bytes
  | [] => pure []
  | .write bs :: rest => do
    writeBytes bs
    carryOut rest
  | .read n :: rest => do
    let (bs, r) := (← get).take n
    set r
    let more ← carryOut rest
    pure (bs ++ more)

def registersPart : Part Bmp RegisterFile := ⟨Bmp.registers, fun r b => { b with registers := r }⟩

/-- Whether a transaction begins by selecting the data registers. -/
def readsData (parts : List BusOp) : Bool :=
  parts.head? == some (.write [Register.data])

def transact (address : UInt8) (parts : List BusOp) : Act Bmp (Except BusFault Bytes) := do
  if address ≠ busAddress then pure (.error (.unacknowledged .address))
  else
    if readsData parts then modify sample
    let b ← get
    if readsData parts && falls b.nackEvery b.samples then
      note (.simulatedDrop b.samples)
      pure (.error (.unacknowledged .data))
    else
      let bs ← (carryOut parts).on registersPart
      pure (.ok bs)

instance : I2cBus Bmp where
  transact := transact

end Bmp

end AirStation.Simulation
