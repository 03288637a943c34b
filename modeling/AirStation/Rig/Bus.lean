import AirStation.Barometer.RegisterFile
import AirStation.Sensor.Bmp280

/-! A BMP280 on a bus that plays a script: how each transaction ends, and what each
look at the status finds. It records every transaction asked of it. -/

namespace AirStation.Rig

open Barometer

structure Transaction where
  address : UInt8
  parts : List BusOp

structure Bus where
  registers : RegisterFile
  address : UInt8 := busAddress
  /-- How the next transactions end; none where the device decides. -/
  script : List (Option BusFault) := []
  status : Bytes := []
  log : Array Transaction := #[]

namespace Bus

/-- The data registers of a fresh device: the datasheet's example sample. -/
def exampleData : Bytes := [0x65, 0x5A, 0xC0, 0x7E, 0xED, 0x00]

def exampleRegisters : RegisterFile :=
  (RegisterFile.fresh Calibration.datasheet.encode.toList).load Register.data exampleData

def fresh : Bus := { registers := exampleRegisters }

/-- One byte at the pointer. The reset command is not stored but clears the setup. -/
def store (r : RegisterFile) (value : UInt8) : RegisterFile :=
  if r.pointer = Register.reset ∧ value = resetCommand then
    ((r.put Register.ctrlMeas 0).put Register.config 0).advance
  else (r.put r.pointer value).advance

def writeBytes (r : RegisterFile) : Bytes → RegisterFile
  | [] => r
  | register :: values => values.foldl store (r.point register)

/-- A read that starts at the status register finds the next scripted status there. -/
def refresh (b : Bus) : Bus :=
  if b.registers.pointer = Register.status then
    { b with
      registers := b.registers.put Register.status (b.status.headD 0)
      status := b.status.tail }
  else b

def carryOut : List BusOp → Bus → Bytes × Bus
  | [], b => ([], b)
  | .write bs :: rest, b => carryOut rest { b with registers := writeBytes b.registers bs }
  | .read n :: rest, b =>
    let b := refresh b
    let (bs, registers) := b.registers.take n
    let (more, b) := carryOut rest { b with registers }
    (bs ++ more, b)

def transact (address : UInt8) (parts : List BusOp) : Act Bus (Except BusFault Bytes) := do
  let b ← get
  let scripted := b.script.headD none
  let b := { b with log := b.log.push ⟨address, parts⟩, script := b.script.tail }
  match scripted with
  | some fault =>
    set b
    pure (.error fault)
  | none =>
    if address ≠ b.address then
      set b
      pure (.error (.unacknowledged .address))
    else
      let (bs, b) := carryOut parts b
      set b
      pure (.ok bs)

instance : I2cBus Bus where
  transact := transact

/-- The bus with registers loaded and further outcomes behind its own. -/
def extend (memory : List (UInt8 × Bytes)) (status : Bytes) (script : List (Option BusFault))
    (b : Bus) : Bus :=
  { b with
    registers := memory.foldl (fun r (at_, bs) => r.load at_ bs) b.registers
    status := b.status ++ status
    script := b.script ++ script }

/-- Forgets the transactions recorded. -/
def drained (b : Bus) : Bus := { b with log := #[] }

end Bus

end AirStation.Rig
