import AirStation.Rig.Bus

/-! A BMP280 as far as its registers go. A conversion keeps it busy for a given number
of looks at its status. It counts its resets and the writes that set a measurement up,
and may be out of order for good. -/

namespace AirStation.Rig

open Barometer

structure Chip where
  registers : RegisterFile := Bus.exampleRegisters
  resets : Nat := 0
  setups : Nat := 0
  /-- Looks at the status that will still find a conversion running. -/
  busy : Nat := 0
  dead : Bool := false

namespace Chip

/-- One byte at the pointer. -/
def store (c : Chip) (value : UInt8) : Chip :=
  let counted :=
    if c.registers.pointer = Register.reset ∧ value = resetCommand then
      { c with resets := c.resets + 1 }
    else if c.registers.pointer = Register.ctrlMeas then { c with setups := c.setups + 1 }
    else c
  { counted with registers := Bus.store c.registers value }

def writeBytes (c : Chip) : Bytes → Chip
  | [] => c
  | register :: values => values.foldl store { c with registers := c.registers.point register }

/-- A read that starts at the status register finds there whether a conversion runs. -/
def refresh (c : Chip) : Chip :=
  if c.registers.pointer = Register.status then
    { c with
      registers := c.registers.put Register.status (if 0 < c.busy then measuring else 0)
      busy := c.busy - 1 }
  else c

def carryOut : List BusOp → Chip → Bytes × Chip
  | [], c => ([], c)
  | .write bs :: rest, c => carryOut rest (c.writeBytes bs)
  | .read n :: rest, c =>
    let c := c.refresh
    let (bs, registers) := c.registers.take n
    let (more, c) := carryOut rest { c with registers }
    (bs ++ more, c)

def transact (address : UInt8) (parts : List BusOp) : Act Chip (Except BusFault Bytes) := do
  let c ← get
  if c.dead then pure (.error .bus)
  else if address ≠ busAddress then pure (.error (.unacknowledged .address))
  else
    let (bs, c) := carryOut parts c
    set c
    pure (.ok bs)

instance : I2cBus Chip where
  transact := transact

end Chip

end AirStation.Rig
