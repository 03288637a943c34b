import AirStation.Act

/-! Buses with several devices on them. What is asked of a bus is a transaction: writes and
reads at one address, carried out in one go. Several users share a bus behind a lock. A user
has the lock for one transaction, however many parts it has; so what one user reads is what
that user selected. -/

namespace AirStation

/-- A part of a transaction. -/
inductive BusOp where
  | write (bytes : Bytes)
  | read (length : Nat)
  deriving DecidableEq

class I2cBus (B : Type) where
  /-- Carries out the parts of one transaction at an address and gives the bytes read. -/
  transact : UInt8 → List BusOp → Act B (Except BusFault Bytes)

namespace Board

structure SharedBus (B : Type) where
  bus : B
  held : Bool := false

namespace SharedBus

variable {B : Type} [I2cBus B]

def busPart : Part (SharedBus B) B := ⟨SharedBus.bus, fun b s => { s with bus := b }⟩

/-- A whole transaction, if the lock is free. While it is held nothing reaches the bus. -/
def transact? (address : UInt8) (parts : List BusOp) :
    Act (SharedBus B) (Option (Except BusFault Bytes)) := do
  if (← get).held then pure none
  else
    let r ← (I2cBus.transact address parts).on busPart
    pure (some r)

end SharedBus

end Board

end AirStation
