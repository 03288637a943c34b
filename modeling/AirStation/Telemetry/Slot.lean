import AirStation.Act
import AirStation.Quantity
import AirStation.Retry

/-! The latest reading of one sensor behind a lock. A user of the slot takes the
lock, acts on the contents in one go and gives the lock back, all at one moment; so
between two moments only an outside holder has it. -/

namespace AirStation

/-- What a slot holds: the last reading stored, if any, and the number of stores
modulo 2^32. -/
structure SlotState (ρ : Type) where
  value : Option ρ
  revision : UInt32

/-- A slot's contents as a reader takes them away. -/
structure SlotSnapshot (ρ : Type) where
  value : ρ
  updated : Bool
  revision : UInt32

namespace SlotState

variable {ρ : Type}

def empty : SlotState ρ := ⟨none, 0⟩

def store (r : ρ) (s : SlotState ρ) : SlotState ρ :=
  ⟨some r, s.revision + 1⟩

@[simp] theorem value_store (r : ρ) (s : SlotState ρ) : (s.store r).value = some r := rfl

def updated (s : SlotState ρ) : Bool := s.value.isSome

/-- The stored reading, or the zero reading when there is none. -/
def valueOrZero [Zero ρ] (s : SlotState ρ) : ρ := s.value.getD 0

def snapshot [Zero ρ] (s : SlotState ρ) : SlotSnapshot ρ :=
  ⟨s.valueOrZero, s.updated, s.revision⟩

end SlotState

/-- The contents of a slot with a field of its own that tells whether anything was stored.
Nothing here says that it agrees with the value. -/
structure SlotFields (ρ : Type) where
  value : Option ρ
  updated : Bool
  revision : UInt32

namespace SlotFields

variable {ρ : Type}

def empty : SlotFields ρ := ⟨none, false, 0⟩

def store (r : ρ) (s : SlotFields ρ) : SlotFields ρ :=
  ⟨some r, true, s.revision + 1⟩

/-- The stored reading if the slot counts as updated, or else the zero reading. -/
def valueOrZero [Zero ρ] (s : SlotFields ρ) : ρ :=
  match s.updated, s.value with
  | true, some r => r
  | _, _ => 0

def snapshot [Zero ρ] (s : SlotFields ρ) : SlotSnapshot ρ :=
  ⟨s.valueOrZero, s.updated, s.revision⟩

end SlotFields

/-- The contents with the field that they determine. -/
def SlotState.fields {ρ : Type} (s : SlotState ρ) : SlotFields ρ :=
  ⟨s.value, s.updated, s.revision⟩

structure Slot (ρ : Type) where
  held : Bool
  state : SlotState ρ

/-- A wait for a slot's lock, for a limited time. -/
structure LockDemand where
  limit : Millis

def LockDemand.Reply (_ : LockDemand) : Type := Timed Unit

namespace Slot

variable {ρ α : Type}

def empty : Slot ρ := ⟨false, .empty⟩

/-- Takes the lock if it is free. -/
def tryLock : Act (Slot ρ) (Option Unit) := do
  let s ← get
  if s.held then pure none
  else
    set { s with held := true }
    pure (some ())

/-- Acts on the contents and gives the lock back. -/
def release (f : SlotState ρ → α × SlotState ρ) : Act (Slot ρ) α := do
  let s ← get
  let (a, state) := f s.state
  set (⟨false, state⟩ : Slot ρ)
  pure a

/-- One attempt at the lock. -/
def withLock (limit : Millis) (f : SlotState ρ → α × SlotState ρ) :
    Activity LockDemand.Reply (Slot ρ) (Except LockTimeout α) where
  Paused := Unit
  demand _ := ⟨limit⟩
  start := pure (.paused ())
  resume _ reply :=
    match reply with
    | .ready () => do
      let a ← release f
      pure (.done (.ok a))
    | .expired => pure (.done (.error {}))

/-- Attempts at the lock until one succeeds or the budget has run out. -/
def withLockRetrying (limit : Millis) (retries : UInt8) (f : SlotState ρ → α × SlotState ρ) :
    Activity LockDemand.Reply (Slot ρ) (Except LockExhausted α) where
  Paused := RetryBudget
  demand _ := ⟨limit⟩
  start := pure (.paused (.ofMax retries))
  resume budget reply :=
    match reply with
    | .ready () => do
      let a ← release f
      pure (.done (.ok a))
    | .expired => do
      note (.lockBusy (budget.failures + 1))
      match budget.recordFailure with
      | (.ok (), budget) => pure (.paused budget)
      | (.error e, _) => pure (.done (.error ⟨e.failures⟩))

def storing (r : ρ) (s : SlotState ρ) : Unit × SlotState ρ := ((), s.store r)

def reading [Zero ρ] (s : SlotState ρ) : SlotSnapshot ρ × SlotState ρ := (s.snapshot, s)

end Slot

end AirStation
