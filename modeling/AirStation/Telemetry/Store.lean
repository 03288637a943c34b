import AirStation.Telemetry.Slot

/-! One slot for each quantity, and a copy of all three taken slot by slot. -/

namespace AirStation

structure Store where
  co2 : Slot CarbonDioxide
  dust : Slot Particulates
  pressure : Slot Atmosphere

/-- The copies of one round; none where the lock was not to be had in time. -/
structure Snapshot where
  co2 : Option (SlotSnapshot CarbonDioxide)
  dust : Option (SlotSnapshot Particulates)
  pressure : Option (SlotSnapshot Atmosphere)

/-- A wait for the lock of one quantity's slot. -/
structure StoreDemand where
  quantity : Quantity
  limit : Millis

def StoreDemand.Reply (_ : StoreDemand) : Type := Timed Unit

namespace Store

def empty : Store := ⟨.empty, .empty, .empty⟩

def co2Part : Part Store (Slot CarbonDioxide) := ⟨Store.co2, fun s st => { st with co2 := s }⟩
def dustPart : Part Store (Slot Particulates) := ⟨Store.dust, fun s st => { st with dust := s }⟩
def pressurePart : Part Store (Slot Atmosphere) :=
  ⟨Store.pressure, fun s st => { st with pressure := s }⟩

def held (s : Store) : Quantity → Bool
  | .co2 => s.co2.held
  | .dust => s.dust.held
  | .pressure => s.pressure.held

def setHeld (held : Bool) (s : Store) : Quantity → Store
  | .co2 => { s with co2.held := held }
  | .dust => { s with dust.held := held }
  | .pressure => { s with pressure.held := held }

def tryLock : Quantity → Act Store (Option Unit)
  | .co2 => Slot.tryLock.on co2Part
  | .dust => Slot.tryLock.on dustPart
  | .pressure => Slot.tryLock.on pressurePart

/-- The copy of one slot once its lock was granted or refused. -/
def copy {ρ : Type} [Zero ρ] (p : Part Store (Slot ρ)) :
    Timed Unit → Act Store (Option (SlotSnapshot ρ))
  | .ready () => do
    let s ← (Slot.release Slot.reading).on p
    pure (some s)
  | .expired => pure none

/-- Which slot a round of copies is waiting for, and the copies it has. -/
inductive Copying where
  | co2
  | dust (co2 : Option (SlotSnapshot CarbonDioxide))
  | pressure (co2 : Option (SlotSnapshot CarbonDioxide))
      (dust : Option (SlotSnapshot Particulates))

def Copying.quantity : Copying → Quantity
  | .co2 => .co2
  | .dust .. => .dust
  | .pressure .. => .pressure

/-- A copy of every slot, each under its own lock and within its own limit of time. -/
def snapshot (limit : Millis) : Activity StoreDemand.Reply Store Snapshot where
  Paused := Copying
  demand p := ⟨p.quantity, limit⟩
  start := pure (.paused .co2)
  resume p reply :=
    match p with
    | .co2 => do
      let c ← copy co2Part reply
      pure (.paused (.dust c))
    | .dust c => do
      let d ← copy dustPart reply
      pure (.paused (.pressure c d))
    | .pressure c d => do
      let p ← copy pressurePart reply
      pure (.done ⟨c, d, p⟩)

end Store

end AirStation
