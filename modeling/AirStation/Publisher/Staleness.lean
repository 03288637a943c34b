import AirStation.Quantity

/-! Watching a slot whose writer may have stopped. Each observation of the slot's
revision that equals the one before counts; a slot counts as stale from the moment
the count has reached the threshold until its revision changes. -/

namespace AirStation

structure Staleness where
  last : Option UInt32 := none
  /-- Equal observations in a row, up to 255. -/
  unchanged : UInt8 := 0
  reported : Bool := false
  deriving DecidableEq

namespace Staleness

inductive Report where
  | stale
  | resumed
  deriving DecidableEq

def count (s : Staleness) (revision : UInt32) : UInt8 :=
  if s.last = some revision then
    if s.unchanged = 255 then 255 else s.unchanged + 1
  else 0

/-- A report is due only when the slot has just become stale or fresh again. -/
def observe (revision : UInt32) (threshold : UInt8) (s : Staleness) :
    Option Report × Staleness :=
  let unchanged := s.count revision
  let stale := 0 < threshold && threshold ≤ unchanged
  let report := if stale = s.reported then none else some (if stale then .stale else .resumed)
  (report, ⟨some revision, unchanged, stale⟩)

end Staleness

/-- One watch for each slot. -/
structure Watches where
  co2 : Staleness := {}
  dust : Staleness := {}
  pressure : Staleness := {}

end AirStation
