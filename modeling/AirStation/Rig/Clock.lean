import AirStation.Act

/-! A clock that plays a script instead of letting time pass. A pause is over at
once. A wait that is not over when first tried pops the next stage of the script:
the stage's events happen, and then the wait either is out of time or is tried
again; without a stage it is out of time. -/

namespace AirStation.Rig

structure Stage (E : Type) where
  events : List E
  expires : Bool

/-- What was asked of the clock. -/
inductive Call where
  | sleep (length : Millis)
  | timeout (limit : Millis)
  deriving DecidableEq

structure Clock (E : Type) where
  stages : List (Stage E) := []
  calls : Array Call := #[]
  /-- How many pauses are still granted, if they are counted. -/
  sleepsLeft : Option Nat := none
  timeoutsLeft : Option Nat := none

namespace Clock

variable {E σ α : Type}

/-- Grants a call of the clock and records it, unless the count is used up. -/
def grant (call : Call) (c : Clock E) : Option (Clock E) :=
  let c' := { c with calls := c.calls.push call }
  match call with
  | .sleep _ =>
    match c.sleepsLeft with
    | none => some c'
    | some 0 => none
    | some (n + 1) => some { c' with sleepsLeft := some n }
  | .timeout _ =>
    match c.timeoutsLeft with
    | none => some c'
    | some 0 => none
    | some (n + 1) => some { c' with timeoutsLeft := some n }

def ask (p : Part σ (Clock E)) (call : Call) : Act σ Bool := do
  match (p.get (← get)).grant call with
  | none => pure false
  | some c =>
    modify (p.put c)
    pure true

def sleep (p : Part σ (Clock E)) (length : Millis) : Act σ (Option Unit) := do
  if ← ask p (.sleep length) then pure (some ()) else pure none

/-- Goes through the stages until the wait is over. -/
def retry (p : Part σ (Clock E)) (happen : E → Act σ Unit) (attempt : Act σ (Option α)) :
    List (Stage E) → Act σ (Timed α)
  | [] => pure .expired
  | stage :: stages => do
    modify fun s => p.put { p.get s with stages } s
    stage.events.forM happen
    if stage.expires then pure .expired
    else
      match ← attempt with
      | some a => pure (.ready a)
      | none => retry p happen attempt stages

/-- A wait of limited time: `first` is its first attempt, `again` every later one. -/
def timeout (p : Part σ (Clock E)) (happen : E → Act σ Unit) (limit : Millis)
    (first again : Act σ (Option α)) : Act σ (Option (Timed α)) := do
  if ← ask p (.timeout limit) then
    match ← first with
    | some a => pure (some (.ready a))
    | none =>
      let r ← retry p happen again (p.get (← get)).stages
      pure (some r)
  else pure none

/-- The calls with equal neighbours counted together. -/
def runs : List Call → List (Call × Nat)
  | [] => []
  | c :: rest =>
    match runs rest with
    | (d, n) :: more => if c = d then (d, n + 1) :: more else (c, 1) :: (d, n) :: more
    | [] => [(c, 1)]

def drained (c : Clock E) : Clock E := { c with calls := #[] }

end Clock

end AirStation.Rig
