import AirStation.Act

/-! Activities as time goes by. A job is polled from time to time: it goes on as far
as it can at that moment and remembers since when it has been waiting. A timer
lasts at least until the moment after the one that set it. -/

namespace AirStation.Timed

/-- How far an answer that takes its time has come. -/
inductive Fetch where
  | unasked
  | never
  | due (moment : Millis)

/-- A wait in progress. -/
structure Wait where
  since : Millis
  fetch : Fetch := .unasked

/-- A timer of this length set when the wait began has gone off. -/
def Wait.isOver (w : Wait) (now length : Millis) : Bool :=
  w.since + max length 1 ≤ now

/-- What one look at a wait shows. -/
inductive Look (α : Type) where
  | over (reply : α)
  | still (w : Wait)

/-- How demands are met at a moment. -/
abbrev Attend {D : Type} (Reply : D → Type) (σ : Type) :=
  Millis → Wait → (d : D) → Act σ (Look (Reply d))

section Attending

variable {σ α : Type} (now : Millis) (w : Wait)

def timer (length : Millis) : Look Unit :=
  if w.isOver now length then .over () else .still w

/-- A wait without a limit. -/
def await (attempt : Act σ (Option α)) : Act σ (Look α) := do
  match ← attempt with
  | some a => pure (.over a)
  | none => pure (.still w)

def expire (limit : Millis) (w : Wait) : Look (Timed α) :=
  if w.isOver now limit then .over .expired else .still w

/-- A wait with a limit. What has come is looked for before the time is. -/
def within (limit : Millis) (attempt : Act σ (Option α)) : Act σ (Look (Timed α)) := do
  match ← attempt with
  | some a => pure (.over (.ready a))
  | none => pure (expire now limit w)

end Attending

variable {D : Type} {Reply : D → Type} {σ α : Type}

inductive Job (A : Activity Reply σ α) where
  | fresh
  | waiting (p : A.Paused) (w : Wait)
  | over (moment : Millis) (result : α)

namespace Job

variable {A : Activity Reply σ α}

def result? : Job A → Option (Millis × α)
  | .over moment a => some (moment, a)
  | _ => none

/-- Meets demands until one is not met; the fuel bounds their number. -/
def goOn (attend : Attend Reply σ) (now : Millis) :
    Nat → Progress A.Paused α → Wait → Act σ (Job A)
  | _, .done a, _ => pure (.over now a)
  | 0, .paused p, w => pure (.waiting p w)
  | n + 1, .paused p, w => do
    match ← attend now w (A.demand p) with
    | .still w => pure (.waiting p w)
    | .over reply => goOn attend now n (← A.resume p reply) { since := now }

/-- More replies than a job gets at one moment. -/
def patience : Nat := 1000000000

def poll (attend : Attend Reply σ) (now : Millis) : Job A → Act σ (Job A)
  | .fresh => do goOn attend now patience (← A.start) { since := now }
  | .waiting p w => goOn attend now patience (.paused p) w
  | .over moment a => pure (.over moment a)

end Job

end AirStation.Timed
