import AirStation.Notice

/-! Actions and activities. An action changes a state at one moment and may leave
notices. An activity goes on over many moments: it pauses with a demand, and goes
on with the reply to it. What a paused activity waits for is read off its state, so
a run is decided by the replies alone, whoever gives them. -/

namespace AirStation

/-- A length of time or a moment, in milliseconds. -/
abbrev Millis := Nat

/-- An action on a state, with the notices left so far. -/
abbrev Act (σ : Type) := StateT σ (StateM (Array Notice))

/-- Leaves a notice. -/
def note {σ : Type} (n : Notice) : Act σ Unit := fun s js => (((), s), js.push n)

/-- A part of a larger state. -/
structure Part (τ σ : Type) where
  get : τ → σ
  put : σ → τ → τ

namespace Part

def fst {σ τ : Type} : Part (σ × τ) σ := ⟨(·.1), fun s p => (s, p.2)⟩
def snd {σ τ : Type} : Part (σ × τ) τ := ⟨(·.2), fun t p => (p.1, t)⟩

/-- The pair with a part of its second component in place of it. -/
def mapSnd {α σ τ : Type} (p : Part τ σ) : Part (α × τ) (α × σ) :=
  ⟨fun t => (t.1, p.get t.2), fun s t => (s.1, p.put s.2 t.2)⟩

/-- A part of a part. -/
def comp {ρ σ τ : Type} (p : Part τ σ) (q : Part σ ρ) : Part τ ρ :=
  ⟨fun t => q.get (p.get t), fun r t => p.put (q.put r (p.get t)) t⟩

end Part

/-- The action on the larger state that acts on a part of it. -/
def Act.on {σ τ α : Type} (p : Part τ σ) (a : Act σ α) : Act τ α := fun t js =>
  let ((x, s), js) := a (p.get t) js
  ((x, p.put s t), js)

/-! ### What an action does to a state and the notices before it -/

namespace Act

variable {σ τ α β : Type}

@[simp] theorem pure_apply (a : α) (s : σ) (js : Array Notice) :
    (pure a : Act σ α) s js = ((a, s), js) := rfl

@[simp] theorem bind_apply (x : Act σ α) (f : α → Act σ β) (s : σ) (js : Array Notice) :
    (x >>= f) s js = f (x s js).1.1 (x s js).1.2 (x s js).2 := rfl

@[simp] theorem map_apply (f : α → β) (x : Act σ α) (s : σ) (js : Array Notice) :
    (f <$> x) s js = ((f (x s js).1.1, (x s js).1.2), (x s js).2) := rfl

@[simp] theorem get_apply (s : σ) (js : Array Notice) : (get : Act σ σ) s js = ((s, s), js) := rfl

@[simp] theorem set_apply (t s : σ) (js : Array Notice) :
    (set t : Act σ PUnit) s js = ((⟨⟩, t), js) := rfl

@[simp] theorem modify_apply (f : σ → σ) (s : σ) (js : Array Notice) :
    (modify f : Act σ PUnit) s js = ((⟨⟩, f s), js) := rfl

@[simp] theorem note_apply (n : Notice) (s : σ) (js : Array Notice) :
    note n s js = (((), s), js.push n) := rfl

/-- What is no part of the state acted on stays as it is. -/
@[simp] theorem on_apply (p : Part τ σ) (a : Act σ α) (t : τ) (js : Array Notice) :
    a.on p t js = (((a (p.get t) js).1.1, p.put (a (p.get t) js).1.2 t), (a (p.get t) js).2) := rfl

end Act

/-- The reply to a demand with a limit of time: its result, or that the time is up. -/
inductive Timed (α : Type) where
  | ready (result : α)
  | expired

/-- Where an activity stands once an action on it is over. -/
inductive Progress (P α : Type) where
  | paused (state : P)
  | done (result : α)

namespace Progress

def map {P Q α β : Type} (f : P → Q) (g : α → β) : Progress P α → Progress Q β
  | .paused p => .paused (f p)
  | .done a => .done (g a)

def result? {P α : Type} : Progress P α → Option α
  | .paused _ => none
  | .done a => some a

end Progress

structure Activity {D : Type} (Reply : D → Type) (σ α : Type) where
  Paused : Type
  demand : Paused → D
  start : Act σ (Progress Paused α)
  resume : (p : Paused) → Reply (demand p) → Act σ (Progress Paused α)

namespace Activity

variable {D : Type} {Reply : D → Type} {σ τ α β : Type}

/-- The activity on a part of a larger state. -/
def on (p : Part τ σ) (A : Activity Reply σ α) : Activity Reply τ α where
  Paused := A.Paused
  demand := A.demand
  start := A.start.on p
  resume w r := (A.resume w r).on p

/-- An action that follows an activity's end. -/
def finish {P : Type} (k : α → Act σ β) : Progress P α → Act σ (Progress P β)
  | .paused p => pure (.paused p)
  | .done a => do
    let b ← k a
    pure (.done b)

/-- The activity with an action at its end. -/
def andThen (A : Activity Reply σ α) (k : α → Act σ β) : Activity Reply σ β where
  Paused := A.Paused
  demand := A.demand
  start := do finish k (← A.start)
  resume w r := do finish k (← A.resume w r)

/-- Serves the demands of a paused activity until it is done, a demand is not
answered, or the patience is used up. -/
def drive (A : Activity Reply σ α) (serve : (d : D) → Act σ (Option (Reply d))) :
    Nat → Progress A.Paused α → Act σ (Progress A.Paused α)
  | 0, p => pure p
  | _ + 1, .done a => pure (.done a)
  | n + 1, .paused w => do
    match ← serve (A.demand w) with
    | none => pure (.paused w)
    | some r => drive A serve n (← A.resume w r)

/-- Starts the activity and drives it. -/
def perform (A : Activity Reply σ α) (serve : (d : D) → Act σ (Option (Reply d)))
    (patience : Nat) : Act σ (Progress A.Paused α) := do
  A.drive serve patience (← A.start)

end Activity

end AirStation
