import AirStation.Act

/-! The runs of an activity, whoever answers its demands and whatever becomes of the
state while it waits. -/

namespace AirStation.Activity

variable {D : Type} {Reply : D → Type} {σ α : Type}

/-- An activity gets from where it stands to its end: each demand has some reply, and
until the reply is there the state may change as `meanwhile` allows. -/
inductive Ends (A : Activity Reply σ α) (meanwhile : σ → σ → Prop) :
    Progress A.Paused α → σ → α → σ → Prop where
  | done (a : α) (s : σ) : Ends A meanwhile (.done a) s a s
  | resume {p : A.Paused} {s u t : σ} {a : α} (r : Reply (A.demand p)) (js : Array Notice) :
      meanwhile s u →
      Ends A meanwhile (A.resume p r u js).1.1 (A.resume p r u js).1.2 a t →
      Ends A meanwhile (.paused p) s a t

/-- A run from an action of the activity to the activity's end. -/
def EndsFrom (A : Activity Reply σ α) (meanwhile : σ → σ → Prop)
    (x : Act σ (Progress A.Paused α)) (s : σ) (a : α) (t : σ) : Prop :=
  ∃ js, A.Ends meanwhile (x s js).1.1 (x s js).1.2 a t

/-- A whole run of an activity. -/
def Performs (A : Activity Reply σ α) (meanwhile : σ → σ → Prop) : σ → α → σ → Prop :=
  A.EndsFrom meanwhile A.start

variable {A : Activity Reply σ α} {meanwhile : σ → σ → Prop}

theorem ends_done_iff {s t : σ} {a b : α} :
    A.Ends meanwhile (.done a) s b t ↔ b = a ∧ t = s := by
  constructor
  · rintro ⟨⟩
    exact ⟨rfl, rfl⟩
  · rintro ⟨rfl, rfl⟩
    exact .done b t

theorem ends_paused_iff {p : A.Paused} {s t : σ} {a : α} :
    A.Ends meanwhile (.paused p) s a t ↔
      ∃ u, meanwhile s u ∧ ∃ r, A.EndsFrom meanwhile (A.resume p r) u a t := by
  constructor
  · intro h
    cases h with
    | resume r js hm h => exact ⟨_, hm, r, js, h⟩
  · rintro ⟨u, hm, r, js, h⟩
    exact .resume r js hm h

/-- What holds of where the activity stands, and survives each resumption, holds at the
end. -/
theorem Ends.preserves {P : Progress A.Paused α → σ → Prop}
    (step : ∀ p s u r js, P (.paused p) s → meanwhile s u →
      P (A.resume p r u js).1.1 (A.resume p r u js).1.2)
    {p : Progress A.Paused α} {s t : σ} {a : α} (h : A.Ends meanwhile p s a t) (hp : P p s) :
    P (.done a) t := by
  induction h with
  | done a s => exact hp
  | resume r js hm _ ih => exact ih (step _ _ _ r js hp hm)

/-- The activity is over after at most `n` replies, whatever they are and whatever becomes
of the state. -/
inductive EndsWithin (A : Activity Reply σ α) : Nat → Progress A.Paused α → Prop where
  | done (n : Nat) (a : α) : EndsWithin A n (.done a)
  | resume {n : Nat} {p : A.Paused} :
      (∀ r s js, EndsWithin A n (A.resume p r s js).1.1) → EndsWithin A (n + 1) (.paused p)

/-- Where some replies get the activity. -/
inductive Reaches (A : Activity Reply σ α) : Progress A.Paused α → Prop where
  | start (s : σ) (js : Array Notice) : Reaches A (A.start s js).1.1
  | resume {p : A.Paused} (r : Reply (A.demand p)) (s : σ) (js : Array Notice) :
      Reaches A (.paused p) → Reaches A (A.resume p r s js).1.1

/-- What holds at the start and survives each resumption holds wherever the activity gets. -/
theorem Reaches.preserves {P : Progress A.Paused α → Prop} (start : ∀ s js, P (A.start s js).1.1)
    (step : ∀ p r s js, P (.paused p) → P (A.resume p r s js).1.1) {p : Progress A.Paused α}
    (h : A.Reaches p) : P p := by
  induction h with
  | start s js => exact start s js
  | resume r s js _ ih => exact step _ r s js ih

theorem EndsWithin.mono {m n : Nat} {p : Progress A.Paused α} (h : A.EndsWithin m p)
    (hmn : m ≤ n) : A.EndsWithin n p := by
  induction h generalizing n with
  | done m a => exact .done n a
  | @resume m p _ ih =>
    obtain ⟨n, rfl⟩ : ∃ k, n = k + 1 := ⟨n - 1, by omega⟩
    exact .resume fun r s js => ih r s js (by omega)

/-- An activity that some reply keeps going is over after no number of replies. -/
theorem not_endsWithin {P : A.Paused → Prop}
    (step : ∀ p, P p → ∃ r s js q, (A.resume p r s js).1.1 = .paused q ∧ P q)
    {p : A.Paused} (hp : P p) (n : Nat) : ¬ A.EndsWithin n (.paused p) := by
  induction n generalizing p with
  | zero => rintro ⟨⟩
  | succ n ih =>
    rintro (_ | h)
    obtain ⟨r, s, js, q, hres, hq⟩ := step p hp
    exact ih hq (hres ▸ h r s js)

/-! ### Served runs -/

variable {serve : (d : D) → Act σ (Option (Reply d))}

theorem drive_done (n : Nat) (a : α) (s : σ) (js : Array Notice) :
    A.drive serve n (.done a) s js = ((.done a, s), js) := by
  cases n <;> rfl

theorem perform_done {s t : σ} {js js' : Array Notice} {a : α}
    (hstart : A.start s js = ((.done a, t), js')) (n : Nat) :
    A.perform serve n s js = ((.done a, t), js') := by
  rw [perform, Act.bind_apply, hstart]
  exact drive_done n a t js'

/-- An activity that is over with the first reply it gets. -/
theorem perform_replied {s t u v : σ} {js js₁ js₂ js₃ : Array Notice} {p : A.Paused} {a : α}
    {r : Reply (A.demand p)} (hstart : A.start s js = ((.paused p, t), js₁))
    (hserve : serve (A.demand p) t js₁ = ((some r, u), js₂))
    (hresume : A.resume p r u js₂ = ((.done a, v), js₃)) (n : Nat) :
    A.perform serve (n + 1) s js = ((.done a, v), js₃) := by
  rw [perform, Act.bind_apply, hstart, drive, Act.bind_apply, hserve]
  simp only [Act.bind_apply, hresume]
  exact drive_done n a v js₃

/-! ### Repetition -/

/-- The activity is carried out so many times. Before each time the state may change as it
may while the activity waits. -/
inductive Repeats (A : Activity Reply σ α) (meanwhile : σ → σ → Prop) (s : σ) : Nat → σ → Prop where
  | zero : Repeats A meanwhile s 0 s
  | succ {n : Nat} {t u v : σ} {a : α} : Repeats A meanwhile s n t → meanwhile t u →
      A.Performs meanwhile u a v → Repeats A meanwhile s (n + 1) v

/-! ### Two activities side by side -/

variable {E : Type} {Answer : E → Type} {B : Activity Answer τ α} {around : τ → τ → Prop}

namespace KeepsUp

variable {R : σ → τ → Prop} {P : Progress A.Paused α → σ → Progress B.Paused α → τ → Prop}

end KeepsUp

end AirStation.Activity
