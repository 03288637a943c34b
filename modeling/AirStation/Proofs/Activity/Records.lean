import AirStation.Act

/-! The runs of an activity with a record of every moment: what happens while it waits, and,
for each moment of its own, the state it found, the reply it got and the notices it left. A
wait is some happenings and then one reply, so a record is read off wait by wait. -/

namespace AirStation.Activity

variable {D E : Type} {Reply : D → Type} {σ α : Type}

/-- One moment of a run. -/
inductive Moment (E : Type) (Reply : D → Type) (σ : Type) where
  | began (found : σ) (told : List Notice)
  /-- Something happens outside of the activity. -/
  | happened (e : E)
  | replied (found : σ) (d : D) (r : Reply d) (told : List Notice)

namespace Moment

def told : Moment E Reply σ → List Notice
  | began _ told => told
  | happened _ => []
  | replied _ _ _ told => told

end Moment

abbrev Record (E : Type) (Reply : D → Type) (σ : Type) := List (Moment E Reply σ)

/-- The activity gets from where it stands to its end. -/
inductive Unfolds (A : Activity Reply σ α) (happens : E → σ → σ → Prop) :
    Progress A.Paused α → σ → Record E Reply σ → α → σ → Prop where
  | done (a : α) (s : σ) : Unfolds A happens (.done a) s [] a s
  | happened {p : A.Paused} {s u t : σ} {e : E} {a : α} {log : Record E Reply σ} :
      happens e s u → Unfolds A happens (.paused p) u log a t →
      Unfolds A happens (.paused p) s (.happened e :: log) a t
  | replied {p : A.Paused} {s t : σ} {a : α} {log : Record E Reply σ} (r : Reply (A.demand p)) :
      Unfolds A happens (A.resume p r s #[]).1.1 (A.resume p r s #[]).1.2 log a t →
      Unfolds A happens (.paused p) s
        (.replied s (A.demand p) r (A.resume p r s #[]).2.toList :: log) a t

/-- A whole run. -/
inductive Recorded (A : Activity Reply σ α) (happens : E → σ → σ → Prop) (s : σ) :
    Record E Reply σ → α → σ → Prop where
  | intro {t : σ} {a : α} {log : Record E Reply σ} :
      Unfolds A happens (A.start s #[]).1.1 (A.start s #[]).1.2 log a t →
      Recorded A happens s (.began s (A.start s #[]).2.toList :: log) a t

/-- What happens between two moments of an activity. -/
inductive Passes (happens : E → σ → σ → Prop) : List E → σ → σ → Prop where
  | nil (s : σ) : Passes happens [] s s
  | cons {e : E} {es : List E} {s t u : σ} :
      happens e s t → Passes happens es t u → Passes happens (e :: es) s u

variable {A : Activity Reply σ α} {happens : E → σ → σ → Prop} {s t : σ} {a : α}
  {log : Record E Reply σ}

theorem unfolds_done_iff {b : α} :
    A.Unfolds happens (.done b) s log a t ↔ log = [] ∧ a = b ∧ t = s := by
  constructor
  · rintro ⟨⟩
    exact ⟨rfl, rfl, rfl⟩
  · rintro ⟨rfl, rfl, rfl⟩
    exact .done a t

/-- What nothing that happens touches. -/
theorem Passes.kept {γ : Type} {f : σ → γ} (hkept : ∀ e s t, happens e s t → f t = f s)
    {es : List E} (h : Passes happens es s t) : f t = f s := by
  induction h with
  | nil s => rfl
  | cons hhap _ ih => exact ih.trans (hkept _ _ _ hhap)

theorem Passes.unfolds {p : A.Paused} {es : List E} {u : σ} (h : Passes happens es s u)
    (hu : A.Unfolds happens (.paused p) u log a t) :
    A.Unfolds happens (.paused p) s (es.map .happened ++ log) a t := by
  induction h with
  | nil => exact hu
  | cons hhap _ ih => exact .happened hhap (ih hu)

/-- A wait ends with its reply. -/
theorem unfolds_paused_iff {p : A.Paused} :
    A.Unfolds happens (.paused p) s log a t ↔
      ∃ es u, Passes happens es s u ∧ ∃ (r : Reply (A.demand p)) (rest : Record E Reply σ),
        log = es.map .happened ++
          .replied u (A.demand p) r (A.resume p r u #[]).2.toList :: rest ∧
        A.Unfolds happens (A.resume p r u #[]).1.1 (A.resume p r u #[]).1.2 rest a t := by
  constructor
  · intro h
    generalize hq : Progress.paused p = q at h
    induction h with
    | done => cases hq
    | happened hhap _ ih =>
      obtain ⟨es, u, hes, r, rest, rfl, hrest⟩ := ih hq
      exact ⟨_ :: es, u, .cons hhap hes, r, rest, rfl, hrest⟩
    | replied r h =>
      cases hq
      exact ⟨[], _, .nil _, r, _, rfl, h⟩
  · rintro ⟨es, u, hes, r, rest, rfl, hrest⟩
    exact hes.unfolds (.replied r hrest)

end AirStation.Activity
