import AirStation.Proofs.Acquisition.Watched

/-! A task and the watched task side by side. The watched task keeps its frame and its
failure where it could have them at any time; that it has them just in the phases that carry
them is what the two keep in step. So every run of the one is a run of the other, step by
step and with the same notices. -/

namespace AirStation.Acquisition

variable {δ F ρ : Type}

namespace Phase

def state : Phase F ρ → State
  | .idle => .idle
  | .requesting => .requesting
  | .awaitingResponse => .awaitingResponse
  | .validating _ => .validating
  | .storing _ => .storing
  | .sleeping => .sleeping
  | .failed _ => .failed

def frame? : Phase F ρ → Option F
  | .validating f => some f
  | _ => none

def cause? : Phase F ρ → Option LockExhausted
  | .failed e => some e
  | _ => none

end Phase

/-- What may happen to a task besides: its device becomes whatever it likes and others take
the lock of the slot, but none of them writes to it. -/
def Aside (s u : Site δ F ρ) : Prop :=
  u.1.phase = s.1.phase ∧ u.1.stats = s.1.stats ∧ u.2.state = s.2.state

namespace Watched

/-- A watched task that a task of this phase agrees with. -/
structure Matches (w : Watched δ F ρ) (t : Task δ F ρ) : Prop where
  device : w.device = t.device
  state : w.ledger.state = t.phase.state
  frame : w.ledger.frame = t.phase.frame?
  failure : w.ledger.failure = t.phase.cause?
  stats : w.ledger.stats = t.stats
  reading : ∀ r, t.phase = .storing r → w.ledger.reading = r

/-- The phase in which a step waits. -/
def waitsIn {S : Sensor δ F ρ} : Waiting S → Phase F ρ → Prop
  | .receiving _, phase => phase = .awaitingResponse
  | .storing r _, phase => phase = .storing r
  | .resting, phase => phase = .sleeping

/-- The two agree at rest. -/
def Paired (x : Post δ F ρ) (y : Site δ F ρ) : Prop := Matches x.1 y.1 ∧ x.2 = y.2

/-- The two agree where they stand in a step. -/
def Level {S : Sensor δ F ρ} (p : StepProgress S) (x : Post δ F ρ) (q : StepProgress S)
    (y : Site δ F ρ) : Prop :=
  q = p ∧ Paired x y ∧ ∀ w, p = .paused w → waitsIn w y.1.phase

variable {x : Post δ F ρ} {y : Site δ F ρ}

variable {S : Sensor δ F ρ}

variable [Measured ρ] {pace : Pace}

theorem requesting_apply (d : δ) (stats : Stats) (slot : Slot ρ) (js : Array Notice) :
    (Acquisition.step S pace).start (⟨d, .requesting, stats⟩, slot) js =
      (match (S.request d js).1.1 with
        | .ok () => enter .awaitingResponse
        | .error e => Acquisition.degrade e : Act _ (StepProgress S))
      (⟨(S.request d js).1.2, .requesting, stats⟩, slot) (S.request d js).2 := rfl

theorem validating_apply (d : δ) (f : F) (stats : Stats) (slot : Slot ρ) (js : Array Notice) :
    (Acquisition.step S pace).start (⟨d, .validating f, stats⟩, slot) js =
      (match S.validate d f with
        | .ok r => do
          note (.measured S.part (Measured.reading r))
          enter (.storing r)
        | .error e => Acquisition.degrade e : Act _ (StepProgress S))
      (⟨d, .validating f, stats⟩, slot) js := rfl

omit [Measured ρ] in
/-- Another device spoils nothing. -/
theorem Matches.carry {w w' : Watched δ F ρ} {t t' : Task δ F ρ} (h : Matches w t)
    (hdevice : w'.device = t'.device) (hledger : w'.ledger = w.ledger)
    (hphase : t'.phase = t.phase) (hstats : t'.stats = t.stats) : Matches w' t' where
  device := hdevice
  state := by rw [hledger, hphase, h.state]
  frame := by rw [hledger, hphase, h.frame]
  failure := by rw [hledger, hphase, h.failure]
  stats := by rw [hledger, hstats, h.stats]
  reading := by rw [hledger, hphase]; exact h.reading

omit [Measured ρ] in
theorem Paired.aside {u : Post δ F ρ} (h : Paired x y) (hu : Aside x u) :
    ∃ v, Acquisition.Aside y v ∧ Paired u v ∧ v.1.phase = y.1.phase :=
  ⟨({ y.1 with device := u.1.device }, u.2), ⟨rfl, rfl, by rw [hu.2, h.2]⟩,
    ⟨h.1.carry rfl hu.1 rfl rfl, rfl⟩, rfl⟩

omit [Measured ρ] in
/-- The books leave no choice of the task. -/
theorem Matches.unique {w : Watched δ F ρ} {t t' : Task δ F ρ} (h : Matches w t)
    (h' : Matches w t') : t = t' := by
  have hdevice := h.device.symm.trans h'.device
  have hstats := h.stats.symm.trans h'.stats
  have hstate := h.state.symm.trans h'.state
  have hframe := h.frame.symm.trans h'.frame
  have hcause := h.failure.symm.trans h'.failure
  have hreading := fun r r' (hr : t.phase = .storing r) (hr' : t'.phase = .storing r') =>
    (h.reading r hr).symm.trans (h'.reading r' hr')
  obtain ⟨d, phase, stats⟩ := t
  obtain ⟨d', phase', stats'⟩ := t'
  obtain rfl : d = d' := hdevice
  obtain rfl : stats = stats' := hstats
  cases phase <;> cases phase' <;> cases hstate
  -- What is left has both phases alike; three of them carry something.
  case validating.validating.refl => cases hframe; rfl
  case storing.storing.refl r r' => cases hreading r r' rfl rfl; rfl
  case failed.failed.refl => cases hcause; rfl
  all_goals rfl

end Watched

end AirStation.Acquisition
