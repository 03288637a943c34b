import AirStation.Timed.Job

/-! Activities under a clock. A wait is looked at when it begins and then at any later moments
until it is over. Where every look either ends the wait in one and the same way or leaves it as
it is, the moments do not matter, and there is one end the activity comes to. -/

namespace AirStation.Timed

variable {D : Type} {Reply : D → Type} {σ α : Type}

/-- An activity comes to its end from a wait that is looked at now. -/
inductive Ends (A : Activity Reply σ α) (attend : Attend Reply σ) :
    Millis → Wait → Progress A.Paused α → σ → α → σ → Prop where
  | done (now : Millis) (w : Wait) (a : α) (s : σ) : Ends A attend now w (.done a) s a s
  | still {now later : Millis} {w w' : Wait} {p : A.Paused} {s u v : σ} {a : α}
      {js js' : Array Notice} : attend now w (A.demand p) s js = ((.still w', u), js') →
      now ≤ later → Ends A attend later w' (.paused p) u a v →
      Ends A attend now w (.paused p) s a v
  | resume {now : Millis} {w : Wait} {p : A.Paused} {s u v : σ} {a : α} {js js' : Array Notice}
      {r : Reply (A.demand p)} : attend now w (A.demand p) s js = ((.over r, u), js') →
      Ends A attend now { since := now } (A.resume p r u js').1.1 (A.resume p r u js').1.2 a v →
      Ends A attend now w (.paused p) s a v

/-- A whole run, begun at some moment. -/
def Performs (A : Activity Reply σ α) (attend : Attend Reply σ) (s : σ) (a : α) (t : σ) : Prop :=
  ∃ now js, Ends A attend now { since := now } (A.start s js).1.1 (A.start s js).1.2 a t

variable {A : Activity Reply σ α} {attend : Attend Reply σ}

/-! ### Runs that are certain -/

/-- Whenever the activity goes on from here it can end, and it ends just so. -/
def Comes (A : Activity Reply σ α) (attend : Attend Reply σ) (p : Progress A.Paused α) (s : σ)
    (a : α) (t : σ) : Prop :=
  ∀ now b v, Ends A attend now { since := now } p s b v ↔ b = a ∧ v = t

theorem comes_done (a : α) (s : σ) : Comes A attend (.done a) s a s := by
  intro now b v
  constructor
  · rintro ⟨⟩
    exact ⟨rfl, rfl⟩
  · rintro ⟨rfl, rfl⟩
    exact .done _ _ _ _

/-- A look ends a wait with this reply and this state. -/
def Overs (attend : Attend Reply σ) (d : D) (now : Millis) (w : Wait) (s : σ) (r : Reply d)
    (u : σ) : Prop :=
  ∀ js, ∃ js', attend now w d s js = ((.over r, u), js')

/-- A look leaves a wait to go on. -/
def Stays (attend : Attend Reply σ) (d : D) (now : Millis) (w : Wait) (s : σ) (w' : Wait) : Prop :=
  ∀ js, ∃ js', attend now w d s js = ((.still w', s), js')

/-- A demand gets this reply, with this state, whenever it is looked at. After the first look
the wait is as `asked` says. -/
structure Brings (attend : Attend Reply σ) (d : D) (s : σ) (r : Reply d) (u : σ)
    (asked : Wait → Prop) : Prop where
  first (now : Millis) : Overs attend d now { since := now } s r u ∨
    ∃ w, Stays attend d now { since := now } s w ∧ asked w
  later (now : Millis) {w : Wait} : asked w →
    Overs attend d now w s r u ∨ Stays attend d now w s w
  ends (now : Millis) {w : Wait} : asked w → ∃ later, now ≤ later ∧ Overs attend d later w s r u

section Waits

variable {p : A.Paused} {s u t v : σ} {a b : α} {r : Reply (A.demand p)} {now : Millis} {w w' : Wait}
  {asked : Wait → Prop}

theorem ends_of_overs (hover : Overs attend (A.demand p) now w s r u)
    (hnext : ∀ js, Comes A attend (A.resume p r u js).1.1 (A.resume p r u js).1.2 a t) :
    Ends A attend now w (.paused p) s b v ↔ b = a ∧ v = t := by
  constructor
  · intro h
    cases h with
    | @still _ _ _ _ _ _ _ _ _ js _ hlook _ _ =>
      obtain ⟨js', hover⟩ := hover js
      rw [hover] at hlook
      cases hlook
    | @resume _ _ _ _ _ _ _ js js' _ hlook hend =>
      obtain ⟨js'', hover⟩ := hover js
      rw [hover] at hlook
      cases hlook
      exact (hnext js' now b v).1 hend
  · intro h
    obtain ⟨js', hover⟩ := hover #[]
    exact .resume hover ((hnext js' now b v).2 h)

theorem ends_of_stays (hstays : Stays attend (A.demand p) now w s w') :
    Ends A attend now w (.paused p) s b v ↔
      ∃ later, now ≤ later ∧ Ends A attend later w' (.paused p) s b v := by
  constructor
  · intro h
    cases h with
    | @still _ later _ _ _ _ _ _ _ js _ hlook hle hend =>
      obtain ⟨js', hstays⟩ := hstays js
      rw [hstays] at hlook
      cases hlook
      exact ⟨later, hle, hend⟩
    | @resume _ _ _ _ _ _ _ js _ _ hlook _ =>
      obtain ⟨js', hstays⟩ := hstays js
      rw [hstays] at hlook
      cases hlook
  · rintro ⟨later, hle, hend⟩
    obtain ⟨js', hstays⟩ := hstays #[]
    exact .still hstays hle hend

/-- A wait that has been looked at comes to its reply. -/
theorem ends_of_asked (h : Brings attend (A.demand p) s r u asked) (hw : asked w)
    (hnext : ∀ js, Comes A attend (A.resume p r u js).1.1 (A.resume p r u js).1.2 a t) :
    Ends A attend now w (.paused p) s b v ↔ b = a ∧ v = t := by
  have honly {q : Progress A.Paused α} {s₁ : σ} (hend : Ends A attend now w q s₁ b v) :
      q = .paused p → s₁ = s → b = a ∧ v = t := by
    intro hq hs
    induction hend with
    | done => cases hq
    | @still now later w w' p₁ s₁ u₁ v b js js' hlook hle hend ih =>
      cases hq
      subst hs
      rcases h.later now hw with hover | hstays
      · exact (ends_of_overs hover hnext).1 (.still hlook hle hend)
      · obtain ⟨js'', hstays⟩ := hstays js
        rw [hstays] at hlook
        cases hlook
        exact ih hw rfl rfl
    | @resume now w p₁ s₁ u₁ v b js js' r₁ hlook hend ih =>
      cases hq
      subst hs
      rcases h.later now hw with hover | hstays
      · exact (ends_of_overs hover hnext).1 (.resume hlook hend)
      · obtain ⟨js'', hstays⟩ := hstays js
        rw [hstays] at hlook
        cases hlook
  constructor
  · exact fun hend => honly hend rfl rfl
  · intro heq
    obtain ⟨later, hle, hover⟩ := h.ends now hw
    rcases h.later now hw with hnow | hstays
    · exact (ends_of_overs hnow hnext).2 heq
    · exact (ends_of_stays hstays).2 ⟨later, hle, (ends_of_overs hover hnext).2 heq⟩

/-- The reply is certain, and so is the end after it. -/
theorem comes_of_brings (h : Brings attend (A.demand p) s r u asked)
    (hreply : ∀ js, ∃ q v, (A.resume p r u js).1 = (q, v) ∧ Comes A attend q v a t) :
    Comes A attend (.paused p) s a t := by
  have hnext (js : Array Notice) :
      Comes A attend (A.resume p r u js).1.1 (A.resume p r u js).1.2 a t := by
    obtain ⟨q, v, heq, hcomes⟩ := hreply js
    rw [heq]
    exact hcomes
  intro now b v
  rcases h.first now with hover | ⟨w, hstays, hw⟩
  · exact ends_of_overs hover hnext
  · rw [ends_of_stays hstays]
    simp only [ends_of_asked h hw hnext]
    exact ⟨fun ⟨_, _, heq⟩ => heq, fun heq => ⟨now, Nat.le_refl _, heq⟩⟩

end Waits

/-- An activity that comes to one end from its start is performed in just one way. -/
theorem performs_iff_of_comes {s t v : σ} {a b : α}
    (h : ∀ js, Comes A attend (A.start s js).1.1 (A.start s js).1.2 a t) :
    Performs A attend s b v ↔ b = a ∧ v = t := by
  constructor
  · rintro ⟨now, js, hend⟩
    exact (h js now b v).1 hend
  · intro heq
    exact ⟨0, #[], (h #[] 0 b v).2 heq⟩

end AirStation.Timed
