import AirStation.Connectivity
import Mathlib.Tactic.ByContra

/-! Sets of flags seen one flag at a time. Whether a set contains a flag of one bit is
decided bit by bit, so a union, an intersection and a difference act on each flag alone,
and a snapshot shows every flag that has a meaning as it is. -/

namespace AirStation

namespace Flags

variable {f g : Flags}

/-- A flag of one bit. -/
def Single (g : Flags) : Prop := ∃ i < 32, g.bits.toBitVec = BitVec.twoPow 32 i

instance : Decidable (Single g) := inferInstanceAs (Decidable (∃ i < 32, _))

theorem single_linkUp : Single linkUp := by decide

theorem single_linkFailed : Single linkFailed := by decide

theorem single_brokerUp : Single brokerUp := by decide

theorem single_mustDisconnect : Single mustDisconnect := by decide

theorem contains_iff :
    f.contains g = true ↔ f.bits.toBitVec &&& g.bits.toBitVec = g.bits.toBitVec := by
  cases f; cases g
  simp [contains, inter, ← UInt32.toBitVec_inj]

theorem contains_eq_getLsbD {i : Nat} (hi : i < 32) (hg : g.bits.toBitVec = BitVec.twoPow 32 i)
    (f : Flags) : f.contains g = f.bits.toBitVec.getLsbD i := by
  rw [Bool.eq_iff_iff, contains_iff, hg, BitVec.and_twoPow]
  cases hf : f.bits.toBitVec.getLsbD i with
  | true => simp
  | false =>
    simp only [Bool.false_eq_true, ↓reduceIte, iff_false]
    intro h0
    have hbit := congrArg (fun b => b.getLsbD i) h0
    simp [hi] at hbit

theorem contains_none (h : Single g) : none.contains g = false := by
  obtain ⟨i, hi, hg⟩ := h
  rw [contains_eq_getLsbD hi hg]
  simp [none]

theorem contains_union (h : Single g) (f₁ f₂ : Flags) :
    (f₁.union f₂).contains g = (f₁.contains g || f₂.contains g) := by
  obtain ⟨i, hi, hg⟩ := h
  simp only [contains_eq_getLsbD hi hg, union, UInt32.toBitVec_or, BitVec.getLsbD_or]

theorem contains_inter (h : Single g) (f₁ f₂ : Flags) :
    (f₁.inter f₂).contains g = (f₁.contains g && f₂.contains g) := by
  obtain ⟨i, hi, hg⟩ := h
  simp only [contains_eq_getLsbD hi hg, inter, UInt32.toBitVec_and, BitVec.getLsbD_and]

theorem contains_diff (h : Single g) (f₁ f₂ : Flags) :
    (f₁.diff f₂).contains g = (f₁.contains g && !f₂.contains g) := by
  obtain ⟨i, hi, hg⟩ := h
  simp only [contains_eq_getLsbD hi hg, diff, UInt32.toBitVec_and, UInt32.toBitVec_not,
    BitVec.getLsbD_and, BitVec.getLsbD_not, hi, decide_true, Bool.true_and]

/-- Flags of one bit are the same or have nothing in common. -/
theorem contains_of_ne (hf : Single f) (hg : Single g) (hne : f ≠ g) : f.contains g = false := by
  obtain ⟨i, hi, hf⟩ := hf
  obtain ⟨j, hj, hg⟩ := hg
  rw [contains_eq_getLsbD hj hg, hf, BitVec.getLsbD_twoPow]
  have hij : i ≠ j := by
    rintro rfl
    apply hne
    cases f; cases g
    rw [mk.injEq, ← UInt32.toBitVec_inj]
    exact hf.trans hg.symm
  simp [hij]

theorem contains_self (f : Flags) : f.contains f = true := by
  rw [contains_iff, BitVec.and_self]

/-- A snapshot leaves a flag with a meaning as it is. -/
theorem contains_known (hg : Single g) (h : all.contains g = true) (f : Flags) :
    f.known.contains g = f.contains g := by
  rw [known, contains_inter hg, h, Bool.and_true]

/-! ### Several flags at once -/

theorem union_of_contains (h : f.contains g = true) : f.union g = f := by
  have hbits : f.bits.toBitVec ||| g.bits.toBitVec = f.bits.toBitVec := by
    rw [← contains_iff.1 h]
    ext i
    simp only [BitVec.getElem_or, BitVec.getElem_and]
    cases f.bits.toBitVec[i] <;> cases g.bits.toBitVec[i] <;> rfl
  cases f
  rw [union, mk.injEq, ← UInt32.toBitVec_inj, UInt32.toBitVec_or]
  exact hbits

/-- Two sets meet in some bit. -/
theorem meets_iff : f.meets g = true ↔
    ∃ i, f.bits.toBitVec.getLsbD i = true ∧ g.bits.toBitVec.getLsbD i = true := by
  have hempty : f.meets g = false ↔ f.bits.toBitVec &&& g.bits.toBitVec = 0#32 := by
    cases f; cases g
    simp [meets, inter, none, ← UInt32.toBitVec_inj]
  constructor
  · intro h
    by_contra hno
    have hzero : f.bits.toBitVec &&& g.bits.toBitVec = 0#32 := by
      apply BitVec.eq_of_getLsbD_eq
      intro i hi
      simpa using fun hf hm => hno ⟨i, hf, hm⟩
    rw [hempty.2 hzero] at h
    cases h
  · rintro ⟨i, hf, hm⟩
    rw [← Bool.not_eq_false, hempty]
    intro hzero
    have hbit := congrArg (fun b => b.getLsbD i) hzero
    simp [hf, hm] at hbit

/-- Fewer flags meet no more of a mask. -/
theorem meets_of_diff {mask : Flags} (h : (f.diff g).known.meets mask = true) :
    f.known.meets mask = true := by
  obtain ⟨i, hf, hm⟩ := meets_iff.1 h
  refine meets_iff.2 ⟨i, ?_, hm⟩
  simp only [known, inter, diff, UInt32.toBitVec_and, BitVec.getLsbD_and, Bool.and_eq_true] at hf ⊢
  exact ⟨hf.1.1, hf.2⟩

/-! ### Sets that have nothing in common -/

theorem ext_getElem (h : ∀ (i : Nat) (hi : i < 32), f.bits.toBitVec[i] = g.bits.toBitVec[i]) :
    f = g := by
  cases f; cases g
  rw [mk.injEq, ← UInt32.toBitVec_inj]
  ext i hi
  exact h i hi

theorem union_right_comm (u f g : Flags) : (u.union f).union g = (u.union g).union f := by
  refine ext_getElem fun i hi => ?_
  simp only [union, UInt32.toBitVec_or, BitVec.getElem_or]
  exact Bool.or_right_comm _ _ _

theorem diff_right_comm (u f g : Flags) : (u.diff f).diff g = (u.diff g).diff f := by
  refine ext_getElem fun i hi => ?_
  simp only [diff, UInt32.toBitVec_and, BitVec.getElem_and]
  exact Bool.and_right_comm _ _ _

/-- No flag is in both sets. -/
def Apart (f g : Flags) : Prop := f.inter g = none

instance : Decidable (Apart f g) := inferInstanceAs (Decidable (_ = _))

theorem Apart.getElem (h : Apart f g) (i : Nat) (hi : i < 32) :
    (f.bits.toBitVec[i] && g.bits.toBitVec[i]) = false := by
  have hbits : f.bits.toBitVec &&& g.bits.toBitVec = 0#32 := by
    rw [← UInt32.toBitVec_and]
    exact congrArg (fun f => f.bits.toBitVec) h
  have hbit := congrArg (fun b => b[i]) hbits
  simpa using hbit

theorem Apart.union_diff (h : Apart f g) (u : Flags) :
    (u.union f).diff g = (u.diff g).union f := by
  have hbool : ∀ x y z : Bool, (y && z) = false → ((x || y) && !z) = (x && !z || y) := by decide
  refine ext_getElem fun i hi => ?_
  simp only [diff, union, UInt32.toBitVec_and, UInt32.toBitVec_or, UInt32.toBitVec_not,
    BitVec.getElem_and, BitVec.getElem_or, BitVec.getElem_not]
  exact hbool _ _ _ (h.getElem i hi)

theorem Apart.contains_diff (h : Apart f g) (u : Flags) :
    (u.diff g).contains f = u.contains f := by
  have hbool : ∀ x y z : Bool, (y && z) = false → (x && !z && y) = (x && y) := by decide
  have hinter : (u.diff g).inter f = u.inter f := by
    refine ext_getElem fun i hi => ?_
    simp only [inter, diff, UInt32.toBitVec_and, UInt32.toBitVec_not, BitVec.getElem_and,
      BitVec.getElem_not]
    exact hbool _ _ _ (h.getElem i hi)
  rw [contains, contains, hinter]

/-- Whether two sets are contained can be asked one after the other. -/
theorem contains_union_or (u f g : Flags) :
    (!u.contains f || !(u.union f).contains g) = (!u.contains f || !u.contains g) := by
  cases hf : u.contains f with
  | true => rw [union_of_contains hf]
  | false => rfl

end Flags

namespace Connectivity

variable {f g : Flags}

/-- Whether a flag is up. -/
def has (c : Connectivity) (g : Flags) : Bool := c.flags.contains g

theorem has_raise (hg : g.Single) (f : Flags) (c : Connectivity) :
    (c.raise f).has g = (c.has g || f.contains g) :=
  Flags.contains_union hg _ _

theorem has_lower (hg : g.Single) (f : Flags) (c : Connectivity) :
    (c.lower f).has g = (c.has g && !f.contains g) :=
  Flags.contains_diff hg _ _

theorem has_raise_self (hg : g.Single) (c : Connectivity) : (c.raise g).has g = true := by
  rw [has_raise hg, Flags.contains_self, Bool.or_true]

theorem has_lower_self (hg : g.Single) (c : Connectivity) : (c.lower g).has g = false := by
  rw [has_lower hg, Flags.contains_self, Bool.not_true, Bool.and_false]

theorem has_raise_of_ne (hf : f.Single) (hg : g.Single) (hne : f ≠ g) (c : Connectivity) :
    (c.raise f).has g = c.has g := by
  rw [has_raise hg, Flags.contains_of_ne hf hg hne, Bool.or_false]

theorem has_lower_of_ne (hf : f.Single) (hg : g.Single) (hne : f ≠ g) (c : Connectivity) :
    (c.lower f).has g = c.has g := by
  rw [has_lower hg, Flags.contains_of_ne hf hg hne, Bool.not_false, Bool.and_true]

/-! ### Changes in either order -/

theorem raise_right_comm (c : Connectivity) (f g : Flags) :
    (c.raise f).raise g = (c.raise g).raise f := by
  have hlatch : (c.changed || !c.flags.contains f || !(c.flags.union f).contains g) =
      (c.changed || !c.flags.contains g || !(c.flags.union g).contains f) := by
    rw [Bool.or_assoc, Bool.or_assoc, Flags.contains_union_or, Flags.contains_union_or,
      Bool.or_comm (!c.flags.contains f)]
  simp only [raise, hlatch, Flags.union_right_comm c.flags f g]

theorem lower_right_comm (c : Connectivity) (f g : Flags) :
    (c.lower f).lower g = (c.lower g).lower f := by
  simp only [lower, Flags.diff_right_comm c.flags f g]

theorem raise_lower_of_apart (h : f.Apart g) (c : Connectivity) :
    (c.raise f).lower g = (c.lower g).raise f := by
  simp only [raise, lower, h.union_diff, h.contains_diff]

theorem contains_snapshot (hg : g.Single) (h : Flags.all.contains g = true) (c : Connectivity) :
    c.snapshot.contains g = c.has g :=
  Flags.contains_known hg h _

end Connectivity

end AirStation
