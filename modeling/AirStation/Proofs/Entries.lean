import Mathlib.Data.List.Basic

/-! Records to which entries are added at the end, and what is true of every entry in view of
those before it. -/

namespace AirStation

variable {α : Type} {P : List α → α → Prop} {xs ys pre post : List α} {x : α}

/-- An entry of a longer record is one of those before or one of those added. -/
theorem split_append (h : xs ++ ys = pre ++ x :: post) :
    (∃ later, xs = pre ++ x :: later ∧ post = later ++ ys) ∨
      ∃ earlier, pre = xs ++ earlier ∧ ys = earlier ++ x :: post := by
  rcases List.append_eq_append_iff.1 h with ⟨a, rfl, ha⟩ | ⟨c, rfl, hc⟩
  · exact .inr ⟨a, rfl, ha⟩
  · cases c with
    | nil => exact .inr ⟨[], by simp, hc.symm⟩
    | cons y c =>
      obtain ⟨rfl, rfl⟩ := List.cons.inj hc
      exact .inl ⟨c, rfl, rfl⟩

theorem split_singleton {y : α} (h : [y] = pre ++ x :: post) : pre = [] ∧ x = y ∧ post = [] := by
  cases pre with
  | nil =>
    obtain ⟨rfl, rfl⟩ := List.cons.inj h
    exact ⟨rfl, rfl, rfl⟩
  | cons z pre => exact absurd (List.cons.inj h).2 (by simp)

/-- Each entry is as it may be after those before it. -/
def Always (P : List α → α → Prop) (xs : List α) : Prop :=
  ∀ pre x post, xs = pre ++ x :: post → P pre x

theorem Always.nil : Always P [] := fun _ _ _ h => absurd h (by simp)

theorem Always.append (h : Always P xs)
    (hys : ∀ pre x post, ys = pre ++ x :: post → P (xs ++ pre) x) : Always P (xs ++ ys) := by
  intro pre x post heq
  rcases split_append heq with ⟨later, hxs, -⟩ | ⟨earlier, rfl, hin⟩
  · exact h pre x later hxs
  · exact hys earlier x post hin

theorem Always.concat (h : Always P xs) (hx : P xs x) : Always P (xs ++ [x]) := by
  refine h.append fun before y after heq => ?_
  obtain ⟨rfl, rfl, -⟩ := split_singleton heq
  rwa [List.append_nil]

theorem Always.of_append (h : Always P (xs ++ ys)) : Always P xs := by
  intro pre x post heq
  refine h pre x (post ++ ys) ?_
  rw [heq, List.append_assoc, List.cons_append]

theorem Always.last (h : Always P (xs ++ [x])) : P xs x := h xs x [] rfl

end AirStation
