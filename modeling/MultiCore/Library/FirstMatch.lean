import Mathlib.Tactic.Common

/-!
# The first element of a kind

A list in which the first element that satisfies a condition is changed. What the
change does not touch is the same for all elements, and what a list has of another
kind stays as it was.
-/

namespace FirstMatch

variable {α β : Type*} {p q : α → Bool} {f : α → α}

/-- Changes the first element that satisfies a condition. -/
def updateFirst (p : α → Bool) (f : α → α) : List α → List α
  | [] => []
  | a :: l => if p a then f a :: l else a :: updateFirst p f l

/-- What the change leaves alone is the same throughout. -/
theorem map_updateFirst {g : α → β} (h : ∀ a, p a = true → g (f a) = g a) (l : List α) :
    (updateFirst p f l).map g = l.map g := by
  induction l with
  | nil => rfl
  | cons a l ih =>
    rw [updateFirst]
    split_ifs with hp
    · rw [List.map_cons, List.map_cons, h a hp]
    · rw [List.map_cons, List.map_cons, ih]

/-- Elements of a kind that is never changed stay. -/
theorem filter_updateFirst (h : ∀ a, p a = true → q a = false ∧ q (f a) = false) (l : List α) :
    (updateFirst p f l).filter q = l.filter q := by
  induction l with
  | nil => rfl
  | cons a l ih =>
    rw [updateFirst]
    split_ifs with hp
    · simp [(h a hp).1, (h a hp).2]
    · rw [List.filter_cons, List.filter_cons, ih]

theorem mem_updateFirst {l : List α} {a : α} (h : a ∈ updateFirst p f l) :
    a ∈ l ∨ ∃ b ∈ l, f b = a := by
  induction l with
  | nil => exact absurd h List.not_mem_nil
  | cons b l ih =>
    rw [updateFirst] at h
    by_cases hp : p b = true
    · rw [if_pos hp] at h
      rcases List.mem_cons.1 h with rfl | h
      · exact Or.inr ⟨b, List.mem_cons_self, rfl⟩
      · exact Or.inl (List.mem_cons_of_mem _ h)
    · rw [if_neg hp] at h
      rcases List.mem_cons.1 h with rfl | h
      · exact Or.inl List.mem_cons_self
      · rcases ih h with h | ⟨c, hc, heq⟩
        · exact Or.inl (List.mem_cons_of_mem _ h)
        · exact Or.inr ⟨c, List.mem_cons_of_mem _ hc, heq⟩

end FirstMatch
