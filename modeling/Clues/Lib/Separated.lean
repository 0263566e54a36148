import Mathlib.Tactic.Common

/-!
# Lists with separators

`sep.intercalate parts` has a separator between each two parts; a loop that writes one behind each
part makes `terminated sep parts` instead.

* `terminated_eq`       this is one separator too many, unless there are no parts;
* `intercalate_append`  the separators of two lists of parts that follow each other.
-/

namespace Lib.Separated

variable {α : Type} {sep : List α}

/-- a separator behind each part -/
def terminated (sep : List α) (parts : List (List α)) : List α := parts.flatMap (· ++ sep)

@[simp] theorem terminated_nil : terminated sep [] = [] := rfl

@[simp] theorem terminated_cons (x : List α) (xs : List (List α)) :
    terminated sep (x :: xs) = x ++ sep ++ terminated sep xs := rfl

theorem intercalate_append (xs : List (List α)) {ys : List (List α)} (hys : ys ≠ []) :
    sep.intercalate (xs ++ ys) = terminated sep xs ++ sep.intercalate ys := by
  induction xs with
  | nil => rfl
  | cons x xs ih =>
    have hne : xs ++ ys ≠ [] := by simp [hys]
    rw [List.cons_append, List.intercalate_cons_of_ne_nil hne, ih, terminated_cons]
    simp

theorem terminated_eq {xs : List (List α)} (hxs : xs ≠ []) :
    terminated sep xs = sep.intercalate xs ++ sep := by
  induction xs with
  | nil => exact absurd rfl hxs
  | cons x xs ih =>
    rw [terminated_cons]
    by_cases h : xs = []
    · subst h
      simp
    · rw [ih h, List.intercalate_cons_of_ne_nil h]
      simp

/-- one more part makes the whole longer -/
theorem intercalate_ne_append (xs : List (List α)) {y : List α} (hy : y ≠ []) :
    sep.intercalate (xs ++ [y]) ≠ sep.intercalate xs := by
  intro h
  have hlen : 0 < y.length := List.length_pos_iff.mpr hy
  have heq := congrArg List.length h
  rw [intercalate_append xs (List.cons_ne_nil y []), List.intercalate_singleton] at heq
  by_cases hxs : xs = []
  · subst hxs
    simp at heq
    exact hy heq
  · rw [terminated_eq hxs] at heq
    simp only [List.length_append] at heq
    omega

end Lib.Separated
