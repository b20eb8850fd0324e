/-
  Normalising a grid of weights.

  A weighted choice over a grid divides every weight by the sum of all.  What the division buys is
  said here once, over any ordered field: the entries stay where they were, keep their order and
  their zeros, are non-negative if the weights were, and sum to one.  The only thing it needs is
  that the weights do not all vanish.
-/
import Mathlib.Algebra.BigOperators.Group.List.Basic
import Mathlib.Algebra.Order.Field.Basic
import Mathlib.Algebra.Order.BigOperators.Group.List

namespace Normalise

variable {K : Type} [Field K]

/-- Every entry divided by the sum of all. -/
def normalise (rows : List (List K)) : List (List K) :=
  rows.map fun row => row.map fun x => x / rows.flatten.sum

/-- The entry in row `i`, column `j`. -/
def entry {α : Type} (rows : List (List α)) (i j : Nat) : Option α :=
  rows[i]?.bind fun row => row[j]?

/-- A sum of quotients is the quotient of the sum. -/
theorem sum_map_div (xs : List K) (a : K) : (xs.map fun x => x / a).sum = xs.sum / a := by
  induction xs with
  | nil => simp
  | cons x xs ih => rw [List.map_cons, List.sum_cons, ih, List.sum_cons, add_div]

/-- Normalising divides every entry by the sum. -/
theorem flatten_normalise (rows : List (List K)) :
    (normalise rows).flatten = rows.flatten.map fun x => x / rows.flatten.sum := by
  unfold normalise
  rw [List.map_flatten]

theorem sum_normalise {rows : List (List K)} (h : rows.flatten.sum ≠ 0) :
    (normalise rows).flatten.sum = 1 := by
  rw [flatten_normalise, sum_map_div, div_self h]

theorem entry_normalise (rows : List (List K)) (i j : Nat) :
    entry (normalise rows) i j = (entry rows i j).map fun x => x / rows.flatten.sum := by
  unfold entry normalise
  rw [List.getElem?_map]
  cases rows[i]? with
  | none => rfl
  | some row => simp

section Ordered

variable [LinearOrder K] [IsStrictOrderedRing K]

theorem nonneg_normalise {rows : List (List K)} (h : ∀ x ∈ rows.flatten, 0 ≤ x) :
    ∀ x ∈ (normalise rows).flatten, 0 ≤ x := by
  intro x hx
  rw [flatten_normalise] at hx
  obtain ⟨y, hy, rfl⟩ := List.mem_map.mp hx
  exact div_nonneg (h y hy) (List.sum_nonneg h)

/-- With one entry above zero the sum is. -/
theorem sum_pos_of_mem {xs : List K} (h : ∀ x ∈ xs, 0 ≤ x) {x : K} (hx : x ∈ xs) (hpos : 0 < x) :
    0 < xs.sum :=
  lt_of_lt_of_le hpos (List.single_le_sum h x hx)

end Ordered

end Normalise
