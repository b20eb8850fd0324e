/-
  Sorting by different keys.

  A list whose elements have all different keys comes out of a sort with its keys increasing, so that
  whatever goes through it meets each key once, the smaller ones first.
-/
import Mathlib.Data.List.Nodup
import Mathlib.Order.Lattice

namespace Sorting

/-- Sorted by keys that are all different: the keys increase. -/
theorem pairwise_lt_mergeSort {α κ : Type} [LinearOrder κ] (f : α → κ) {l : List α}
    (h : (l.map f).Nodup) :
    (l.mergeSort fun x y => f x ≤ f y).Pairwise fun x y => f x < f y := by
  have hle : (l.mergeSort fun x y => f x ≤ f y).Pairwise fun x y => decide (f x ≤ f y) = true := by
    refine List.pairwise_mergeSort ?_ ?_ l
    · intro x y z hxy hyz
      exact decide_eq_true (le_trans (of_decide_eq_true hxy) (of_decide_eq_true hyz))
    · intro x y
      rcases le_total (f x) (f y) with hxy | hxy
      · rw [decide_eq_true hxy, Bool.true_or]
      · rw [decide_eq_true hxy, Bool.or_true]
  have hperm := List.mergeSort_perm l fun x y => decide (f x ≤ f y)
  have hne : (l.mergeSort fun x y => f x ≤ f y).Pairwise fun x y => f x ≠ f y :=
    List.pairwise_map.mp ((hperm.map f).nodup_iff.mpr h)
  exact (hle.and hne).imp fun hxy => lt_of_le_of_ne (of_decide_eq_true hxy.1) hxy.2

/-- The same, where the elements are the keys. -/
theorem pairwise_lt_mergeSort_id {κ : Type} [LinearOrder κ] {l : List κ} (h : l.Nodup) :
    (l.mergeSort fun x y => x ≤ y).Pairwise (· < ·) :=
  pairwise_lt_mergeSort id (by rwa [List.map_id])

end Sorting
