/-
  Scanning for the closest item below a bound.

  The loop keeps the best item so far and its key, starts with no item and the bound as its key,
  and replaces them on a strictly smaller key.  `scan_eq_argmin` says what that computes: the first
  minimiser (`List.argmin`) among the items below the bound.
-/
import Mathlib.Data.List.MinMax

namespace Closest

variable {α β : Type} [LinearOrder β]

/-- One turn: a strictly smaller key wins. -/
def scanStep (key : α → β) (best : Option α × β) (x : α) : Option α × β :=
  if key x < best.2 then (some x, key x) else best

/-- The whole scan. -/
def scan (key : α → β) (bound : β) (xs : List α) : Option α :=
  (xs.foldl (scanStep key) (none, bound)).1

/-- The loop invariant: the best item is the first minimiser of what was below the bound so far,
    and the best key is its key. -/
theorem foldl_scanStep (key : α → β) (bound : β) (xs : List α) :
    xs.foldl (scanStep key) (none, bound)
      = (let best := (xs.filter fun x => key x < bound).argmin key
         (best, (best.map key).getD bound)) := by
  induction xs using List.reverseRecOn with
  | nil => rfl
  | append_singleton xs x ih =>
    rw [List.foldl_append, List.foldl_cons, List.foldl_nil, ih, List.filter_append]
    cases hbest : (xs.filter fun x => key x < bound).argmin key with
    | none =>
      by_cases hx : key x < bound
      · simp [scanStep, hx, List.argmin_concat, hbest]
      · simp [scanStep, hx, hbest]
    | some b =>
      have hb : key b < bound := by
        have hmem := List.argmin_mem (Option.mem_def.mpr hbest)
        simpa using (List.mem_filter.mp hmem).2
      by_cases hx : key x < bound
      · by_cases hlt : key x < key b
        · simp [scanStep, hx, hlt, List.argmin_concat, hbest]
        · simp [scanStep, hx, hlt, List.argmin_concat, hbest]
      · have hnot : ¬ key x < key b := fun h => hx (h.trans hb)
        simp [scanStep, hx, hnot, hbest]

theorem scan_eq_argmin (key : α → β) (bound : β) (xs : List α) :
    scan key bound xs = (xs.filter fun x => key x < bound).argmin key := by
  rw [scan, foldl_scanStep]

theorem scan_none {key : α → β} {bound : β} {xs : List α} :
    scan key bound xs = none ↔ ∀ x ∈ xs, bound ≤ key x := by
  rw [scan_eq_argmin, List.argmin_eq_none, List.filter_eq_nil_iff]
  simp

/-- What is found is an item below the bound, and none is closer. -/
theorem scan_some {key : α → β} {bound : β} {xs : List α} {x : α}
    (h : scan key bound xs = some x) : x ∈ xs ∧ key x < bound ∧ ∀ y ∈ xs, key x ≤ key y := by
  rw [scan_eq_argmin] at h
  obtain ⟨hmem, hlt⟩ := List.mem_filter.mp (List.argmin_mem (Option.mem_def.mpr h))
  have hlt' : key x < bound := by simpa using hlt
  refine ⟨hmem, hlt', fun y hy => ?_⟩
  by_cases hyb : key y < bound
  · exact List.le_of_mem_argmin (List.mem_filter.mpr ⟨hy, by simpa using hyb⟩)
      (Option.mem_def.mpr h)
  · exact (lt_of_lt_of_le hlt' (not_lt.mp hyb)).le

/-- Once an item has been found that none of the others beats, it stays. -/
theorem foldl_scanStep_keep {key : α → β} {x : α} {xs : List α} (h : ∀ y ∈ xs, key x ≤ key y) :
    xs.foldl (scanStep key) (some x, key x) = (some x, key x) := by
  induction xs with
  | nil => rfl
  | cons y ys ih =>
    have hy : ¬ key y < key x := not_lt.mpr (h y List.mem_cons_self)
    rw [List.foldl_cons, scanStep, if_neg hy]
    exact ih fun z hz => h z (List.mem_cons_of_mem y hz)

/-- What is found is the first of the closest items. -/
theorem scan_iff {key : α → β} {bound : β} {xs : List α} {x : α} :
    scan key bound xs = some x ↔ key x < bound ∧ ∃ before after, xs = before ++ x :: after ∧
      (∀ y ∈ before, key x < key y) ∧ ∀ y ∈ after, key x ≤ key y := by
  have hfound : ∀ {z : α} {before after : List α}, key z < bound →
      (∀ y ∈ before, key z < key y) → (∀ y ∈ after, key z ≤ key y) →
      scan key bound (before ++ z :: after) = some z := by
    intro z before after hz hbefore hafter
    have hbest : ∀ best, best = (before.filter fun y => key y < bound).argmin key →
        key z < (best.map key).getD bound := by
      rintro best hargmin
      cases best with
      | none => exact hz
      | some y =>
        have hmem := List.argmin_mem (Option.mem_def.mpr hargmin.symm)
        exact hbefore y (List.mem_of_mem_filter hmem)
    unfold scan
    rw [List.foldl_append, List.foldl_cons, foldl_scanStep, scanStep, if_pos (hbest _ rfl),
      foldl_scanStep_keep hafter]
  constructor
  · intro h
    obtain ⟨hmem, hlt, hmin⟩ := scan_some h
    obtain ⟨z, hz⟩ : ∃ z, (xs.find? fun y => key y ≤ key x) = some z :=
      Option.isSome_iff_exists.mp (List.find?_isSome.mpr ⟨x, hmem, decide_eq_true le_rfl⟩)
    obtain ⟨hle, before, after, rfl, hbefore⟩ := List.find?_eq_some_iff_append.mp hz
    have hzx : key z = key x := le_antisymm (of_decide_eq_true hle)
      (hmin z (List.mem_append_right _ List.mem_cons_self))
    have hlt' : ∀ y ∈ before, key z < key y := fun y hy => by
      have hnot := hbefore y hy
      rw [Bool.not_eq_true', decide_eq_false_iff_not, not_le, ← hzx] at hnot
      exact hnot
    have hge : ∀ y ∈ after, key z ≤ key y := fun y hy => by
      rw [hzx]
      exact hmin y (List.mem_append_right _ (List.mem_cons_of_mem z hy))
    obtain rfl : z = x := Option.some_inj.mp ((hfound (hzx ▸ hlt) hlt' hge).symm.trans h)
    exact ⟨hlt, before, after, rfl, hlt', hge⟩
  · rintro ⟨hlt, before, after, rfl, hbefore, hafter⟩
    exact hfound hlt hbefore hafter

end Closest
