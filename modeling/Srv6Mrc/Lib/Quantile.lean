/-
  Draws from a list of weights.

  The shares of the first weights, one weight more each time, cut the unit interval into pieces: one
  for each weight, half open, and as long as the weight's own share.  A point of the interval lies in
  one piece (`findIdx_thresholds`), and never in one of no length (`pos_of_inPiece`).  Of the
  multiples of `1 / n` as many lie in a piece as lie between the ends (`card_inPiece`).
-/
import Mathlib.Algebra.Order.BigOperators.Group.List
import Mathlib.Algebra.Order.Floor.Ring
import Mathlib.Order.Interval.Finset.Nat
import Mathlib.Tactic.Linarith

namespace Quantile

variable {K : Type} [Field K]

/-- The share of the first `i` weights in the sum of all. -/
def share (ws : List K) (i : Nat) : K := (ws.take i).sum / ws.sum

/-- The upper ends of the pieces. -/
def thresholds (ws : List K) : List K := (List.range ws.length).map fun i => share ws (i + 1)

theorem share_zero (ws : List K) : share ws 0 = 0 := by
  unfold share
  rw [List.take_zero, List.sum_nil, zero_div]

theorem share_of_length_le {ws : List K} (hsum : ws.sum ≠ 0) {i : Nat} (hi : ws.length ≤ i) :
    share ws i = 1 := by
  unfold share
  rw [List.take_of_length_le hi, div_self hsum]

/-- A piece is as long as the share of its weight. -/
theorem share_succ (ws : List K) {i : Nat} (hi : i < ws.length) :
    share ws (i + 1) = share ws i + ws[i] / ws.sum := by
  unfold share
  rw [List.sum_take_succ _ _ hi, add_div]

theorem length_thresholds (ws : List K) : (thresholds ws).length = ws.length := by
  unfold thresholds
  rw [List.length_map, List.length_range]

/-- It is the share of the weights up to it. -/
theorem getElem_thresholds (ws : List K) {i : Nat} (hi : i < (thresholds ws).length) :
    (thresholds ws)[i] = share ws (i + 1) := by
  simp only [thresholds, List.getElem_map, List.getElem_range]

variable [LinearOrder K] [IsStrictOrderedRing K]

/-- The point lies in the piece of the `i`-th weight. -/
def InPiece (ws : List K) (i : Nat) (u : K) : Prop := share ws i ≤ u ∧ u < share ws (i + 1)

instance (ws : List K) (i : Nat) (u : K) : Decidable (InPiece ws i u) :=
  inferInstanceAs (Decidable (_ ∧ _))

/-! ## Shares -/

/-- More weights have no smaller share. -/
theorem share_le_share {ws : List K} (hws : ∀ w ∈ ws, 0 ≤ w) {i j : Nat} (hij : i ≤ j) :
    share ws i ≤ share ws j := by
  have hsum : 0 ≤ ws.sum := List.sum_nonneg hws
  induction j, hij using Nat.le_induction with
  | base => exact le_rfl
  | succ j _ ih =>
    refine ih.trans ?_
    by_cases hj : j < ws.length
    · rw [share_succ ws hj]
      exact le_add_of_nonneg_right (div_nonneg (hws _ (List.getElem_mem hj)) hsum)
    · unfold share
      rw [List.take_of_length_le (by omega), List.take_of_length_le (by omega)]

theorem share_nonneg {ws : List K} (hws : ∀ w ∈ ws, 0 ≤ w) (i : Nat) : 0 ≤ share ws i := by
  have h := share_le_share hws (Nat.zero_le i)
  rwa [share_zero] at h

theorem share_le_one {ws : List K} (hws : ∀ w ∈ ws, 0 ≤ w) (hsum : 0 < ws.sum) (i : Nat) :
    share ws i ≤ 1 := by
  rcases le_total i ws.length with hi | hi
  · have h := share_le_share hws hi
    rwa [share_of_length_le hsum.ne' le_rfl] at h
  · rw [share_of_length_le hsum.ne' hi]

/-- Two of the weights are no more than all. -/
theorem getElem_add_getElem_le {ws : List K} (hws : ∀ w ∈ ws, 0 ≤ w) (hsum : 0 < ws.sum)
    {i j : Nat} (hi : i < ws.length) (hj : j < ws.length) (hne : i ≠ j) :
    ws[i] + ws[j] ≤ ws.sum := by
  -- the pieces of the two do not overlap
  have hpieces : ws[i] / ws.sum + ws[j] / ws.sum ≤ 1 := by
    have hi' := share_succ ws hi
    have hj' := share_succ ws hj
    rcases lt_or_gt_of_ne hne with hlt | hlt
    · have h₁ := share_le_share hws (Nat.succ_le_of_lt hlt)
      have h₂ := share_le_one hws hsum (j + 1)
      have h₃ := share_nonneg hws i
      linarith
    · have h₁ := share_le_share hws (Nat.succ_le_of_lt hlt)
      have h₂ := share_le_one hws hsum (i + 1)
      have h₃ := share_nonneg hws j
      linarith
  rwa [← add_div, div_le_one hsum] at hpieces

/-! ## The piece of a point -/

/-- A piece with a point in it has a positive weight. -/
theorem pos_of_inPiece {ws : List K} (hsum : 0 < ws.sum) {i : Nat} (hi : i < ws.length) {u : K}
    (h : InPiece ws i u) : 0 < ws[i] := by
  have hlong : share ws i < share ws (i + 1) := h.1.trans_lt h.2
  rw [share_succ ws hi, lt_add_iff_pos_right] at hlong
  exact (div_pos_iff_of_pos_right hsum).mp hlong

/-- Two points of one piece are closer than it is long. -/
theorem sub_lt_of_inPiece {ws : List K} {i : Nat} (hi : i < ws.length) {u v : K}
    (hu : InPiece ws i u) (hv : InPiece ws i v) : u - v < ws[i] / ws.sum := by
  have hu' := hu.2
  have hv' := hv.1
  rw [share_succ ws hi] at hu'
  linarith

/-- The first threshold above a point is that of its piece. -/
theorem findIdx_thresholds {ws : List K} (hws : ∀ w ∈ ws, 0 ≤ w) {u : K} (hu : 0 ≤ u) (i : Nat) :
    (thresholds ws).findIdx? (fun t => decide (u < t)) = some i
      ↔ i < ws.length ∧ InPiece ws i u := by
  rw [List.findIdx?_eq_some_iff_getElem]
  constructor
  · rintro ⟨hi, hlt, hbelow⟩
    rw [getElem_thresholds, decide_eq_true_eq] at hlt
    refine ⟨by rwa [length_thresholds] at hi, ?_, hlt⟩
    -- the point is not below the threshold before
    cases i with
    | zero => rwa [share_zero]
    | succ i =>
      have hnot := hbelow i (Nat.lt_succ_self i)
      rw [getElem_thresholds, decide_eq_true_eq] at hnot
      exact not_lt.mp hnot
  · rintro ⟨hi, hle, hlt⟩
    refine ⟨by rwa [length_thresholds], ?_, fun j hj => ?_⟩
    · rwa [getElem_thresholds, decide_eq_true_eq]
    · rw [getElem_thresholds, decide_eq_true_eq]
      exact not_lt.mpr ((share_le_share hws (Nat.succ_le_of_lt hj)).trans hle)

/-- Every point below one has its piece. -/
theorem exists_findIdx {ws : List K} (hws : ∀ w ∈ ws, 0 ≤ w) (hsum : 0 < ws.sum) {u : K}
    (hu : 0 ≤ u) (hone : u < 1) :
    ∃ i, (thresholds ws).findIdx? (fun t => decide (u < t)) = some i ∧ i < ws.length ∧
      InPiece ws i u := by
  have hlen : 0 < ws.length := List.length_pos_of_ne_nil fun h => by
    rw [h, List.sum_nil] at hsum
    exact lt_irrefl _ hsum
  cases hfind : (thresholds ws).findIdx? (fun t => decide (u < t)) with
  | some i => exact ⟨i, rfl, (findIdx_thresholds hws hu i).mp hfind⟩
  | none =>
    -- the last threshold is one
    have hlast : ws.length - 1 < (thresholds ws).length := by
      rw [length_thresholds]
      omega
    have hnot := List.findIdx?_eq_none_iff.mp hfind _ (List.getElem_mem hlast)
    rw [getElem_thresholds, share_of_length_le hsum.ne' (by omega), decide_eq_false_iff_not] at hnot
    exact absurd hone hnot

/-! ## Multiples in a piece -/

/-- Of the first `n` multiples of `1 / n`, how many lie in a piece. -/
theorem card_inPiece [FloorRing K] {ws : List K} (hws : ∀ w ∈ ws, 0 ≤ w) (hsum : 0 < ws.sum)
    {n : Nat} (hn : 0 < n) (i : Nat) :
    (((Finset.range n).filter fun x : Nat => InPiece ws i (x / n)).card : Int)
      = ⌈n * share ws (i + 1)⌉ - ⌈n * share ws i⌉ := by
  have hn' : (0 : K) < n := by exact_mod_cast hn
  have hmono : ⌈n * share ws i⌉ ≤ ⌈n * share ws (i + 1)⌉ :=
    Int.ceil_le_ceil (mul_le_mul_of_nonneg_left (share_le_share hws (Nat.le_succ i)) hn'.le)
  have hlow : 0 ≤ ⌈n * share ws i⌉ :=
    Int.ceil_nonneg (mul_nonneg hn'.le (share_nonneg hws i))
  have hhigh : ⌈n * share ws (i + 1)⌉ ≤ n := by
    refine Int.ceil_le.mpr ?_
    rw [Int.cast_natCast]
    exact mul_le_of_le_one_right hn'.le (share_le_one hws hsum (i + 1))
  have hin : ∀ x : Nat, InPiece ws i (x / n)
      ↔ ⌈n * share ws i⌉ ≤ x ∧ x < ⌈n * share ws (i + 1)⌉ := by
    intro x
    unfold InPiece
    rw [le_div_iff₀' hn', div_lt_iff₀' hn', Int.ceil_le, Int.lt_ceil, Int.cast_natCast]
  have hfilter : (Finset.range n).filter (fun x : Nat => InPiece ws i (x / n))
      = Finset.Ico ⌈n * share ws i⌉.toNat ⌈n * share ws (i + 1)⌉.toNat := by
    ext x
    rw [Finset.mem_filter, Finset.mem_range, hin, Finset.mem_Ico]
    omega
  rw [hfilter, Nat.card_Ico]
  omega

end Quantile
