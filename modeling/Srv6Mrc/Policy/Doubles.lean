/-
  The draw of `srv6_mrc/policy.py` in doubles.

  A running sum of doubles can end a little above 1.0 or below it, so the last threshold, which
  `_build_cdf` sets to 1.0, says nothing about the one before it.  What does hold in doubles, however
  `sum` adds them up, is `LawfulFloats`: a weight of zero leaves a running sum as it is, and the draws
  are in order.  From that follow when a draw ends on the last EV (`weightedPick_cases`), and that it
  ends on no other EV of weight zero (`findIdx_weight`).
-/
import Srv6Mrc.Lib.Binary64
import Srv6Mrc.Lib.Json
import Srv6Mrc.Policy.Draw

namespace Srv6Mrc

open Py

/-- What the draw needs of its arithmetic. -/
class LawfulFloats (F : Type) [Floats F] : Prop where
  /-- A weight of zero, at the front. -/
  zero_add : ∀ total : F, Floats.lt Floats.zero total = true →
    Floats.add Floats.zero (Floats.div (Floats.ofRat 0) total) = (Floats.zero : F)
  /-- A weight of zero, after others. -/
  add_zero : ∀ x y total : F, Floats.lt Floats.zero total = true →
    Floats.add (Floats.add x y) (Floats.div (Floats.ofRat 0) total) = Floats.add x y
  /-- No draw is below zero. -/
  unit_nonneg : ∀ n, Floats.lt (Floats.unit n) (Floats.zero : F) = false
  /-- No draw is above the greatest. -/
  lt_of_last : ∀ (n : Nat) (t : F), n < 2 ^ 64 → Floats.lt (Floats.unit (2 ^ 64 - 1)) t = true →
    Floats.lt (Floats.unit n) t = true

/-! ## Doubles -/

/-- Doubles, with the numbers of the table rounded once and the sum from left to right. -/
instance : Floats Binary64 where
  zero := .zero
  one := .one
  add := .add
  div := .quot
  sum := .sum
  lt := Binary64.lt
  le := Binary64.le
  unit n := (Binary64.round n).quot (.round (2 ^ 64))
  ofRat := .round
  sum_weights ws hws := by
    refine (Binary64.NonNeg.sum fun x hx => ?_).le_zero
    obtain ⟨w, hw, rfl⟩ := List.mem_map.mp hx
    exact Binary64.nonNeg_round (hws w hw)

instance : Builtins Binary64 where
  floatOfInt := Binary64.ofInt
  floatOfStr _ := none
  truncate
    | .finite q => .whole (if 0 ≤ q then ⌊q⌋ else ⌈q⌉)
    | .infinity _ => .infinite
    | .nan => .nan
  intOfStr s := s.toInt?

/-- A draw is at most 1.0. -/
theorem unit_double {n : Nat} (hn : n < 2 ^ 64) :
    ∃ q : ℚ, (Floats.unit n : Binary64) = .finite q ∧ 0 ≤ q ∧ q ≤ 1 := by
  have hdivisor : Binary64.round (2 ^ 64) = .finite (2 ^ 64) := by decide +kernel
  have hfits : ∀ {q : ℚ} {k : ℤ}, -1074 ≤ k → k < 1024 → 0 ≤ q → q ≤ 2 ^ k →
      Binary64.round q = .finite (magnitude q) ∧ magnitude q ≤ 2 ^ k := by
    intro q k hlow hhigh hq hle
    have hmag := magnitude_le_two_pow hlow ((abs_of_nonneg hq).trans_le hle)
    have hrange : magnitude q < 2 ^ 1024 := by
      refine hmag.trans_lt ?_
      rw [← zpow_natCast]
      exact zpow_lt_zpow_right₀ one_lt_two hhigh
    rw [Binary64.round_of_nonneg hq, if_pos hrange]
    exact ⟨rfl, hmag⟩
  have hcast : (n : ℚ) ≤ 2 ^ (64 : ℤ) := by exact_mod_cast hn.le
  obtain ⟨hround, hle⟩ := hfits (by decide) (by decide) (Nat.cast_nonneg n) hcast
  have hnonneg : 0 ≤ magnitude (n : ℚ) / 2 ^ 64 := div_nonneg (magnitude_nonneg _) (by positivity)
  have hone : magnitude (n : ℚ) / 2 ^ 64 ≤ 2 ^ (0 : ℤ) := by
    rw [zpow_zero, div_le_one (by positivity)]
    exact_mod_cast hle
  obtain ⟨hquot, hle'⟩ := hfits (by decide) (by decide) hnonneg hone
  refine ⟨_, ?_, magnitude_nonneg _, hle'⟩
  show (Binary64.round n).quot (.round (2 ^ 64)) = _
  rw [hround, hdivisor]
  exact hquot

/-- The greatest draw is 1.0. -/
theorem unit_double_last : (Floats.unit (2 ^ 64 - 1) : Binary64) = Binary64.one := by
  show (Binary64.round ((2 ^ 64 - 1 : ℕ) : ℚ)).quot (.round (2 ^ 64)) = Binary64.one
  decide +kernel

instance : LawfulFloats Binary64 where
  zero_add total htotal := by
    show Binary64.zero.add ((Binary64.round 0).quot total) = .zero
    rw [Binary64.round_zero, Binary64.zero_quot htotal]
    exact (congrArg Binary64.round (add_zero 0)).trans Binary64.round_zero
  add_zero x y total htotal := by
    show (x.add y).add ((Binary64.round 0).quot total) = x.add y
    rw [Binary64.round_zero, Binary64.zero_quot htotal]
    exact Binary64.add_add_zero x y
  unit_nonneg n := by
    have hquot : (Floats.unit n : Binary64).NonNeg := by
      have hdivisor : Binary64.round (2 ^ 64) = .finite (2 ^ 64) := by decide +kernel
      show ((Binary64.round n).quot (.round (2 ^ 64))).NonNeg
      rw [hdivisor]
      have hn : (Binary64.round n).NonNeg := Binary64.nonNeg_round (Nat.cast_nonneg n)
      cases hround : Binary64.round n with
      | nan => rw [hround] at hn; exact hn.elim
      | finite q =>
        rw [hround] at hn
        exact Binary64.nonNeg_round (div_nonneg hn (by positivity))
      | infinity negative =>
        rw [hround] at hn
        obtain rfl : negative = false := hn
        show (false ^^ decide ((2 : ℚ) ^ 64 < 0)) = false
        rw [decide_eq_false (by norm_num)]
        rfl
    show (Floats.unit n : Binary64).lt .zero = false
    cases hunit : (Floats.unit n : Binary64) with
    | nan => rfl
    | finite q =>
      rw [hunit] at hquot
      exact decide_eq_false (not_lt.mpr hquot)
    | infinity negative =>
      rw [hunit] at hquot
      exact hquot
  lt_of_last n t hn ht := by
    obtain ⟨q, hunit, -, hle⟩ := unit_double hn
    rw [unit_double_last] at ht
    rw [hunit]
    cases t with
    | nan => cases ht
    | finite b => exact decide_eq_true (hle.trans_lt (of_decide_eq_true ht))
    | infinity negative => exact ht

/-! ## Where a draw ends -/

section Draw

variable {F : Type} [Floats F]

theorem length_cumulate (total cum : F) (ws : List F) : (cumulate total cum ws).length = ws.length := by
  induction ws generalizing cum with
  | nil => rfl
  | cons w ws ih => exact congrArg Nat.succ (ih _)

/-- The running sums, one after the other, and then 1.0. -/
theorem buildCdf_concat {ws : List F} (h : ws ≠ []) :
    buildCdf ws = (cumulate (Floats.sum ws) Floats.zero ws).dropLast ++ [Floats.one] := by
  unfold buildCdf
  dsimp only
  have hne : cumulate (Floats.sum ws) Floats.zero ws ≠ [] := by
    rw [← List.length_pos_iff, length_cumulate]
    exact List.length_pos_iff.mpr h
  obtain ⟨sums, last, hsums⟩ := (List.eq_nil_or_concat' _).resolve_left hne
  rw [hsums, List.dropLast_concat, List.length_append, List.length_singleton, Nat.add_sub_cancel]
  simp

/-- The first threshold before the last that is above the draw, or else the last. -/
theorem weightedPick_eq {ws : List F} (h : ws ≠ []) (seq : Int) (flow : FlowKey) :
    weightedPick seq flow (buildCdf ws)
      = ((cumulate (Floats.sum ws) Floats.zero ws).dropLast.findIdx? fun threshold =>
          Floats.lt (Floats.unit (drawBits seq flow)) threshold).getD (ws.length - 1) := by
  have hlen : (cumulate (Floats.sum ws) Floats.zero ws).dropLast.length = ws.length - 1 := by
    rw [List.length_dropLast, length_cumulate]
  unfold weightedPick
  rw [buildCdf_concat h, List.findIdx?_append]
  cases hfind : (cumulate (Floats.sum ws) Floats.zero ws).dropLast.findIdx? fun threshold =>
      Floats.lt (Floats.unit (drawBits seq flow)) threshold with
  | some i => rfl
  | none =>
    rw [Option.none_or, List.findIdx?_singleton, Option.getD_none, List.length_append, hlen]
    split_ifs <;> simp

/-- A draw ends on the last EV, with no threshold before above it, or on an EV before. -/
theorem weightedPick_cases {ws : List F} (h : ws ≠ []) (seq : Int) (flow : FlowKey) :
    (weightedPick seq flow (buildCdf ws) = ws.length - 1 ∧
      ∀ threshold ∈ (buildCdf ws).dropLast,
        Floats.lt (Floats.unit (drawBits seq flow)) threshold = false) ∨
    (weightedPick seq flow (buildCdf ws) < ws.length - 1 ∧
      (∃ threshold ∈ (buildCdf ws).dropLast,
        Floats.lt (Floats.unit (drawBits seq flow)) threshold = true) ∧
      (cumulate (Floats.sum ws) Floats.zero ws).dropLast.findIdx? (fun threshold =>
        Floats.lt (Floats.unit (drawBits seq flow)) threshold)
          = some (weightedPick seq flow (buildCdf ws))) := by
  rw [weightedPick_eq h, buildCdf_concat h, List.dropLast_concat]
  cases hfind : (cumulate (Floats.sum ws) Floats.zero ws).dropLast.findIdx? fun threshold =>
      Floats.lt (Floats.unit (drawBits seq flow)) threshold with
  | none => exact Or.inl ⟨rfl, List.findIdx?_eq_none_iff.mp hfind⟩
  | some i =>
    obtain ⟨hlt, hat, -⟩ := List.findIdx?_eq_some_iff_getElem.mp hfind
    refine Or.inr ⟨?_, ⟨_, List.getElem_mem hlt, hat⟩, rfl⟩
    rwa [List.length_dropLast, length_cumulate] at hlt

variable [LawfulFloats F]

/-- A running sum: zero, or something added. -/
def Running (x : F) : Prop := x = Floats.zero ∨ ∃ a b, x = Floats.add a b

/-- The first running sum above a number has a weight that is not zero. -/
theorem findIdx_cumulate {total u : F} (htotal : Floats.lt Floats.zero total = true) {ws : List F}
    {cum : F} (hcum : Running cum) (hlow : Floats.lt u cum = false) {i : Nat}
    (hi : (cumulate total cum ws).findIdx? (fun threshold => Floats.lt u threshold) = some i) :
    ws[i]? ≠ some (Floats.ofRat 0) := by
  induction ws generalizing cum i with
  | nil => cases hi
  | cons w ws ih =>
    have hrest : (cumulate total cum (w :: ws)) = Floats.add cum (Floats.div w total) ::
        cumulate total (Floats.add cum (Floats.div w total)) ws := rfl
    rw [hrest, List.findIdx?_cons] at hi
    cases hlt : Floats.lt u (Floats.add cum (Floats.div w total)) with
    | true =>
      rw [hlt, if_pos rfl] at hi
      cases hi
      rintro ⟨⟩
      -- with a weight of zero it is the sum before
      have hsame : Floats.add cum (Floats.div (Floats.ofRat 0) total) = cum := by
        rcases hcum with rfl | ⟨a, b, rfl⟩
        · exact LawfulFloats.zero_add total htotal
        · exact LawfulFloats.add_zero a b total htotal
      rw [hsame, hlow] at hlt
      cases hlt
    | false =>
      rw [hlt, if_neg Bool.false_ne_true, Option.map_eq_some_iff] at hi
      obtain ⟨j, hj, rfl⟩ := hi
      rw [List.getElem?_cons_succ]
      exact ih (Or.inr ⟨_, _, rfl⟩) hlt hj

/-- A draw that ends before the last EV ends on one whose weight is not zero. -/
theorem findIdx_weight {ws : List F} (htotal : Floats.lt Floats.zero (Floats.sum ws) = true)
    {n i : Nat} (hi : (cumulate (Floats.sum ws) Floats.zero ws).dropLast.findIdx? (fun threshold =>
      Floats.lt (Floats.unit n) threshold) = some i) : ws[i]? ≠ some (Floats.ofRat 0) := by
  refine findIdx_cumulate htotal (Or.inl rfl) (LawfulFloats.unit_nonneg n) ?_
  obtain ⟨hlt, hat, hbefore⟩ := List.findIdx?_eq_some_iff_getElem.mp hi
  rw [List.length_dropLast] at hlt
  refine List.findIdx?_eq_some_iff_getElem.mpr ⟨by omega, ?_, fun j hj => ?_⟩
  · rwa [List.getElem_dropLast] at hat
  · have := hbefore j hj
    rwa [List.getElem_dropLast] at this

end Draw

end Srv6Mrc
