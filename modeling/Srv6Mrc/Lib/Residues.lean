/-
  Walks through the residues.

  A walk that adds the same step again and again, modulo `m`, meets every residue if the step is
  prime to `m`: once in any `m` consecutive places, wherever they start (`image_window`).  So a count
  over such a window is a count over the residues (`card_window`), and over any interval at all two
  residues come up equally often, up to one (`count_le_succ`).
-/
import Mathlib

namespace Residues

/-- The `k`-th place of the walk from `a` with step `g`, modulo `m`. -/
def walk (m : Nat) (a g k : Int) : Nat := ((a + k * g) % m).toNat

variable {m : Nat} {g : Int}

theorem cast_walk (hm : 0 < m) (a g k : Int) : (walk m a g k : Int) = (a + k * g) % m :=
  Int.toNat_of_nonneg (Int.emod_nonneg _ (by omega))

theorem walk_lt (hm : 0 < m) (a g k : Int) : walk m a g k < m := by
  have hlt : (a + k * g) % m < m := Int.emod_lt_of_pos _ (by omega)
  have hcast := cast_walk hm a g k
  omega

/-- The walk is in the same place exactly after a multiple of `m` steps. -/
theorem walk_eq_iff (hm : 0 < m) (hg : IsCoprime g m) (a k l : Int) :
    walk m a g k = walk m a g l ↔ k ≡ l [ZMOD m] := by
  have hdiff : a + l * g - (a + k * g) = (l - k) * g := by ring
  rw [← Int.natCast_inj, cast_walk hm, cast_walk hm]
  show a + k * g ≡ a + l * g [ZMOD m] ↔ _
  rw [Int.modEq_iff_dvd, Int.modEq_iff_dvd, hdiff]
  exact ⟨fun h => hg.symm.dvd_of_dvd_mul_right h, fun h => h.mul_right g⟩

theorem walk_injOn (hm : 0 < m) (hg : IsCoprime g m) (a s : Int) :
    Set.InjOn (walk m a g) (Finset.Ico s (s + m)) := by
  intro k hk l hl heq
  obtain ⟨hk₁, hk₂⟩ := Finset.mem_Ico.mp (Finset.mem_coe.mp hk)
  obtain ⟨hl₁, hl₂⟩ := Finset.mem_Ico.mp (Finset.mem_coe.mp hl)
  obtain ⟨c, hc⟩ := Int.modEq_iff_dvd.mp ((walk_eq_iff hm hg a k l).mp heq)
  -- two places less than `m` apart whose distance `m` divides
  have hzero : c = 0 := by
    by_contra hne
    rcases lt_or_gt_of_ne hne with hneg | hpos
    · nlinarith
    · nlinarith
  rw [hzero, mul_zero] at hc
  omega

/-- `m` consecutive places are all the residues. -/
theorem image_window (hm : 0 < m) (hg : IsCoprime g m) (a s : Int) :
    (Finset.Ico s (s + m)).image (walk m a g) = Finset.range m := by
  refine Finset.eq_of_subset_of_card_le (fun r hr => ?_) ?_
  · obtain ⟨k, -, rfl⟩ := Finset.mem_image.mp hr
    exact Finset.mem_range.mpr (walk_lt hm a g k)
  · rw [Finset.card_image_of_injOn (walk_injOn hm hg a s), Finset.card_range, Int.card_Ico]
    omega

/-- What is counted over a window is counted over the residues. -/
theorem card_window (hm : 0 < m) (hg : IsCoprime g m) (a s : Int) (P : Nat → Prop)
    [DecidablePred P] :
    ((Finset.Ico s (s + m)).filter fun k => P (walk m a g k)).card
      = ((Finset.range m).filter P).card := by
  rw [← image_window hm hg a s, Finset.filter_image]
  refine (Finset.card_image_of_injOn ?_).symm
  exact (walk_injOn hm hg a s).mono fun k hk => (Finset.mem_filter.mp hk).1

/-- Each residue once in a window. -/
theorem card_eq_one (hm : 0 < m) (hg : IsCoprime g m) (a s : Int) {r : Nat} (hr : r < m) :
    ((Finset.Ico s (s + m)).filter fun k => walk m a g k = r).card = 1 := by
  rw [card_window hm hg a s fun x => x = r, Finset.filter_eq' _ r,
    if_pos (Finset.mem_range.mpr hr), Finset.card_singleton]

/-- Over any interval a residue comes up the length over `m` times, rounded up or down. -/
theorem count_bounds (hm : 0 < m) (hg : IsCoprime g m) (a : Int) {s t : Int} (hst : s ≤ t)
    {r : Nat} (hr : r < m) :
    let n : Int := ((Finset.Ico s t).filter fun k => walk m a g k = r).card
    n * m < t - s + m ∧ t - s - m < n * m := by
  intro n
  obtain ⟨v, -, hv⟩ := Finset.mem_image.mp
    (show r ∈ (Finset.Ico (0 : Int) (0 + m)).image (walk m a g) by
      rw [image_window hm hg a 0]
      exact Finset.mem_range.mpr hr)
  have hm' : (0 : ℚ) < (m : Int) := by exact_mod_cast hm
  have hn : n = ⌈(t - v) / ((m : Int) : ℚ)⌉ - ⌈(s - v) / ((m : Int) : ℚ)⌉ := by
    have hfilter : (Finset.Ico s t).filter (fun k => walk m a g k = r)
        = (Finset.Ico s t).filter fun k => k ≡ v [ZMOD (m : Int)] :=
      Finset.filter_congr fun k _ => by rw [← hv, walk_eq_iff hm hg]
    have hle : (s - v) / ((m : Int) : ℚ) ≤ (t - v) / ((m : Int) : ℚ) := by
      have : (s : ℚ) ≤ t := by exact_mod_cast hst
      gcongr
    show ((_ : Nat) : Int) = _
    rw [hfilter, Int.Ico_filter_modEq_card s t (by exact_mod_cast hm) v,
      max_eq_left (sub_nonneg.mpr (Int.ceil_le_ceil hle))]
  -- the two ceilings are less than one above what they round
  have ht₁ := Int.le_ceil ((t - v) / ((m : Int) : ℚ))
  have ht₂ := Int.ceil_lt_add_one ((t - v) / ((m : Int) : ℚ))
  have hs₁ := Int.le_ceil ((s - v) / ((m : Int) : ℚ))
  have hs₂ := Int.ceil_lt_add_one ((s - v) / ((m : Int) : ℚ))
  have hlen : (t - v) / ((m : Int) : ℚ) - (s - v) / ((m : Int) : ℚ) = (t - s) / ((m : Int) : ℚ) := by
    ring
  have hhigh : (n : ℚ) < (t - s) / ((m : Int) : ℚ) + 1 := by
    rw [hn, Int.cast_sub]
    linarith
  have hlow : (t - s) / ((m : Int) : ℚ) - 1 < (n : ℚ) := by
    rw [hn, Int.cast_sub]
    linarith
  constructor
  · have h : (n : ℚ) * (m : Int) < t - s + (m : Int) := by
      have hmul := mul_lt_mul_of_pos_right hhigh hm'
      rwa [add_mul, div_mul_cancel₀ _ hm'.ne', one_mul] at hmul
    exact_mod_cast h
  · have h : (t : ℚ) - s - (m : Int) < n * (m : Int) := by
      have hmul := mul_lt_mul_of_pos_right hlow hm'
      rwa [sub_mul, div_mul_cancel₀ _ hm'.ne', one_mul] at hmul
    exact_mod_cast h

/-- Over any interval no residue comes up twice more often than another. -/
theorem count_le_succ (hm : 0 < m) (hg : IsCoprime g m) (a s t : Int) {r r' : Nat} (hr : r < m)
    (hr' : r' < m) :
    ((Finset.Ico s t).filter fun k => walk m a g k = r).card
      ≤ ((Finset.Ico s t).filter fun k => walk m a g k = r').card + 1 := by
  rcases le_total s t with hst | hts
  · obtain ⟨hhigh, -⟩ := count_bounds hm hg a hst hr
    obtain ⟨-, hlow⟩ := count_bounds hm hg a hst hr'
    generalize ((Finset.Ico s t).filter fun k => walk m a g k = r).card = n at *
    generalize ((Finset.Ico s t).filter fun k => walk m a g k = r').card = n' at *
    by_contra hgap
    have hle : ((n' : Int) + 2) * m ≤ n * m := by
      have : (n' : Int) + 2 ≤ n := by omega
      gcongr
    linarith
  · rw [Finset.Ico_eq_empty_of_le hts]
    exact Nat.zero_le _

end Residues
