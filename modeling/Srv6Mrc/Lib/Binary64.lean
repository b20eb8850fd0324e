/-
  Doubles, as far as a program can tell them apart by comparing.

  A finite double is the rational it stands for; the two zeros are one.  `round` is the double
  nearest to a rational, the one with the even significand of two: what `float(n)`, `float("12.5")`
  and the quotient of two doubles all are.  Far out it is an infinity, and near zero it is zero; the
  two bounds are exact (`isFinite_round`, `round_pos`), and so is where a quotient by a thousand
  vanishes (`div_thousand_pos`).  A double is not rounded again (`round_round`), and a power of two is
  not stepped over (`magnitude_le_two_pow`).
-/
import Mathlib.Algebra.Order.Floor.Ring
import Mathlib.Data.Int.Log
import Mathlib.Data.Rat.Floor
import Mathlib.Tactic.Linarith
import Mathlib.Tactic.NormNum
import Mathlib.Tactic.Positivity

namespace Py

/-! ## Integers -/

/-- The integer nearest to `q`, the even one of two. -/
def nearestEven (q : ℚ) : ℤ :=
  let n := ⌊q⌋
  if q - n < 1 / 2 ∨ q - n = 1 / 2 ∧ n % 2 = 0 then n else n + 1

/-- Past an integer from half way to the next on, and from an even one only if past half way. -/
theorem lt_nearestEven {q : ℚ} {k : ℤ} :
    k < nearestEven q ↔ (k : ℚ) + 1 / 2 < q ∨ q = k + 1 / 2 ∧ k % 2 = 1 := by
  have hfloor : (⌊q⌋ : ℚ) ≤ q := Int.floor_le q
  have hceil : q < ⌊q⌋ + 1 := Int.lt_floor_add_one q
  unfold nearestEven
  dsimp only
  rcases lt_trichotomy k ⌊q⌋ with hlt | rfl | hgt
  · -- a whole step below the floor: past half way on either side
    have hstep : (k : ℚ) + 1 ≤ ⌊q⌋ := by exact_mod_cast hlt
    refine ⟨fun _ => .inl (by linarith), fun _ => ?_⟩
    split <;> omega
  · split_ifs with h
    · refine iff_of_false (lt_irrefl _) ?_
      rintro (hpast | ⟨hhalf, hodd⟩)
      · rcases h with h | ⟨h, -⟩ <;> linarith
      · rcases h with h | ⟨-, heven⟩
        · linarith
        · omega
    · refine iff_of_true (lt_add_one _) ?_
      rw [not_or, not_lt, not_and] at h
      rcases h.1.lt_or_eq with hpast | hhalf
      · exact .inl (by linarith)
      · exact .inr ⟨by linarith, by have := h.2 hhalf.symm; omega⟩
  · have hstep : (⌊q⌋ : ℚ) + 1 ≤ k := by exact_mod_cast hgt
    refine iff_of_false ?_ ?_
    · split <;> omega
    · rintro (hpast | ⟨hhalf, -⟩) <;> linarith

/-- What is rounded up from zero on is not negative. -/
theorem nearestEven_nonneg {q : ℚ} (h : 0 ≤ q) : 0 ≤ nearestEven q :=
  Int.sub_one_lt_iff.mp (lt_nearestEven.mpr (.inl (by push_cast; linarith)))

/-! ## Rounding -/

/-- The distance of the doubles around `q`. -/
def ulp (q : ℚ) : ℚ := 2 ^ max (Int.log 2 |q| - 52) (-1074)

/-- The magnitude of `q` in 53 significant bits, without regard to its range. -/
def magnitude (q : ℚ) : ℚ := nearestEven (|q| / ulp q) * ulp q

theorem ulp_pos (q : ℚ) : 0 < ulp q := zpow_pos two_pos _

theorem magnitude_nonneg (q : ℚ) : 0 ≤ magnitude q :=
  mul_nonneg (by exact_mod_cast nearestEven_nonneg (div_nonneg (abs_nonneg q) (ulp_pos q).le))
    (ulp_pos q).le

@[simp] theorem magnitude_zero : magnitude 0 = 0 := by
  unfold magnitude
  rw [abs_zero, zero_div, show nearestEven 0 = 0 by decide +kernel, Int.cast_zero, zero_mul]

/-- Doubles near zero are the multiples of the smallest; elsewhere a double has 53 bits. -/
theorem ulp_cases {q : ℚ} (hq : q ≠ 0) :
    ulp q = 2 ^ (-1074 : ℤ) ∧ |q| < 2 ^ (-1021 : ℤ) ∨
      ∃ e : ℤ, -1021 ≤ e ∧ ulp q = 2 ^ (e - 52) ∧ 2 ^ e ≤ |q| ∧ |q| < 2 ^ (e + 1) := by
  have hlog : |q| < 2 ^ (Int.log 2 |q| + 1) := by
    exact_mod_cast Int.lt_zpow_succ_log_self one_lt_two |q|
  unfold ulp
  rcases le_or_gt (Int.log 2 |q|) (-1022) with hsmall | hlarge
  · refine .inl ⟨by rw [max_eq_right (by omega)], hlog.trans_le ?_⟩
    exact zpow_le_zpow_right₀ one_le_two (by omega)
  · refine .inr ⟨_, hlarge, by rw [max_eq_left (by omega)], ?_, hlog⟩
    exact_mod_cast Int.zpow_log_le_self one_lt_two (abs_pos.mpr hq)

/-- With 53 bits, what is `2 ^ e` or more stays so. -/
theorem le_magnitude {q : ℚ} {e : ℤ} (hulp : ulp q = 2 ^ (e - 52)) (hle : 2 ^ e ≤ |q|) :
    2 ^ e ≤ magnitude q := by
  have hbits : (2 : ℚ) ^ e = 2 ^ 52 * 2 ^ (e - 52) := by
    rw [← zpow_natCast, ← zpow_add₀ two_ne_zero]
    congr 1
    omega
  have hmany : (2 ^ 52 : ℤ) ≤ nearestEven (|q| / ulp q) := by
    refine Int.le_of_sub_one_lt (lt_nearestEven.mpr (.inl ?_))
    have hquot : (2 : ℚ) ^ 52 ≤ |q| / ulp q := by
      rw [le_div_iff₀ (ulp_pos q), hulp, ← hbits]
      exact hle
    push_cast
    linarith
  unfold magnitude
  rw [hulp, hbits]
  rw [hulp] at hmany
  exact mul_le_mul_of_nonneg_right (by exact_mod_cast hmany) (zpow_pos two_pos _).le

/-- An even multiple of the smallest double is passed from half way to the next on. -/
theorem lt_magnitude {q : ℚ} {k : ℤ} (hk : 0 ≤ k) (hlt : k < 2 ^ 52) (heven : k % 2 = 0) :
    k * 2 ^ (-1074 : ℤ) < magnitude q ↔ ((k : ℚ) + 1 / 2) * 2 ^ (-1074 : ℤ) < |q| := by
  have hpos : (0 : ℚ) < 2 ^ (-1074 : ℤ) := zpow_pos two_pos _
  have hk0 : (0 : ℚ) ≤ k := by exact_mod_cast hk
  rcases eq_or_ne q 0 with rfl | hq
  · rw [magnitude_zero, abs_zero]
    exact iff_of_false (by nlinarith) (by nlinarith)
  rcases ulp_cases hq with ⟨hulp, -⟩ | ⟨e, he, hulp, hle, -⟩
  · unfold magnitude
    rw [hulp, mul_lt_mul_iff_left₀ hpos, Int.cast_lt, lt_nearestEven, lt_div_iff₀ hpos]
    exact or_iff_left fun h => by omega
  · -- far above: `2 ^ 52` times the smallest double on
    have hfar : ((k : ℚ) + 1 / 2) * 2 ^ (-1074 : ℤ) < 2 ^ e := by
      have hbits : (2 : ℚ) ^ 53 * 2 ^ (-1074 : ℤ) ≤ 2 ^ e := by
        rw [← zpow_natCast, ← zpow_add₀ two_ne_zero]
        exact zpow_le_zpow_right₀ one_le_two (by push_cast; omega)
      have hk52 : (k : ℚ) + 1 / 2 < 2 ^ 53 := by
        have : (k : ℚ) < 2 ^ 52 := by exact_mod_cast hlt
        linarith
      exact (mul_lt_mul_of_pos_right hk52 hpos).trans_le hbits
    refine iff_of_true ?_ (hfar.trans_le hle)
    have := le_magnitude hulp hle
    linarith

/-- Rounding moves by half a step at most. -/
theorem magnitude_le (q : ℚ) : magnitude q ≤ |q| + ulp q / 2 := by
  have hpos := ulp_pos q
  have hnear : (nearestEven (|q| / ulp q) : ℚ) ≤ |q| / ulp q + 1 / 2 := by
    by_contra hfar
    have hlast : nearestEven (|q| / ulp q) - 1 < nearestEven (|q| / ulp q) := sub_one_lt _
    rcases lt_nearestEven.mp hlast with h | ⟨h, -⟩ <;> push_cast at h <;> linarith
  calc magnitude q ≤ (|q| / ulp q + 1 / 2) * ulp q := mul_le_mul_of_nonneg_right hnear hpos.le
    _ = |q| + ulp q / 2 := by rw [add_mul, div_mul_cancel₀ _ hpos.ne']; ring

/-! ## What is not rounded -/

theorem nearestEven_intCast (n : ℤ) : nearestEven n = n := by
  unfold nearestEven
  rw [Int.floor_intCast]
  dsimp only
  rw [sub_self]
  exact if_pos (.inl (by norm_num))

/-- Rounding does not step over an integer. -/
theorem nearestEven_le {q : ℚ} {k : ℤ} (h : q ≤ k) : nearestEven q ≤ k := by
  by_contra hlt
  rcases lt_nearestEven.mp (not_le.mp hlt) with hpast | ⟨hhalf, -⟩ <;> linarith

/-- The exponent of the distance of the doubles around `q`. -/
theorem exponent_le {q : ℚ} (hq : q ≠ 0) {k : ℤ} (hlow : -1074 ≤ k) (h : |q| < 2 ^ (53 + k)) :
    max (Int.log 2 |q| - 52) (-1074) ≤ k := by
  have hlog : Int.log 2 |q| < 53 + k :=
    (Int.lt_zpow_iff_log_lt one_lt_two (abs_pos.mpr hq)).mp (by exact_mod_cast h)
  omega

/-- A multiple of a power of two, of less than 53 bits. -/
theorem magnitude_of_bits {q : ℚ} {n : ℕ} {e : ℤ} (he : -1074 ≤ e) (hn : n < 2 ^ 53)
    (hq : |q| = n * 2 ^ e) : magnitude q = |q| := by
  rcases eq_or_ne q 0 with rfl | hne
  · rw [magnitude_zero, abs_zero]
  have hlt : |q| < 2 ^ (53 + e) := by
    rw [hq, zpow_add₀ two_ne_zero]
    exact mul_lt_mul_of_pos_right (by exact_mod_cast hn) (zpow_pos two_pos e)
  -- the distance is a power that divides it
  obtain ⟨d, hd⟩ := Int.eq_ofNat_of_zero_le (sub_nonneg.mpr (exponent_le hne he hlt))
  have hunit : (2 : ℚ) ^ e = 2 ^ d * ulp q := by
    unfold ulp
    rw [← zpow_natCast, ← zpow_add₀ two_ne_zero]
    congr 1
    omega
  have hint : |q| / ulp q = ((n * 2 ^ d : ℕ) : ℤ) := by
    rw [div_eq_iff (ulp_pos q).ne', hq, hunit]
    push_cast
    ring
  unfold magnitude
  rw [hint, nearestEven_intCast, ← hint, div_mul_cancel₀ _ (ulp_pos q).ne']

/-- A power of two is not stepped over. -/
theorem magnitude_le_two_pow {q : ℚ} {k : ℤ} (hk : -1074 ≤ k) (h : |q| ≤ 2 ^ k) :
    magnitude q ≤ 2 ^ k := by
  rcases h.eq_or_lt with heq | hlt
  · have hone := magnitude_of_bits (q := q) (n := 1) hk (by decide)
      (by rw [heq, Nat.cast_one, one_mul])
    rw [hone]
    exact h
  rcases eq_or_ne q 0 with rfl | hne
  · rw [magnitude_zero]
    exact (zpow_pos two_pos k).le
  have hexp : max (Int.log 2 |q| - 52) (-1074) ≤ k := by
    have hlog : Int.log 2 |q| < k :=
      (Int.lt_zpow_iff_log_lt one_lt_two (abs_pos.mpr hne)).mp (by exact_mod_cast hlt)
    omega
  obtain ⟨d, hd⟩ := Int.eq_ofNat_of_zero_le (sub_nonneg.mpr hexp)
  have hunit : (2 : ℚ) ^ k = ((2 ^ d : ℕ) : ℤ) * ulp q := by
    unfold ulp
    push_cast
    rw [← zpow_natCast, ← zpow_add₀ two_ne_zero]
    congr 1
    omega
  have hquot : |q| / ulp q ≤ ((2 ^ d : ℕ) : ℤ) := by
    rw [div_le_iff₀ (ulp_pos q), ← hunit]
    exact h
  unfold magnitude
  rw [hunit]
  exact mul_le_mul_of_nonneg_right (by exact_mod_cast nearestEven_le hquot) (ulp_pos q).le

/-- What has been rounded is not rounded again. -/
theorem magnitude_magnitude (q : ℚ) : magnitude (magnitude q) = magnitude q := by
  rcases eq_or_ne q 0 with rfl | hne
  · rw [magnitude_zero, magnitude_zero]
  obtain ⟨e, he, hulp⟩ : ∃ e : ℤ, -1074 ≤ e ∧ ulp q = 2 ^ e := ⟨_, le_max_right _ _, rfl⟩
  obtain ⟨n, hn⟩ := Int.eq_ofNat_of_zero_le
    (nearestEven_nonneg (div_nonneg (abs_nonneg q) (ulp_pos q).le))
  have hrepr : magnitude q = n * 2 ^ e := by
    unfold magnitude
    rw [hn, hulp]
    rfl
  have habs : |magnitude q| = n * 2 ^ e := (abs_of_nonneg (magnitude_nonneg q)).trans hrepr
  -- 53 bits, or the next power of two
  have hbits : |q| / ulp q ≤ ((2 ^ 53 : ℕ) : ℤ) := by
    have hlog : |q| < 2 ^ (Int.log 2 |q| + 1) := by
      exact_mod_cast Int.lt_zpow_succ_log_self one_lt_two |q|
    have hunit : (2 : ℚ) ^ (Int.log 2 |q| - 52) ≤ ulp q :=
      zpow_le_zpow_right₀ one_le_two (le_max_left _ _)
    have hpow : (2 : ℚ) ^ (Int.log 2 |q| + 1) = 2 ^ 53 * 2 ^ (Int.log 2 |q| - 52) := by
      rw [← zpow_natCast, ← zpow_add₀ two_ne_zero]
      congr 1
      omega
    rw [div_le_iff₀ (ulp_pos q)]
    push_cast
    linarith
  have hle : n ≤ 2 ^ 53 := by
    have hnear := nearestEven_le hbits
    rw [hn] at hnear
    exact Int.ofNat_le.mp hnear
  rcases hle.eq_or_lt with rfl | hlt
  · have hpow : |magnitude q| = ((2 ^ 52 : ℕ) : ℚ) * 2 ^ (e + 1) := by
      rw [habs, zpow_add_one₀ two_ne_zero]
      push_cast
      ring
    rw [magnitude_of_bits (by omega) (by decide) hpow, abs_of_nonneg (magnitude_nonneg q)]
  · rw [magnitude_of_bits he hlt habs, abs_of_nonneg (magnitude_nonneg q)]

/-! ## The end of the range -/

/-- `2^1024` is reached from half way between the greatest double and it on. -/
theorem magnitude_lt {q : ℚ} : magnitude q < 2 ^ 1024 ↔ |q| < 2 ^ 1024 - 2 ^ 970 := by
  -- in units of `2 ^ 970`, half a step of the last doubles
  obtain ⟨unit, hunit⟩ : ∃ unit : ℚ, unit = 2 ^ 970 := ⟨_, rfl⟩
  have hpos : 0 < unit := hunit ▸ pow_pos two_pos _
  have hstep : (2 : ℚ) ^ 971 = 2 * unit := by rw [hunit, ← pow_succ']
  have hhalf : (2 : ℚ) ^ 1023 = 2 ^ 53 * unit := by rw [hunit, ← pow_add]
  have hall : (2 : ℚ) ^ 1024 = 2 ^ 54 * unit := by rw [hunit, ← pow_add]
  rw [hall, ← hunit]
  rcases eq_or_ne q 0 with rfl | hq
  · rw [magnitude_zero, abs_zero]
    exact iff_of_true (by linarith only [hpos]) (by linarith only [hpos])
  -- below `2 ^ 1023` there is room for the half step
  have hroom : |q| < 2 ^ 1023 → ulp q ≤ 2 ^ 970 →
      (magnitude q < 2 ^ 54 * unit ↔ |q| < 2 ^ 54 * unit - unit) := by
    intro hlt hulp
    rw [hhalf] at hlt
    rw [← hunit] at hulp
    exact iff_of_true (by linarith only [hlt, hulp, hpos, magnitude_le q])
      (by linarith only [hlt, hpos])
  rcases ulp_cases hq with ⟨hulp, hlt⟩ | ⟨e, -, hulp, hle, hlt⟩
  · refine hroom (hlt.trans ?_) ?_
    · rw [← zpow_natCast]
      exact zpow_lt_zpow_right₀ one_lt_two (by decide)
    · rw [hulp, ← zpow_natCast]
      exact zpow_le_zpow_right₀ one_le_two (by decide)
  rcases lt_trichotomy e 1023 with hsmall | rfl | hlarge
  · refine hroom (hlt.trans_le ?_) ?_
    · rw [← zpow_natCast]
      exact zpow_le_zpow_right₀ one_le_two (by push_cast; omega)
    · rw [hulp, ← zpow_natCast]
      exact zpow_le_zpow_right₀ one_le_two (by push_cast; omega)
  · have hlast : ulp q = 2 * unit := by
      rw [hulp, ← hstep, ← zpow_natCast]
      congr 1
    have hcount : magnitude q < 2 ^ 54 * unit ↔
        ¬(2 ^ 53 - 1 : ℤ) < nearestEven (|q| / (2 * unit)) := by
      unfold magnitude
      rw [hlast, show (2 : ℚ) ^ 54 * unit = 2 ^ 53 * (2 * unit) by ring,
        mul_lt_mul_iff_left₀ (by linarith only [hpos]), not_lt, Int.le_sub_one_iff]
      exact_mod_cast Iff.rfl
    rw [hcount, lt_nearestEven, lt_div_iff₀ (by linarith only [hpos]),
      div_eq_iff (by linarith only [hpos]), not_or]
    push_cast
    constructor
    · rintro ⟨hle, hne⟩
      exact lt_of_le_of_ne (by linarith only [hle]) fun h => hne ⟨by rw [h]; ring, by decide⟩
    · intro h
      exact ⟨by linarith only [h], fun heq => by linarith only [h, heq.1]⟩
  · have hfar : (2 : ℚ) ^ 54 * unit ≤ 2 ^ e := by
      rw [← hall, ← zpow_natCast]
      exact zpow_le_zpow_right₀ one_le_two (by push_cast; omega)
    have hmag := le_magnitude hulp hle
    exact iff_of_false (by linarith only [hfar, hmag]) (by linarith only [hfar, hle, hpos])

/-- The end of the range, in units of half a step of the last doubles. -/
theorem range_units : (2 : ℚ) ^ 1024 = 2 ^ 54 * 2 ^ 970 := by rw [← pow_add]

/-- The integers from here on, up or down, round out of the range. -/
def floatRange : ℕ := 2 ^ 1024 - 2 ^ 970

/-! ## Doubles -/

/-- A double: a rational, an infinity, or no number. -/
inductive Binary64 where
  | finite (q : ℚ)
  | infinity (negative : Bool)
  | nan
  deriving DecidableEq, Repr

namespace Binary64

/-- `0.0` -/
def zero : Binary64 := .finite 0

/-- `1.0` -/
def one : Binary64 := .finite 1

/-- `x < y` -/
def lt : Binary64 → Binary64 → Bool
  | .finite a, .finite b => a < b
  | .finite _, .infinity negative => !negative
  | .infinity negative, .finite _ => negative
  | .infinity a, .infinity b => a && !b
  | _, _ => false

/-- `x <= y` -/
def le : Binary64 → Binary64 → Bool
  | .finite a, .finite b => a ≤ b
  | .finite _, .infinity negative => !negative
  | .infinity negative, .finite _ => negative
  | .infinity a, .infinity b => a || !b
  | _, _ => false

/-- `math.isfinite(x)` -/
def isFinite : Binary64 → Bool
  | .finite _ => true
  | _ => false

/-- The double nearest to `q`. -/
def round (q : ℚ) : Binary64 :=
  if magnitude q < 2 ^ 1024 then .finite (if q < 0 then -magnitude q else magnitude q)
  else .infinity (q < 0)

/-- `float(n)`, `none` if it is out of range. -/
def ofInt (n : ℤ) : Option Binary64 :=
  if (round n).isFinite then some (round n) else none

/-- `x + y` -/
def add : Binary64 → Binary64 → Binary64
  | .finite a, .finite b => round (a + b)
  | .infinity a, .infinity b => if a = b then .infinity a else .nan
  | .infinity a, .finite _ | .finite _, .infinity a => .infinity a
  | _, _ => .nan

/-- `sum(xs)` -/
def sum (xs : List Binary64) : Binary64 := xs.foldl add zero

/-- `x / y`; for a `y` of zero Python raises an exception instead. -/
def quot : Binary64 → Binary64 → Binary64
  | .finite a, .finite b => round (a / b)
  | .infinity negative, .finite b => .infinity (negative ^^ decide (b < 0))
  | .finite _, .infinity _ => zero
  | _, _ => .nan

/-- `x / d`, for a number above zero. -/
def div (x : Binary64) (d : ℚ) : Binary64 :=
  match x with
  | .finite q => round (q / d)
  | .infinity negative => .infinity negative
  | .nan => .nan

/-- Below the range of a double the result is finite. -/
theorem isFinite_round {q : ℚ} : (round q).isFinite ↔ |q| < 2 ^ 1024 - 2 ^ 970 := by
  rw [← magnitude_lt]
  unfold round
  by_cases h : magnitude q < 2 ^ 1024
  · rw [if_pos h]
    exact iff_of_true rfl h
  · rw [if_neg h]
    exact iff_of_false Bool.false_ne_true h

theorem isFinite_round_int {n : ℤ} : (round n).isFinite ↔ n.natAbs < floatRange := by
  rw [isFinite_round, ← @Nat.cast_lt ℚ, Nat.cast_natAbs, Int.cast_abs, floatRange,
    Nat.cast_sub (pow_le_pow_right₀ one_le_two (by decide)), Nat.cast_pow, Nat.cast_pow,
    Nat.cast_ofNat]

/-- An integer is a float if it is in range. -/
theorem ofInt_eq (n : ℤ) : ofInt n = if n.natAbs < floatRange then some (round n) else none := by
  have hrange := isFinite_round_int (n := n)
  unfold ofInt
  split_ifs with hfinite hlt hlt
  · rfl
  · exact absurd (hrange.mp hfinite) hlt
  · exact absurd (hrange.mpr hlt) hfinite
  · rfl

/-- What is not negative is rounded to a magnitude, or to infinity. -/
theorem round_of_nonneg {q : ℚ} (h : 0 ≤ q) :
    round q = if magnitude q < 2 ^ 1024 then .finite (magnitude q) else .infinity false := by
  unfold round
  rw [if_neg h.not_gt, decide_eq_false h.not_gt]

theorem magnitude_neg (q : ℚ) : magnitude (-q) = magnitude q := by
  unfold magnitude ulp
  rw [abs_neg]

theorem round_zero : round 0 = zero := by
  rw [round_of_nonneg le_rfl, magnitude_zero, if_pos (pow_pos two_pos _)]
  rfl

/-- A double is the double nearest to it. -/
theorem round_round {q m : ℚ} (h : round q = .finite m) : round m = .finite m := by
  have hfits : magnitude q < 2 ^ 1024 ∧ m = if q < 0 then -magnitude q else magnitude q := by
    unfold round at h
    split_ifs at h with hmag <;> cases h
    · exact ⟨hmag, (if_pos ‹_›).symm⟩
    · exact ⟨hmag, (if_neg ‹_›).symm⟩
  obtain ⟨hmag, rfl⟩ := hfits
  have hsame : magnitude (if q < 0 then -magnitude q else magnitude q) = magnitude q := by
    split_ifs
    · rw [magnitude_neg, magnitude_magnitude]
    · exact magnitude_magnitude q
  have hnonneg := magnitude_nonneg q
  unfold round
  rw [hsame, if_pos hmag]
  split_ifs with hq hneg hneg
  · rfl
  · rw [show magnitude q = 0 by linarith, neg_zero]
  · exact absurd hneg hnonneg.not_gt
  · rfl

/-- What is not half of the smallest double is zero. -/
theorem round_pos {q : ℚ} (h : 0 ≤ q) : zero.lt (round q) ↔ 2 ^ (-1075 : ℤ) < q := by
  have hhalf : ((0 : ℤ) + 1 / 2 : ℚ) * 2 ^ (-1074 : ℤ) = 2 ^ (-1075 : ℤ) := by
    rw [Int.cast_zero, zero_add, one_div, ← zpow_neg_one, ← zpow_add₀ two_ne_zero]
    congr 1
  have hmag := lt_magnitude (q := q) (le_refl 0) (by decide) rfl
  rw [hhalf, Int.cast_zero, zero_mul, abs_of_nonneg h] at hmag
  rw [← hmag, round_of_nonneg h]
  split_ifs with hrange
  · exact decide_eq_true_iff
  · refine iff_of_true rfl ?_
    exact (pow_pos two_pos 1024).trans_le (not_lt.mp hrange)

/-- A positive integer is not rounded to zero. -/
theorem round_int_pos {n : ℤ} (h : 0 < n) : zero.lt (round n) := by
  have hone : (1 : ℚ) ≤ n := by exact_mod_cast h
  have hsmall : (2 : ℚ) ^ (-1075 : ℤ) < 1 := zpow_lt_one_of_neg₀ one_lt_two (by decide)
  exact (round_pos (zero_le_one.trans hone)).mpr (hsmall.trans_le hone)

/-- A quotient by a thousand is in range if the double was. -/
theorem isFinite_div_thousand {q : ℚ} (h : 0 ≤ q) :
    ((round q).div 1000).isFinite ↔ q < 2 ^ 1024 - 2 ^ 970 := by
  have hrange := isFinite_round (q := q)
  rw [abs_of_nonneg h] at hrange
  rw [← hrange, round_of_nonneg h]
  split_ifs with hmag
  · refine iff_of_true ?_ rfl
    have hpos : (0 : ℚ) < 2 ^ 970 := pow_pos two_pos _
    have hnonneg := magnitude_nonneg q
    change (round (magnitude q / 1000)).isFinite
    rw [isFinite_round, abs_of_nonneg (by positivity), range_units]
    rw [range_units] at hmag
    generalize (2 : ℚ) ^ 970 = unit at hmag hpos ⊢
    linarith only [hmag, hpos, hnonneg]
  · exact iff_of_false Bool.false_ne_true Bool.false_ne_true

/-- A quotient by a thousand is zero up to half way past five hundred times the smallest double: it
    is rounded twice, the second time down to zero. -/
theorem div_thousand_pos {q : ℚ} (h : 0 ≤ q) :
    zero.lt ((round q).div 1000) ↔ 1001 / 2 * 2 ^ (-1074 : ℤ) < q := by
  have hmag := lt_magnitude (q := q) (show (0 : ℤ) ≤ 500 by decide) (by decide) rfl
  rw [abs_of_nonneg h, show ((500 : ℤ) : ℚ) + 1 / 2 = 1001 / 2 by norm_num] at hmag
  rw [← hmag, round_of_nonneg h]
  split_ifs with hrange
  · have hhalf : (2 : ℚ) ^ (-1074 : ℤ) = 2 * 2 ^ (-1075 : ℤ) := by
      rw [show (-1074 : ℤ) = -1075 + 1 from rfl, zpow_add_one₀ two_ne_zero, mul_comm]
    have hnonneg := magnitude_nonneg q
    change zero.lt (round (magnitude q / 1000)) ↔ _
    rw [round_pos (by positivity), lt_div_iff₀ (by norm_num), hhalf]
    generalize (2 : ℚ) ^ (-1075 : ℤ) = half
    rw [show ((500 : ℤ) : ℚ) * (2 * half) = half * 1000 by push_cast; ring]
  · refine iff_of_true rfl ((lt_of_lt_of_le ?_ (not_lt.mp hrange)))
    have hone : (2 : ℚ) ^ (-1074 : ℤ) < 1 := zpow_lt_one_of_neg₀ one_lt_two (by decide)
    have hbig : (2 : ℚ) ^ 9 ≤ 2 ^ 1024 := pow_le_pow_right₀ one_le_two (by decide)
    generalize (2 : ℚ) ^ (-1074 : ℤ) = least at hone ⊢
    refine lt_of_lt_of_le ?_ hbig
    push_cast
    linarith only [hone]

/-! ## Sums of numbers from zero on -/

/-- Zero or above. -/
def NonNeg : Binary64 → Prop
  | .finite q => 0 ≤ q
  | .infinity negative => negative = false
  | .nan => False

/-- What is not negative is not rounded below zero. -/
theorem nonNeg_round {q : ℚ} (h : 0 ≤ q) : (round q).NonNeg := by
  rw [round_of_nonneg h]
  split_ifs
  · exact magnitude_nonneg q
  · rfl

theorem NonNeg.add {x y : Binary64} (hx : x.NonNeg) (hy : y.NonNeg) : (x.add y).NonNeg := by
  cases x with
  | nan => exact hx.elim
  | finite a =>
    cases y with
    | nan => exact hy.elim
    | finite b => exact nonNeg_round (add_nonneg hx hy)
    | infinity negative => exact hy
  | infinity negative =>
    cases y with
    | nan => exact hy.elim
    | finite b => exact hx
    | infinity negative' =>
      obtain rfl : negative = false := hx
      obtain rfl : negative' = false := hy
      rfl

theorem NonNeg.sum {xs : List Binary64} (h : ∀ x ∈ xs, x.NonNeg) : (sum xs).NonNeg := by
  have hfold : ∀ (xs : List Binary64) (acc : Binary64), acc.NonNeg → (∀ x ∈ xs, x.NonNeg) →
      (xs.foldl Binary64.add acc).NonNeg := by
    intro xs
    induction xs with
    | nil => exact fun _ hacc _ => hacc
    | cons x xs ih =>
      intro acc hacc hall
      obtain ⟨hx, hxs⟩ := List.forall_mem_cons.mp hall
      exact ih _ (hacc.add hx) hxs
  exact hfold xs zero le_rfl h

/-- Not above zero, it is zero. -/
theorem NonNeg.le_zero {x : Binary64} (h : x.NonNeg) : x.le zero = !zero.lt x := by
  cases x with
  | nan => exact h.elim
  | finite q =>
    show decide (q ≤ 0) = !decide (0 < q)
    rw [← decide_not]
    exact decide_eq_decide.mpr not_lt.symm
  | infinity negative =>
    obtain rfl : negative = false := h
    rfl

/-- Adding zero to a sum. -/
theorem add_add_zero (x y : Binary64) : (x.add y).add zero = x.add y := by
  have hround : ∀ q, (round q).add zero = round q := by
    intro q
    cases hq : round q with
    | nan => rfl
    | infinity negative => rfl
    | finite m =>
      show round (m + 0) = _
      rw [add_zero]
      exact round_round hq
  cases x with
  | nan => cases y <;> rfl
  | finite a =>
    cases y with
    | finite b => exact hround (a + b)
    | infinity | nan => rfl
  | infinity negative =>
    cases y with
    | finite | nan => rfl
    | infinity negative' =>
      show (if _ then _ else _ : Binary64).add zero = if _ then _ else _
      split_ifs <;> rfl

/-- Zero by a number above zero. -/
theorem zero_quot {y : Binary64} (h : zero.lt y) : zero.quot y = zero := by
  cases y with
  | nan => cases h
  | finite b =>
    show round (0 / b) = zero
    rw [zero_div, round_zero]
  | infinity negative => rfl

end Binary64

example : Binary64.round (1 / 10) = .finite (3602879701896397 / 2 ^ 55) := by decide +kernel

end Py
