/-
  Numbers that are written and read again.

  An integer is read back from its text, by `int` and, rounded, by `float`.  A text that `float`
  reads has only digits, signs, points, underscores and letters in it, and spaces at its ends: so it
  can be joined with others by commas, and taken apart again.
-/
import Srv6Mrc.Lib.Hex
import Srv6Mrc.Lib.Text

namespace Py

/-! ## The digits of an integer -/

/-- The digits of ASCII. -/
theorem digit_of_ascii {c : Char} (h : c.isDigit) : digit c = some (c.toNat - '0'.toNat) := by
  have hcodes : ∀ n < 10, digitCode (48 + n) = some n := by decide
  obtain ⟨hle, hge⟩ := Char.isDigit_iff_toNat.mp h
  have hle : 48 ≤ c.toNat := hle
  have hge : c.toNat ≤ 57 := hge
  have := hcodes (c.toNat - 48) (by omega)
  rw [Nat.add_sub_cancel' hle] at this
  exact this

/-- The decimal digits of a number are digits. -/
theorem digits_toDigits (n : Nat) : Digits (Nat.toDigits 10 n) := by
  refine ⟨Nat.toDigits_ne_nil, fun c hc => ?_⟩
  have := Nat.isDigit_of_mem_toDigits (by decide) (by decide) hc
  rw [isDigit, digit_of_ascii this]
  rfl

theorem digitsVal_toDigits (n : Nat) : digitsVal (Nat.toDigits 10 n) = n := by
  have hfold : ∀ (cs : List Char), (∀ c ∈ cs, c.isDigit) → ∀ m,
      cs.foldl (fun n c => n * 10 + (digit c).getD 0) m = Nat.ofDigitChars 10 cs m := by
    intro cs hcs
    induction cs with
    | nil => exact fun m => rfl
    | cons c cs ih =>
      intro m
      rw [List.forall_mem_cons] at hcs
      rw [List.foldl_cons, ih hcs.2, Nat.ofDigitChars_cons, digit_of_ascii hcs.1, Option.getD_some,
        Nat.mul_comm]
  rw [digitsVal, hfold _ fun c hc => Nat.isDigit_of_mem_toDigits (by decide) (by decide) hc]
  exact Nat.ofDigitChars_ten_toDigits

/-- Zeros before the digits do not matter to `int`. -/
theorem intOfText_decPad {width n : Nat} (hwidth : width ≤ maxStrDigits) (hn : n < 10 ^ maxStrDigits) :
    intOfText (decPad width n) = some (n : Int) := by
  have hdigits : Digits ((Nat.toDigits 10 n).leftpad width '0') := by
    refine ⟨List.append_ne_nil_of_right_ne_nil _ Nat.toDigits_ne_nil, fun c hc => ?_⟩
    rcases List.mem_append.mp hc with hzero | hdigit
    · rw [List.eq_of_mem_replicate hzero]
      decide
    · exact (digits_toDigits n).2 c hdigit
  have hval : digitsVal ((Nat.toDigits 10 n).leftpad width '0') = n := by
    have hzeros : ∀ k, (List.replicate k '0').foldl (fun n c => n * 10 + (digit c).getD 0) 0 = 0 := by
      intro k
      have hall : ∀ c ∈ List.replicate k '0', (digit c).getD 0 = 0 := by
        intro c hc
        rw [List.eq_of_mem_replicate hc]
        decide
      exact digitsVal_eq_zero.mpr hall
    rw [digitsVal, List.leftpad, List.foldl_append, hzeros]
    exact digitsVal_toDigits n
  have hlength : ((Nat.toDigits 10 n).leftpad width '0').length ≤ maxStrDigits := by
    rw [List.length_leftpad]
    exact max_le hwidth ((Nat.length_toDigits_le_iff (by decide) (by decide)).mpr hn)
  rw [decPad, intOfText_digits hdigits, if_pos hlength, hval]

/-- A minus sign, for a negative number, and the digits. -/
def intChars (n : Int) : List Char :=
  if n < 0 then '-' :: Nat.toDigits 10 n.natAbs else Nat.toDigits 10 n.natAbs

/-- The characters that an integer is printed with. -/
theorem toList_toString (n : Int) : (toString n).toList = intChars n := by
  cases n with
  | ofNat m =>
    rw [intChars, if_neg (show ¬ Int.ofNat m < 0 from (Int.natCast_nonneg m).not_gt)]
    exact Nat.toList_repr
  | negSucc m =>
    rw [intChars, if_pos (Int.negSucc_lt_zero m)]
    change ("-" ++ Nat.repr (m + 1)).toList = _
    rw [String.toList_append, Nat.toList_repr]
    rfl

/-- Two to a power is at most ten to it. -/
theorem two_pow_le_ten_pow {a b : Nat} (h : a ≤ b) : 2 ^ a ≤ 10 ^ b :=
  (Nat.pow_le_pow_left (by decide) a).trans (Nat.pow_le_pow_right (by decide) h)

/-- An integer that is a float can be printed. -/
theorem textOfInt_of_float {n : Int} (h : n.natAbs < floatRange) :
    textOfInt n = some (toString n) := by
  have hrange : floatRange ≤ 2 ^ 1024 := Nat.sub_le _ _
  exact if_pos (h.trans_le (hrange.trans (two_pow_le_ten_pow (by decide))))

/-- The sign and the digits of what is printed. -/
theorem signed_intChars (n : Int) :
    signed (intChars n) = (decide (n < 0), Nat.toDigits 10 n.natAbs) := by
  have hsigned : signed (Nat.toDigits 10 n.natAbs ++ []) = _ := (digits_toDigits n.natAbs).signed
  rw [List.append_nil] at hsigned
  unfold intChars
  split_ifs with h
  · rw [decide_eq_true h]
    rfl
  · rw [decide_eq_false h, hsigned]

theorem intChars_not_space {n : Int} : ∀ c ∈ intChars n, isSpace c = false := by
  have hdigits : ∀ c ∈ Nat.toDigits 10 n.natAbs, isSpace c = false := by
    intro c hc
    by_contra hspace
    have := not_digit_of_space (Bool.of_not_eq_false hspace)
    exact Bool.false_ne_true (this.symm.trans ((digits_toDigits n.natAbs).2 c hc))
  unfold intChars
  split_ifs
  · exact List.forall_mem_cons.mpr ⟨by decide, hdigits⟩
  · exact hdigits

theorem strip_intChars (n : Int) : strip isNumSpace (intChars n) = intChars n := by
  refine strip_eq_self fun c hc => ?_
  rw [isNumSpace, intChars_not_space c hc, Bool.false_and]

/-- There is no space in an integer's text. -/
theorem textOfInt_not_space {n : Int} {s : String} (h : textOfInt n = some s) :
    ∀ c ∈ s.toList, isSpace c = false := by
  unfold textOfInt at h
  split_ifs at h
  rw [← Option.some_inj.mp h, toList_toString]
  exact intChars_not_space

/-- `int(str(n)) == n` -/
theorem intOfText_textOfInt {n : Int} {s : String} (h : textOfInt n = some s) :
    intOfText s = some n := by
  unfold textOfInt at h
  split_ifs at h with hprint
  rw [← Option.some_inj.mp h]
  have hlength : (Nat.toDigits 10 n.natAbs).length ≤ maxStrDigits :=
    (Nat.length_toDigits_le_iff (by decide) (by decide)).mpr hprint
  unfold intOfText
  rw [toList_toString, strip_intChars, signed_intChars]
  dsimp only
  rw [(digits_toDigits _).digitPart]
  dsimp only
  rw [if_pos hlength, digitsVal_toDigits]
  split_ifs with hneg
  · have := of_decide_eq_true hneg
    congr 1
    omega
  · have : ¬ n < 0 := fun h => hneg (decide_eq_true h)
    congr 1
    omega

/-- `float(str(n)) == float(n)` -/
theorem floatOfText_toString (n : Int) : floatOfText (toString n) = some (.round n) := by
  have hdigits := digits_toDigits n.natAbs
  have hname : ∀ name : List Char, isDigit (name.headD '0') = false →
      (Nat.toDigits 10 n.natAbs).map Char.toLower ≠ name := by
    intro name hhead
    have : (Nat.toDigits 10 n.natAbs ++ []).map Char.toLower ≠ name := hdigits.name_ne hhead
    rwa [List.append_nil] at this
  unfold floatOfText
  rw [toList_toString, strip_intChars, signed_intChars]
  dsimp only
  obtain ⟨hinf, hinfinity, hnan⟩ := isDigit_names
  rw [if_neg (not_or.mpr ⟨hname _ hinf, hname _ hinfinity⟩), if_neg (hname _ hnan),
    floatNumber_digits hdigits]
  have hval : decimal (Nat.toDigits 10 n.natAbs) [] = (n.natAbs : ℚ) := by
    rw [decimal, List.append_nil, digitsVal_toDigits, List.length_nil, pow_zero, div_one]
  have habs : ((n.natAbs : ℕ) : ℚ) = |(n : ℚ)| := by rw [Nat.cast_natAbs, Int.cast_abs]
  rw [Option.map_some, hval, habs]
  split_ifs with hneg
  · have : (n : ℚ) < 0 := by exact_mod_cast of_decide_eq_true hneg
    rw [abs_of_neg this, neg_neg]
  · have : (0 : ℚ) ≤ n := by exact_mod_cast not_lt.mp fun h => hneg (decide_eq_true h)
    rw [abs_of_nonneg this]

/-! ## The characters of a number -/

/-- What a float may be written with. -/
def NumberChar (c : Char) : Prop := isDigit c ∨ c.toLower ∈ "+-._aefinty".toList

/-- The characters of numbers that are no digits. -/
theorem numberLetters : "+-._aefinty".toList =
    ['+', '-', '.', '_', 'a', 'e', 'f', 'i', 'n', 't', 'y'] := by decide

theorem NumberChar.letter {c : Char}
    (h : c.toLower ∈ ['+', '-', '.', '_', 'a', 'e', 'f', 'i', 'n', 't', 'y']) : NumberChar c :=
  .inr (numberLetters ▸ h)

/-- A character of a number is neither blank nor a comma. -/
theorem NumberChar.spec {c : Char} (h : NumberChar c) : isSpace c = false ∧ c ≠ ',' := by
  rcases h with hdigit | hletter
  · refine ⟨?_, ?_⟩
    · by_contra hspace
      have := not_digit_of_space (Bool.of_not_eq_false hspace)
      exact Bool.false_ne_true (this.symm.trans hdigit)
    · rintro rfl
      exact absurd hdigit (Bool.eq_false_iff.mp (isDigit_eq_false (by decide)))
  · by_cases hupper : 65 ≤ c.toNat ∧ c.toNat ≤ 90
    · have hcodes : ∀ n < 26, spaceCode (65 + n) = false := by decide
      have := hcodes (c.toNat - 65) (by omega)
      rw [Nat.add_sub_cancel' hupper.1] at this
      refine ⟨this, ?_⟩
      rintro rfl
      exact absurd hupper (by decide)
    · have hlower : c.toLower = c := by
        unfold Char.toLower
        exact dif_neg hupper
      rw [hlower] at hletter
      rw [numberLetters] at hletter
      have hall : ['+', '-', '.', '_', 'a', 'e', 'f', 'i', 'n', 't', 'y'].all
          (fun d => !isSpace d && d != ',') := by decide
      simpa using List.all_eq_true.mp hall c hletter

/-- What is no separator is in one of the parts. -/
theorem mem_splitOnP {α : Type} {p : α → Bool} {xs : List α} {x : α} (h : x ∈ xs) :
    p x ∨ ∃ part ∈ xs.splitOnP p, x ∈ part := by
  induction xs with
  | nil => exact nomatch h
  | cons y ys ih =>
    rw [List.splitOnP_cons_eq_if_modifyHead]
    obtain ⟨part, parts, hparts⟩ := List.exists_cons_of_ne_nil (List.splitOnP_ne_nil p ys)
    rw [hparts] at ih ⊢
    rcases List.mem_cons.mp h with rfl | hmem
    · cases hy : p x with
      | true => exact .inl rfl
      | false => exact .inr ⟨x :: part, List.mem_cons_self, List.mem_cons_self⟩
    · rcases ih hmem with hp | ⟨q, hq, hx⟩
      · exact .inl hp
      · refine .inr ?_
        split_ifs
        · exact ⟨q, List.mem_cons_of_mem _ hq, hx⟩
        · rcases List.mem_cons.mp hq with rfl | hq
          · exact ⟨y :: q, List.mem_cons_self, List.mem_cons_of_mem y hx⟩
          · exact ⟨q, List.mem_cons_of_mem _ hq, hx⟩

/-- Digits and underscores are characters of numbers. -/
theorem digitPart_chars {cs ds : List Char} (h : digitPart cs = some ds) :
    ∀ c ∈ cs, NumberChar c := by
  intro c hc
  unfold digitPart at h
  dsimp only at h
  split_ifs at h with hgroups
  rcases mem_splitOnP (p := (· == '_')) hc with hsep | ⟨group, hgroup, hmem⟩
  · rw [beq_iff_eq.mp hsep]
    exact .letter (by decide)
  · have := of_decide_eq_true (List.all_eq_true.mp hgroups group hgroup)
    exact .inl (List.all_eq_true.mp this.2 c hmem)

/-- So it is for a number made of them. -/
theorem map_chars {cs : List Char} {f : List Char → ℚ} {q : ℚ} (h : (digitPart cs).map f = some q) :
    ∀ c ∈ cs, NumberChar c := by
  obtain ⟨ds, hds, -⟩ := Option.map_eq_some_iff.mp h
  exact digitPart_chars hds

/-- A number with a point has characters of numbers only. -/
theorem pointNumber_chars {cs : List Char} {q : ℚ} (h : pointNumber cs = some q) :
    ∀ c ∈ cs, NumberChar c := by
  intro c hc
  rcases mem_splitOnP (p := (· == '.')) hc with hsep | ⟨part, hpart, hmem⟩
  · rw [beq_iff_eq.mp hsep]
    exact .letter (by decide)
  · change part ∈ cs.splitOn '.' at hpart
    unfold pointNumber at h
    split at h
    · next heq =>
      rw [heq, List.mem_singleton] at hpart
      exact map_chars h c (hpart ▸ hmem)
    · next heq =>
      rw [heq, List.mem_pair] at hpart
      rcases hpart with rfl | rfl
      · exact map_chars h c hmem
      · exact nomatch hmem
    · next heq =>
      rw [heq, List.mem_pair] at hpart
      rcases hpart with rfl | rfl
      · exact nomatch hmem
      · exact map_chars h c hmem
    · next heq =>
      rw [heq, List.mem_pair] at hpart
      obtain ⟨ws, hws, hrest⟩ := Option.bind_eq_some_iff.mp h
      obtain ⟨fs, hfs, -⟩ := Option.bind_eq_some_iff.mp hrest
      rcases hpart with rfl | rfl
      · exact digitPart_chars hws c hmem
      · exact digitPart_chars hfs c hmem
    · exact nomatch h

/-- What comes after a sign, and the sign. -/
theorem signed_chars {cs : List Char} (h : ∀ c ∈ (signed cs).2, NumberChar c) :
    ∀ c ∈ cs, NumberChar c := by
  unfold signed at h
  split at h
  · exact List.forall_mem_cons.mpr ⟨.letter (by decide), h⟩
  · exact List.forall_mem_cons.mpr ⟨.letter (by decide), h⟩
  · exact h

/-- So has one with an exponent, or a name. -/
theorem floatNumber_chars {cs : List Char} {q : ℚ} (h : floatNumber cs = some q) :
    ∀ c ∈ cs, NumberChar c := by
  intro c hc
  rcases mem_splitOnP (p := fun c => decide (c = 'e' ∨ c = 'E')) hc with hsep | ⟨part, hpart, hmem⟩
  · rcases of_decide_eq_true hsep with rfl | rfl
    · exact .letter (by decide)
    · exact .letter (by decide)
  · unfold floatNumber at h
    split at h
    · next heq =>
      rw [heq, List.mem_singleton] at hpart
      exact pointNumber_chars h c (hpart ▸ hmem)
    · next number exponent heq =>
      rw [heq, List.mem_pair] at hpart
      dsimp only at h
      obtain ⟨x, hx, hrest⟩ := Option.bind_eq_some_iff.mp h
      obtain ⟨ds, hds, -⟩ := Option.bind_eq_some_iff.mp hrest
      rcases hpart with rfl | rfl
      · exact pointNumber_chars hx c hmem
      · exact signed_chars (digitPart_chars hds) c hmem
    · exact nomatch h

/-- What is stripped is of the kind that is stripped. -/
theorem mem_strip {p : Char → Bool} {cs : List Char} {c : Char} (h : c ∈ cs) (hc : p c = false) :
    c ∈ strip p cs := by
  have hdrop : c ∈ cs.dropWhile p := by
    rw [← List.takeWhile_append_dropWhile (p := p) (l := cs)] at h
    refine (List.mem_append.mp h).resolve_left fun htake => ?_
    exact Bool.false_ne_true (hc.symm.trans (List.mem_takeWhile_imp htake))
  rw [← List.rdropWhile_append_rtakeWhile (p := p) (l := cs.dropWhile p)] at hdrop
  refine (List.mem_append.mp hdrop).resolve_right fun htake => ?_
  exact Bool.false_ne_true (hc.symm.trans (List.mem_rtakeWhile_imp htake))

/-- Every character of a float's text is a number's, or a space around it. -/
theorem floatOfText_chars {s : String} {x : Binary64} (h : floatOfText s = some x) :
    ∀ c ∈ s.toList, isNumSpace c ∨ NumberChar c := by
  have hname : ∀ (cs : List Char) (name : String), cs.map Char.toLower = name.toList →
      name.toList.all ("+-._aefinty".toList.contains ·) → ∀ c ∈ cs, NumberChar c := by
    intro cs name heq hname c hc
    have hin := List.all_eq_true.mp hname c.toLower (heq ▸ List.mem_map_of_mem hc)
    exact .inr (List.contains_iff_mem.mp hin)
  have hnumber : ∀ (cs : List Char) (f : ℚ → Binary64), (floatNumber cs).map f = some x →
      ∀ c ∈ cs, NumberChar c := by
    intro cs f hmap
    obtain ⟨q, hq, -⟩ := Option.map_eq_some_iff.mp hmap
    exact floatNumber_chars hq
  have hbody : ∀ c ∈ (signed (strip isNumSpace s.toList)).2, NumberChar c := by
    unfold floatOfText at h
    dsimp only at h
    split_ifs at h with hinf hnan
    · rcases hinf with hinf | hinf
      · exact hname _ _ hinf (by decide)
      · exact hname _ _ hinf (by decide)
    · exact hname _ _ hnan (by decide)
    · exact hnumber _ _ h
    · exact hnumber _ _ h
  intro c hc
  by_cases hspace : isNumSpace c
  · exact .inl hspace
  · exact .inr (signed_chars hbody c (mem_strip hc (Bool.of_not_eq_true hspace)))

theorem strip_concat {p : Char → Bool} {cs : List Char} {c : Char} (hc : p c) :
    strip p (cs ++ [c]) = strip p cs := by
  unfold strip
  rw [List.dropWhile_append]
  split_ifs with hall
  · rw [List.isEmpty_iff.mp hall, List.dropWhile_cons, if_pos hc]
    rfl
  · rw [List.rdropWhile_concat_pos _ _ _ hc]

/-- Spaces at the end do not matter to `float`. -/
theorem floatOfText_rdropWhile {cs : List Char} {x : Binary64}
    (h : floatOfText (String.ofList cs) = some x) :
    floatOfText (String.ofList (cs.rdropWhile isSpace)) = some x := by
  induction cs using List.reverseRecOn with
  | nil => exact h
  | append_singleton cs c ih =>
    rw [List.rdropWhile_concat]
    split_ifs with hc
    · refine ih ?_
      have hchars := floatOfText_chars h c (by rw [String.toList_ofList]; simp)
      have hspace : isNumSpace c := hchars.resolve_right fun hnumber => by
        exact Bool.false_ne_true (hnumber.spec.1.symm.trans hc)
      unfold floatOfText at h ⊢
      rwa [String.toList_ofList, strip_concat hspace, ← String.toList_ofList (l := cs)] at h
    · exact h

/-! ## Numbers in a row -/

/-- The last text without the spaces at its end. -/
def trimLast : List (List Char) → List (List Char)
  | [] => []
  | [cs] => [cs.rdropWhile isSpace]
  | cs :: css => cs :: trimLast css

theorem trimLast_cons_cons {cs ds : List Char} {css : List (List Char)} :
    trimLast (cs :: ds :: css) = cs :: trimLast (ds :: css) := rfl

/-- Trimming leaves the number of parts. -/
theorem trimLast_ne_nil {css : List (List Char)} (h : css ≠ []) : trimLast css ≠ [] := by
  match css with
  | [] => exact absurd rfl h
  | [_] | _ :: _ :: _ => exact List.cons_ne_nil _ _

/-- The spaces at the end of a text are behind a character that is none. -/
theorem rdropWhile_append_cons {p : Char → Bool} {start cs : List Char} {c : Char}
    (hc : p c = false) :
    (start ++ c :: cs).rdropWhile p = start ++ c :: cs.rdropWhile p := by
  induction cs using List.reverseRecOn with
  | nil => exact List.rdropWhile_concat_neg _ _ _ (Bool.eq_false_iff.mp hc)
  | append_singleton cs d ih =>
    have hassoc : start ++ c :: (cs ++ [d]) = (start ++ c :: cs) ++ [d] := by simp
    rw [hassoc, List.rdropWhile_concat, List.rdropWhile_concat]
    split_ifs
    · exact ih
    · exact hassoc.symm

/-- Without the spaces at the end, texts joined by commas are still joined by commas. -/
theorem rdropWhile_joined (css : List (List Char)) :
    ([','].intercalate css).rdropWhile isSpace = [','].intercalate (trimLast css) := by
  match css with
  | [] => rfl
  | [cs] => rw [trimLast, List.intercalate_singleton, List.intercalate_singleton]
  | cs :: ds :: css =>
    have hjoin : ∀ (ds : List Char) (css : List (List Char)),
        [','].intercalate (cs :: ds :: css) = cs ++ ',' :: [','].intercalate (ds :: css) := by
      intro ds css
      rw [List.intercalate_cons_cons, List.append_assoc]
      rfl
    obtain ⟨es, ess, hes⟩ := List.exists_cons_of_ne_nil (trimLast_ne_nil (List.cons_ne_nil ds css))
    rw [trimLast_cons_cons, hes, hjoin, hjoin, ← hes,
      rdropWhile_append_cons (show isSpace ',' = false by decide),
      rdropWhile_joined (ds :: css)]

/-- These texts are read as these floats. -/
def ReadAs (css : List (List Char)) (xs : List Binary64) : Prop :=
  List.Forall₂ (fun cs x => floatOfText (String.ofList cs) = some x) css xs

theorem ReadAs.trimLast {css : List (List Char)} {xs : List Binary64} (h : ReadAs css xs) :
    ReadAs (trimLast css) xs := by
  induction h with
  | nil => exact .nil
  | @cons cs x css xs hx hrest ih =>
    cases css with
    | nil => exact .cons (floatOfText_rdropWhile hx) hrest
    | cons => exact .cons hx ih

/-- They have no comma in them, and are found again between the commas. -/
theorem ReadAs.splitOn {css : List (List Char)} {xs : List Binary64} (h : ReadAs css xs)
    (hne : css ≠ []) : ([','].intercalate css).splitOn ',' = css := by
  refine List.splitOn_intercalate ',' (fun cs hcs hcomma => ?_) hne
  obtain ⟨x, hx⟩ : ∃ x, floatOfText (String.ofList cs) = some x := by
    clear hne
    induction h with
    | nil => exact nomatch hcs
    | @cons _ x _ _ hx _ ih =>
      rcases List.mem_cons.mp hcs with rfl | hmem
      · exact ⟨x, hx⟩
      · exact ih hmem
  rcases floatOfText_chars hx ',' (by rwa [String.toList_ofList]) with hspace | hnumber
  · exact absurd hspace (by decide)
  · exact hnumber.spec.2 rfl

end Py
