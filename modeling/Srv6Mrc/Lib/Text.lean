/-
  Python's texts: spaces, digits, words, and the numbers `int(s)` and `float(s)` read.

  A digit is any decimal digit of Unicode, and a space any character `str.isspace` takes for one;
  around a number the four separators of ASCII are no spaces.  `int` refuses a text of more than
  4300 digits, and so does writing such an integer.  What a row of digits is read as does not depend
  on the grammar around it (`intOfText_digits`, `floatOfText_decimal`).
-/
import Mathlib.Data.List.DropRight
import Srv6Mrc.Lib.Binary64

namespace Py

/-! ## Characters -/

/-- The code points of spaces. -/
def spaceCode (n : Nat) : Bool :=
  9 ≤ n && n ≤ 13 || 28 ≤ n && n ≤ 32 || n == 0x85 || n == 0xa0 || n == 0x1680
    || 0x2000 ≤ n && n ≤ 0x200a || n == 0x2028 || n == 0x2029 || n == 0x202f || n == 0x205f
    || n == 0x3000

/-- The code points of the zeros; the other digits of a script follow its zero. -/
def zeros : List Nat :=
  [0x30, 0x660, 0x6f0, 0x7c0, 0x966, 0x9e6, 0xa66, 0xae6, 0xb66, 0xbe6, 0xc66, 0xce6, 0xd66, 0xde6,
   0xe50, 0xed0, 0xf20, 0x1040, 0x1090, 0x17e0, 0x1810, 0x1946, 0x19d0, 0x1a80, 0x1a90, 0x1b50,
   0x1bb0, 0x1c40, 0x1c50, 0xa620, 0xa8d0, 0xa900, 0xa9d0, 0xa9f0, 0xaa50, 0xabf0, 0xff10, 0x104a0,
   0x10d30, 0x11066, 0x110f0, 0x11136, 0x111d0, 0x112f0, 0x11450, 0x114d0, 0x11650, 0x116c0,
   0x11730, 0x118e0, 0x11950, 0x11c50, 0x11d50, 0x11da0, 0x16a60, 0x16ac0, 0x16b50, 0x1d7ce,
   0x1d7d8, 0x1d7e2, 0x1d7ec, 0x1d7f6, 0x1e140, 0x1e2f0, 0x1e950, 0x1fbf0]

/-- The digit a code point stands for. -/
def digitCode (n : Nat) : Option Nat :=
  (zeros.find? fun z => z ≤ n ∧ n < z + 10).map (n - ·)

/-- `c.isspace()`, and `\s` -/
def isSpace (c : Char) : Bool := spaceCode c.toNat

/-- What `int` and `float` skip around a number. -/
def isNumSpace (c : Char) : Bool := isSpace c && !(28 ≤ c.toNat && c.toNat ≤ 31)

/-- `unicodedata.decimal(c)` -/
def digit (c : Char) : Option Nat := digitCode c.toNat

/-- `\d` -/
def isDigit (c : Char) : Bool := (digit c).isSome

/-- What `str.isdigit` takes beside the decimal digits, from and to: digits in superscript, in
    circles and the like. -/
def otherDigits : List (Nat × Nat) :=
  [(0xb2, 0xb3), (0xb9, 0xb9), (0x1369, 0x1371), (0x19da, 0x19da), (0x2070, 0x2070),
   (0x2074, 0x2079), (0x2080, 0x2089), (0x2460, 0x2468), (0x2474, 0x247c), (0x2488, 0x2490),
   (0x24ea, 0x24ea), (0x24f5, 0x24fd), (0x24ff, 0x24ff), (0x2776, 0x277e), (0x2780, 0x2788),
   (0x278a, 0x2792), (0x10a40, 0x10a43), (0x10e60, 0x10e68), (0x11052, 0x1105a),
   (0x1f100, 0x1f10a)]

/-- `s.isdigit()` -/
def isDigitText (cs : List Char) : Bool :=
  cs ≠ [] && cs.all fun c =>
    isDigit c || otherDigits.any fun range => range.1 ≤ c.toNat && c.toNat ≤ range.2

/-- Where the digits are: those of ASCII, and then none around a space. -/
theorem zeros_cases : ∀ z ∈ zeros, z = 48 ∨ 0x660 ≤ z ∧ z + 10 ≤ 0x1680 ∨
    0x1680 < z ∧ z + 10 ≤ 0x2000 ∨ 0x3000 < z := by decide

/-- A code in no block of digits is no digit. -/
theorem digitCode_eq_none {n : Nat} (h : ∀ z ∈ zeros, n < z ∨ z + 10 ≤ n) : digitCode n = none := by
  unfold digitCode
  rw [Option.map_eq_none_iff, List.find?_eq_none]
  intro z hz hin
  obtain ⟨hle, hlt⟩ := of_decide_eq_true hin
  have := h z hz
  omega

/-- Below the Arabic digits, only those of ASCII. -/
theorem isDigit_eq_false {c : Char} (h : c.toNat < 48 ∨ 57 < c.toNat ∧ c.toNat < 0x660) :
    isDigit c = false := by
  unfold isDigit digit
  rw [digitCode_eq_none]
  · rfl
  · intro z hz
    have := zeros_cases z hz
    omega

theorem not_digit_of_space {c : Char} (h : isSpace c) : isDigit c = false := by
  unfold isDigit digit
  rw [digitCode_eq_none]
  · rfl
  · intro z hz
    have hzero := zeros_cases z hz
    unfold isSpace spaceCode at h
    simp only [Bool.or_eq_true, Bool.and_eq_true, decide_eq_true_eq, beq_iff_eq] at h
    omega

/-- What numbers may have around them is blank. -/
theorem isSpace_of_isNumSpace {c : Char} (h : isNumSpace c) : isSpace c :=
  (Bool.and_eq_true_iff.mp h).1

/-! ## Around a text, and between its words -/

/-- Without the characters of a kind at both ends. -/
def strip (p : Char → Bool) (cs : List Char) : List Char := (cs.dropWhile p).rdropWhile p

/-- `s.strip()` -/
def stripText (s : String) : String := String.ofList (strip isSpace s.toList)

/-- `s.split()` -/
def words (s : String) : List String :=
  ((s.toList.splitOnP isSpace).filter (· ≠ [])).map String.ofList

/-- Without blanks there is nothing to strip. -/
theorem strip_eq_self {p : Char → Bool} {cs : List Char} (h : ∀ c ∈ cs, p c = false) :
    strip p cs = cs := by
  unfold strip
  have hhead : cs.dropWhile p = cs := by
    cases cs with
    | nil => rfl
    | cons c cs => rw [List.dropWhile_cons, if_neg (by simp [h c List.mem_cons_self])]
  rw [hhead, List.rdropWhile_eq_self_iff]
  intro hne
  simp [h _ (List.getLast_mem hne)]

/-! ## Integers -/

/-- The number a row of digits stands for. -/
def digitsVal (cs : List Char) : Nat := cs.foldl (fun n c => n * 10 + (digit c).getD 0) 0

theorem digitsVal_eq_zero {cs : List Char} :
    digitsVal cs = 0 ↔ ∀ c ∈ cs, (digit c).getD 0 = 0 := by
  have hfold : ∀ (cs : List Char) (n : Nat),
      cs.foldl (fun n c => n * 10 + (digit c).getD 0) n = 0 ↔
        n = 0 ∧ ∀ c ∈ cs, (digit c).getD 0 = 0 := by
    intro cs
    induction cs with
    | nil => simp
    | cons c cs ih =>
      intro n
      have hstep : n * 10 + (digit c).getD 0 = 0 ↔ n = 0 ∧ (digit c).getD 0 = 0 := by omega
      rw [List.foldl_cons, ih, List.forall_mem_cons, hstep, and_assoc]
  rw [digitsVal, hfold, and_iff_right rfl]

/-- `digit (["_"] digit)*`: the digits. -/
def digitPart (cs : List Char) : Option (List Char) :=
  let groups := cs.splitOn '_'
  if groups.all fun group => group ≠ [] ∧ group.all isDigit then some groups.flatten else none

/-- A sign, if there is one, and the rest. -/
def signed (cs : List Char) : Bool × List Char :=
  match cs with
  | '+' :: rest => (false, rest)
  | '-' :: rest => (true, rest)
  | rest => (false, rest)

/-- `sys.int_info.default_max_str_digits` -/
def maxStrDigits : Nat := 4300

/-- `int(s)`, `none` if it is no integer, or too long a text of one. -/
def intOfText (s : String) : Option Int :=
  let (negative, body) := signed (strip isNumSpace s.toList)
  match digitPart body with
  | none => none
  | some ds =>
    if ds.length ≤ maxStrDigits then some (if negative then -digitsVal ds else digitsVal ds)
    else none

/-- `str(n)`, `none` if it would be too long. -/
def textOfInt (n : Int) : Option String :=
  if n.natAbs < 10 ^ maxStrDigits then some (toString n) else none

/-! ## Floats -/

/-- The number that digits with a point stand for. -/
def decimal (whole fraction : List Char) : ℚ := digitsVal (whole ++ fraction) / 10 ^ fraction.length

/-- `[digitpart] "." digitpart | digitpart ["."]` -/
def pointNumber (cs : List Char) : Option ℚ :=
  match cs.splitOn '.' with
  | [whole] => (digitPart whole).map (decimal · [])
  | [whole, []] => (digitPart whole).map (decimal · [])
  | [[], fraction] => (digitPart fraction).map (decimal [])
  | [whole, fraction] => do return decimal (← digitPart whole) (← digitPart fraction)
  | _ => none

/-- `number [("e" | "E") [sign] digitpart]` -/
def floatNumber (cs : List Char) : Option ℚ :=
  match cs.splitOnP fun c => c = 'e' ∨ c = 'E' with
  | [number] => pointNumber number
  | [number, exponent] =>
    let (negative, exponent) := signed exponent
    do
      let q ← pointNumber number
      let ds ← digitPart exponent
      return q * 10 ^ (if negative then -(digitsVal ds : ℤ) else digitsVal ds)
  | _ => none

/-- `float(s)`, `none` if it is no float. -/
def floatOfText (s : String) : Option Binary64 :=
  let (negative, body) := signed (strip isNumSpace s.toList)
  let name := body.map Char.toLower
  if name = "inf".toList ∨ name = "infinity".toList then some (.infinity negative)
  else if name = "nan".toList then some .nan
  else (floatNumber body).map fun q => .round (if negative then -q else q)

/-! ## Rows of digits -/

/-- Digits only, and at least one. -/
def Digits (cs : List Char) : Prop := cs ≠ [] ∧ ∀ c ∈ cs, isDigit c

/-- What is no digit is not among digits. -/
theorem Digits.not_mem {cs : List Char} (h : Digits cs) {c : Char} (hc : isDigit c = false) :
    c ∉ cs := fun hin => Bool.false_ne_true (hc.symm.trans (h.2 c hin))

theorem Digits.digitPart {cs : List Char} (h : Digits cs) : digitPart cs = some cs := by
  unfold Py.digitPart
  rw [List.splitOn_eq_singleton (h.not_mem (isDigit_eq_false (by decide)))]
  dsimp only
  rw [if_pos (by simpa [Digits] using h), List.flatten_singleton]

theorem Digits.append {as bs : List Char} (ha : Digits as) (hb : Digits bs) : Digits (as ++ bs) :=
  ⟨List.append_ne_nil_of_left_ne_nil ha.1 bs, fun c hc => (List.mem_append.mp hc).elim (ha.2 c) (hb.2 c)⟩

/-- A row of digits has no sign before it. -/
theorem Digits.signed {cs rest : List Char} (h : Digits cs) :
    signed (cs ++ rest) = (false, cs ++ rest) := by
  obtain ⟨c, cs, rfl⟩ := List.exists_cons_of_ne_nil h.1
  have hc := h.2 c List.mem_cons_self
  unfold Py.signed
  split
  · next heq =>
    rw [(List.cons.inj heq).1] at hc
    exact absurd hc (Bool.eq_false_iff.mp (isDigit_eq_false (by decide)))
  · next heq =>
    rw [(List.cons.inj heq).1] at hc
    exact absurd hc (Bool.eq_false_iff.mp (isDigit_eq_false (by decide)))
  · rfl

theorem isDigit_not_space {c : Char} (h : isDigit c) : isNumSpace c = false := by
  by_contra hspace
  have := not_digit_of_space (isSpace_of_isNumSpace (Bool.of_not_eq_false hspace))
  exact Bool.false_ne_true (this.symm.trans h)

/-- Digits are read as their number, if they are not too many. -/
theorem intOfText_digits {cs : List Char} (h : Digits cs) :
    intOfText (String.ofList cs) =
      if cs.length ≤ maxStrDigits then some (digitsVal cs : Int) else none := by
  have hsigned : signed (cs ++ []) = (false, cs ++ []) := h.signed
  rw [List.append_nil] at hsigned
  unfold intOfText
  rw [String.toList_ofList, strip_eq_self fun c hc => isDigit_not_space (h.2 c hc), hsigned]
  dsimp only
  rw [h.digitPart]
  rfl

/-- No digit is a letter. -/
theorem toLower_of_isDigit {c : Char} (h : isDigit c) : c.toLower = c := by
  unfold Char.toLower
  rw [dif_neg]
  rintro ⟨hle, hge⟩
  have hle : 65 ≤ c.toNat := hle
  have hge : c.toNat ≤ 90 := hge
  have hnone : isDigit c = false := isDigit_eq_false (by omega)
  exact Bool.false_ne_true (hnone.symm.trans h)

/-- The names of the floats that are no numbers begin with no digit. -/
theorem isDigit_names : isDigit ("inf".toList.headD '0') = false ∧
    isDigit ("infinity".toList.headD '0') = false ∧ isDigit ("nan".toList.headD '0') = false := by
  decide

/-- What begins with a digit is no name. -/
theorem Digits.name_ne {cs rest name : List Char} (h : Digits cs)
    (hname : isDigit (name.headD '0') = false) : (cs ++ rest).map Char.toLower ≠ name := by
  obtain ⟨c, cs, rfl⟩ := List.exists_cons_of_ne_nil h.1
  have hc := h.2 c List.mem_cons_self
  rintro rfl
  rw [List.cons_append, List.map_cons, List.headD_cons, toLower_of_isDigit hc, hc] at hname
  exact Bool.false_ne_true hname.symm

/-- The text of a number, if it begins with a digit. -/
theorem floatOfText_of_number {cs rest : List Char} {q : ℚ} (h : Digits cs)
    (hrest : ∀ c ∈ rest, isNumSpace c = false) (hq : floatNumber (cs ++ rest) = some q) :
    floatOfText (String.ofList (cs ++ rest)) = some (.round q) := by
  have hspace : ∀ c ∈ cs ++ rest, isNumSpace c = false := fun c hc =>
    (List.mem_append.mp hc).elim (fun hc => isDigit_not_space (h.2 c hc)) (hrest c)
  unfold floatOfText
  rw [String.toList_ofList, strip_eq_self hspace, h.signed]
  dsimp only
  obtain ⟨hinf, hinfinity, hnan⟩ := isDigit_names
  rw [if_neg (not_or.mpr ⟨h.name_ne hinf, h.name_ne hinfinity⟩), if_neg (h.name_ne hnan), hq]
  rfl

theorem Digits.not_exponent {cs : List Char} (h : Digits cs) :
    ∀ c ∈ cs, decide (c = 'e' ∨ c = 'E') = false := by
  intro c hc
  refine decide_eq_false ?_
  rintro (rfl | rfl)
  · exact h.not_mem (isDigit_eq_false (by decide)) hc
  · exact h.not_mem (isDigit_eq_false (by decide)) hc

theorem floatNumber_digits {cs : List Char} (h : Digits cs) :
    floatNumber cs = some (decimal cs []) := by
  unfold floatNumber pointNumber
  rw [List.splitOnP_eq_singleton h.not_exponent]
  dsimp only
  rw [List.splitOn_eq_singleton (h.not_mem (isDigit_eq_false (by decide)))]
  dsimp only
  rw [h.digitPart]
  rfl

/-- They are read as the nearest float. -/
theorem floatOfText_digits {cs : List Char} (h : Digits cs) :
    floatOfText (String.ofList cs) = some (.round (decimal cs [])) := by
  have hread : floatOfText (String.ofList (cs ++ [])) = some (.round (decimal cs [])) :=
    floatOfText_of_number h (fun _ hc => nomatch hc) (by rw [List.append_nil, floatNumber_digits h])
  rwa [List.append_nil] at hread

theorem floatOfText_decimal {whole fraction : List Char} (hw : Digits whole) (hf : Digits fraction) :
    floatOfText (String.ofList (whole ++ '.' :: fraction)) =
      some (.round (decimal whole fraction)) := by
  have hpoint : '.' ∉ whole := hw.not_mem (isDigit_eq_false (by decide))
  have hpoint' : '.' ∉ fraction := hf.not_mem (isDigit_eq_false (by decide))
  refine floatOfText_of_number hw ?_ ?_
  · intro c hc
    rcases List.mem_cons.mp hc with rfl | hc
    · decide
    · exact isDigit_not_space (hf.2 c hc)
  · unfold floatNumber pointNumber
    rw [List.splitOnP_eq_singleton]
    · dsimp only
      rw [List.splitOn_append_cons_self, List.splitOn_eq_singleton hpoint,
        List.splitOn_eq_singleton hpoint', List.singleton_append]
      have hwhole := hw.1
      have hfraction := hf.1
      split
      · next heq => simp at heq
      · next heq => simp_all
      · next heq => simp_all
      · next heq =>
        simp only [List.cons.injEq, and_true] at heq
        obtain ⟨rfl, rfl⟩ := heq
        rw [hw.digitPart, hf.digitPart]
        rfl
      · next h => exact absurd rfl (h _ _)
    · intro c hc
      rcases List.mem_append.mp hc with hc | hc
      · exact hw.not_exponent c hc
      · rcases List.mem_cons.mp hc with rfl | hc
        · decide
        · exact hf.not_exponent c hc

/-! ## Separators -/

/-- What stands before a separator that occurs in neither. -/
theorem before_sep_inj {c : Char} {as bs as' bs' : List Char} (ha : c ∉ as) (hb : c ∉ bs)
    (h : as ++ c :: as' = bs ++ c :: bs') : as = bs ∧ as' = bs' := by
  induction as generalizing bs with
  | nil =>
    cases bs with
    | nil => exact ⟨rfl, (List.cons.inj h).2⟩
    | cons b bs => exact absurd (List.mem_cons.mpr (Or.inl (List.cons.inj h).1)) hb
  | cons a as ih =>
    cases bs with
    | nil => exact absurd (List.mem_cons.mpr (Or.inl (List.cons.inj h).1.symm)) ha
    | cons b bs =>
      obtain ⟨rfl, hrest⟩ := List.cons.inj h
      obtain ⟨rfl, rfl⟩ := ih (fun hc => ha (List.mem_cons_of_mem _ hc))
        (fun hc => hb (List.mem_cons_of_mem _ hc)) hrest
      exact ⟨rfl, rfl⟩

/-- What stands after the last one. -/
theorem after_sep_inj {c : Char} {as bs as' bs' : List Char} (ha : c ∉ as') (hb : c ∉ bs')
    (h : as ++ c :: as' = bs ++ c :: bs') : as = bs ∧ as' = bs' := by
  have hrev := congrArg List.reverse h
  rw [List.reverse_append, List.reverse_append, List.reverse_cons, List.reverse_cons,
    List.append_assoc, List.append_assoc] at hrev
  obtain ⟨htail, hhead⟩ := before_sep_inj (fun hc => ha (List.mem_reverse.mp hc))
    (fun hc => hb (List.mem_reverse.mp hc)) hrev
  exact ⟨List.reverse_inj.mp hhead, List.reverse_inj.mp htail⟩

end Py
