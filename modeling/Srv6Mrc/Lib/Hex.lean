/-
  Python's hexadecimal text: `f"{n:x}"`, `f"{n:04x}"` and `int(text, 16)`.

  `hexVal` reads a row of digits, and reading what was written gives the number back
  (`hexVal_toDigits`).  A row of digits after another is a number in two parts (`hexVal_append`),
  which is how a program that writes `f"f00{n:x}"` puts a number into a field.
-/
import Mathlib.Data.List.Basic
import Mathlib.Tactic.IntervalCases

namespace Py

/-- `f"{n:x}"` -/
def hex (n : Nat) : String := String.ofList (Nat.toDigits 16 n)

/-- `f"{n:0{width}x}"` -/
def hexPad (width n : Nat) : String := String.ofList ((Nat.toDigits 16 n).leftpad width '0')

/-- `f"{n:0{width}d}"` -/
def decPad (width n : Nat) : String := String.ofList ((Nat.toDigits 10 n).leftpad width '0')

/-- The number a hexadecimal digit stands for. -/
def hexDigit (c : Char) : Option Nat :=
  if '0' ≤ c ∧ c ≤ '9' then some (c.toNat - 48)
  else if 'a' ≤ c ∧ c ≤ 'f' then some (c.toNat - 87)
  else if 'A' ≤ c ∧ c ≤ 'F' then some (c.toNat - 55)
  else none

/-- Hexadecimal digits only. -/
def IsHex (cs : List Char) : Prop := ∀ c ∈ cs, (hexDigit c).isSome

instance (cs : List Char) : Decidable (IsHex cs) :=
  List.decidableBAll (fun c => (hexDigit c).isSome) cs

/-- The number a row of digits stands for. -/
def hexVal (cs : List Char) : Nat := cs.foldl (fun n c => n * 16 + (hexDigit c).getD 0) 0

/-- The characters of a hexadecimal number. -/
@[simp] theorem toList_hex (n : Nat) : (hex n).toList = Nat.toDigits 16 n := String.toList_ofList

@[simp] theorem toList_hexPad (width n : Nat) :
    (hexPad width n).toList = (Nat.toDigits 16 n).leftpad width '0' := String.toList_ofList

/-- And of a decimal number with zeros in front. -/
@[simp] theorem toList_decPad (width n : Nat) :
    (decPad width n).toList = (Nat.toDigits 10 n).leftpad width '0' := String.toList_ofList

/-! ## Digits -/

theorem hexDigit_digitChar {d : Nat} (h : d < 16) : hexDigit d.digitChar = some d := by
  interval_cases d <;> decide

@[simp] theorem isHex_nil : IsHex [] := fun _ hc => nomatch hc

@[simp] theorem isHex_cons {c : Char} {cs : List Char} :
    IsHex (c :: cs) ↔ (hexDigit c).isSome ∧ IsHex cs := List.forall_mem_cons

@[simp] theorem isHex_append {as bs : List Char} : IsHex (as ++ bs) ↔ IsHex as ∧ IsHex bs :=
  List.forall_mem_append

theorem isHex_toDigits (n : Nat) : IsHex (Nat.toDigits 16 n) := by
  induction n using Nat.strongRecOn with
  | ind n ih =>
    rw [Nat.toDigits_eq_if (by omega)]
    split
    · rename_i h
      simp [hexDigit_digitChar h]
    · have hrec := ih (n / 16) (by omega)
      simp [hrec, hexDigit_digitChar (Nat.mod_lt n (by omega : 16 > 0))]

theorem isHex_replicate (k : Nat) : IsHex (List.replicate k '0') := by
  intro c hc
  rw [List.eq_of_mem_replicate hc]
  decide

/-- So the digits with zeros in front are. -/
theorem isHex_leftpad (width n : Nat) : IsHex ((Nat.toDigits 16 n).leftpad width '0') :=
  isHex_append.mpr ⟨isHex_replicate _, isHex_toDigits n⟩

/-! ## Values -/

theorem foldl_hex (cs : List Char) (n : Nat) :
    cs.foldl (fun n c => n * 16 + (hexDigit c).getD 0) n = n * 16 ^ cs.length + hexVal cs := by
  induction cs generalizing n with
  | nil => simp [hexVal]
  | cons c cs ih =>
    have hval : hexVal (c :: cs) = (hexDigit c).getD 0 * 16 ^ cs.length + hexVal cs := by
      unfold hexVal
      rw [List.foldl_cons, Nat.zero_mul, Nat.zero_add]
      exact ih _
    rw [List.foldl_cons, ih, hval, List.length_cons, Nat.pow_succ, Nat.add_mul, Nat.mul_assoc,
      Nat.mul_comm 16, Nat.add_assoc]

/-- Digits after digits. -/
theorem hexVal_append (as bs : List Char) :
    hexVal (as ++ bs) = hexVal as * 16 ^ bs.length + hexVal bs := by
  conv_lhs => unfold hexVal
  rw [List.foldl_append]
  exact foldl_hex bs (hexVal as)

theorem hexVal_singleton (c : Char) : hexVal [c] = (hexDigit c).getD 0 := by
  simp [hexVal]

/-- Reading what was written. -/
theorem hexVal_toDigits (n : Nat) : hexVal (Nat.toDigits 16 n) = n := by
  induction n using Nat.strongRecOn with
  | ind n ih =>
    rw [Nat.toDigits_eq_if (by omega)]
    split
    · rename_i h
      rw [hexVal_singleton, hexDigit_digitChar h]
      rfl
    · rw [hexVal_append, ih (n / 16) (by omega), hexVal_singleton,
        hexDigit_digitChar (Nat.mod_lt n (by omega))]
      show n / 16 * 16 ^ 1 + n % 16 = n
      omega

theorem hexVal_replicate (k : Nat) : hexVal (List.replicate k '0') = 0 := by
  induction k with
  | zero => rfl
  | succ k ih => rw [List.replicate_succ', hexVal_append, ih]; rfl

/-- Leading zeros do not count. -/
theorem hexVal_leftpad (width n : Nat) : hexVal ((Nat.toDigits 16 n).leftpad width '0') = n := by
  unfold List.leftpad
  rw [hexVal_append, hexVal_replicate, hexVal_toDigits, Nat.zero_mul, Nat.zero_add]

/-- A digit is worth less than sixteen. -/
theorem hexDigit_lt (c : Char) : (hexDigit c).getD 0 < 16 := by
  unfold hexDigit
  have hval : ∀ a b : Char, a ≤ b ↔ a.toNat ≤ b.toNat := fun _ _ => Iff.rfl
  simp only [hval]
  split
  · rename_i h
    have : c.toNat ≤ 57 := h.2
    show c.toNat - 48 < 16
    omega
  split
  · rename_i h
    have : c.toNat ≤ 102 := h.2
    show c.toNat - 87 < 16
    omega
  split
  · rename_i h
    have : c.toNat ≤ 70 := h.2
    show c.toNat - 55 < 16
    omega
  · show 0 < 16
    omega

/-- So many digits, so large a number. -/
theorem hexVal_lt (cs : List Char) : hexVal cs < 16 ^ cs.length := by
  induction cs with
  | nil => exact Nat.one_pos
  | cons c cs ih =>
    have hval : hexVal (c :: cs) = hexVal [c] * 16 ^ cs.length + hexVal cs := hexVal_append [c] cs
    have hdigit := hexDigit_lt c
    rw [hval, hexVal_singleton, List.length_cons, Nat.pow_succ]
    calc (hexDigit c).getD 0 * 16 ^ cs.length + hexVal cs
        < (hexDigit c).getD 0 * 16 ^ cs.length + 16 ^ cs.length := by omega
      _ = ((hexDigit c).getD 0 + 1) * 16 ^ cs.length := by rw [Nat.add_mul, Nat.one_mul]
      _ ≤ 16 * 16 ^ cs.length := Nat.mul_le_mul_right _ (by omega)
      _ = 16 ^ cs.length * 16 := Nat.mul_comm _ _

/-- A number of one digit, of at most `k` digits. -/
theorem length_toDigits_one {n : Nat} (h : n < 16) : (Nat.toDigits 16 n).length = 1 := by
  rw [Nat.toDigits_of_lt_base h]
  rfl

theorem length_toDigits_le {n k : Nat} (hk : 0 < k) :
    (Nat.toDigits 16 n).length ≤ k ↔ n < 16 ^ k := Nat.length_toDigits_le_iff (by omega) hk

end Py
