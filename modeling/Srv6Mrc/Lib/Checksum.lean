/-
  Checks over bytes: the Internet checksum and CRC-32.

  The Internet checksum is the one's complement of the one's complement sum of 16-bit words.  Adding
  the carry of a sum back to it keeps the sum modulo 65535, so that a checksum is right if it makes
  the words, itself among them, a multiple of 65535 (`checksum_verifies`); and there is just one
  nonzero word that does (`checksum_unique`).

  CRC-32 is the reflected one of Ethernet and zip, whose register starts with ones and ends inverted.
  It takes a value to go on from, and then checks what came before too (`crc32_append`).
-/
import Mathlib.Data.List.Basic
import Mathlib.Data.Nat.ModEq
import Mathlib.Logic.Function.Iterate

namespace Checksum

/-! ## The Internet checksum -/

/-- The 16-bit big-endian words; a last odd byte is the high one of a word. -/
def words : List UInt8 → List Nat
  | a :: b :: rest => (a.toNat * 256 + b.toNat) :: words rest
  | [a] => [a.toNat * 256]
  | [] => []

/-- The sum of the words. -/
def wordSum (bs : List UInt8) : Nat := (words bs).sum

/-- A word is added, and then the carry. -/
def addCarry (s word : Nat) : Nat := (s + word) % 0x10000 + (s + word) / 0x10000

/-- The one's complement sum. -/
def onesSum (bs : List UInt8) : Nat := (words bs).foldl addCarry 0

/-- The checksum; zero is sent as all ones. -/
def checksum (bs : List UInt8) : Nat :=
  if 0xFFFF - onesSum bs = 0 then 0xFFFF else 0xFFFF - onesSum bs

theorem words_lt (bs : List UInt8) : ∀ w ∈ words bs, w < 0x10000 := by
  induction bs using words.induct with
  | case1 a b rest ih =>
    intro w hw
    rcases List.mem_cons.mp hw with rfl | hw
    · have ha := a.toNat_lt
      have hb := b.toNat_lt
      omega
    · exact ih w hw
  | case2 a =>
    intro w hw
    rw [List.mem_singleton.mp hw]
    have ha := a.toNat_lt
    omega
  | case3 => exact fun w hw => absurd hw List.not_mem_nil

/-- Words do not run across an even boundary. -/
theorem wordSum_append {as bs : List UInt8} (h : as.length % 2 = 0) :
    wordSum (as ++ bs) = wordSum as + wordSum bs := by
  induction as using words.induct with
  | case1 a b rest ih =>
    rw [List.length_cons, List.length_cons] at h
    show a.toNat * 256 + b.toNat + wordSum (rest ++ bs) =
      a.toNat * 256 + b.toNat + wordSum rest + wordSum bs
    rw [ih (by omega)]
    omega
  | case2 a =>
    rw [List.length_singleton] at h
    omega
  | case3 => exact (Nat.zero_add _).symm

theorem addCarry_modEq (s word : Nat) : addCarry s word ≡ s + word [MOD 65535] := by
  have hsplit : s + word = addCarry s word + (s + word) / 0x10000 * 65535 := by
    unfold addCarry
    omega
  unfold Nat.ModEq
  conv_rhs => rw [hsplit]
  rw [Nat.add_mul_mod_self_right]

/-- The sum with carries is the sum modulo 65535, and zero only if every word is. -/
theorem foldl_addCarry {ws : List Nat} (hws : ∀ w ∈ ws, w < 0x10000) {s : Nat} (hs : s < 0x10000) :
    ws.foldl addCarry s < 0x10000 ∧ ws.foldl addCarry s ≡ s + ws.sum [MOD 65535] ∧
      (0 < s + ws.sum → 0 < ws.foldl addCarry s) := by
  induction ws generalizing s with
  | nil => exact ⟨hs, rfl, id⟩
  | cons w ws ih =>
    have hw := hws w List.mem_cons_self
    have hlt : addCarry s w < 0x10000 := by
      unfold addCarry
      omega
    obtain ⟨hbound, hmod, hpos⟩ := ih (fun w' hw' => hws w' (List.mem_cons_of_mem w hw')) hlt
    rw [List.foldl_cons, List.sum_cons]
    refine ⟨hbound, hmod.trans ?_, fun h => hpos ?_⟩
    · rw [← Nat.add_assoc]
      exact (addCarry_modEq s w).add_right _
    · unfold addCarry
      omega

/-- A word is the checksum if it is not zero and makes the sum a multiple of 65535. -/
def Verifies (bs : List UInt8) (c : Nat) : Prop := 0 < c ∧ c < 0x10000 ∧ (wordSum bs + c) % 65535 = 0

theorem checksum_verifies {bs : List UInt8} (h : 0 < wordSum bs) : Verifies bs (checksum bs) := by
  obtain ⟨hlt, hmod, hpos⟩ := foldl_addCarry (words_lt bs) (s := 0) (by decide)
  rw [Nat.zero_add] at hmod hpos
  have hpos := hpos h
  change onesSum bs < 0x10000 at hlt
  change onesSum bs % 65535 = wordSum bs % 65535 at hmod
  change 0 < onesSum bs at hpos
  unfold Verifies checksum
  split_ifs with hzero
  · refine ⟨by decide, by decide, ?_⟩
    omega
  · refine ⟨by omega, by omega, ?_⟩
    omega

theorem checksum_unique {bs : List UInt8} {c c' : Nat} (h : Verifies bs c) (h' : Verifies bs c') :
    c = c' := by
  obtain ⟨hpos, hlt, hmod⟩ := h
  obtain ⟨hpos', hlt', hmod'⟩ := h'
  omega

/-- What a receiver checks: the sum is all ones exactly if the words are a multiple of 65535. -/
theorem onesSum_eq_iff {bs : List UInt8} (h : 0 < wordSum bs) :
    onesSum bs = 0xFFFF ↔ wordSum bs % 65535 = 0 := by
  obtain ⟨hlt, hmod, hpos⟩ := foldl_addCarry (words_lt bs) (s := 0) (by decide)
  rw [Nat.zero_add] at hmod hpos
  have hpos := hpos h
  change onesSum bs < 0x10000 at hlt
  change onesSum bs % 65535 = wordSum bs % 65535 at hmod
  change 0 < onesSum bs at hpos
  omega

/-! ## CRC-32 -/

/-- One bit of the register. -/
def crcBit (c : UInt32) : UInt32 := if c &&& 1 = 1 then (c >>> 1) ^^^ 0xEDB88320 else c >>> 1

/-- One byte. -/
def crcByte (c : UInt32) (b : UInt8) : UInt32 := crcBit^[8] (c ^^^ b.toUInt32)

/-- The checksum of the bytes, where `value` is that of the bytes before. -/
def crc32 (bs : List UInt8) (value : UInt32) : UInt32 :=
  bs.foldl crcByte (value ^^^ 0xFFFFFFFF) ^^^ 0xFFFFFFFF

/-- The checksum goes on from that of the bytes before. -/
theorem crc32_append (as bs : List UInt8) (value : UInt32) :
    crc32 (as ++ bs) value = crc32 bs (crc32 as value) := by
  have hback : ∀ c : UInt32, c ^^^ 0xFFFFFFFF ^^^ 0xFFFFFFFF = c := by
    intro c
    rw [UInt32.xor_assoc, UInt32.xor_self, UInt32.xor_zero]
  unfold crc32
  rw [List.foldl_append, hback]

example : crc32 [0x31, 0x32, 0x33, 0x34, 0x35, 0x36, 0x37, 0x38, 0x39] 0 = 0xCBF43926 := by
  decide +kernel

end Checksum
