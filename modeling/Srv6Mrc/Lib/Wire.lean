/-
  Fixed layouts of big-endian fields: the `!BHIQ` part of Python's `struct`.

  A format is a list of field codes, and its values are a tuple with one machine integer per code,
  so a value that does not fit its field cannot be packed.  Packing and unpacking are inverse to
  each other in both directions: what was packed is read back whatever follows it (`unpack_pack`),
  and what was read packs to the bytes it was read from (`pack_unpack`).  `unpackMany` is the loop
  over a run of records of one format.
-/
import Mathlib.Algebra.Order.Group.Nat
import Mathlib.Data.List.Basic
import Mathlib.Tactic.Ring

namespace Wire

/-! ## Numbers in network byte order -/

/-- The `w` low bytes of `n`, the most significant first. -/
def toBE : Nat → Nat → List UInt8
  | 0, _ => []
  | w + 1, n => UInt8.ofNat (n / 256 ^ w % 256) :: toBE w n

/-- The number with the given bytes, the most significant first. -/
def ofBE : List UInt8 → Nat
  | [] => 0
  | b :: bs => b.toNat * 256 ^ bs.length + ofBE bs

@[simp] theorem length_toBE (w n : Nat) : (toBE w n).length = w := by
  induction w with
  | zero => rfl
  | succ w ih => rw [toBE, List.length_cons, ih]

/-- The value of some bytes is below the power of their number. -/
theorem ofBE_lt (bs : List UInt8) : ofBE bs < 256 ^ bs.length := by
  induction bs with
  | nil => exact Nat.one_pos
  | cons b bs ih =>
    have hb : b.toNat + 1 ≤ 256 := b.toNat_lt
    calc ofBE (b :: bs) < b.toNat * 256 ^ bs.length + 256 ^ bs.length := Nat.add_lt_add_left ih _
      _ = (b.toNat + 1) * 256 ^ bs.length := by ring
      _ ≤ 256 * 256 ^ bs.length := Nat.mul_le_mul_right _ hb
      _ = 256 ^ (b :: bs).length := by rw [List.length_cons, pow_succ, mul_comm]

/-- What is written is read back, as far as there is room. -/
theorem ofBE_toBE_mod (w n : Nat) : ofBE (toBE w n) = n % 256 ^ w := by
  induction w with
  | zero => rw [pow_zero, Nat.mod_one]; rfl
  | succ w ih =>
    have hbyte : (UInt8.ofNat (n / 256 ^ w % 256)).toNat = n / 256 ^ w % 256 :=
      UInt8.toNat_ofNat_of_lt' (Nat.mod_lt _ (by decide))
    rw [toBE, ofBE, hbyte, length_toBE, ih, pow_succ, Nat.mod_mul]
    ring

/-- A number that fits its field is read back. -/
theorem ofBE_toBE {w n : Nat} (h : n < 256 ^ w) : ofBE (toBE w n) = n := by
  rw [ofBE_toBE_mod, Nat.mod_eq_of_lt h]

/-- The low bytes do not see what is above them. -/
theorem toBE_add_mul (w n k : Nat) : toBE w (k * 256 ^ w + n) = toBE w n := by
  induction w generalizing k with
  | zero => rfl
  | succ w ih =>
    have hpos : 0 < 256 ^ w := Nat.pow_pos (by decide)
    have hdiv : (k * 256 ^ (w + 1) + n) / 256 ^ w = n / 256 ^ w + 256 * k := by
      rw [show k * 256 ^ (w + 1) + n = n + 256 ^ w * (256 * k) by ring,
        Nat.add_mul_div_left _ _ hpos]
    rw [toBE, toBE, hdiv, Nat.add_mul_mod_self_left,
      show k * 256 ^ (w + 1) + n = (k * 256) * 256 ^ w + n by ring, ih]

/-- Bytes that were read are written back. -/
theorem toBE_ofBE (bs : List UInt8) : toBE bs.length (ofBE bs) = bs := by
  induction bs with
  | nil => rfl
  | cons b bs ih =>
    have hpos : 0 < 256 ^ bs.length := Nat.pow_pos (by decide)
    have htop : ofBE (b :: bs) / 256 ^ bs.length = b.toNat := by
      rw [ofBE, mul_comm, Nat.mul_add_div hpos, Nat.div_eq_of_lt (ofBE_lt bs), add_zero]
    rw [List.length_cons, toBE, htop, Nat.mod_eq_of_lt b.toNat_lt, UInt8.ofNat_toNat, ofBE,
      toBE_add_mul, ih]

/-! ## Fields -/

/-- The field codes of `struct`: unsigned integers of one, two, four and eight bytes. -/
inductive Code where
  | B
  | H
  | I
  | Q
  deriving DecidableEq, Repr

namespace Code

/-- The values of a field. -/
abbrev Val : Code → Type
  | B => UInt8
  | H => UInt16
  | I => UInt32
  | Q => UInt64

/-- The bytes of a field. -/
def width : Code → Nat
  | B => 1
  | H => 2
  | I => 4
  | Q => 8

def toNum : (c : Code) → c.Val → Nat
  | B, v => UInt8.toNat v
  | H, v => UInt16.toNat v
  | I, v => UInt32.toNat v
  | Q, v => UInt64.toNat v

def ofNum : (c : Code) → Nat → c.Val
  | B, n => UInt8.ofNat n
  | H, n => UInt16.ofNat n
  | I, n => UInt32.ofNat n
  | Q, n => UInt64.ofNat n

theorem ofNum_toNum (c : Code) (v : c.Val) : c.ofNum (c.toNum v) = v := by
  cases c with
  | B => exact UInt8.ofNat_toNat
  | H => exact UInt16.ofNat_toNat
  | I => exact UInt32.ofNat_toNat
  | Q => exact UInt64.ofNat_toNat

theorem toNum_lt (c : Code) (v : c.Val) : c.toNum v < 256 ^ c.width := by
  cases c with
  | B => exact UInt8.toNat_lt v
  | H => exact UInt16.toNat_lt v
  | I => exact UInt32.toNat_lt v
  | Q => exact UInt64.toNat_lt v

theorem toNum_ofNum (c : Code) {n : Nat} (h : n < 256 ^ c.width) : c.toNum (c.ofNum n) = n := by
  cases c with
  | B => exact UInt8.toNat_ofNat_of_lt' h
  | H => exact UInt16.toNat_ofNat_of_lt' h
  | I => exact UInt32.toNat_ofNat_of_lt' h
  | Q => exact UInt64.toNat_ofNat_of_lt' h

end Code

/-! ## Formats -/

/-- The values of a format, one per field. -/
abbrev Fields : List Code → Type
  | [] => Unit
  | c :: cs => c.Val × Fields cs

/-- `struct.calcsize` -/
def calcsize : List Code → Nat
  | [] => 0
  | c :: cs => c.width + calcsize cs

/-- `struct.pack` -/
def pack : (fmt : List Code) → Fields fmt → List UInt8
  | [], _ => []
  | c :: cs, (v, vs) => toBE c.width (c.toNum v) ++ pack cs vs

/-- `struct.unpack`, of the first `calcsize fmt` bytes. -/
def unpack : (fmt : List Code) → List UInt8 → Fields fmt
  | [], _ => ()
  | c :: cs, bs => (c.ofNum (ofBE (bs.take c.width)), unpack cs (bs.drop c.width))

/-- Packing fills the size of the format. -/
@[simp] theorem length_pack (fmt : List Code) (vs : Fields fmt) :
    (pack fmt vs).length = calcsize fmt := by
  induction fmt with
  | nil => rfl
  | cons c cs ih =>
    obtain ⟨v, vs⟩ := vs
    rw [pack, List.length_append, length_toBE, ih, calcsize]

/-- What was packed is read back, whatever follows it. -/
theorem unpack_pack (fmt : List Code) (vs : Fields fmt) (rest : List UInt8) :
    unpack fmt (pack fmt vs ++ rest) = vs := by
  induction fmt with
  | nil => rfl
  | cons c cs ih =>
    obtain ⟨v, vs⟩ := vs
    have hlen : (toBE c.width (c.toNum v)).length = c.width := length_toBE ..
    rw [pack, List.append_assoc, unpack, List.take_left' hlen, List.drop_left' hlen, ih,
      ofBE_toBE (c.toNum_lt v), c.ofNum_toNum]

theorem unpack_pack_self (fmt : List Code) (vs : Fields fmt) : unpack fmt (pack fmt vs) = vs := by
  have h := unpack_pack fmt vs []
  rwa [List.append_nil] at h

/-- What was read packs to the bytes it was read from. -/
theorem pack_unpack (fmt : List Code) {bs : List UInt8} (h : calcsize fmt ≤ bs.length) :
    pack fmt (unpack fmt bs) = bs.take (calcsize fmt) := by
  induction fmt generalizing bs with
  | nil => rfl
  | cons c cs ih =>
    rw [calcsize] at h
    have hlen : (bs.take c.width).length = c.width := by
      rw [List.length_take]
      omega
    have hfield : toBE c.width (c.toNum (c.ofNum (ofBE (bs.take c.width)))) = bs.take c.width := by
      have hlt := ofBE_lt (bs.take c.width)
      rw [hlen] at hlt
      have hback := toBE_ofBE (bs.take c.width)
      rw [hlen] at hback
      rw [c.toNum_ofNum hlt, hback]
    rw [unpack, pack, hfield, ih (by rw [List.length_drop]; omega), calcsize, List.take_add]

/-- Only the format's own bytes are read. -/
theorem unpack_take (fmt : List Code) {bs : List UInt8} (h : calcsize fmt ≤ bs.length) :
    unpack fmt (bs.take (calcsize fmt)) = unpack fmt bs := by
  conv_rhs => rw [← List.take_append_drop (calcsize fmt) bs, ← pack_unpack fmt h, unpack_pack]
  rw [← pack_unpack fmt h, unpack_pack_self]

/-- A one-byte field is the byte, both ways. -/
theorem pack_byte (fmt : List Code) (b : UInt8) (vs : Fields fmt) :
    pack (.B :: fmt) (b, vs) = b :: pack fmt vs := by
  show UInt8.ofNat (b.toNat / 256 ^ 0 % 256) :: _ = _
  rw [pow_zero, Nat.div_one, Nat.mod_eq_of_lt b.toNat_lt, UInt8.ofNat_toNat]
  rfl

theorem unpack_byte (fmt : List Code) (b : UInt8) (bs : List UInt8) :
    unpack (.B :: fmt) (b :: bs) = (b, unpack fmt bs) := by
  show (UInt8.ofNat (b.toNat * 256 ^ 0 + 0), unpack fmt bs) = _
  rw [pow_zero, Nat.mul_one, Nat.add_zero, UInt8.ofNat_toNat]

/-! ## Runs of records -/

/-- `n` records of one format, one after another. -/
def unpackMany (fmt : List Code) : Nat → List UInt8 → List (Fields fmt)
  | 0, _ => []
  | n + 1, bs => unpack fmt (bs.take (calcsize fmt)) :: unpackMany fmt n (bs.drop (calcsize fmt))

/-- As many records as asked for are read. -/
@[simp] theorem length_unpackMany (fmt : List Code) (n : Nat) (bs : List UInt8) :
    (unpackMany fmt n bs).length = n := by
  induction n generalizing bs with
  | zero => rfl
  | succ n ih => rw [unpackMany, List.length_cons, ih]

theorem length_flatMap_pack (fmt : List Code) (recs : List (Fields fmt)) :
    (recs.flatMap (pack fmt)).length = recs.length * calcsize fmt := by
  induction recs with
  | nil => rw [List.length_nil, Nat.zero_mul]; rfl
  | cons r recs ih =>
    rw [List.flatMap_cons, List.length_append, length_pack, ih, List.length_cons]
    ring

/-- Records that were packed are read back. -/
theorem unpackMany_flatMap (fmt : List Code) (recs : List (Fields fmt)) (rest : List UInt8) :
    unpackMany fmt recs.length (recs.flatMap (pack fmt) ++ rest) = recs := by
  induction recs with
  | nil => rfl
  | cons r recs ih =>
    have hlen : (pack fmt r).length = calcsize fmt := length_pack ..
    rw [List.flatMap_cons, List.append_assoc, List.length_cons, unpackMany, List.take_left' hlen,
      List.drop_left' hlen, ih, unpack_pack_self]

/-- One by one, records that were read pack to the bytes they were read from. -/
theorem map_unpackMany (fmt : List Code) (n : Nat) {bs : List UInt8}
    (h : n * calcsize fmt ≤ bs.length) :
    (unpackMany fmt n bs).map (pack fmt)
      = (List.range n).map fun i => (bs.drop (i * calcsize fmt)).take (calcsize fmt) := by
  induction n generalizing bs with
  | zero => rfl
  | succ n ih =>
    have hsplit : (n + 1) * calcsize fmt = calcsize fmt + n * calcsize fmt := by ring
    rw [hsplit] at h
    rw [unpackMany, List.map_cons, unpack_take fmt (by omega), pack_unpack fmt (by omega),
      ih (by rw [List.length_drop]; omega), List.range_succ_eq_map, List.map_cons, List.map_map,
      Nat.zero_mul, List.drop_zero]
    refine congrArg _ (List.map_congr_left fun i _ => ?_)
    show ((bs.drop _).drop _).take _ = (bs.drop ((i + 1) * _)).take _
    rw [List.drop_drop, show (i + 1) * calcsize fmt = calcsize fmt + i * calcsize fmt by ring]

/-- Records that were read pack to the bytes they were read from. -/
theorem flatMap_unpackMany (fmt : List Code) (n : Nat) {bs : List UInt8}
    (h : n * calcsize fmt ≤ bs.length) :
    (unpackMany fmt n bs).flatMap (pack fmt) = bs.take (n * calcsize fmt) := by
  induction n generalizing bs with
  | zero => rw [Nat.zero_mul, List.take_zero]; rfl
  | succ n ih =>
    have hsplit : (n + 1) * calcsize fmt = calcsize fmt + n * calcsize fmt := by ring
    rw [hsplit] at h
    rw [unpackMany, List.flatMap_cons, unpack_take fmt (by omega), pack_unpack fmt (by omega),
      ih (by rw [List.length_drop]; omega), hsplit, List.take_add]

end Wire
