/-
  The texts of the generator and of `topo.py` as addresses.

  Each text is a row of groups, with `::` in it, and each group some fixed digits with a number
  after them.  A group is read if the number leaves room for the digits (`hextet_digits`): one digit
  after `000`, `f00` or `e00`.  So each address is known group by group, for planes, spines and
  leaves up to sixteen.
-/
import Srv6Mrc.Fabric.Names
import Srv6Mrc.Lib.Route

namespace Srv6Mrc

open Py Net

/-! ## Groups -/

/-- Fixed digits and a number. -/
def digits (fixed : String) (n : Nat) : List Char := fixed.toList ++ Nat.toDigits 16 n

/-- The fixed digits and then those of the number. -/
theorem digits_eq (fixed : String) (n : Nat) : digits fixed n = fixed.toList ++ Nat.toDigits 16 n := rfl

/-- A number with leading zeros. -/
def padded (width n : Nat) : List Char := (Nat.toDigits 16 n).leftpad width '0'

/-- The characters that `hexPad` writes. -/
theorem toList_hexPad_padded (width n : Nat) : (hexPad width n).toList = padded width n :=
  toList_hexPad width n

/-- Up to three fixed digits and one of a small number are a group. -/
theorem hextet_digits {fixed : String} {n : Nat} (hfixed : IsHex fixed.toList)
    (hlen : fixed.toList.length ≤ 3) (hn : n < 16) : Hextet (digits fixed n) := by
  refine ⟨isHex_append.mpr ⟨hfixed, isHex_toDigits n⟩, ?_, ?_⟩
  · unfold digits
    rw [List.length_append, length_toDigits_one hn]
    omega
  · exact List.append_ne_nil_of_right_ne_nil _ Nat.toDigits_ne_nil

/-- The digits of a 16-bit number are a group. -/
theorem hextet_toDigits {n : Nat} (hn : n < 65536) : Hextet (Nat.toDigits 16 n) :=
  ⟨isHex_toDigits n, (length_toDigits_le (by omega)).mpr hn, Nat.toDigits_ne_nil⟩

/-- So they are with zeros in front, up to four digits. -/
theorem hextet_padded {width n : Nat} (hwidth : width ≤ 4) (hn : n < 65536) :
    Hextet (padded width n) := by
  have hle := (length_toDigits_le (by omega : 0 < 4)).mpr (show n < 16 ^ 4 from hn)
  refine ⟨isHex_leftpad width n, ?_, ?_⟩
  · unfold padded
    rw [List.length_leftpad]
    omega
  · exact List.append_ne_nil_of_right_ne_nil _ Nat.toDigits_ne_nil

/-- The value of fixed digits with a digit of a number behind them. -/
theorem hexVal_digits (fixed : String) {n : Nat} (hn : n < 16) :
    hexVal (digits fixed n) = hexVal fixed.toList * 16 + n := by
  unfold digits
  rw [hexVal_append, hexVal_toDigits, length_toDigits_one hn, Nat.pow_one]

/-- The group of a plane has its number as value. -/
theorem hexVal_plane {n : Nat} (hn : n < 16) : hexVal (digits "000" n) = n := by
  rw [hexVal_digits _ hn, show hexVal "000".toList = 0 by decide]
  omega

/-- Zeros in front do not change the value. -/
theorem hexVal_padded (width n : Nat) : hexVal (padded width n) = n := hexVal_leftpad width n

/-! ## Reading -/

/-- A text is read as an address of these groups. -/
def Reads (text : String) (hextets : List Nat) : Prop :=
  ∃ ip, Ipv6.ofText text = some ip ∧ ip.hextets = hextets

/-- A text is read as a prefix. -/
def ReadsPrefix (text : String) (hextets : List Nat) (len : Nat) : Prop :=
  ∃ ip, Prefix.ofText text = some ⟨ip, len⟩ ∧ ip.hextets = hextets

/-- A text of groups, with `::` for the zeros between them, is read as these groups. -/
theorem reads_groups {text : String} {hi lo : List (List Char)} (htext : text = groupsText hi lo)
    (hhi : ∀ part ∈ hi, Hextet part) (hlo : ∀ part ∈ lo, Hextet part)
    (hlen : hi.length + lo.length ≤ 7) :
    Reads text (hi.map hexVal ++ List.replicate (8 - (hi.length + lo.length)) 0
      ++ lo.map hexVal) := htext ▸ Ipv6.ofText_groups hhi hlo hlen

/-- An address with a length behind it is read as a prefix of that length. -/
theorem Reads.slash {text slash : String} {hextets : List Nat} (h : Reads text hextets)
    (len : List Char) (hslash : slash.toList = '/' :: len) (hlen : '/' ∉ len)
    (hdigits : len ≠ [] ∧ len.all Char.isDigit ∧ Nat.ofDigitChars 10 len 0 ≤ 128) :
    ReadsPrefix (text ++ slash) hextets (Nat.ofDigitChars 10 len 0) := by
  obtain ⟨ip, htext, hip⟩ := h
  refine ⟨ip, ?_, hip⟩
  rw [Prefix.ofText_append (slash_not_mem htext) hslash hlen hdigits, htext]
  rfl

section Slash

variable {text : String} {hextets : List Nat}

/-- With the length of a plane's block. -/
theorem Reads.slash32 (h : Reads text hextets) :
    ReadsPrefix (text ++ "/32") hextets 32 :=
  h.slash ['3', '2'] rfl (by decide) (by decide)

/-- With the length of a locator or a SID. -/
theorem Reads.slash48 (h : Reads text hextets) :
    ReadsPrefix (text ++ "/48") hextets 48 :=
  h.slash ['4', '8'] rfl (by decide) (by decide)

/-- With the length of a host's subnet. -/
theorem Reads.slash64 (h : Reads text hextets) :
    ReadsPrefix (text ++ "/64") hextets 64 :=
  h.slash ['6', '4'] rfl (by decide) (by decide)

/-- With the length of a link. -/
theorem Reads.slash127 (h : Reads text hextets) :
    ReadsPrefix (text ++ "/127") hextets 127 :=
  h.slash ['1', '2', '7'] rfl (by decide) (by decide)

/-- With the length of an address. -/
theorem Reads.slash128 (h : Reads text hextets) :
    ReadsPrefix (text ++ "/128") hextets 128 :=
  h.slash ['1', '2', '8'] rfl (by decide) (by decide)

end Slash

/-- What is read as a prefix is one. -/
theorem ReadsPrefix.isSome {text : String} {hextets : List Nat} {len : Nat}
    (h : ReadsPrefix text hextets len) : (Prefix.ofText text).isSome := by
  obtain ⟨ip, hip, -⟩ := h
  rw [hip]
  rfl

/-- What is read as an address is one. -/
theorem Reads.isSome {text : String} {hextets : List Nat} (h : Reads text hextets) :
    (Ipv6.ofText text).isSome := by
  obtain ⟨ip, hip, -⟩ := h
  rw [hip]
  rfl

/-- A text has one prefix length. -/
theorem ReadsPrefix.len_unique {text : String} {hextets hextets' : List Nat} {len len' : Nat}
    (h : ReadsPrefix text hextets len) (h' : ReadsPrefix text hextets' len') : len = len' := by
  obtain ⟨ip, hip, -⟩ := h
  obtain ⟨ip', hip', -⟩ := h'
  rw [hip] at hip'
  cases hip'
  rfl

/-- Texts with different groups are different prefixes. -/
theorem ReadsPrefix.ne {text text' : String} {hextets hextets' : List Nat} {len len' : Nat}
    (h : ReadsPrefix text hextets len) (h' : ReadsPrefix text' hextets' len')
    (hne : hextets ≠ hextets') : Prefix.ofText text ≠ Prefix.ofText text' := by
  obtain ⟨ip, hip, rfl⟩ := h
  obtain ⟨ip', hip', rfl⟩ := h'
  rw [hip, hip']
  rintro heq
  cases heq
  exact hne rfl

/-- Texts with different groups are different addresses. -/
theorem Reads.ne {text text' : String} {hextets hextets' : List Nat} (h : Reads text hextets)
    (h' : Reads text' hextets') (hne : hextets ≠ hextets') :
    Ipv6.ofText text ≠ Ipv6.ofText text' := by
  obtain ⟨ip, hip, rfl⟩ := h
  obtain ⟨ip', hip', rfl⟩ := h'
  rw [hip, hip']
  rintro heq
  cases heq
  exact hne rfl

/-! ## The generator's texts -/

namespace Fabric

/-- The group of a tenant. -/
def tenantGroup : Color → Nat
  | .green => 0xbbbb
  | .yellow => 0xcccc

/-- Its digits. -/
def tenantDigits : Color → List Char
  | .green => "bbbb".toList
  | .yellow => "cccc".toList

/-! The texts, for any numbers. -/

section Block

variable (p : Nat) (slot last : List Char)

/-- The characters of a plane's block. -/
theorem toList_block : (planeBlockPrefix p).toList = "fc00:".toList ++ digits "000" p := by
  rw [planeBlockPrefix, String.toList_append, toList_hex, digits_eq]
  rfl

/-- The block of a plane, one slot, and zeros. -/
theorem toList_slot : (groupsText ["fc00".toList, digits "000" p, slot] []).toList
    = (planeBlockPrefix p).toList ++ ':' :: slot ++ [':', ':'] := by
  rw [toList_block]
  simp [groupsText, sideParts]

/-- The block of a plane, one slot, zeros, and a last group. -/
theorem toList_slotLast : (groupsText ["fc00".toList, digits "000" p, slot] [last]).toList
    = (planeBlockPrefix p).toList ++ ':' :: slot ++ ':' :: ':' :: last := by
  rw [toList_block]
  simp [groupsText, sideParts]

variable {p slot last}

/-- The text of a SID. -/
theorem sid_eq {text : String}
    (htext : text.toList = (planeBlockPrefix p).toList ++ ':' :: slot ++ "::/48".toList) :
    text = groupsText ["fc00".toList, digits "000" p, slot] [] ++ "/48" := by
  apply String.toList_injective
  rw [htext, String.toList_append, toList_slot, List.append_assoc _ [':', ':']]
  rfl

end Block

/-- The groups of a spine's locator. -/
theorem spineLocator_eq (p s : Nat) :
    spineLocator p s = groupsText ["fc00".toList, digits "000" p, digits "1" s] [] ++ "/48" :=
  sid_eq (by simp [spineLocator, digits_eq])

/-- The groups of a leaf's locator. -/
theorem leafLocator_eq (p l : Nat) :
    leafLocator p l = groupsText ["fc00".toList, digits "000" p, digits "2" l] [] ++ "/48" :=
  sid_eq (by simp [leafLocator, digits_eq])

/-- The groups of the uA SID for a leaf's uplink. -/
theorem leafUaSid_eq (p s : Nat) :
    leafUaSid p s = groupsText ["fc00".toList, digits "000" p, digits "f00" s] [] ++ "/48" :=
  sid_eq (by simp [leafUaSid, digits_eq])

/-- The groups of the uA SID for a spine's downlink. -/
theorem spineUaSid_eq (p l : Nat) :
    spineUaSid p l = groupsText ["fc00".toList, digits "000" p, digits "e00" l] [] ++ "/48" :=
  sid_eq (by simp [spineUaSid, digits_eq])

/-- The fixed functions of the SIDs. -/
theorem sidSlots : hexPad 3 (36 / 4) = "009" ∧ hexPad 4 0xd000 = "d000" ∧ hexPad 4 0xd001 = "d001" := by
  decide

/-- The groups of the uA SID for the yellow host's port. -/
theorem leafHostUaSid_eq (p : Nat) :
    leafHostUaSid p 36 = groupsText ["fc00".toList, digits "000" p, "e009".toList] [] ++ "/48" :=
  sid_eq (by simp [leafHostUaSid, sidSlots.1])

/-- The groups of the uDT SID of the green table. -/
theorem greenUdtSid_eq (p : Nat) :
    greenUdtSid p = groupsText ["fc00".toList, digits "000" p, "d000".toList] [] ++ "/48" :=
  sid_eq (by simp [greenUdtSid, sidSlots.2.1])

/-- The groups of the uDT SID of the yellow host. -/
theorem yellowUdtSid_eq (p : Nat) :
    yellowUdtSid p = groupsText ["fc00".toList, digits "000" p, "d001".toList] [] ++ "/48" :=
  sid_eq (by simp [yellowUdtSid, sidSlots.2.2])

/-- The groups of the SID that probes end on. -/
theorem probeDfffSid_eq (p : Nat) :
    probeDfffSid p = groupsText ["fc00".toList, digits "000" p, "dfff".toList] [] ++ "/48" :=
  sid_eq (by simp [probeDfffSid])

/-- The groups of a plane's aggregate. -/
theorem planeAggregate_eq (p : Nat) :
    planeAggregate p = groupsText ["fc00".toList, digits "000" p] [] ++ "/32" := by
  apply String.toList_injective
  rw [planeAggregate, String.toList_append, toList_block]
  simp [groupsText, sideParts]

/-- The groups of a spine's loopback. -/
theorem spineLoopback_eq (p s : Nat) :
    spineLoopback p s = groupsText ["fc00".toList, digits "000" p, digits "1" s] ["1".toList] := by
  apply String.toList_injective
  rw [toList_slotLast]
  simp [spineLoopback, digits_eq]

/-- The groups of a leaf's loopback. -/
theorem leafLoopback_eq (p l : Nat) :
    leafLoopback p l = groupsText ["fc00".toList, digits "000" p, digits "2" l] ["1".toList] := by
  apply String.toList_injective
  rw [toList_slotLast]
  simp [leafLoopback, digits_eq]

/-- The characters of a host's prefix. -/
theorem toList_hostAnycastPrefix (color : Color) (n : Nat) :
    (hostAnycastPrefix color n).toList
      = "2001:db8:".toList ++ tenantDigits color ++ ':' :: padded 2 n := by
  cases color with
  | green =>
    rw [show hostAnycastPrefix .green n = "2001:db8:bbbb:" ++ hexPad 2 n from rfl,
      String.toList_append, toList_hexPad]
    rfl
  | yellow =>
    rw [show hostAnycastPrefix .yellow n = "2001:db8:cccc:" ++ hexPad 2 n from rfl,
      String.toList_append, toList_hexPad]
    rfl

/-- A host's prefix with a last group, as groups. -/
theorem hostAnycastPrefix_eq (color : Color) (n : Nat) {text : String} {last : List Char}
    (htext : text.toList = (hostAnycastPrefix color n).toList ++ ':' :: ':' :: last) :
    text = groupsText ["2001".toList, "db8".toList, tenantDigits color, padded 2 n] [last] := by
  apply String.toList_injective
  rw [htext, toList_hostAnycastPrefix]
  simp [groupsText, sideParts]

/-- The groups of a probe's address; the host's number is written without zeros in front. -/
theorem probeEvAddr_eq (color : Color) (n plane path : Nat) :
    probeEvAddr color n plane path
      = groupsText ["2001".toList, "db8".toList, tenantDigits color, Nat.toDigits 16 n]
          [Nat.toDigits 16 ((plane + 1) <<< 4 ||| path)] := by
  apply String.toList_injective
  cases color with
  | green =>
    show ("2001:db8:bbbb:" ++ hex n ++ "::" ++ hex ((plane + 1) <<< 4 ||| path)).toList = _
    generalize (plane + 1) <<< 4 ||| path = low
    simp [groupsText, sideParts, show tenantDigits .green = ['b', 'b', 'b', 'b'] from rfl]
  | yellow =>
    show ("2001:db8:cccc:" ++ hex n ++ "::" ++ hex ((plane + 1) <<< 4 ||| path)).toList = _
    generalize (plane + 1) <<< 4 ||| path = low
    simp [groupsText, sideParts, show tenantDigits .yellow = ['c', 'c', 'c', 'c'] from rfl]

/-- The groups of a tenant's prefix. -/
theorem tenantPrefix_eq (color : Color) :
    tenantPrefix color
      = groupsText ["2001".toList, "db8".toList, tenantDigits color] [] ++ "/48" := by
  apply String.toList_injective
  cases color with
  | green => rfl
  | yellow => rfl

/-- A link's prefix with a last group, as groups. -/
theorem p2pPrefix_eq {F : Fabric} (s l : Nat) {text : String} {last : List Char}
    (htext : text.toList = (F.p2pPrefix s l).toList ++ ':' :: ':' :: last) :
    text = groupsText ["2001".toList, "db8".toList, "fab".toList, padded 4 (F.linkIdx s l)]
      [last] := by
  apply String.toList_injective
  rw [htext]
  simp [p2pPrefix, groupsText, sideParts, -toList_hexPad, toList_hexPad_padded]

/-! The addresses, for numbers of one digit. -/

section Block

variable {p : Nat} (hp : p < 16)
include hp

/-- The block of a plane, and slots. -/
theorem reads_block {text : String} {slots lo : List (List Char)}
    (htext : text = groupsText ("fc00".toList :: digits "000" p :: slots) lo)
    (hslots : ∀ part ∈ slots, Hextet part) (hlo : ∀ part ∈ lo, Hextet part)
    (hlen : slots.length + lo.length ≤ 5) :
    Reads text (0xfc00 :: p :: slots.map hexVal
      ++ List.replicate (6 - (slots.length + lo.length)) 0 ++ lo.map hexVal) := by
  have hblock := reads_groups htext (by
    intro part hpart
    rcases List.mem_cons.mp hpart with rfl | hpart
    · decide
    rcases List.mem_cons.mp hpart with rfl | hpart
    · exact hextet_digits (by decide) (by decide) hp
    · exact hslots part hpart) hlo (by simp only [List.length_cons]; omega)
  simp only [List.map_cons, List.length_cons, hexVal_plane hp] at hblock
  have hsub : 8 - (slots.length + 1 + 1 + lo.length) = 6 - (slots.length + lo.length) := by omega
  rw [hsub] at hblock
  exact hblock

/-- A SID or locator: the block and one slot. -/
theorem readsPrefix_slot {text : String} (slot : List Char) {x : Nat}
    (htext : text = groupsText ["fc00".toList, digits "000" p, slot] [] ++ "/48")
    (hslot : Hextet slot) (hx : hexVal slot = x) :
    ReadsPrefix text [0xfc00, p, x, 0, 0, 0, 0, 0] 48 := by
  subst hx
  rw [htext]
  exact (reads_block hp rfl (List.forall_mem_singleton.mpr hslot) (List.forall_mem_nil _)
    (by simp)).slash48

/-- What a spine's locator is read as. -/
theorem readsPrefix_spineLocator {s : Nat} (hs : s < 16) :
    ReadsPrefix (spineLocator p s) [0xfc00, p, 0x10 + s, 0, 0, 0, 0, 0] 48 :=
  readsPrefix_slot hp _ (spineLocator_eq p s) (hextet_digits (by decide) (by decide) hs)
    (hexVal_digits _ hs)

/-- What a leaf's locator is read as. -/
theorem readsPrefix_leafLocator {l : Nat} (hl : l < 16) :
    ReadsPrefix (leafLocator p l) [0xfc00, p, 0x20 + l, 0, 0, 0, 0, 0] 48 :=
  readsPrefix_slot hp _ (leafLocator_eq p l) (hextet_digits (by decide) (by decide) hl)
    (hexVal_digits _ hl)

/-- What a leaf's uA SID is read as. -/
theorem readsPrefix_leafUaSid {s : Nat} (hs : s < 16) :
    ReadsPrefix (leafUaSid p s) [0xfc00, p, 0xf000 + s, 0, 0, 0, 0, 0] 48 :=
  readsPrefix_slot hp _ (leafUaSid_eq p s) (hextet_digits (by decide) (by decide) hs)
    (hexVal_digits _ hs)

/-- What a spine's uA SID is read as. -/
theorem readsPrefix_spineUaSid {l : Nat} (hl : l < 16) :
    ReadsPrefix (spineUaSid p l) [0xfc00, p, 0xe000 + l, 0, 0, 0, 0, 0] 48 :=
  readsPrefix_slot hp _ (spineUaSid_eq p l) (hextet_digits (by decide) (by decide) hl)
    (hexVal_digits _ hl)

/-- What the uA SID of the yellow host's port is read as. -/
theorem readsPrefix_leafHostUaSid :
    ReadsPrefix (leafHostUaSid p 36) [0xfc00, p, 0xe009, 0, 0, 0, 0, 0] 48 :=
  readsPrefix_slot hp _ (leafHostUaSid_eq p) (by decide) (by decide)

/-- What the uDT SID of the green table is read as. -/
theorem readsPrefix_greenUdtSid :
    ReadsPrefix (greenUdtSid p) [0xfc00, p, 0xd000, 0, 0, 0, 0, 0] 48 :=
  readsPrefix_slot hp _ (greenUdtSid_eq p) (by decide) (by decide)

/-- What the uDT SID of the yellow host is read as. -/
theorem readsPrefix_yellowUdtSid :
    ReadsPrefix (yellowUdtSid p) [0xfc00, p, 0xd001, 0, 0, 0, 0, 0] 48 :=
  readsPrefix_slot hp _ (yellowUdtSid_eq p) (by decide) (by decide)

/-- What the SID that probes end on is read as. -/
theorem readsPrefix_probeDfffSid :
    ReadsPrefix (probeDfffSid p) [0xfc00, p, 0xdfff, 0, 0, 0, 0, 0] 48 :=
  readsPrefix_slot hp _ (probeDfffSid_eq p) (by decide) (by decide)

/-- What a plane's aggregate is read as. -/
theorem readsPrefix_planeAggregate :
    ReadsPrefix (planeAggregate p) [0xfc00, p, 0, 0, 0, 0, 0, 0] 32 := by
  rw [planeAggregate_eq]
  exact (reads_block hp rfl (List.forall_mem_nil _) (List.forall_mem_nil _) (by simp)).slash32

/-- What a spine's loopback is read as. -/
theorem reads_spineLoopback {s : Nat} (hs : s < 16) :
    Reads (spineLoopback p s) [0xfc00, p, 0x10 + s, 0, 0, 0, 0, 1] := by
  have hread := reads_block hp (spineLoopback_eq p s)
    (List.forall_mem_singleton.mpr (hextet_digits (by decide) (by decide) hs))
    (by decide) (by simp)
  simp only [List.map_cons, List.map_nil, hexVal_digits "1" hs] at hread
  exact hread

/-- What a leaf's loopback is read as. -/
theorem reads_leafLoopback {l : Nat} (hl : l < 16) :
    Reads (leafLoopback p l) [0xfc00, p, 0x20 + l, 0, 0, 0, 0, 1] := by
  have hread := reads_block hp (leafLoopback_eq p l)
    (List.forall_mem_singleton.mpr (hextet_digits (by decide) (by decide) hl))
    (by decide) (by simp)
  simp only [List.map_cons, List.map_nil, hexVal_digits "2" hl] at hread
  exact hread

end Block

/-- `2001:db8`, two groups, and one at the end. -/
theorem reads_db8 {text : String} (third fourth last : List Char) {x y z : Nat}
    (htext : text = groupsText ["2001".toList, "db8".toList, third, fourth] [last])
    (hthird : Hextet third) (hfourth : Hextet fourth) (hlast : Hextet last)
    (hx : hexVal third = x) (hy : hexVal fourth = y) (hz : hexVal last = z) :
    Reads text [0x2001, 0xdb8, x, y, 0, 0, 0, z] := by
  subst hx hy hz
  refine reads_groups htext (fun part hpart => ?_) (List.forall_mem_singleton.mpr hlast) (by simp)
  simp only [List.mem_cons, List.not_mem_nil, or_false] at hpart
  rcases hpart with rfl | rfl | rfl | rfl
  · decide
  · decide
  · exact hthird
  · exact hfourth

/-- A tenant's digits are a group, and its value is the tenant's. -/
theorem hextet_tenant (color : Color) :
    Hextet (tenantDigits color) ∧ hexVal (tenantDigits color) = tenantGroup color := by
  cases color <;> decide

/-- An address of a host's /64. -/
theorem reads_hostAnycastPrefix (color : Color) {n : Nat} (hn : n < 16) {text : String}
    {last : List Char} {z : Nat} (hlast : Hextet last) (hz : hexVal last = z)
    (htext : text.toList = (hostAnycastPrefix color n).toList ++ ':' :: ':' :: last) :
    Reads text [0x2001, 0xdb8, tenantGroup color, n, 0, 0, 0, z] := by
  obtain ⟨htenant, hgroup⟩ := hextet_tenant color
  exact reads_db8 _ _ last (hostAnycastPrefix_eq color n htext) htenant
    (hextet_padded (by omega) (by omega)) hlast hgroup (hexVal_padded 2 n) hz

/-- What the leaf's address on a host's subnet is read as. -/
theorem reads_hostGateway (color : Color) {n : Nat} (hn : n < 16) :
    Reads (hostAnycastPrefix color n ++ "::1") [0x2001, 0xdb8, tenantGroup color, n, 0, 0, 0, 1] :=
  reads_hostAnycastPrefix color hn (show Hextet ['1'] by decide) rfl String.toList_append

/-- What the host's address on its subnet is read as, as a next hop. -/
theorem reads_hostNexthop (color : Color) {n : Nat} (hn : n < 16) :
    Reads (hostAnycastPrefix color n ++ "::2") [0x2001, 0xdb8, tenantGroup color, n, 0, 0, 0, 2] :=
  reads_hostAnycastPrefix color hn (show Hextet ['2'] by decide) rfl String.toList_append

/-- What a host's address is read as. -/
theorem reads_hostAnycastAddr (color : Color) {n : Nat} (hn : n < 16) :
    Reads (hostAnycastAddr color n) [0x2001, 0xdb8, tenantGroup color, n, 0, 0, 0, 2] := by
  have htext : hostAnycastAddr color n = hostAnycastPrefix color n ++ "::2" := by
    cases color <;> rfl
  rw [htext]
  exact reads_hostNexthop color hn

/-- What a probe's address is read as. -/
theorem reads_probeEvAddr (color : Color) {n plane path : Nat} (hn : n < 16)
    (hlow : (plane + 1) <<< 4 ||| path < 65536) :
    Reads (probeEvAddr color n plane path)
      [0x2001, 0xdb8, tenantGroup color, n, 0, 0, 0, (plane + 1) <<< 4 ||| path] := by
  obtain ⟨htenant, hgroup⟩ := hextet_tenant color
  exact reads_db8 _ _ _ (probeEvAddr_eq color n plane path) htenant (hextet_toDigits (by omega))
    (hextet_toDigits hlow) hgroup (hexVal_toDigits n) (hexVal_toDigits _)

/-- What a tenant's prefix is read as. -/
theorem readsPrefix_tenantPrefix (color : Color) :
    ReadsPrefix (tenantPrefix color) [0x2001, 0xdb8, tenantGroup color, 0, 0, 0, 0, 0] 48 := by
  obtain ⟨htenant, hgroup⟩ := hextet_tenant color
  rw [tenantPrefix_eq, ← hgroup]
  refine (reads_groups rfl (fun part hpart => ?_) (List.forall_mem_nil _) (by simp)).slash48
  simp only [List.mem_cons, List.not_mem_nil, or_false] at hpart
  rcases hpart with rfl | rfl | rfl
  · decide
  · decide
  · exact htenant

variable {F : Fabric}

/-- A link's address: the group of the link, and the side that it is of. -/
theorem reads_p2pPrefix {s l : Nat} (hidx : F.linkIdx s l < 65536) {text : String}
    {last : List Char} {z : Nat} (hlast : Hextet last) (hz : hexVal last = z)
    (htext : text.toList = (F.p2pPrefix s l).toList ++ ':' :: ':' :: last) :
    Reads text [0x2001, 0xdb8, 0xfab, F.linkIdx s l, 0, 0, 0, z] := by
  exact reads_db8 _ _ last (p2pPrefix_eq s l htext) (by decide)
    (hextet_padded (by omega) hidx) hlast rfl (hexVal_padded 4 _) hz

/-- What the spine's address of a link is read as. -/
theorem reads_p2pSpine {s l : Nat} (hidx : F.linkIdx s l < 65536) :
    Reads (F.p2pPrefix s l ++ "::0") [0x2001, 0xdb8, 0xfab, F.linkIdx s l, 0, 0, 0, 0] :=
  reads_p2pPrefix hidx (show Hextet ['0'] by decide) rfl String.toList_append

/-- What the leaf's address of a link is read as. -/
theorem reads_p2pLeaf {s l : Nat} (hidx : F.linkIdx s l < 65536) :
    Reads (F.p2pPrefix s l ++ "::1") [0x2001, 0xdb8, 0xfab, F.linkIdx s l, 0, 0, 0, 1] :=
  reads_p2pPrefix hidx (show Hextet ['1'] by decide) rfl String.toList_append

/-- What the spine's side of a link is read as, with its length. -/
theorem readsPrefix_p2pSpine {s l : Nat} (hidx : F.linkIdx s l < 65536) :
    ReadsPrefix (F.p2pPrefix s l ++ "::0/127")
      [0x2001, 0xdb8, 0xfab, F.linkIdx s l, 0, 0, 0, 0] 127 := by
  rw [show "::0/127" = "::0" ++ "/127" from rfl, ← String.append_assoc]
  exact (reads_p2pSpine hidx).slash127

/-- What the leaf's side of a link is read as, with its length. -/
theorem readsPrefix_p2pLeaf {s l : Nat} (hidx : F.linkIdx s l < 65536) :
    ReadsPrefix (F.p2pPrefix s l ++ "::1/127")
      [0x2001, 0xdb8, 0xfab, F.linkIdx s l, 0, 0, 0, 1] 127 := by
  rw [show "::1/127" = "::1" ++ "/127" from rfl, ← String.append_assoc]
  exact (reads_p2pLeaf hidx).slash127

/-- What the leaf's side of a host's subnet is read as, with its length. -/
theorem readsPrefix_hostGateway (color : Color) {n : Nat} (hn : n < 16) :
    ReadsPrefix (hostAnycastPrefix color n ++ "::1/64")
      [0x2001, 0xdb8, tenantGroup color, n, 0, 0, 0, 1] 64 := by
  rw [show "::1/64" = "::1" ++ "/64" from rfl, ← String.append_assoc]
  exact (reads_hostGateway color hn).slash64

end Fabric
end Srv6Mrc
