/-
  Python's `ipaddress`: the text of IPv4 and IPv6 addresses.

  `IPv6Address(text)` cuts the text at the colons, turns an IPv4 suffix into two parts, and looks for
  the part that stands for a run of zeros.  A program writes an address part by part, so it needs to
  know what parts joined by colons read as (`ofText_join`), with a run of zeros among them
  (`ofParts_skip`) and without (`ofParts_full`).
-/
import Srv6Mrc.Lib.Hex

namespace Py

/-! ## IPv4 -/

/-- `IPv4Address._parse_octet` -/
def parseOctet (cs : List Char) : Option Nat :=
  if cs = [] then none
  else if ¬ cs.all Char.isDigit then none
  else if 3 < cs.length then none
  else if cs ≠ ['0'] ∧ cs.head? = some '0' then none
  else if 255 < Nat.ofDigitChars 10 cs 0 then none
  else some (Nat.ofDigitChars 10 cs 0)

/-- `IPv4Address(text)`: the four octets. -/
def ipv4OfText (cs : List Char) : Option (List Nat) :=
  if (cs.splitOn '.').length ≠ 4 then none else (cs.splitOn '.').mapM parseOctet

/-- `str(IPv4Address(text))` -/
def ipv4Str (octets : List Nat) : String := String.intercalate "." (octets.map toString)

/-! ## IPv6 -/

/-- An IPv6 address: eight groups of sixteen bits. -/
structure Ipv6 where
  hextets : List Nat
  length_eq : hextets.length = 8
  lt : ∀ h ∈ hextets, h < 65536
  deriving DecidableEq

theorem Ipv6.eq_of_hextets {a b : Ipv6} (h : a.hextets = b.hextets) : a = b := by
  cases a
  cases b
  cases h
  rfl

/-- `IPv6Address._parse_hextet` -/
def parseHextet (part : List Char) : Option Nat :=
  if ¬ IsHex part then none
  else if 4 < part.length then none
  else if part = [] then none
  else some (hexVal part)

/-- The parts of one side of `::`, at whose outer end an empty part is allowed if it is the only
    one there. -/
def side (outer : Option (List Char)) (parts : List (List Char)) : Option (List (List Char)) :=
  if outer = some [] then (if parts.length = 1 then some [] else none) else some parts

/-- `IPv6Address._ip_int_from_string`, from the parts between the colons. -/
def hextetsOfParts (parts : List (List Char)) : Option (List Nat) :=
  let middle := parts.tail.dropLast
  if 1 < middle.count [] then none
  else if middle.count [] = 1 then
    let skipIndex := middle.idxOf [] + 1
    let hi := parts.take skipIndex
    let lo := parts.drop (skipIndex + 1)
    match side hi.head? hi, side lo.getLast? lo with
    | some hi, some lo =>
      if 8 - (hi.length + lo.length) < 1 then none
      else
        match hi.mapM parseHextet, lo.mapM parseHextet with
        | some his, some los =>
          some (his ++ List.replicate (8 - (hi.length + lo.length)) 0 ++ los)
        | _, _ => none
    | _, _ => none
  else if parts.length ≠ 8 then none
  else parts.mapM parseHextet

/-- An IPv4 suffix as two parts. -/
def suffixParts (parts : List (List Char)) : Option (List (List Char)) :=
  match parts.getLast? with
  | none => some parts
  | some last =>
    if '.' ∈ last then
      match ipv4OfText last with
      | some [a, b, c, d] => some (parts.dropLast ++
          [Nat.toDigits 16 (a * 256 + b), Nat.toDigits 16 (c * 256 + d)])
      | _ => none
    else some parts

/-- Eight groups of sixteen bits, or nothing. -/
def Ipv6.ofHextets (hextets : List Nat) : Option Ipv6 :=
  if h : hextets.length = 8 ∧ ∀ h ∈ hextets, h < 65536 then some ⟨hextets, h.1, h.2⟩ else none

/-- `IPv6Address._ip_int_from_string` -/
def Ipv6.ofChars (cs : List Char) : Option Ipv6 :=
  if cs = [] then none
  else if (cs.splitOn ':').length < 3 then none
  else
    match suffixParts (cs.splitOn ':') with
    | none => none
    | some parts => if 9 < parts.length then none else (hextetsOfParts parts).bind Ipv6.ofHextets

/-- An `IPv6Address`. -/
structure IPv6Address where
  ip : Ipv6
  scopeId : Option (List Char)
  deriving DecidableEq

/-- `IPv6Address._split_scope_id` -/
def splitScopeId (cs : List Char) : Option (List Char × Option (List Char)) :=
  if '%' ∈ cs then
    let scopeId := (cs.dropWhile (· ≠ '%')).tail
    if scopeId = [] ∨ '%' ∈ scopeId then none else some (cs.takeWhile (· ≠ '%'), some scopeId)
  else some (cs, none)

/-- `IPv6Address(text)` -/
def IPv6Address.ofText (text : String) : Option IPv6Address :=
  if '/' ∈ text.toList then none
  else
    match splitScopeId text.toList with
    | none => none
    | some (addr, scopeId) => (Ipv6.ofChars addr).map fun ip => ⟨ip, scopeId⟩

/-- The groups of `.exploded`.  With a scope it reads the scope as part of the address, and raises. -/
def IPv6Address.exploded (a : IPv6Address) : Option (List Nat) :=
  match a.scopeId with
  | none => some a.ip.hextets
  | some _ => none

/-- The longest run of zeros so far, and the run at hand, as start and length. -/
structure ZeroRuns where
  index : Nat := 0
  best : Nat × Nat := (0, 0)
  run : Nat × Nat := (0, 0)

/-- One turn of the loop in `_compress_hextets`. -/
def ZeroRuns.next (z : ZeroRuns) (hextet : Nat) : ZeroRuns :=
  if hextet = 0 then
    let run := (if z.run.2 = 0 then z.index else z.run.1, z.run.2 + 1)
    { index := z.index + 1, run, best := if z.best.2 < run.2 then run else z.best }
  else { z with index := z.index + 1, run := (0, 0) }

/-- `_compress_hextets` -/
def compressHextets (hextets : List Nat) : List String :=
  let (start, length) := (hextets.foldl ZeroRuns.next {}).best
  if length ≤ 1 then hextets.map hex
  else
    (if start = 0 then [""] else []) ++ (hextets.take start).map hex ++ [""]
      ++ (hextets.drop (start + length)).map hex
      ++ (if start + length = hextets.length then [""] else [])

/-- `str(address)` -/
def IPv6Address.str (a : IPv6Address) : String :=
  let text := String.intercalate ":" (compressHextets a.ip.hextets)
  match a.scopeId with
  | none => text
  | some scopeId => text ++ "%" ++ String.ofList scopeId

/-! ## Reading parts -/

/-- A part that `_parse_hextet` reads. -/
def Hextet (part : List Char) : Prop := IsHex part ∧ part.length ≤ 4 ∧ part ≠ []

instance (part : List Char) : Decidable (Hextet part) := by
  unfold Hextet; exact inferInstance

theorem parseHextet_some {part : List Char} (h : Hextet part) :
    parseHextet part = some (hexVal part) := by
  unfold parseHextet
  rw [if_neg (not_not.mpr h.1), if_neg (Nat.not_lt.mpr h.2.1), if_neg h.2.2]

/-- More than four characters are no group. -/
theorem parseHextet_long {part : List Char} (h : 4 < part.length) : parseHextet part = none := by
  unfold parseHextet
  rw [if_pos h, ite_self]

theorem mapM_parseHextet {parts : List (List Char)} (h : ∀ part ∈ parts, Hextet part) :
    parts.mapM parseHextet = some (parts.map hexVal) := by
  induction parts with
  | nil => rfl
  | cons part parts ih =>
    obtain ⟨hpart, hparts⟩ := List.forall_mem_cons.mp h
    rw [List.mapM_cons, parseHextet_some hpart, ih hparts]
    rfl

/-- With a part that is too long nothing is read. -/
theorem mapM_parseHextet_long {parts : List (List Char)} {part : List Char} (hmem : part ∈ parts)
    (h : 4 < part.length) : parts.mapM parseHextet = none := by
  induction parts with
  | nil => cases hmem
  | cons p parts ih =>
    rw [List.mapM_cons]
    rcases List.mem_cons.mp hmem with rfl | hmem
    · rw [parseHextet_long h]
      rfl
    · rw [ih hmem]
      cases parseHextet p <;> rfl

/-- The parts of one side of `::` as they stand in the text: at the end of it, an empty one. -/
def sideParts (parts : List (List Char)) : List (List Char) := if parts = [] then [[]] else parts

/-- A side of `::` has a part, which may be empty. -/
theorem sideParts_ne (parts : List (List Char)) : sideParts parts ≠ [] := by
  unfold sideParts
  split
  · exact List.cons_ne_nil _ _
  · assumption

/-- A side that is read, its outer end first or last. -/
theorem side_sideParts {parts : List (List Char)} {outer : Option (List Char)}
    (h : [] ∉ parts) (houter : parts ≠ [] → ∃ part ∈ parts, outer = some part)
    (hnil : parts = [] → outer = some []) : side outer (sideParts parts) = some parts := by
  unfold side sideParts
  by_cases hp : parts = []
  · rw [if_pos (hnil hp), if_pos hp, if_pos (List.length_singleton), hp]
  · obtain ⟨part, hmem, rfl⟩ := houter hp
    rw [if_neg hp, if_neg]
    intro heq
    exact h (Option.some.inj heq ▸ hmem)

/-- Two sides of `::` are read each, with zeros between them. -/
theorem hextetsOfParts_sides {hi lo : List (List Char)} (hhi : [] ∉ hi) (hlo : [] ∉ lo)
    (hlen : hi.length + lo.length ≤ 7) :
    hextetsOfParts (sideParts hi ++ [] :: sideParts lo)
      = match hi.mapM parseHextet, lo.mapM parseHextet with
        | some his, some los =>
          some (his ++ List.replicate (8 - (hi.length + lo.length)) 0 ++ los)
        | _, _ => none := by
  have htail : [] ∉ (sideParts hi).tail := by
    unfold sideParts
    split
    · exact List.not_mem_nil
    · exact fun h => hhi (List.mem_of_mem_tail h)
  have hlast : [] ∉ (sideParts lo).dropLast := by
    unfold sideParts
    split
    · exact List.not_mem_nil
    · exact fun h => hlo (List.dropLast_subset _ h)
  have hpos : (sideParts hi).tail.length + 1 = (sideParts hi).length := by
    have := List.length_pos_iff.mpr (sideParts_ne hi)
    rw [List.length_tail]
    omega
  -- the gap is the one empty part in the middle
  have hmiddle : (sideParts hi ++ [] :: sideParts lo).tail.dropLast
      = (sideParts hi).tail ++ [] :: (sideParts lo).dropLast := by
    rw [List.tail_append_of_ne_nil (sideParts_ne hi),
      List.dropLast_append_of_ne_nil (List.cons_ne_nil _ _),
      List.dropLast_cons_of_ne_nil (sideParts_ne lo)]
  have hcount : ((sideParts hi).tail ++ [] :: (sideParts lo).dropLast).count [] = 1 := by
    rw [List.count_append, List.count_cons_self, List.count_eq_zero.mpr htail,
      List.count_eq_zero.mpr hlast]
  have hidx : ((sideParts hi).tail ++ [] :: (sideParts lo).dropLast).idxOf []
      = (sideParts hi).tail.length := by
    rw [List.idxOf_append_of_notMem htail, List.idxOf_cons_self, Nat.add_zero]
  have hhead : side (sideParts hi).head? (sideParts hi) = some hi := by
    refine side_sideParts hhi (fun hne => ⟨hi.head hne, List.head_mem hne, ?_⟩) fun hnil => ?_
    · rw [sideParts, if_neg hne]
      exact List.head?_eq_some_head hne
    · rw [sideParts, if_pos hnil]
      rfl
  have hgetLast : side (sideParts lo).getLast? (sideParts lo) = some lo := by
    refine side_sideParts hlo (fun hne => ⟨lo.getLast hne, List.getLast_mem hne, ?_⟩) fun hnil => ?_
    · rw [sideParts, if_neg hne]
      exact List.getLast?_eq_some_getLast hne
    · rw [sideParts, if_pos hnil]
      rfl
  unfold hextetsOfParts
  dsimp only
  rw [hmiddle, hcount, hidx, if_neg (Nat.lt_irrefl 1), if_pos rfl, hpos,
    List.take_left, ← List.drop_drop, List.drop_left, List.drop_one, List.tail_cons, hhead,
    hgetLast]
  dsimp only
  rw [if_neg (by omega)]

theorem nil_not_mem {parts : List (List Char)} (h : ∀ part ∈ parts, Hextet part) :
    [] ∉ parts := fun hmem => (h _ hmem).2.2 rfl

/-- Parts with `::` between them. -/
theorem hextetsOfParts_skip {hi lo : List (List Char)} (hhi : ∀ part ∈ hi, Hextet part)
    (hlo : ∀ part ∈ lo, Hextet part) (hlen : hi.length + lo.length ≤ 7) :
    hextetsOfParts (sideParts hi ++ [] :: sideParts lo)
      = some (hi.map hexVal ++ List.replicate (8 - (hi.length + lo.length)) 0
          ++ lo.map hexVal) := by
  rw [hextetsOfParts_sides (nil_not_mem hhi) (nil_not_mem hlo) hlen, mapM_parseHextet hhi,
    mapM_parseHextet hlo]

/-- Eight parts and no `::`. -/
theorem hextetsOfParts_full {parts : List (List Char)} (h : ∀ part ∈ parts, Hextet part)
    (hlen : parts.length = 8) : hextetsOfParts parts = some (parts.map hexVal) := by
  have hcount : parts.tail.dropLast.count [] = 0 := List.count_eq_zero.mpr fun hmem =>
    nil_not_mem h (List.mem_of_mem_tail (List.dropLast_subset _ hmem))
  unfold hextetsOfParts
  dsimp only
  rw [hcount, if_neg (by omega), if_neg (by omega), if_neg (not_not.mpr hlen),
    mapM_parseHextet h]

/-- A part of more than four digits is not read, with `::` in the text. -/
theorem hextetsOfParts_skip_long {hi lo : List (List Char)} (hhi : [] ∉ hi) (hlo : [] ∉ lo)
    (hlen : hi.length + lo.length ≤ 7) {part : List Char} (hmem : part ∈ hi ∨ part ∈ lo)
    (hlong : 4 < part.length) : hextetsOfParts (sideParts hi ++ [] :: sideParts lo) = none := by
  rw [hextetsOfParts_sides hhi hlo hlen]
  rcases hmem with hmem | hmem
  · rw [mapM_parseHextet_long hmem hlong]
  · rw [mapM_parseHextet_long hmem hlong]
    cases hi.mapM parseHextet <;> rfl

/-! ## Reading text -/

/-- What is no digit is not among digits. -/
theorem not_mem_of_isHex {c : Char} (hc : hexDigit c = none) {cs : List Char} (h : IsHex cs) :
    c ∉ cs := by
  intro hmem
  have := h c hmem
  rw [hc] at this
  cases this

/-- No character but hexadecimal digits and colons. -/
theorem not_mem_join {c : Char} (hc : hexDigit c = none) (hcolon : c ≠ ':')
    {parts : List (List Char)} (hhex : ∀ part ∈ parts, IsHex part) :
    c ∉ [':'].intercalate parts := by
  induction parts with
  | nil => exact List.not_mem_nil
  | cons part parts ih =>
    obtain ⟨hpart, hparts⟩ := List.forall_mem_cons.mp hhex
    cases parts with
    | nil =>
      rw [List.intercalate_singleton]
      exact not_mem_of_isHex hc hpart
    | cons part' parts =>
      rw [List.intercalate_cons_cons, List.mem_append, List.mem_append, not_or, not_or]
      exact ⟨⟨not_mem_of_isHex hc hpart, by simpa using hcolon⟩, ih hparts⟩

/-- Parts joined by colons, as an address. -/
theorem ofChars_join {parts : List (List Char)} (hhex : ∀ part ∈ parts, IsHex part)
    (hmin : 3 ≤ parts.length) (hmax : parts.length ≤ 9) :
    Ipv6.ofChars ([':'].intercalate parts) = (hextetsOfParts parts).bind Ipv6.ofHextets := by
  have hne : parts ≠ [] := by
    rintro rfl
    exact absurd hmin (by decide)
  have hsplit : ([':'].intercalate parts).splitOn ':' = parts :=
    List.splitOn_intercalate _ (fun part hpart => not_mem_of_isHex (by decide) (hhex part hpart)) hne
  have hempty : [':'].intercalate parts ≠ [] := by
    intro h
    rw [h] at hsplit
    rw [← hsplit] at hmin
    exact absurd hmin (by decide)
  have hsuffix : suffixParts parts = some parts := by
    unfold suffixParts
    rw [List.getLast?_eq_some_getLast hne]
    dsimp only
    rw [if_neg (not_mem_of_isHex (by decide) (hhex _ (List.getLast_mem hne)))]
  unfold Ipv6.ofChars
  rw [if_neg hempty, hsplit, if_neg (by omega), hsuffix]
  dsimp only
  rw [if_neg (by omega)]

/-- A text with colons is read by its parts. -/
theorem ofText_join {parts : List (List Char)} {text : String}
    (htext : text.toList = [':'].intercalate parts) (hhex : ∀ part ∈ parts, IsHex part)
    (hmin : 3 ≤ parts.length) (hmax : parts.length ≤ 9) :
    IPv6Address.ofText text
      = ((hextetsOfParts parts).bind Ipv6.ofHextets).map fun ip => ⟨ip, none⟩ := by
  unfold IPv6Address.ofText splitScopeId
  rw [htext, if_neg (not_mem_join (by decide) (by decide) hhex),
    if_neg (not_mem_join (by decide) (by decide) hhex)]
  dsimp only
  rw [ofChars_join hhex hmin hmax]

/-! ## Addresses without a scope -/

/-- The address of a text, which must not have a scope. -/
def Ipv6.ofText (text : String) : Option Ipv6 :=
  (IPv6Address.ofText text).bind fun a => if a.scopeId = none then some a.ip else none

/-- Groups of digits before and after a run of zeros. -/
def groupsText (hi lo : List (List Char)) : String :=
  String.ofList ([':'].intercalate (sideParts hi ++ [] :: sideParts lo))

theorem hexVal_lt_of_hextet {part : List Char} (h : Hextet part) : hexVal part < 65536 :=
  Nat.lt_of_lt_of_le (hexVal_lt part) (Nat.pow_le_pow_right (by omega) h.2.1)

theorem Ipv6.ofText_of_some {text : String} {ip : Ipv6}
    (h : IPv6Address.ofText text = some ⟨ip, none⟩) : Ipv6.ofText text = some ip := by
  unfold Ipv6.ofText
  rw [h]
  rfl

/-- A text with `::` is read by the parts on both sides. -/
theorem ofText_groupsText {hi lo : List (List Char)} (hhi : ∀ part ∈ hi, IsHex part)
    (hlo : ∀ part ∈ lo, IsHex part) (hlen : hi.length + lo.length ≤ 7) :
    IPv6Address.ofText (groupsText hi lo)
      = ((hextetsOfParts (sideParts hi ++ [] :: sideParts lo)).bind Ipv6.ofHextets).map
        fun ip => ⟨ip, none⟩ := by
  have hside : ∀ parts : List (List Char), (∀ part ∈ parts, IsHex part) →
      (∀ part ∈ sideParts parts, IsHex part) ∧ (sideParts parts).length = max 1 parts.length := by
    intro parts hparts
    unfold sideParts
    split
    · rename_i hnil
      refine ⟨fun part hmem => ?_, by rw [hnil]; rfl⟩
      rw [List.mem_singleton.mp hmem]
      exact isHex_nil
    · rename_i hne
      have := List.length_pos_iff.mpr hne
      exact ⟨hparts, by omega⟩
  obtain ⟨hhi', hhi1⟩ := hside hi hhi
  obtain ⟨hlo', hlo1⟩ := hside lo hlo
  refine ofText_join String.toList_ofList (fun part hmem => ?_) ?_ ?_
  · rcases List.mem_append.mp hmem with hmem | hmem
    · exact hhi' part hmem
    · rcases List.mem_cons.mp hmem with rfl | hmem
      · exact isHex_nil
      · exact hlo' part hmem
  · rw [List.length_append, List.length_cons]
    omega
  · rw [List.length_append, List.length_cons]
    omega

/-- Groups of one to four digits are read. -/
theorem Ipv6.ofText_groups {hi lo : List (List Char)} (hhi : ∀ part ∈ hi, Hextet part)
    (hlo : ∀ part ∈ lo, Hextet part) (hlen : hi.length + lo.length ≤ 7) :
    ∃ ip, Ipv6.ofText (groupsText hi lo) = some ip ∧
      ip.hextets = hi.map hexVal ++ List.replicate (8 - (hi.length + lo.length)) 0
        ++ lo.map hexVal := by
  have hvalid : (hi.map hexVal ++ List.replicate (8 - (hi.length + lo.length)) 0
      ++ lo.map hexVal).length = 8 ∧ ∀ h ∈ hi.map hexVal
        ++ List.replicate (8 - (hi.length + lo.length)) 0 ++ lo.map hexVal, h < 65536 := by
    refine ⟨?_, fun h hmem => ?_⟩
    · simp only [List.length_append, List.length_map, List.length_replicate]
      omega
    · simp only [List.mem_append, List.mem_map, List.mem_replicate] at hmem
      rcases hmem with (⟨part, hmem, rfl⟩ | ⟨-, rfl⟩) | ⟨part, hmem, rfl⟩
      · exact hexVal_lt_of_hextet (hhi part hmem)
      · omega
      · exact hexVal_lt_of_hextet (hlo part hmem)
  refine ⟨⟨_, hvalid.1, hvalid.2⟩, ?_, rfl⟩
  refine Ipv6.ofText_of_some ?_
  rw [ofText_groupsText (fun part h => (hhi part h).1) (fun part h => (hlo part h).1) hlen,
    hextetsOfParts_skip hhi hlo hlen]
  unfold Ipv6.ofHextets
  rw [Option.bind_some, dif_pos hvalid]
  rfl

/-- A group of more than four digits is not. -/
theorem Ipv6.ofText_groups_long {hi lo : List (List Char)}
    (hhi : ∀ part ∈ hi, IsHex part ∧ part ≠ []) (hlo : ∀ part ∈ lo, IsHex part ∧ part ≠ [])
    (hlen : hi.length + lo.length ≤ 7) {part : List Char} (hmem : part ∈ hi ∨ part ∈ lo)
    (hlong : 4 < part.length) : Ipv6.ofText (groupsText hi lo) = none := by
  unfold Ipv6.ofText
  rw [ofText_groupsText (fun part h => (hhi part h).1) (fun part h => (hlo part h).1) hlen,
    hextetsOfParts_skip_long (fun h => (hhi _ h).2 rfl) (fun h => (hlo _ h).2 rfl) hlen hmem
      hlong]
  rfl

/-- Eight groups of one to four digits. -/
theorem Ipv6.ofText_full {text : String} {parts : List (List Char)}
    (htext : text.toList = [':'].intercalate parts) (hparts : ∀ part ∈ parts, Hextet part)
    (hlen : parts.length = 8) :
    ∃ ip, Ipv6.ofText text = some ip ∧ ip.hextets = parts.map hexVal := by
  have hvalid : (parts.map hexVal).length = 8 ∧ ∀ h ∈ parts.map hexVal, h < 65536 := by
    refine ⟨by rw [List.length_map, hlen], fun h hmem => ?_⟩
    obtain ⟨part, hpart, rfl⟩ := List.mem_map.mp hmem
    exact hexVal_lt_of_hextet (hparts part hpart)
  refine ⟨⟨_, hvalid.1, hvalid.2⟩, Ipv6.ofText_of_some ?_, rfl⟩
  rw [ofText_join htext (fun part h => (hparts part h).1) (by omega) (by omega),
    hextetsOfParts_full hparts hlen]
  unfold Ipv6.ofHextets
  rw [Option.bind_some, dif_pos hvalid]
  rfl

end Py
