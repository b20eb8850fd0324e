/-
  Routing on IPv6 prefixes: the entry with the longest prefix that matches the destination.

  Several entries may have the same longest prefix, and a router may take any of them; `lookup` is
  the list of all.  A proof about a table wants to know that there is only one thing to do
  (`Only`), which is so when an entry matches and all others that match are shorter, or do the same
  (`lookup_only`).
-/
import Srv6Mrc.Lib.Ipv6

namespace Net

open Py

/-- There is a choice, and only one. -/
def Only {α : Type} (choices : List α) (a : α) : Prop := choices ≠ [] ∧ ∀ b ∈ choices, b = a

section Only

variable {α β : Type}

theorem only_singleton (a : α) : Only [a] a :=
  ⟨List.cons_ne_nil _ _, fun _ hmem => List.mem_singleton.mp hmem⟩

/-- An element that all others are equal to. -/
theorem only_of_mem {l : List α} {a : α} (hmem : a ∈ l) (hall : ∀ b ∈ l, b = a) : Only l a :=
  ⟨List.ne_nil_of_mem hmem, hall⟩

theorem Only.mem {l : List α} {a : α} (h : Only l a) : a ∈ l := by
  obtain ⟨b, hb⟩ := List.exists_mem_of_ne_nil l h.1
  exact h.2 b hb ▸ hb

/-- What is made of the only element, from a list. -/
theorem Only.flatMap {l : List α} {a : α} {f : α → List β} {b : β} (h : Only l a)
    (hf : Only (f a) b) : Only (l.flatMap f) b := by
  refine ⟨List.ne_nil_of_mem (List.mem_flatMap.mpr ⟨a, h.mem, hf.mem⟩), fun x hx => ?_⟩
  obtain ⟨y, hy, hx⟩ := List.mem_flatMap.mp hx
  rw [h.2 y hy] at hx
  exact hf.2 x hx

theorem Only.map {l : List α} {a : α} (f : α → β) (h : Only l a) : Only (l.map f) (f a) := by
  refine ⟨List.ne_nil_of_mem (List.mem_map_of_mem h.mem), fun x hx => ?_⟩
  obtain ⟨y, hy, rfl⟩ := List.mem_map.mp hx
  rw [h.2 y hy]

/-- What is made of it, if something is. -/
theorem Only.filterMap {l : List α} {a : α} {f : α → Option β} {b : β} (h : Only l a)
    (hf : f a = some b) : Only (l.filterMap f) b := by
  refine ⟨List.ne_nil_of_mem (List.mem_filterMap.mpr ⟨a, h.mem, hf⟩), fun x hx => ?_⟩
  obtain ⟨y, hy, hx⟩ := List.mem_filterMap.mp hx
  rw [h.2 y hy, hf] at hx
  exact (Option.some.inj hx).symm

end Only

/-! ## Prefixes -/

/-- A prefix: an address, and how many of its bits count. -/
structure Prefix where
  addr : Ipv6
  len : Nat
  deriving DecidableEq

/-- Rows of groups of sixteen bits that agree in their first `len` bits. -/
def sameBits : Nat → List Nat → List Nat → Bool
  | 0, _, _ => true
  | len + 1, x :: xs, y :: ys =>
    if 16 ≤ len + 1 then x == y && sameBits (len + 1 - 16) xs ys
    else x >>> (16 - (len + 1)) == y >>> (16 - (len + 1))
  | _ + 1, xs, ys => xs == ys

/-- The bits of an address are its own. -/
theorem sameBits_self (len : Nat) (xs : List Nat) : sameBits len xs xs = true := by
  induction xs generalizing len with
  | nil => cases len <;> rfl
  | cons x xs ih =>
    cases len with
    | zero => rfl
    | succ len =>
      unfold sameBits
      split
      · rw [ih, beq_self_eq_true, Bool.and_self]
      · exact beq_self_eq_true _

/-- The addresses of a prefix. -/
def Prefix.Matches (p : Prefix) (a : Ipv6) : Prop := sameBits p.len p.addr.hextets a.hextets = true

instance (p : Prefix) (a : Ipv6) : Decidable (p.Matches a) := by
  unfold Prefix.Matches; exact inferInstance

/-- `address/len`, in text. -/
def Prefix.ofText (text : String) : Option Prefix :=
  match text.toList.splitOn '/' with
  | [addr, len] =>
    if len ≠ [] ∧ len.all Char.isDigit ∧ Nat.ofDigitChars 10 len 0 ≤ 128 then
      (Ipv6.ofText (String.ofList addr)).map fun ip => ⟨ip, Nat.ofDigitChars 10 len 0⟩
    else none
  | _ => none

/-- An address has no slash in it. -/
theorem slash_not_mem {text : String} {ip : Ipv6} (h : Ipv6.ofText text = some ip) :
    '/' ∉ text.toList := by
  intro hmem
  unfold Ipv6.ofText IPv6Address.ofText at h
  rw [if_pos hmem] at h
  cases h

theorem splitOn_slash {addr len : List Char} (haddr : '/' ∉ addr) (hlen : '/' ∉ len) :
    (addr ++ '/' :: len).splitOn '/' = [addr, len] := by
  have hjoin : addr ++ '/' :: len = ['/'].intercalate [addr, len] := by
    simp [List.intercalate]
  rw [hjoin]
  refine List.splitOn_intercalate _ (fun part hpart => ?_) (List.cons_ne_nil _ _)
  rcases List.mem_cons.mp hpart with rfl | hpart
  · exact haddr
  · exact List.mem_singleton.mp hpart ▸ hlen

/-- An address with a length after it. -/
theorem Prefix.ofText_append {text slash : String} (htext : '/' ∉ text.toList) {len : List Char}
    (hslash : slash.toList = '/' :: len) (hlen : '/' ∉ len)
    (hdigits : len ≠ [] ∧ len.all Char.isDigit ∧ Nat.ofDigitChars 10 len 0 ≤ 128) :
    Prefix.ofText (text ++ slash)
      = (Ipv6.ofText text).map fun ip => ⟨ip, Nat.ofDigitChars 10 len 0⟩ := by
  unfold Prefix.ofText
  rw [String.toList_append, hslash, splitOn_slash htext hlen]
  dsimp only
  rw [if_pos hdigits, String.ofList_toList]

/-! ## Tables -/

/-- An entry of a routing table. -/
structure Route (α : Type) where
  dest : Prefix
  action : α

variable {α : Type}

/-- The actions of the longest entries for a destination. -/
def lookup (table : List (Route α)) (a : Ipv6) : List α :=
  let hits := table.filter fun r => r.dest.Matches a
  (hits.filter fun r => hits.all fun r' => r'.dest.len ≤ r.dest.len).map Route.action

/-- What is looked up is of the longest prefix that matches. -/
theorem mem_lookup {table : List (Route α)} {a : Ipv6} {x : α} :
    x ∈ lookup table a ↔ ∃ r ∈ table, r.dest.Matches a ∧ r.action = x ∧
      ∀ r' ∈ table, r'.dest.Matches a → r'.dest.len ≤ r.dest.len := by
  unfold lookup
  simp only [List.mem_map, List.mem_filter, List.all_eq_true, decide_eq_true_eq, and_imp]
  constructor
  · rintro ⟨r, ⟨⟨hr, hmatch⟩, hlongest⟩, rfl⟩
    exact ⟨r, hr, hmatch, rfl, hlongest⟩
  · rintro ⟨r, hr, hmatch, rfl, hlongest⟩
    exact ⟨r, ⟨⟨hr, hmatch⟩, hlongest⟩, rfl⟩

/-- Nothing matches. -/
theorem lookup_nil {table : List (Route α)} {a : Ipv6}
    (h : ∀ r ∈ table, ¬ r.dest.Matches a) : lookup table a = [] := by
  refine List.eq_nil_iff_forall_not_mem.mpr fun x hx => ?_
  obtain ⟨r, hr, hmatch, -⟩ := mem_lookup.mp hx
  exact h r hr hmatch

/-- The longest entry, when those of its length do the same. -/
theorem lookup_only {table : List (Route α)} {a : Ipv6} {r : Route α} (hr : r ∈ table)
    (hmatch : r.dest.Matches a)
    (hothers : ∀ r' ∈ table, r'.dest.Matches a →
      r'.dest.len ≤ r.dest.len ∧ (r'.dest.len = r.dest.len → r'.action = r.action)) :
    Only (lookup table a) r.action := by
  have hmem : r.action ∈ lookup table a :=
    mem_lookup.mpr ⟨r, hr, hmatch, rfl, fun r' hr' h' => (hothers r' hr' h').1⟩
  refine ⟨List.ne_nil_of_mem hmem, fun x hx => ?_⟩
  obtain ⟨r', hr', hmatch', rfl, hlongest⟩ := mem_lookup.mp hx
  obtain ⟨hle, heq⟩ := hothers r' hr' hmatch'
  exact heq (Nat.le_antisymm hle (hlongest r hr hmatch))

/-- An entry, by the groups of its prefix. -/
structure Route.Is (r : Route α) (hextets : List Nat) (len : Nat) (action : α) : Prop where
  hextets : r.dest.addr.hextets = hextets
  len : r.dest.len = len
  action : r.action = action

/-- A route matches the addresses with its bits. -/
theorem Route.Is.matches_iff {r : Route α} {hextets : List Nat} {len : Nat} {x : α}
    (h : r.Is hextets len x) {a : Ipv6} {groups : List Nat} (ha : a.hextets = groups) :
    r.dest.Matches a ↔ sameBits len hextets groups = true := by
  unfold Prefix.Matches
  rw [h.hextets, h.len, ha]

/-- As `lookup_only`, for an entry known by its groups. -/
theorem Route.Is.lookup_only {table : List (Route α)} {r : Route α} {hextets : List Nat} {len : Nat}
    {x : α} (h : r.Is hextets len x) (hr : r ∈ table) {a : Ipv6} {groups : List Nat}
    (ha : a.hextets = groups) (hmatch : sameBits len hextets groups = true)
    (hothers : ∀ r' ∈ table, r'.dest.Matches a →
      r'.dest.len ≤ len ∧ (r'.dest.len = len → r'.action = x)) : Only (lookup table a) x := by
  rw [← h.action]
  refine Net.lookup_only hr ((h.matches_iff ha).mpr hmatch) fun r' hr' hmatch' => ?_
  rw [h.len, h.action]
  exact hothers r' hr' hmatch'

end Net
