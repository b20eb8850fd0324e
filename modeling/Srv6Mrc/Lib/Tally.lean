/-
  Tallies: dictionaries that count.

  `d[key] = d.get(key, 0) + 1` counts a key once more.  Counted this way, a list leaves its counts
  behind (`Tallies`): each key has the number of its occurrences, the counts of the keys of a kind
  add up to the number of members of that kind (`Tallies.totalOf`), and no other key is there.
-/
import Mathlib.Algebra.Ring.Nat
import Mathlib.Data.List.Induction
import Srv6Mrc.Lib.Dict

namespace Py
namespace Dict

variable {α : Type} [DecidableEq α]

/-- `d.get(key, 0)` -/
def tally (d : Dict α Nat) (key : α) : Nat := (d.get key).getD 0

/-- `d[key] = d.get(key, 0) + 1` -/
def bump (d : Dict α Nat) (key : α) : Dict α Nat := d.set key (d.tally key + 1)

omit [DecidableEq α] in
/-- The sum of the values, for the keys of a kind. -/
def totalOf (p : α → Bool) (d : Dict α Nat) : Nat :=
  ((d.entries.filter fun e => p e.1).map Prod.snd).sum

omit [DecidableEq α] in
/-- `sum(d.values())` -/
def total (d : Dict α Nat) : Nat := (d.entries.map Prod.snd).sum

omit [DecidableEq α] in
theorem total_eq (d : Dict α Nat) : d.total = d.totalOf fun _ => true := by
  unfold total totalOf
  rw [List.filter_eq_self.mpr fun _ _ => rfl]

theorem tally_bump_self (d : Dict α Nat) (key : α) : (d.bump key).tally key = d.tally key + 1 := by
  unfold tally bump
  rw [get_set_self, Option.getD_some]
  rfl

theorem tally_bump_ne (d : Dict α Nat) {key k : α} (h : k ≠ key) :
    (d.bump key).tally k = d.tally k := by
  unfold tally bump
  rw [get_set_ne d _ h]

/-- One key more adds one to the sum of its kind, and nothing to another. -/
theorem totalOf_bump (p : α → Bool) (d : Dict α Nat) (key : α) :
    (d.bump key).totalOf p = d.totalOf p + if p key then 1 else 0 := by
  have hput : ∀ es : List (α × Nat),
      (((put key ((find key es).getD 0 + 1) es).filter fun e => p e.1).map Prod.snd).sum
        = ((es.filter fun e => p e.1).map Prod.snd).sum + if p key then 1 else 0 := by
    intro es
    induction es with
    | nil =>
      rw [put, find, Option.getD_none]
      cases hp : p key <;> simp [hp]
    | cons e es ih =>
      obtain ⟨k, n⟩ := e
      rw [find, put]
      by_cases hk : k = key
      · subst hk
        rw [if_pos rfl, if_pos rfl, Option.getD_some]
        cases hp : p k with
        | true =>
          simp only [List.filter_cons, hp, if_true, List.map_cons, List.sum_cons]
          omega
        | false => simp [hp]
      · rw [if_neg hk, if_neg hk]
        cases hp : p k with
        | true =>
          simp only [List.filter_cons, hp, if_true, List.map_cons, List.sum_cons, ih]
          omega
        | false => simpa only [List.filter_cons, hp, Bool.false_eq_true, if_false] using ih
  exact hput d.entries

/-- These are the counts of a list. -/
structure Tallies (d : Dict α Nat) (xs : List α) : Prop where
  tally : ∀ key, d.tally key = xs.count key
  totalOf : ∀ p, d.totalOf p = xs.countP p
  keys : ∀ key, key ∈ d.keys ↔ key ∈ xs

theorem tallies_empty : Tallies (∅ : Dict α Nat) [] where
  tally _ := rfl
  totalOf _ := rfl
  keys _ := Iff.rfl

theorem Tallies.bump {d : Dict α Nat} {xs : List α} (h : Tallies d xs) (x : α) :
    Tallies (d.bump x) (xs ++ [x]) where
  tally key := by
    rw [List.count_append, List.count_singleton]
    by_cases hkey : key = x
    · rw [hkey, tally_bump_self, h.tally, beq_self_eq_true, if_pos rfl]
    · rw [tally_bump_ne d hkey, h.tally, if_neg]
      · rfl
      · exact fun he => hkey (beq_iff_eq.mp he).symm
  totalOf p := by
    rw [totalOf_bump, h.totalOf, List.countP_append, List.countP_singleton]
  keys key := by
    show key ∈ (d.set x _).keys ↔ _
    rw [mem_keys_set, h.keys, List.mem_append, List.mem_singleton, or_comm]

/-- The total is how many were counted. -/
theorem Tallies.total {d : Dict α Nat} {xs : List α} (h : Tallies d xs) : d.total = xs.length := by
  rw [total_eq, h.totalOf, List.countP_true]

theorem Tallies.tally_eq {d : Dict α Nat} {xs : List α} (h : Tallies d xs) (key : α) :
    d.tally key = xs.countP fun x => x = key := by
  rw [h.tally, List.count]
  refine List.countP_congr fun x _ => ?_
  simp

/-- What is counted by two keys at once is, for each first one, counted by the first. -/
theorem Tallies.fst {β : Type} [DecidableEq β] {d : Dict α Nat} {e : Dict (α × β) Nat}
    {xs : List (α × β)} (h : Tallies d (xs.map Prod.fst)) (h' : Tallies e xs) (a : α) :
    e.totalOf (fun key => key.1 = a) = d.tally a := by
  rw [h'.totalOf, h.tally_eq, List.countP_map]
  rfl

end Dict
end Py
