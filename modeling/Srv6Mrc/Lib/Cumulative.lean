/-
  Cumulative counters that restart.

  A counter counts up from zero, and now and then a reader takes its value; sometimes the counter is
  replaced by a new one, which starts from zero again.  A reading is an epoch — which counter it was
  — and a value.  A reader that sees the values only can take a value that went down for a new
  epoch, and else takes the difference (`deltas`).  What it should have got is, for every epoch, the
  last value read of it (`owed`).

  The two differ by what is `lost`: the old value, at every change of epoch where the new counter
  has already reached it (`deltas_add_lost`).  So the reader is right exactly if no change of epoch
  goes unseen (`deltas_eq_owed_iff`).
-/
import Mathlib.Algebra.BigOperators.Group.Finset.Piecewise
import Mathlib.Algebra.GroupWithZero.Nat
import Mathlib.Data.List.Chain

namespace Cumulative

/-- What a new value adds to the old one. -/
def delta (current last : Nat) : Nat := if last ≤ current then current - last else current

/-- What a reader that remembers the last value gets out of some readings. -/
def deltas : Option Nat → List (Nat × Nat) → List Nat
  | _, [] => []
  | none, r :: rs => r.2 :: deltas (some r.2) rs
  | some last, r :: rs => delta r.2 last :: deltas (some r.2) rs

/-- The last value read of an epoch, zero if none was. -/
def lastOf (epoch : Nat) (rs : List (Nat × Nat)) : Nat :=
  ((rs.filter fun r => r.1 = epoch).getLast?.map Prod.snd).getD 0

/-- The last values of the first `n` epochs, together. -/
def owed (n : Nat) (rs : List (Nat × Nat)) : Nat := ∑ epoch ∈ Finset.range n, lastOf epoch rs

/-- Two readings, one after the other: epochs do not come back, and in one a counter goes up. -/
def Follows (r r' : Nat × Nat) : Prop := r.1 ≤ r'.1 ∧ (r.1 = r'.1 → r.2 ≤ r'.2)

/-- A change of epoch shows: the value went down, or there was none to lose. -/
def Shows (r r' : Nat × Nat) : Prop := r.1 ≠ r'.1 → r'.2 < r.2 ∨ r.2 = 0

/-- The values that went unseen at changes of epoch. -/
def lost : List (Nat × Nat) → Nat
  | r :: r' :: rs => (if r.1 ≠ r'.1 ∧ r.2 ≤ r'.2 then r.2 else 0) + lost (r' :: rs)
  | _ => 0

theorem lost_eq_zero (rs : List (Nat × Nat)) : lost rs = 0 ↔ rs.IsChain Shows := by
  induction rs with
  | nil => simp [lost]
  | cons r rs ih =>
    cases rs with
    | nil => simp [lost]
    | cons r' rs =>
      rw [lost, Nat.add_eq_zero_iff, ih, List.isChain_cons_cons]
      refine and_congr_left fun _ => ?_
      unfold Shows
      constructor
      · intro h hne
        by_contra hnot
        rw [not_or] at hnot
        rw [if_pos ⟨hne, by omega⟩] at h
        exact hnot.2 h
      · intro h
        split
        · rename_i hlost
          have := h hlost.1
          omega
        · rfl

/-! ## One more reading at the front -/

theorem lastOf_cons_ne {epoch : Nat} {r : Nat × Nat} (h : r.1 ≠ epoch) (rs : List (Nat × Nat)) :
    lastOf epoch (r :: rs) = lastOf epoch rs := by
  unfold lastOf
  rw [List.filter_cons_of_neg (by simpa using h)]

theorem lastOf_cons_self (r : Nat × Nat) (rs : List (Nat × Nat)) :
    lastOf r.1 (r :: rs) = if r.1 ∈ rs.map Prod.fst then lastOf r.1 rs else r.2 := by
  unfold lastOf
  rw [List.filter_cons_of_pos (by simp), List.getLast?_cons]
  split
  · rename_i hin
    obtain ⟨r', hr', heq⟩ := List.mem_map.mp hin
    have hne : rs.filter (fun r' => r'.1 = r.1) ≠ [] :=
      List.ne_nil_of_mem (List.mem_filter.mpr ⟨hr', by simpa using heq⟩)
    rw [List.getLast?_eq_getLast_of_ne_nil hne]
    rfl
  · rename_i hout
    have hnil : rs.filter (fun r' => r'.1 = r.1) = [] := by
      rw [List.filter_eq_nil_iff]
      intro r' hr' heq
      exact hout (List.mem_map.mpr ⟨r', hr', by simpa using heq⟩)
    rw [hnil]
    rfl

theorem lastOf_absent {epoch : Nat} {rs : List (Nat × Nat)} (h : epoch ∉ rs.map Prod.fst) :
    lastOf epoch rs = 0 := by
  induction rs with
  | nil => rfl
  | cons r rs ih =>
    rw [List.map_cons, List.mem_cons, not_or] at h
    rw [lastOf_cons_ne (Ne.symm h.1), ih h.2]

/-- An earlier reading is owed only if its epoch is not read again. -/
theorem owed_cons {n : Nat} {r : Nat × Nat} (h : r.1 < n) (rs : List (Nat × Nat)) :
    owed n (r :: rs) = owed n rs + if r.1 ∈ rs.map Prod.fst then 0 else r.2 := by
  have hone : ∀ epoch, lastOf epoch (r :: rs)
      = lastOf epoch rs + if epoch = r.1 then (if r.1 ∈ rs.map Prod.fst then 0 else r.2) else 0 := by
    intro epoch
    by_cases he : epoch = r.1
    · subst he
      rw [lastOf_cons_self, if_pos rfl]
      split
      · rfl
      · rename_i hout
        rw [lastOf_absent hout, Nat.zero_add]
    · rw [lastOf_cons_ne (Ne.symm he), if_neg he, Nat.add_zero]
  unfold owed
  rw [Finset.sum_congr rfl fun epoch _ => hone epoch, Finset.sum_add_distrib,
    Finset.sum_ite_eq' (Finset.range n), if_pos (Finset.mem_range.mpr h)]

/-- Later readings are of no earlier epoch. -/
theorem epoch_le {r : Nat × Nat} {rs : List (Nat × Nat)} (h : (r :: rs).IsChain Follows) :
    ∀ r' ∈ rs, r.1 ≤ r'.1 := by
  induction rs generalizing r with
  | nil => exact fun r' hr' => absurd hr' List.not_mem_nil
  | cons b rs ih =>
    obtain ⟨hrb, hrest⟩ := List.isChain_cons_cons.mp h
    intro r' hr'
    rcases List.mem_cons.mp hr' with rfl | hr'
    · exact hrb.1
    · exact hrb.1.trans (ih hrest r' hr')

/-! ## What the reader gets, and what it should get -/

theorem deltas_some_add_lost {n : Nat} {r : Nat × Nat} {rs : List (Nat × Nat)}
    (h : (r :: rs).IsChain Follows) (hn : ∀ r' ∈ r :: rs, r'.1 < n) :
    r.2 + (deltas (some r.2) rs).sum + lost (r :: rs) = owed n (r :: rs) := by
  induction rs generalizing r with
  | nil =>
    rw [owed_cons (hn r (List.mem_cons_self ..)), if_neg (by simp)]
    simp [deltas, lost, owed, lastOf]
  | cons r' rs ih =>
    obtain ⟨⟨hle, hsame⟩, hrest⟩ := List.isChain_cons_cons.mp h
    have ih' := ih hrest fun r'' hr'' => hn r'' (List.mem_cons_of_mem r hr'')
    rw [owed_cons (hn r (List.mem_cons_self ..)), ← ih', deltas, List.sum_cons, lost]
    by_cases heq : r.1 = r'.1
    · have hin : r.1 ∈ (r' :: rs).map Prod.fst := heq ▸ List.mem_cons_self ..
      have hup := hsame heq
      rw [if_neg fun hne => hne.1 heq, if_pos hin]
      unfold delta
      rw [if_pos hup]
      omega
    · -- a new epoch: the old one is not read again
      have hout : r.1 ∉ (r' :: rs).map Prod.fst := by
        intro hin
        obtain ⟨r'', hr'', he⟩ := List.mem_map.mp hin
        rcases List.mem_cons.mp hr'' with rfl | hr''
        · exact heq he.symm
        · have hlater := epoch_le hrest r'' hr''
          omega
      rw [if_neg hout]
      unfold delta
      by_cases hup : r.2 ≤ r'.2
      · rw [if_pos hup, if_pos ⟨heq, hup⟩]
        omega
      · rw [if_neg hup, if_neg fun hne => hup hne.2]
        omega

/-- What the reader gets falls short of what it should get by what is lost. -/
theorem deltas_add_lost {n : Nat} {rs : List (Nat × Nat)} (h : rs.IsChain Follows)
    (hn : ∀ r ∈ rs, r.1 < n) : (deltas none rs).sum + lost rs = owed n rs := by
  cases rs with
  | nil => simp [deltas, lost, owed, lastOf]
  | cons r rs =>
    rw [deltas, List.sum_cons]
    exact deltas_some_add_lost h hn

/-- The reader is right exactly if every change of epoch shows. -/
theorem deltas_eq_owed_iff {n : Nat} {rs : List (Nat × Nat)} (h : rs.IsChain Follows)
    (hn : ∀ r ∈ rs, r.1 < n) : (deltas none rs).sum = owed n rs ↔ rs.IsChain Shows := by
  rw [← lost_eq_zero, ← deltas_add_lost h hn]
  omega

end Cumulative
