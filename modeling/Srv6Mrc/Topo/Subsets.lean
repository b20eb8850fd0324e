/-
  `srv6_mrc/topo.py` and `topology.py`: the subsets of spines.

  Sender and receiver, and the tools, draw the spines of a pair on their own, from the ids of the hosts
  or from their addresses.  What they rely on is that both ends draw the same ones, and that a larger
  fan-out only adds spines to those of a smaller one (`spine_subsets`).
-/
import Srv6Mrc.Lib.Outcome
import Srv6Mrc.Topo.Topology

namespace Srv6Mrc

/-- A draw goes on where a shorter one ends. -/
theorem drawSpines_prefix {base numSpines n m step : Nat} {pool spines more : List Nat}
    (h : drawSpines base numSpines n step pool = .ok spines)
    (h' : drawSpines base numSpines m step pool = .ok more) (hle : n ≤ m) : spines <+: more := by
  induction n generalizing m step pool spines more with
  | zero =>
    cases h
    exact List.nil_prefix
  | succ n ih =>
    obtain ⟨m, rfl⟩ := Nat.exists_eq_add_of_le' (Nat.le_trans (Nat.succ_le_succ (Nat.zero_le n)) hle)
    unfold drawSpines at h h'
    dsimp only at h h'
    cases hpop : pop pool (splitMix ((base + step * goldenGamma) % 2 ^ 64) % (numSpines - step)) with
    | error err =>
      rw [hpop] at h
      cases h
    | ok popped =>
      rw [hpop] at h h'
      obtain ⟨rest, hrest, rfl⟩ := Outcome.map_ok.mp h
      obtain ⟨rest', hrest', rfl⟩ := Outcome.map_ok.mp h'
      exact List.prefix_cons_inj _ |>.mpr (ih hrest hrest' (Nat.le_of_succ_le_succ hle))

/-- The subsets that a function draws for two ends, which are host ids or addresses. -/
structure Subsets {α : Type} (numSpines : Nat) (select : α → α → Int → Except PolicyError (List Nat)) :
    Prop where
  /-- There are as many different spines of the plane as were asked for. -/
  drawn : ∀ a b (n : Int), 1 ≤ n → n ≤ numSpines → ∃ spines, select a b n = .ok spines ∧
    spines.length = n ∧ spines.Nodup ∧ ∀ spine ∈ spines, spine < numSpines
  /-- The ends may change places. -/
  symmetric : ∀ a b n, select a b n = select b a n
  /-- All spines, in some order. -/
  whole : ∀ a b spines, select a b numSpines = .ok spines → spines.Perm (List.range numSpines)
  /-- A larger subset begins with a smaller one. -/
  nested : ∀ a b (n m : Int) spines more, n ≤ m → select a b n = .ok spines → select a b m = .ok more →
    spines <+: more
  /-- Any other number is refused. -/
  refused : ∀ a b (n : Int), ¬ (1 ≤ n ∧ n ≤ numSpines) → select a b n = .error (.pathsPerPlane numSpines n)

theorem Subsets.lt {α : Type} {numSpines : Nat}
    {select : α → α → Int → Except PolicyError (List Nat)} (h : Subsets numSpines select) {a b : α}
    {n : Int} {spines : List Nat} (hs : select a b n = .ok spines) :
    ∀ spine ∈ spines, spine < numSpines := by
  have hrange : 1 ≤ n ∧ n ≤ numSpines := by
    by_contra hout
    rw [h.refused a b n hout] at hs
    cases hs
  obtain ⟨spines', hs', -, -, hlt⟩ := h.drawn a b n hrange.1 hrange.2
  rw [hs] at hs'
  obtain rfl := Except.ok.inj hs'
  exact hlt

/-- As many different numbers as there are below a bound are all of them. -/
theorem perm_range {spines : List Nat} {n : Nat} (hlen : spines.length = n) (hnodup : spines.Nodup)
    (hlt : ∀ spine ∈ spines, spine < n) : spines.Perm (List.range n) := by
  have hsub : spines ⊆ List.range n := fun spine hs => List.mem_range.mpr (hlt spine hs)
  refine (List.subperm_of_subset hnodup hsub).perm_of_length_le ?_
  rw [List.length_range, hlen]

/-- What is drawn from a seed that both ends have. -/
theorem subsets_of_seed {α : Type} {numSpines : Nat}
    {select : α → α → Int → Except PolicyError (List Nat)} (seed : α → α → String)
    (hsym : ∀ a b, seed a b = seed b a)
    (hselect : ∀ a b n, select a b n = if 1 ≤ n ∧ n ≤ numSpines then
      selectSpinesFromSeed numSpines (seed a b) n.toNat else .error (.pathsPerPlane numSpines n)) :
    Subsets numSpines select := by
  have hdrawn : ∀ a b n, 1 ≤ n → n ≤ (numSpines : Int) → ∃ spines, select a b n = .ok spines ∧
      (spines.length : Int) = n ∧ spines.Nodup ∧ ∀ spine ∈ spines, spine < numSpines := by
    intro a b n hpos hle
    have hpool : (List.range numSpines).length = numSpines - 0 := by
      rw [List.length_range, Nat.sub_zero]
    have hroom : 0 + n.toNat ≤ numSpines := by omega
    obtain ⟨spines, hdraw, hn, hnodup, hmem⟩ :=
      drawSpines_ok (fnv1a (encode (seed a b))) hpool hroom List.nodup_range
    rw [hselect, if_pos ⟨hpos, hle⟩]
    exact ⟨spines, hdraw, by omega, hnodup, fun spine hs => List.mem_range.mp (hmem spine hs)⟩
  refine ⟨hdrawn, fun a b n => ?_, fun a b spines hs => ?_, fun a b n m spines more hle hs hm => ?_,
    fun a b n hout => ?_⟩
  · rw [hselect, hselect, hsym]
  · have hrange : 1 ≤ (numSpines : Int) ∧ (numSpines : Int) ≤ numSpines := by
      by_contra hout
      rw [hselect, if_neg hout] at hs
      cases hs
    obtain ⟨spines', hs', hlen, hnodup, hlt⟩ := hdrawn a b numSpines hrange.1 hrange.2
    rw [hs] at hs'
    cases hs'
    exact perm_range (by exact_mod_cast hlen) hnodup hlt
  · rw [hselect] at hs hm
    split at hs
    · split at hm
      · exact drawSpines_prefix hs hm (by omega)
      · cases hm
    · cases hs
  · rw [hselect, if_neg hout]

/-- The seed is the same in both directions. -/
theorem seed_comm (a b : String) :
    (if a ≤ b then a ++ "|" ++ b else b ++ "|" ++ a) = if b ≤ a then b ++ "|" ++ a else a ++ "|" ++ b := by
  by_cases hab : a ≤ b
  · by_cases hba : b ≤ a
    · rw [String.le_antisymm hab hba]
    · rw [if_pos hab, if_neg hba]
  · rw [if_neg hab, if_pos ((String.le_total a b).resolve_left hab)]

theorem selectSpines_subsets (numSpines : Nat) : Subsets numSpines (selectSpines numSpines) := by
  refine subsets_of_seed (fun a b => toString (min a b) ++ "|" ++ toString (max a b)) ?_ ?_
  · intro a b
    rw [min_comm, max_comm]
  · intro a b n
    rfl

theorem selectSpinesForAddrs_subsets (numSpines : Nat) :
    Subsets numSpines (selectSpinesForAddrs numSpines) := by
  refine subsets_of_seed (fun a b => if a ≤ b then a ++ "|" ++ b else b ++ "|" ++ a) seed_comm ?_
  intro a b n
  unfold selectSpinesForAddrs
  by_cases hab : a ≤ b
  · rw [if_pos hab, if_pos hab]
  · rw [if_neg hab, if_neg hab]

/-- The functions of the module and those of the class, whatever the ends are. -/
theorem spine_subsets (T : Topo) (T' : Topology) :
    (Subsets T.numSpines T.selectSpines ∧ Subsets T.numSpines T.selectSpinesForAddrs) ∧
      Subsets T'.spinesPerPlane T'.selectSpines ∧ Subsets T'.spinesPerPlane T'.selectSpinesForAddrs :=
  ⟨⟨selectSpines_subsets _, selectSpinesForAddrs_subsets _⟩, selectSpines_subsets _,
    selectSpinesForAddrs_subsets _⟩

end Srv6Mrc
