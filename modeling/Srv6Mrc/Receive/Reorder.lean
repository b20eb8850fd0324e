/-
  `srv6_mrc/reorder.py`: what a receiver knows of one flow.

  `FlowStats` keeps the first seq that arrived, the greatest, a count, and the last few thousand
  seqs, to tell a repeated one.  Nothing else is left to compute the loss from, and it comes out as
  the seqs between the first *arrival* and the greatest, less the count.  That is the number of gaps
  exactly if the first arrival is the smallest seq, or if there are none (`loss_true_iff`).
-/
import Mathlib.Data.Finset.Max
import Mathlib.Order.Interval.Finset.Nat
import Srv6Mrc.Lib.Dict
import Srv6Mrc.Policy.Spines

namespace Srv6Mrc

open Py

/-- `FlowStats._window_cap` -/
def windowCap : Nat := 4096

/-- Per-flow rolling state. -/
structure FlowStats where
  flow : FlowKey
  firstSeq : Option Nat := none
  lastSeqSeen : Int := -1
  received : Nat := 0
  duplicates : Nat := 0
  perPlane : Dict Nat Nat := ∅
  reorderHist : Dict Int Nat := ∅
  /-- The seqs of `_window`, a set. -/
  window : List Nat := []

namespace FlowStats

/-- One more in a bin: `hist[bin] = hist.get(bin, 0) + 1`. -/
def count {α : Type} [DecidableEq α] (hist : Dict α Nat) (bin : α) : Dict α Nat :=
  hist.set bin ((hist.get bin).getD 0 + 1)

/-- The set with one seq more, and without its smallest if that is too many. -/
def slide (window : List Nat) (seq : Nat) : List Nat :=
  let window := seq :: window
  if windowCap < window.length then
    match window.min? with
    | some smallest => window.erase smallest
    | none => window
  else window

/-- `observe` -/
def observe (st : FlowStats) (seq : Nat) (plane : Option Nat) : FlowStats :=
  let st := { st with firstSeq := some (st.firstSeq.getD seq) }
  if seq ∈ st.window then { st with duplicates := st.duplicates + 1 }
  else
    let st := { st with
      window := slide st.window seq
      received := st.received + 1
      perPlane := match plane with
        | some plane => count st.perPlane plane
        | none => st.perPlane }
    if st.lastSeqSeen < (seq : Int) then
      { st with lastSeqSeen := seq, reorderHist := count st.reorderHist 0 }
    else { st with reorderHist := count st.reorderHist (st.lastSeqSeen - seq) }

theorem observe_flow (st : FlowStats) (seq : Nat) (plane : Option Nat) :
    (st.observe seq plane).flow = st.flow := by
  unfold observe
  dsimp only
  split
  · rfl
  · split <;> rfl

/-- `expected` -/
def expected (st : FlowStats) : Int :=
  match st.firstSeq with
  | none => 0
  | some firstSeq => st.lastSeqSeen - firstSeq + 1

/-- `loss` -/
def loss (st : FlowStats) : Int := max 0 (st.expected - st.received)

/-- The stats of a flow after some arrivals: their seqs, and the planes if these are known. -/
def observeAll (flow : FlowKey) (arrivals : List (Nat × Option Nat)) : FlowStats :=
  arrivals.foldl (fun st a => st.observe a.1 a.2) { flow }

end FlowStats

/-! ## The seqs of a flow -/

/-- The seqs that arrived. -/
def seenSeqs (arrivals : List (Nat × Option Nat)) : Finset Nat := (arrivals.map Prod.fst).toFinset

theorem mem_seenSeqs {arrivals : List (Nat × Option Nat)} {a : Nat × Option Nat}
    (h : a ∈ arrivals) : a.1 ∈ seenSeqs arrivals :=
  List.mem_toFinset.mpr (List.mem_map_of_mem h)

theorem seenSeqs_snoc (arrivals : List (Nat × Option Nat)) (a : Nat × Option Nat) :
    seenSeqs (arrivals ++ [a]) = insert a.1 (seenSeqs arrivals) := by
  ext seq
  simp [seenSeqs]

/-- With an arrival something was seen. -/
theorem seenSeqs_nonempty (a : Nat × Option Nat) (rest : List (Nat × Option Nat)) :
    (seenSeqs (a :: rest)).Nonempty := ⟨a.1, mem_seenSeqs (List.mem_cons_self ..)⟩

/-- The smallest seq that arrived. -/
def smallestSeq (a : Nat × Option Nat) (rest : List (Nat × Option Nat)) : Nat :=
  (seenSeqs (a :: rest)).min' (seenSeqs_nonempty a rest)

/-- The greatest seq that arrived. -/
def largestSeq (a : Nat × Option Nat) (rest : List (Nat × Option Nat)) : Nat :=
  (seenSeqs (a :: rest)).max' (seenSeqs_nonempty a rest)

/-- The seqs between the two that never arrived. -/
def gaps (a : Nat × Option Nat) (rest : List (Nat × Option Nat)) : Nat :=
  (Finset.Icc (smallestSeq a rest) (largestSeq a rest) \ seenSeqs (a :: rest)).card

section Seqs

variable (a : Nat × Option Nat) (rest : List (Nat × Option Nat))

theorem smallestSeq_le : smallestSeq a rest ≤ a.1 :=
  Finset.min'_le _ _ (mem_seenSeqs (List.mem_cons_self ..))

/-- The least is not above the greatest. -/
theorem smallest_le_largest : smallestSeq a rest ≤ largestSeq a rest :=
  Finset.min'_le_max' _ _

/-- Every seq of the range arrived, or is a gap. -/
theorem gaps_add_card : gaps a rest + (seenSeqs (a :: rest)).card
    = largestSeq a rest - smallestSeq a rest + 1 := by
  have hsub : seenSeqs (a :: rest) ⊆ Finset.Icc (smallestSeq a rest) (largestSeq a rest) :=
    fun seq hseq => Finset.mem_Icc.mpr ⟨Finset.min'_le _ _ hseq, Finset.le_max' _ _ hseq⟩
  have hle := smallest_le_largest a rest
  unfold gaps
  rw [Finset.card_sdiff_add_card_eq_card hsub, Nat.card_Icc]
  omega

end Seqs

/-! ## What the stats keep -/

namespace FlowStats

/-- With no more seqs than the window holds: it holds them all, and the rest is their first, their
    number and their greatest. -/
structure Tracks (st : FlowStats) (arrivals : List (Nat × Option Nat)) : Prop where
  window : ∀ seq, seq ∈ st.window ↔ seq ∈ seenSeqs arrivals
  nodup : st.window.Nodup
  first : st.firstSeq = arrivals.head?.map Prod.fst
  received : st.received = (seenSeqs arrivals).card
  le_last : ∀ seq ∈ seenSeqs arrivals, (seq : Int) ≤ st.lastSeqSeen
  last : arrivals = [] ∧ st.lastSeqSeen = -1 ∨ ∃ seq ∈ seenSeqs arrivals, st.lastSeqSeen = seq

/-- One arrival more, while the window has room. -/
theorem Tracks.snoc {st : FlowStats} {arrivals : List (Nat × Option Nat)} (h : Tracks st arrivals)
    {a : Nat × Option Nat} (hcap : (seenSeqs (arrivals ++ [a])).card ≤ windowCap) :
    Tracks (st.observe a.1 a.2) (arrivals ++ [a]) := by
  have hfirst : some (st.firstSeq.getD a.1) = (arrivals ++ [a]).head?.map Prod.fst := by
    rw [h.first]
    cases arrivals with
    | nil => rfl
    | cons b bs => rfl
  have hsnoc := seenSeqs_snoc arrivals a
  unfold observe
  dsimp only
  by_cases hin : a.1 ∈ st.window
  · -- a duplicate: nothing is seen that was not
    have hsame : seenSeqs (arrivals ++ [a]) = seenSeqs arrivals := by
      rw [hsnoc, Finset.insert_eq_of_mem ((h.window _).mp hin)]
    rw [if_pos hin]
    refine ⟨?_, h.nodup, hfirst, ?_, ?_, Or.inr ?_⟩
    · rw [hsame]
      exact h.window
    · rw [hsame]
      exact h.received
    · rw [hsame]
      exact h.le_last
    · rw [hsame]
      rcases h.last with ⟨rfl, -⟩ | hlast
      · exact absurd ((h.window _).mp hin) (Finset.notMem_empty _)
      · exact hlast
  · -- a seq that is new
    have hnew : a.1 ∉ seenSeqs arrivals := fun hmem => hin ((h.window _).mpr hmem)
    have hcard : (seenSeqs (arrivals ++ [a])).card = st.received + 1 := by
      rw [hsnoc, Finset.card_insert_of_notMem hnew, h.received]
    have hlen : st.window.length = st.received := by
      have hfin : st.window.toFinset = seenSeqs arrivals := by
        ext seq
        rw [List.mem_toFinset, h.window]
      rw [h.received, ← hfin, List.toFinset_card_of_nodup h.nodup]
    -- the window is not full, so nothing is forgotten
    have hslide : slide st.window a.1 = a.1 :: st.window := by
      unfold slide
      rw [if_neg]
      rw [List.length_cons, hlen, ← hcard]
      exact Nat.not_lt.mpr hcap
    have hwindow : ∀ seq, seq ∈ slide st.window a.1 ↔ seq ∈ seenSeqs (arrivals ++ [a]) := by
      intro seq
      rw [hslide, hsnoc, List.mem_cons, Finset.mem_insert, h.window]
    have hnodup : (slide st.window a.1).Nodup := by
      rw [hslide]
      exact List.nodup_cons.mpr ⟨hin, h.nodup⟩
    rw [if_neg hin]
    split
    · -- the newest so far
      rename_i hlt
      refine ⟨hwindow, hnodup, hfirst, hcard.symm, fun seq hseq => ?_, Or.inr ⟨a.1, ?_, rfl⟩⟩
      · rw [hsnoc] at hseq
        rcases Finset.mem_insert.mp hseq with rfl | hseq
        · exact le_rfl
        · exact (h.le_last seq hseq).trans hlt.le
      · rw [hsnoc]
        exact Finset.mem_insert_self ..
    · -- a late one
      rename_i hle
      refine ⟨hwindow, hnodup, hfirst, hcard.symm, fun seq hseq => ?_, Or.inr ?_⟩
      · rw [hsnoc] at hseq
        rcases Finset.mem_insert.mp hseq with rfl | hseq
        · exact not_lt.mp hle
        · exact h.le_last seq hseq
      · rcases h.last with ⟨-, hlast⟩ | ⟨seq, hseq, hlast⟩
        · omega
        · rw [hsnoc]
          exact ⟨seq, Finset.mem_insert_of_mem hseq, hlast⟩

theorem tracks_observeAll (flow : FlowKey) {arrivals : List (Nat × Option Nat)}
    (hcap : (seenSeqs arrivals).card ≤ windowCap) : Tracks (observeAll flow arrivals) arrivals := by
  induction arrivals using List.reverseRecOn with
  | nil =>
    exact ⟨fun seq => Iff.rfl, List.nodup_nil, rfl, rfl,
      fun seq h => absurd h (Finset.notMem_empty _), Or.inl ⟨rfl, rfl⟩⟩
  | append_singleton arrivals a ih =>
    have hle : (seenSeqs arrivals).card ≤ (seenSeqs (arrivals ++ [a])).card := by
      rw [seenSeqs_snoc]
      exact Finset.card_le_card (Finset.subset_insert ..)
    unfold observeAll at ih ⊢
    rw [List.foldl_append]
    exact (ih (hle.trans hcap)).snoc hcap

/-- Expected and lost, in terms of the first arrival, the greatest seq and the number of seqs. -/
theorem observeAll_eq (flow : FlowKey) (a : Nat × Option Nat) {rest : List (Nat × Option Nat)}
    (hcap : (seenSeqs (a :: rest)).card ≤ windowCap) :
    let st := observeAll flow (a :: rest)
    st.expected = (largestSeq a rest : Int) - a.1 + 1 ∧
      st.loss = max 0 ((largestSeq a rest : Int) - a.1 + 1 - (seenSeqs (a :: rest)).card) := by
  intro st
  have h := tracks_observeAll flow hcap
  have hlast : st.lastSeqSeen = largestSeq a rest := by
    rcases h.last with ⟨hnil, -⟩ | ⟨seq, hseq, hlast⟩
    · cases hnil
    · refine le_antisymm ?_ (h.le_last _ (Finset.max'_mem ..))
      rw [hlast]
      exact_mod_cast Finset.le_max' _ _ hseq
  have hexpected : st.expected = (largestSeq a rest : Int) - a.1 + 1 := by
    unfold expected
    rw [h.first, hlast]
    rfl
  refine ⟨hexpected, ?_⟩
  unfold loss
  rw [hexpected, h.received]

theorem seenSeqs_perm {arrivals arrivals' : List (Nat × Option Nat)} (h : arrivals'.Perm arrivals) :
    seenSeqs arrivals' = seenSeqs arrivals := List.toFinset_eq_of_perm _ _ (h.map _)

/-- A seq that arrived can be the first to arrive. -/
theorem exists_first {a : Nat × Option Nat} {rest : List (Nat × Option Nat)} {seq : Nat}
    (h : seq ∈ seenSeqs (a :: rest)) :
    ∃ b bs, (b :: bs).Perm (a :: rest) ∧ b.1 = seq := by
  obtain ⟨b, hb, heq⟩ := List.mem_map.mp (List.mem_toFinset.mp h)
  exact ⟨b, (a :: rest).erase b, (List.perm_cons_erase hb).symm, heq⟩

/-- Expected and loss are the length of the range and the number of its gaps if and only if the
    first arrival is the smallest seq.  The loss alone is right also if there are no gaps; and only
    then is it the same in every order of arrival. -/
theorem loss_true_iff (flow : FlowKey) (a : Nat × Option Nat) (rest : List (Nat × Option Nat))
    (hcap : (seenSeqs (a :: rest)).card ≤ windowCap) :
    let st := observeAll flow (a :: rest)
    (st.expected = (largestSeq a rest : Int) - smallestSeq a rest + 1 ∧ st.loss = gaps a rest ↔
      a.1 = smallestSeq a rest) ∧
    (st.loss = gaps a rest ↔ a.1 = smallestSeq a rest ∨ gaps a rest = 0) ∧
    ((∀ b bs, (b :: bs).Perm (a :: rest) → (observeAll flow (b :: bs)).loss = st.loss) ↔
      gaps a rest = 0) := by
  intro st
  obtain ⟨hexpected, hloss⟩ := observeAll_eq flow a hcap
  have hgaps := gaps_add_card a rest
  have hfirst := smallestSeq_le a rest
  have hrange := smallest_le_largest a rest
  have hany : ∀ b bs, (b :: bs).Perm (a :: rest) → (observeAll flow (b :: bs)).loss
      = max 0 ((largestSeq a rest : Int) - b.1 + 1 - (seenSeqs (a :: rest)).card) := by
    intro b bs hperm
    have hsame := seenSeqs_perm hperm
    have hlargest : largestSeq b bs = largestSeq a rest := by
      simp only [largestSeq, hsame]
    rw [(observeAll_eq flow b (by rwa [hsame])).2, hsame, hlargest]
  refine ⟨⟨fun h => ?_, fun h => ?_⟩, ⟨fun h => ?_, fun h => ?_⟩, fun h => ?_, fun h b bs hperm => ?_⟩
  · have := hexpected.symm.trans h.1
    omega
  · rw [hexpected, hloss]
    omega
  · have := hloss.symm.trans h
    omega
  · rw [hloss]
    omega
  · -- the smallest seq first, and the greatest first
    obtain ⟨b, bs, hperm, hb⟩ := exists_first (Finset.min'_mem _ (seenSeqs_nonempty a rest))
    obtain ⟨c, cs, hperm', hc⟩ := exists_first (Finset.max'_mem _ (seenSeqs_nonempty a rest))
    have heq := (hany b bs hperm).symm.trans ((h b bs hperm).trans
      ((h c cs hperm').symm.trans (hany c cs hperm')))
    have hcard : 0 < (seenSeqs (a :: rest)).card := Finset.card_pos.mpr (seenSeqs_nonempty a rest)
    change b.1 = smallestSeq a rest at hb
    change c.1 = largestSeq a rest at hc
    omega
  · rw [hany b bs hperm, hloss]
    have hle : largestSeq a rest - smallestSeq a rest + 1 = (seenSeqs (a :: rest)).card := by omega
    have hb : smallestSeq a rest ≤ b.1 := by
      refine Finset.min'_le _ _ ?_
      rw [← seenSeqs_perm hperm]
      exact mem_seenSeqs (List.mem_cons_self ..)
    omega

/-- The flow of the concrete arrivals. -/
def aFlow : FlowKey := ⟨"2001:db8:bbbb::2", "2001:db8:bbbb:1::2", 9999, 9999⟩

theorem loss_true_iff_inOrder :
    (observeAll aFlow [(0, none), (1, none), (3, none)]).loss = gaps (0, none) [(1, none), (3, none)] :=
  ((loss_true_iff aFlow (0, none) [(1, none), (3, none)] (by decide)).2.1).mpr
    (Or.inl (by decide))

/-- Seq 1 before seq 0, and seq 3 lost: of 0 to 4 one is missing, but expected is four and loss is
    zero.  In order, expected is five and loss is one. -/
theorem late_first_hides_loss :
    let late := observeAll aFlow [(1, some 0), (0, some 1), (2, some 2), (4, some 0)]
    let inOrder := observeAll aFlow [(0, some 1), (1, some 0), (2, some 2), (4, some 0)]
    gaps (1, some 0) [(0, some 1), (2, some 2), (4, some 0)] = 1 ∧
      late.expected = 4 ∧ late.loss = 0 ∧ inOrder.expected = 5 ∧ inOrder.loss = 1 := by
  decide

end FlowStats
end Srv6Mrc
