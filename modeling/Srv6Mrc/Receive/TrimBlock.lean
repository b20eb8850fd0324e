/-
  `srv6_mrc/runner.py`, `run_receiver`: when the trim block of a flow tells the truth.

  The block has the trimmed arrivals of the flow, the seqs that came both ways, and the seqs that
  only came trimmed.  The code has no such sets.  It keeps the seqs whose *latest* copy was trimmed,
  and counts the times one of them came in full; and it has a place for a block only where something
  of the flow came in full.  `trim_block_true_iff` says for which arrivals this is the same.
-/
import Mathlib.Algebra.BigOperators.Group.Finset.Piecewise
import Mathlib.Algebra.Order.BigOperators.Group.Finset
import Srv6Mrc.Receive.Receiver

namespace Srv6Mrc

open Py

/-! ## The copies of one seq -/

/-- The copies of a seq of a flow in the order of their arrival: which were trimmed. -/
def copies (flow : FlowKey) (seq : Nat) (arrivals : List Arrival) : List Bool :=
  (arrivals.filter fun a => a.flow = flow ∧ a.seq = seq).map Arrival.trimmed

/-- How often a full copy comes right after a trimmed one; `prev`: a trimmed one came before. -/
def turns (prev : Bool) : List Bool → Nat
  | [] => 0
  | k :: ks => (if prev && !k then 1 else 0) + turns k ks

/-- Full copies, then trimmed ones, then full ones again. -/
def OneStretch (ks : List Bool) : Prop :=
  ∃ before trims after, 0 < after ∧
    ks = List.replicate before false ++ List.replicate trims true ++ List.replicate after false

/-- One copy more is a turn if it is a full one after a trimmed one. -/
theorem turns_snoc (prev : Bool) (ks : List Bool) (k : Bool) :
    turns prev (ks ++ [k]) = turns prev ks + if ks.getLastD prev && !k then 1 else 0 := by
  induction ks generalizing prev with
  | nil => simp [turns]
  | cons k' ks ih =>
    rw [List.cons_append, turns, turns, ih, Nat.add_assoc, List.getLastD_cons]

/-- Of copies that end with a trimmed one, or with a full one and no turn, ... -/
theorem turns_true_zero {ks : List Bool} (h : turns true ks = 0) : ks.getLastD true = true := by
  induction ks with
  | nil => rfl
  | cons k ks ih =>
    cases k with
    | false => simp [turns] at h
    | true =>
      rw [List.getLastD_cons]
      refine ih ?_
      simpa [turns] using h

theorem turns_false_zero {ks : List Bool} :
    turns false ks = 0 ∧ ks.getLastD false = false ↔ ks = List.replicate ks.length false := by
  induction ks with
  | nil => simp [turns]
  | cons k ks ih =>
    rw [List.getLastD_cons, List.length_cons, List.replicate_succ, List.cons.injEq]
    cases k with
    | false => simpa [turns] using ih
    | true =>
      refine ⟨fun h => ?_, fun h => absurd h.1 (by decide)⟩
      have hlast : ks.getLastD true = true := turns_true_zero (by simpa [turns] using h.1)
      exact absurd (h.2.symm.trans hlast) (by decide)

theorem turns_true_one {ks : List Bool} :
    turns true ks = 1 ∧ ks.getLastD true = false ↔
      ∃ trims after, 0 < after ∧ ks = List.replicate trims true ++ List.replicate after false := by
  induction ks with
  | nil =>
    refine ⟨fun h => absurd h.1 (by decide), ?_⟩
    rintro ⟨trims, after, hafter, heq⟩
    have := congrArg List.length heq
    simp at this
    omega
  | cons k ks ih =>
    rw [List.getLastD_cons]
    cases k with
    | false =>
      have hturns : turns true (false :: ks) = 1 ↔ turns false ks = 0 := by
        simp [turns]
      rw [hturns, turns_false_zero]
      constructor
      · intro h
        exact ⟨0, ks.length + 1, by omega, by rw [List.replicate_succ, ← h]; rfl⟩
      · rintro ⟨trims, after, hafter, heq⟩
        cases trims with
        | succ trims => simp [List.replicate_succ] at heq
        | zero =>
          obtain ⟨after, rfl⟩ := Nat.exists_eq_succ_of_ne_zero hafter.ne'
          have htail : ks = List.replicate after false := by
            simpa [List.replicate_succ] using heq
          rw [htail, List.length_replicate]
    | true =>
      have hturns : turns true (true :: ks) = turns true ks := by
        simp [turns]
      rw [hturns, ih]
      constructor
      · rintro ⟨trims, after, hafter, rfl⟩
        exact ⟨trims + 1, after, hafter, by rw [List.replicate_succ, List.cons_append]⟩
      · rintro ⟨trims, after, hafter, heq⟩
        cases trims with
        | zero =>
          obtain ⟨after, rfl⟩ := Nat.exists_eq_succ_of_ne_zero hafter.ne'
          simp [List.replicate_succ] at heq
        | succ trims => exact ⟨trims, after, hafter, by simpa [List.replicate_succ] using heq⟩

/-- One turn and a full copy at the end: one stretch of trimmed copies, if any is trimmed. -/
theorem turns_one {ks : List Bool} (htrim : true ∈ ks) :
    turns false ks = 1 ∧ ks.getLastD false = false ↔ OneStretch ks := by
  induction ks with
  | nil => cases htrim
  | cons k ks ih =>
    rw [List.getLastD_cons]
    cases k with
    | false =>
      have hturns : turns false (false :: ks) = turns false ks := by
        simp [turns]
      rw [hturns, ih (by simpa using htrim)]
      constructor
      · rintro ⟨before, trims, after, hafter, rfl⟩
        exact ⟨before + 1, trims, after, hafter, by simp [List.replicate_succ]⟩
      · rintro ⟨before, trims, after, hafter, heq⟩
        cases before with
        | succ before =>
          exact ⟨before, trims, after, hafter, by simpa [List.replicate_succ] using heq⟩
        | zero =>
          cases trims with
          | succ trims => simp [List.replicate_succ] at heq
          | zero =>
            exfalso
            have hmem : true ∈ List.replicate after false := by
              rw [← show false :: ks = List.replicate after false by simpa using heq]
              exact htrim
            exact absurd (List.eq_of_mem_replicate hmem) (by decide)
    | true =>
      have hturns : turns false (true :: ks) = turns true ks := by
        simp [turns]
      rw [hturns, turns_true_one]
      constructor
      · rintro ⟨trims, after, hafter, rfl⟩
        exact ⟨0, trims + 1, after, hafter, by simp [List.replicate_succ]⟩
      · rintro ⟨before, trims, after, hafter, heq⟩
        cases before with
        | succ before => simp [List.replicate_succ] at heq
        | zero =>
          cases trims with
          | zero =>
            obtain ⟨after, rfl⟩ := Nat.exists_eq_succ_of_ne_zero hafter.ne'
            simp [List.replicate_succ] at heq
          | succ trims => exact ⟨trims, after, hafter, by simpa [List.replicate_succ] using heq⟩

/-- A full copy after a trimmed one: at least one turn. -/
theorem one_le_turns {ks : List Bool} {prev : Bool} (htrim : prev = true ∨ true ∈ ks)
    (hlast : ks.getLastD prev = false) : 1 ≤ turns prev ks := by
  induction ks generalizing prev with
  | nil =>
    rcases htrim with rfl | htrim
    · cases hlast
    · cases htrim
  | cons k ks ih =>
    rw [List.getLastD_cons] at hlast
    rw [turns]
    cases k with
    | true => exact (ih (Or.inl rfl) hlast).trans (Nat.le_add_left ..)
    | false =>
      rcases htrim with rfl | htrim
      · exact Nat.le_add_right ..
      · exact (ih (Or.inr (by simpa using htrim)) hlast).trans (Nat.le_add_left ..)

/-- No turn without a trimmed copy, and none without a full one. -/
theorem turns_of_all_full {ks : List Bool} (h : true ∉ ks) : turns false ks = 0 := by
  refine (turns_false_zero.mpr ?_).1
  exact List.eq_replicate_of_mem fun k hk => by cases k with
    | false => rfl
    | true => exact absurd hk h

/-- Without a full copy there is no turn. -/
theorem turns_of_all_trimmed {ks : List Bool} {prev : Bool} (h : false ∉ ks) :
    turns prev ks = 0 := by
  induction ks generalizing prev with
  | nil => rfl
  | cons k ks ih =>
    cases k with
    | false => exact absurd (List.mem_cons_self ..) h
    | true =>
      rw [turns, ih fun hmem => h (List.mem_cons_of_mem _ hmem)]
      simp

/-! ## The packets of one flow -/

/-- The seqs of a flow. -/
def seqsOf (flow : FlowKey) (arrivals : List Arrival) : Finset Nat :=
  ((arrivals.filter fun a => a.flow = flow).map Arrival.seq).toFinset

/-- The trimmed arrivals of a flow. -/
def trimmedCount (flow : FlowKey) (arrivals : List Arrival) : Nat :=
  arrivals.countP fun a => a.flow = flow ∧ a.trimmed = true

/-- The seqs that arrived trimmed and in full. -/
def bothWays (flow : FlowKey) (arrivals : List Arrival) : Finset Nat :=
  (seqsOf flow arrivals).filter fun seq =>
    true ∈ copies flow seq arrivals ∧ false ∈ copies flow seq arrivals

/-- The seqs that arrived trimmed and never in full. -/
def neverFull (flow : FlowKey) (arrivals : List Arrival) : Finset Nat :=
  (seqsOf flow arrivals).filter fun seq =>
    true ∈ copies flow seq arrivals ∧ false ∉ copies flow seq arrivals

/-- The seqs whose latest copy is trimmed. -/
def latestTrimmed (flow : FlowKey) (arrivals : List Arrival) : Finset Nat :=
  (seqsOf flow arrivals).filter fun seq => (copies flow seq arrivals).getLastD false = true

/-- The turns of all seqs of a flow. -/
def turnsOf (flow : FlowKey) (arrivals : List Arrival) : Nat :=
  ∑ seq ∈ seqsOf flow arrivals, turns false (copies flow seq arrivals)

/-- Something of the flow came in full, and no seq that came both ways has trimmed copies before and
    after a full one, or at the end. -/
def Settled (flow : FlowKey) (arrivals : List Arrival) : Prop :=
  (∃ a ∈ arrivals, a.flow = flow ∧ a.trimmed = false) ∧
    ∀ seq ∈ bothWays flow arrivals, OneStretch (copies flow seq arrivals)

section Arrivals

variable {flow : FlowKey} {seq : Nat} {arrivals : List Arrival}

/-- One arrival more is a copy of one packet more. -/
theorem copies_snoc (flow : FlowKey) (seq : Nat) (arrivals : List Arrival) (a : Arrival) :
    copies flow seq (arrivals ++ [a])
      = copies flow seq arrivals ++ if a.flow = flow ∧ a.seq = seq then [a.trimmed] else [] := by
  unfold copies
  rw [List.filter_append, List.map_append, List.filter_singleton]
  by_cases h : a.flow = flow ∧ a.seq = seq
  · simp [h]
  · simp [h]

/-- The copies of a packet are its arrivals. -/
theorem mem_copies {k : Bool} :
    k ∈ copies flow seq arrivals ↔ ∃ a ∈ arrivals, a.flow = flow ∧ a.seq = seq ∧ a.trimmed = k := by
  simp [copies, and_assoc]

/-- The packets of a flow are those that arrived. -/
theorem mem_seqsOf : seq ∈ seqsOf flow arrivals ↔ ∃ a ∈ arrivals, a.flow = flow ∧ a.seq = seq := by
  simp [seqsOf, and_assoc]

theorem mem_seqsOf_of_copies {k : Bool} (h : k ∈ copies flow seq arrivals) :
    seq ∈ seqsOf flow arrivals := by
  obtain ⟨a, ha, hflow, hseq, -⟩ := mem_copies.mp h
  exact mem_seqsOf.mpr ⟨a, ha, hflow, hseq⟩

theorem copies_eq_nil (h : seq ∉ seqsOf flow arrivals) : copies flow seq arrivals = [] :=
  List.eq_nil_iff_forall_not_mem.mpr fun _ hk => h (mem_seqsOf_of_copies hk)

theorem mem_latestTrimmed :
    seq ∈ latestTrimmed flow arrivals ↔ (copies flow seq arrivals).getLastD false = true := by
  unfold latestTrimmed
  rw [Finset.mem_filter, and_iff_right_iff_imp]
  intro h
  by_contra hno
  rw [copies_eq_nil hno] at h
  cases h

/-- The turns, summed over any seqs that include those of the flow. -/
theorem turnsOf_eq {seqs : Finset Nat} (h : seqsOf flow arrivals ⊆ seqs) :
    turnsOf flow arrivals = ∑ seq ∈ seqs, turns false (copies flow seq arrivals) := by
  refine Finset.sum_subset h fun seq _ hno => ?_
  rw [copies_eq_nil hno]
  rfl

/-- A packet adds a turn if it is in full and the seq's copy before it was trimmed. -/
theorem turnsOf_snoc (flow : FlowKey) (arrivals : List Arrival) (a : Arrival) :
    turnsOf flow (arrivals ++ [a]) = turnsOf flow arrivals +
      if a.flow = flow ∧ a.trimmed = false ∧ (copies flow a.seq arrivals).getLastD false = true then 1
      else 0 := by
  let seqs := insert a.seq (seqsOf flow (arrivals ++ [a]))
  have hnew : seqsOf flow (arrivals ++ [a]) ⊆ seqs := Finset.subset_insert _ _
  have hold : seqsOf flow arrivals ⊆ seqs := fun seq hseq => by
    obtain ⟨b, hb, h⟩ := mem_seqsOf.mp hseq
    exact hnew (mem_seqsOf.mpr ⟨b, List.mem_append_left _ hb, h⟩)
  have hone : ∀ seq ∈ seqs, turns false (copies flow seq (arrivals ++ [a]))
      = turns false (copies flow seq arrivals) +
        if seq = a.seq then (if a.flow = flow ∧ a.trimmed = false
          ∧ (copies flow a.seq arrivals).getLastD false = true then 1 else 0) else 0 := by
    intro seq _
    rw [copies_snoc]
    by_cases hseq : seq = a.seq
    · subst hseq
      by_cases hflow : a.flow = flow
      · rw [if_pos ⟨hflow, rfl⟩, turns_snoc, if_pos rfl]
        cases a.trimmed <;> simp [hflow]
      · simp [hflow]
    · rw [if_neg fun h => hseq h.2.symm, if_neg hseq, List.append_nil, Nat.add_zero]
  rw [turnsOf_eq hnew, turnsOf_eq hold, Finset.sum_congr rfl hone, Finset.sum_add_distrib,
    Finset.sum_ite_eq' seqs, if_pos (Finset.mem_insert_self ..)]

/-- Of the seqs of a flow only those that came both ways have turns. -/
theorem turnsOf_eq_bothWays (flow : FlowKey) (arrivals : List Arrival) :
    turnsOf flow arrivals
      = ∑ seq ∈ bothWays flow arrivals, turns false (copies flow seq arrivals) := by
  refine (Finset.sum_subset (Finset.filter_subset ..) fun seq hseq hno => ?_).symm
  by_cases htrim : true ∈ copies flow seq arrivals
  · refine turns_of_all_trimmed fun hfull => hno ?_
    exact Finset.mem_filter.mpr ⟨hseq, htrim, hfull⟩
  · exact turns_of_all_full htrim

/-- A seq that never came in full has a trimmed copy at the end. -/
theorem neverFull_subset : neverFull flow arrivals ⊆ latestTrimmed flow arrivals := by
  intro seq hseq
  obtain ⟨-, htrim, hfull⟩ := Finset.mem_filter.mp hseq
  rw [mem_latestTrimmed]
  have hne : copies flow seq arrivals ≠ [] := List.ne_nil_of_mem htrim
  rw [List.getLastD_eq_getLast?, List.getLast?_eq_some_getLast hne]
  cases hlast : (copies flow seq arrivals).getLast hne with
  | true => rfl
  | false => exact absurd (hlast ▸ List.getLast_mem hne) hfull

/-- The two numbers are what they should be, exactly if every seq that came both ways has its
    trimmed copies in one stretch and a full one after them. -/
theorem counts_true_iff (flow : FlowKey) (arrivals : List Arrival) :
    (latestTrimmed flow arrivals).card = (neverFull flow arrivals).card ∧
        turnsOf flow arrivals = (bothWays flow arrivals).card ↔
      ∀ seq ∈ bothWays flow arrivals, OneStretch (copies flow seq arrivals) := by
  have hlatest : (latestTrimmed flow arrivals).card = (neverFull flow arrivals).card ↔
      ∀ seq ∈ bothWays flow arrivals, (copies flow seq arrivals).getLastD false = false := by
    constructor
    · intro hcard seq hseq
      obtain ⟨-, -, hfull⟩ := Finset.mem_filter.mp hseq
      -- the seqs that were never full are among those whose last copy was trimmed
      have heq : neverFull flow arrivals = latestTrimmed flow arrivals :=
        Finset.eq_of_subset_of_card_le neverFull_subset hcard.le
      by_contra htrim
      have hmem : seq ∈ neverFull flow arrivals := by
        rw [heq, mem_latestTrimmed]
        simpa using htrim
      exact (Finset.mem_filter.mp hmem).2.2 hfull
    · intro h
      refine congrArg Finset.card (Finset.Subset.antisymm (fun seq hseq => ?_) neverFull_subset)
      have hlast := mem_latestTrimmed.mp hseq
      have hne : copies flow seq arrivals ≠ [] := by
        intro hnil
        rw [hnil] at hlast
        cases hlast
      have htrim : true ∈ copies flow seq arrivals := by
        rw [List.getLastD_eq_getLast?, List.getLast?_eq_some_getLast hne] at hlast
        have hmem := List.getLast_mem hne
        rwa [show (copies flow seq arrivals).getLast hne = true from hlast] at hmem
      have hin := mem_seqsOf_of_copies htrim
      refine Finset.mem_filter.mpr ⟨hin, htrim, fun hfull => ?_⟩
      have := h seq (Finset.mem_filter.mpr ⟨hin, htrim, hfull⟩)
      rw [hlast] at this
      cases this
  rw [hlatest, turnsOf_eq_bothWays, Finset.card_eq_sum_ones]
  constructor
  · rintro ⟨hlast, hsum⟩ seq hseq
    -- each seq has a turn at least, so the sum is the number only if each has one
    have hle : ∀ seq ∈ bothWays flow arrivals, 1 ≤ turns false (copies flow seq arrivals) :=
      fun seq hseq => one_le_turns (Or.inr (Finset.mem_filter.mp hseq).2.1) (hlast seq hseq)
    have hone := (Finset.sum_eq_sum_iff_of_le hle).mp hsum.symm seq hseq
    exact (turns_one (Finset.mem_filter.mp hseq).2.1).mp ⟨hone.symm, hlast seq hseq⟩
  · intro h
    have hboth : ∀ seq ∈ bothWays flow arrivals, turns false (copies flow seq arrivals) = 1 ∧
        (copies flow seq arrivals).getLastD false = false :=
      fun seq hseq => (turns_one (Finset.mem_filter.mp hseq).2.1).mpr (h seq hseq)
    exact ⟨fun seq hseq => (hboth seq hseq).2, Finset.sum_congr rfl fun seq hseq => (hboth seq hseq).1⟩

end Arrivals

/-! ## What the receiver keeps -/

/-- One arrival more is one trimmed packet more, or none. -/
theorem trimmedCount_snoc (flow : FlowKey) (arrivals : List Arrival) (a : Arrival) :
    trimmedCount flow (arrivals ++ [a])
      = trimmedCount flow arrivals + if a.flow = flow ∧ a.trimmed = true then 1 else 0 := by
  simp [trimmedCount, List.countP_append, List.countP_singleton]

/-- An arrival decides for its own packet. -/
theorem mem_latestTrimmed_snoc {flow : FlowKey} {seq : Nat} {arrivals : List Arrival}
    {a : Arrival} :
    seq ∈ latestTrimmed flow (arrivals ++ [a]) ↔
      if a.flow = flow ∧ a.seq = seq then a.trimmed = true else seq ∈ latestTrimmed flow arrivals := by
  rw [mem_latestTrimmed, mem_latestTrimmed, copies_snoc]
  split
  · rw [List.getLastD_concat]
  · rw [List.append_nil]

namespace Receiver

/-- The two dicts and the tracker, in terms of what arrived. -/
structure Follows (st : Receiver) (arrivals : List Arrival) : Prop where
  counts : ∀ flow, (st.trimStats.get flow).getD {}
    = ⟨trimmedCount flow arrivals, turnsOf flow arrivals⟩
  counted : ∀ flow, (st.trimStats.get flow).isSome ↔ 0 < trimmedCount flow arrivals
  pending_nodup : ∀ flow, ((st.trimPending.get flow).getD []).Nodup
  pending : ∀ flow seq, seq ∈ (st.trimPending.get flow).getD [] ↔ seq ∈ latestTrimmed flow arrivals
  tracked : ∀ flow, flow ∈ st.flows.keys ↔ ∃ a ∈ arrivals, a.flow = flow ∧ a.trimmed = false
  owner : ∀ flow stats, st.flows.get flow = some stats → stats.flow = flow

theorem follows_nil : Follows {} [] where
  counts _ := rfl
  counted _ := by simp [trimmedCount]
  pending_nodup _ := List.nodup_nil
  pending _ _ := by simp [latestTrimmed, seqsOf]
  tracked _ := by simp [Dict.keys, EmptyCollection.emptyCollection, Dict.empty]
  owner _ _ h := nomatch h

variable {st : Receiver} {arrivals : List Arrival} {a : Arrival}

/-- Nothing of the tracker changes with a trimmed packet. -/
theorem tracked_trimmed (h : Follows st arrivals) (ha : a.trimmed = true) (flow : FlowKey) :
    flow ∈ st.flows.keys ↔ ∃ b ∈ arrivals ++ [a], b.flow = flow ∧ b.trimmed = false := by
  rw [h.tracked]
  constructor
  · rintro ⟨b, hb, hflow⟩
    exact ⟨b, List.mem_append_left _ hb, hflow⟩
  · rintro ⟨b, hb, hflow, hfull⟩
    rcases List.mem_append.mp hb with hb | hb
    · exact ⟨b, hb, hflow, hfull⟩
    · rw [List.mem_singleton.mp hb, ha] at hfull
      cases hfull

/-- A trimmed packet is counted, and waits. -/
theorem Follows.handleTrimmed (h : Follows st arrivals) (ha : a.trimmed = true) :
    Follows (st.handleTrimmed a) (arrivals ++ [a]) where
  counts flow := by
    rw [trimmedCount_snoc, turnsOf_snoc]
    by_cases hflow : flow = a.flow
    · subst hflow
      show ((Dict.set ..).get a.flow).getD ({} : TrimCounts) = _
      rw [Dict.get_set_self, Option.getD_some, h.counts]
      simp [ha]
    · show ((Dict.set ..).get flow).getD ({} : TrimCounts) = _
      rw [Dict.get_set_ne _ _ hflow, h.counts]
      simp [Ne.symm hflow]
  counted flow := by
    rw [trimmedCount_snoc]
    by_cases hflow : flow = a.flow
    · subst hflow
      show ((Dict.set ..).get a.flow).isSome ↔ _
      rw [Dict.get_set_self]
      simp [ha]
    · show ((Dict.set ..).get flow).isSome ↔ _
      rw [Dict.get_set_ne _ _ hflow, h.counted]
      simp [Ne.symm hflow]
  pending_nodup flow := by
    show ((Dict.set ..).get flow |>.getD []).Nodup
    by_cases hflow : flow = a.flow
    · subst hflow
      rw [Dict.get_set_self, Option.getD_some]
      exact (h.pending_nodup a.flow).insert
    · rw [Dict.get_set_ne _ _ hflow]
      exact h.pending_nodup flow
  pending flow seq := by
    show seq ∈ ((Dict.set ..).get flow).getD [] ↔ _
    rw [mem_latestTrimmed_snoc]
    by_cases hflow : flow = a.flow
    · subst hflow
      rw [Dict.get_set_self, Option.getD_some, List.mem_insert_iff, h.pending]
      -- the seq itself is pending now
      by_cases hseq : a.seq = seq
      · simp [hseq, ha]
      · simp [hseq, Ne.symm hseq]
    · rw [Dict.get_set_ne _ _ hflow, h.pending, if_neg fun h' => hflow h'.1.symm]
  tracked flow := by
    have hsame := tracked_trimmed h ha flow
    exact hsame
  owner := h.owner

/-- A full copy taken off the pending ones, before it is delivered. -/
theorem recover_spec (h : Follows st arrivals) (ha : a.trimmed = false) :
    let st' := st.recover a
    (∀ flow, (st'.trimStats.get flow).getD {}
      = ⟨trimmedCount flow (arrivals ++ [a]), turnsOf flow (arrivals ++ [a])⟩) ∧
    (∀ flow, (st'.trimStats.get flow).isSome ↔ 0 < trimmedCount flow (arrivals ++ [a])) ∧
    (∀ flow, ((st'.trimPending.get flow).getD []).Nodup) ∧
    (∀ flow seq, seq ∈ (st'.trimPending.get flow).getD [] ↔
      seq ∈ latestTrimmed flow (arrivals ++ [a])) ∧
    st'.flows = st.flows := by
  intro st'
  have hcount : ∀ flow, trimmedCount flow (arrivals ++ [a]) = trimmedCount flow arrivals := by
    intro flow
    rw [trimmedCount_snoc]
    simp [ha]
  have hturns : ∀ flow, turnsOf flow (arrivals ++ [a]) = turnsOf flow arrivals +
      if a.flow = flow ∧ a.seq ∈ latestTrimmed flow arrivals then 1 else 0 := by
    intro flow
    rw [turnsOf_snoc]
    simp only [ha, true_and, mem_latestTrimmed]
  have hlatest : ∀ flow seq, seq ∈ latestTrimmed flow (arrivals ++ [a]) ↔
      seq ∈ latestTrimmed flow arrivals ∧ ¬ (a.flow = flow ∧ a.seq = seq) := by
    intro flow seq
    rw [mem_latestTrimmed_snoc]
    split
    · rename_i hsame
      simp [ha, hsame]
    · rename_i hother
      rw [and_iff_left hother]
  by_cases hin : a.seq ∈ latestTrimmed a.flow arrivals
  · -- it was pending
    obtain ⟨pending, hpending⟩ : ∃ pending, st.trimPending.get a.flow = some pending := by
      cases hp : st.trimPending.get a.flow with
      | none =>
        have := (h.pending a.flow a.seq).mpr hin
        rw [hp] at this
        cases this
      | some pending => exact ⟨pending, rfl⟩
    have hmem : a.seq ∈ pending := by
      have := (h.pending a.flow a.seq).mpr hin
      rwa [hpending] at this
    have hst : st' = { st with
        trimPending := st.trimPending.set a.flow (pending.erase a.seq)
        trimStats := st.trimStats.set a.flow { (st.trimStats.get a.flow).getD {} with
          recovered := ((st.trimStats.get a.flow).getD {}).recovered + 1 } } := by
      show st.recover a = _
      unfold recover
      rw [hpending]
      dsimp only
      rw [if_pos hmem]
    have hnodup : pending.Nodup := by
      have := h.pending_nodup a.flow
      rwa [hpending] at this
    have hpos : 0 < trimmedCount a.flow arrivals := by
      obtain ⟨b, hb, hflow, -, htrim⟩ := mem_copies.mp
        (show true ∈ copies a.flow a.seq arrivals by
          rw [mem_latestTrimmed] at hin
          by_contra hno
          have hfull : ∀ k ∈ copies a.flow a.seq arrivals, k = false := fun k hk => by
            cases k with
            | false => rfl
            | true => exact absurd hk hno
          have hlast := (turns_false_zero.mpr (List.eq_replicate_of_mem hfull)).2
          rw [hin] at hlast
          exact absurd hlast (by decide))
      exact List.countP_pos_iff.mpr ⟨b, hb, by simp [hflow, htrim]⟩
    rw [hst]
    refine ⟨fun flow => ?_, fun flow => ?_, fun flow => ?_, fun flow seq => ?_, rfl⟩
    · rw [hcount, hturns]
      by_cases hflow : flow = a.flow
      · subst hflow
        rw [Dict.get_set_self, Option.getD_some, h.counts, if_pos ⟨rfl, hin⟩]
      · rw [Dict.get_set_ne _ _ hflow, h.counts, if_neg fun h' => hflow h'.1.symm, Nat.add_zero]
    · rw [hcount]
      by_cases hflow : flow = a.flow
      · subst hflow
        rw [Dict.get_set_self]
        simpa using hpos
      · rw [Dict.get_set_ne _ _ hflow, h.counted]
    · by_cases hflow : flow = a.flow
      · subst hflow
        rw [Dict.get_set_self, Option.getD_some]
        exact hnodup.erase _
      · rw [Dict.get_set_ne _ _ hflow]
        exact h.pending_nodup flow
    · rw [hlatest]
      by_cases hflow : flow = a.flow
      · subst hflow
        rw [Dict.get_set_self, Option.getD_some, hnodup.mem_erase_iff, ← h.pending, hpending,
          Option.getD_some]
        simp only [true_and, ne_eq, eq_comm (a := seq)]
        exact and_comm
      · rw [Dict.get_set_ne _ _ hflow, h.pending, and_iff_left fun h' => hflow h'.1.symm]
  · -- it was not
    have hst : st' = st := by
      show st.recover a = _
      unfold recover
      cases hp : st.trimPending.get a.flow with
      | none => rfl
      | some pending =>
        have hno : a.seq ∉ pending := by
          have := mt (h.pending a.flow a.seq).mp hin
          rwa [hp] at this
        dsimp only
        rw [if_neg hno]
    rw [hst]
    refine ⟨fun flow => ?_, fun flow => ?_, h.pending_nodup, fun flow seq => ?_, rfl⟩
    · rw [hcount, hturns, h.counts, if_neg, Nat.add_zero]
      rintro ⟨rfl, hmem⟩
      exact hin hmem
    · rw [hcount, h.counted]
    · rw [hlatest, h.pending, iff_self_and]
      rintro hmem ⟨rfl, rfl⟩
      exact hin hmem

/-- Every arrival is counted as what it is. -/
theorem Follows.handle (h : Follows st arrivals) (nic : String) (a : Arrival) :
    Follows (st.handle nic a) (arrivals ++ [a]) := by
  unfold Receiver.handle
  cases ha : a.trimmed with
  | true => exact h.handleTrimmed ha
  | false =>
    obtain ⟨hcounts, hcounted, hnodup, hpending, hflows⟩ := recover_spec h ha
    refine ⟨hcounts, hcounted, hnodup, hpending, fun flow => ?_, fun flow stats hget => ?_⟩
    · show flow ∈ (Dict.set ..).keys ↔ _
      rw [Dict.mem_keys_set, hflows, h.tracked]
      constructor
      · rintro (rfl | ⟨b, hb, hflow⟩)
        · exact ⟨a, List.mem_append_right _ (List.mem_singleton_self a), rfl, ha⟩
        · exact ⟨b, List.mem_append_left _ hb, hflow⟩
      · rintro ⟨b, hb, hflow, hfull⟩
        rcases List.mem_append.mp hb with hb | hb
        · exact Or.inr ⟨b, hb, hflow, hfull⟩
        · rw [List.mem_singleton.mp hb] at hflow
          exact Or.inl hflow.symm
    · change (Dict.set ..).get flow = some stats at hget
      rw [hflows] at hget
      by_cases hflow : flow = a.flow
      · subst hflow
        rw [Dict.get_set_self] at hget
        cases hget
        rw [FlowStats.observe_flow]
        cases hold : st.flows.get a.flow with
        | none => rfl
        | some stats => exact h.owner _ _ hold
      · rw [Dict.get_set_ne _ _ hflow] at hget
        exact h.owner _ _ hget

theorem follows_handleAll (arrivals : List (String × Arrival)) :
    Follows (handleAll arrivals) (arrivals.map Prod.snd) := by
  induction arrivals using List.reverseRecOn with
  | nil => exact follows_nil
  | append_singleton arrivals a ih =>
    unfold handleAll at ih ⊢
    rw [List.foldl_append, List.map_append]
    exact ih.handle a.1 a.2

end Receiver

/-! ## The report -/

/-- The data packets among the frames, of a host with this inner address. -/
def arrivalsAt (inetNtop : List UInt8 → String) (self : String)
    (frames : List (String × List UInt8)) : List Arrival :=
  frames.filterMap fun f => arrivalOf inetNtop (canonInner self) f.2

/-- The report has the flow, with a block that says how many trimmed packets of it arrived, how many
    of its seqs came both ways, and how many only trimmed. -/
def TrimTruth (report : Report) (flow : FlowKey) (arrivals : List Arrival) : Prop :=
  ∃ d ∈ report.flows, d.stats.flow = flow ∧ d.trim = some {
    trimmed := trimmedCount flow arrivals
    recovered := (bothWays flow arrivals).card
    unrecovered := (neverFull flow arrivals).card }

namespace Receiver

variable {st : Receiver} {arrivals : List Arrival}

/-- As many wait as have a trimmed last copy. -/
theorem Follows.length_pending (h : Follows st arrivals) (flow : FlowKey) :
    ((st.trimPending.get flow).getD []).length = (latestTrimmed flow arrivals).card := by
  rw [← List.toFinset_card_of_nodup (h.pending_nodup flow)]
  congr 1
  ext seq
  rw [List.mem_toFinset, h.pending]

/-- The block a flow with trimmed packets gets, if it gets one. -/
theorem Follows.trim (h : Follows st arrivals) {f : FlowStats}
    (htrim : 0 < trimmedCount f.flow arrivals) :
    (st.flowDict f).trim = some {
      trimmed := trimmedCount f.flow arrivals
      recovered := turnsOf f.flow arrivals
      unrecovered := (latestTrimmed f.flow arrivals).card } := by
  obtain ⟨ts, hts⟩ := Option.isSome_iff_exists.mp ((h.counted f.flow).mpr htrim)
  have hcounts := h.counts f.flow
  rw [hts, Option.getD_some] at hcounts
  show (st.trimStats.get f.flow).map _ = _
  rw [hts, hcounts, h.length_pending]
  rfl

/-- A flow has an entry exactly if something of it came in full. -/
theorem Follows.mem_report (h : Follows st arrivals) (selfHost : String) (selfId : Int)
    (tenant : String) (nics : List String) (numPlanes : Nat) (flow : FlowKey) {P : FlowDict → Prop} :
    (∃ d ∈ (st.report selfHost selfId tenant nics numPlanes).flows, d.stats.flow = flow ∧ P d) ↔
      ∃ f, st.flows.get flow = some f ∧ P (st.flowDict f) := by
  constructor
  · rintro ⟨d, hd, hflow, hP⟩
    obtain ⟨f, hf, rfl⟩ := List.mem_map.mp hd
    obtain ⟨key, hkey⟩ := Dict.mem_values.mp hf
    have howner : f.flow = key := h.owner key f hkey
    have hflow : f.flow = flow := hflow
    exact ⟨f, by rw [← hflow, howner]; exact hkey, hP⟩
  · rintro ⟨f, hf, hP⟩
    exact ⟨st.flowDict f, List.mem_map_of_mem (Dict.mem_values.mpr ⟨flow, hf⟩), h.owner flow f hf, hP⟩

end Receiver

/-- The report is right about a flow with trimmed packets exactly if something of the flow came in
    full, and every seq that came both ways has its trimmed copies in one stretch and a full copy
    after them. -/
theorem trim_block_true_iff (inetNtop : List UInt8 → String) (T : Topo) (selfHost : String)
    (selfId : Int) (tenant : String) (nics : List String) (frames : List (String × List UInt8))
    {self : String} (hself : T.innerAddr tenant selfId = .ok self) (flow : FlowKey)
    (htrim : 0 < trimmedCount flow (arrivalsAt inetNtop self frames)) :
    ∃ report, runReceiver inetNtop T selfHost selfId tenant nics frames = .ok report ∧
      (TrimTruth report flow (arrivalsAt inetNtop self frames) ↔
        Settled flow (arrivalsAt inetNtop self frames)) := by
  let arrivals := frames.filterMap fun f =>
    (arrivalOf inetNtop (canonInner self) f.2).map fun a => (f.1, a)
  have harrivals : arrivals.map Prod.snd = arrivalsAt inetNtop self frames := by
    unfold arrivals arrivalsAt
    rw [List.map_filterMap]
    refine congrArg (List.filterMap · frames) (funext fun f => ?_)
    rw [Option.map_map]
    exact Option.map_id_fun' ▸ rfl
  have h := Receiver.follows_handleAll arrivals
  rw [harrivals] at h
  refine ⟨(Receiver.handleAll arrivals).report selfHost selfId tenant nics T.numPlanes, ?_, ?_⟩
  · unfold runReceiver
    rw [hself]
    rfl
  · unfold TrimTruth Settled
    rw [h.mem_report]
    constructor
    · rintro ⟨f, hf, hblock⟩
      have howner := h.owner flow f hf
      rw [h.trim (by rwa [howner]), howner, Option.some.injEq, TrimBlock.mk.injEq] at hblock
      have hkey : flow ∈ (Receiver.handleAll arrivals).flows.keys :=
        Dict.get_isSome.mp (Option.isSome_of_eq_some hf)
      exact ⟨(h.tracked flow).mp hkey,
        (counts_true_iff flow _).mp ⟨hblock.2.2, hblock.2.1⟩⟩
    · rintro ⟨hfull, hstretch⟩
      obtain ⟨f, hf⟩ := Option.isSome_iff_exists.mp
        (Dict.get_isSome.mpr ((h.tracked flow).mpr hfull))
      have howner := h.owner flow f hf
      obtain ⟨hnever, hboth⟩ := (counts_true_iff flow _).mpr hstretch
      refine ⟨f, hf, ?_⟩
      rw [h.trim (by rwa [howner]), howner, hnever, hboth]

/-- The text of an address, in groups without leading zeros and no `::`. -/
def plainText (bs : List UInt8) : String :=
  String.intercalate ":" ((List.range 8).map fun i => hex (u16At bs (2 * i)))

/-- A data packet from yellow host 0 to yellow host 5, on plane 0 and path 0. -/
def yellowFrame (seq : UInt8) (trimmed : Bool) : List UInt8 :=
  let addr (host : UInt8) : List UInt8 :=
    [0x20, 0x01, 0x0d, 0xb8, 0xcc, 0xcc, 0, host, 0, 0, 0, 0, 0, 0, 0, 2]
  let pad : List UInt8 := if trimmed then [] else List.replicate 32 0x58
  List.replicate 12 0 ++ [0x86, 0xdd] ++ [0x60, 0, 0, 0, 0, if trimmed then 18 else 50, 17, 64]
    ++ addr 0 ++ addr 5 ++ [0x27, 0x0f, 0x27, 0x0f, 0, if trimmed then 18 else 50, 0, 0]
    ++ [0, 0, 0, 0, 0, 0, 0, seq, 0, 0] ++ pad

/-- The flow of these packets. -/
def yellowFlow : FlowKey :=
  ⟨"2001:db8:cccc:0:0:0:0:2", "2001:db8:cccc:5:0:0:0:2", 9999, 9999⟩

/-- The `4p-4x8` topology. -/
def topo4p4x8 : Topo := ⟨4, 4, 8, ["green", "yellow"]⟩

/-- Seq 2 arrives trimmed and then in full, as in a retransmission. -/
theorem trim_block_true_iff_retransmitted :
    ∃ report, runReceiver plainText topo4p4x8 "yellow-host05" 5 "yellow" ["eth1"]
        [("eth1", yellowFrame 1 false), ("eth1", yellowFrame 2 true), ("eth1", yellowFrame 2 false)]
          = .ok report ∧
      (TrimTruth report yellowFlow (arrivalsAt plainText "2001:db8:cccc:05::2"
          [("eth1", yellowFrame 1 false), ("eth1", yellowFrame 2 true),
            ("eth1", yellowFrame 2 false)]) ↔
        Settled yellowFlow (arrivalsAt plainText "2001:db8:cccc:05::2"
          [("eth1", yellowFrame 1 false), ("eth1", yellowFrame 2 true),
            ("eth1", yellowFrame 2 false)])) :=
  trim_block_true_iff plainText topo4p4x8 "yellow-host05" 5 "yellow" ["eth1"] _ (by decide)
    yellowFlow (by decide)

/-- A flow of which only a trimmed packet arrives is not in the report; and with a trimmed copy after
    the full one, the report says of a seq that came both ways that it was not recovered. -/
theorem trim_block_false :
    (runReceiver plainText topo4p4x8 "yellow-host05" 5 "yellow" ["eth1"]
        [("eth1", yellowFrame 1 true)]).toOption.map (fun r => r.flows.length) = some 0 ∧
      trimmedCount yellowFlow (arrivalsAt plainText "2001:db8:cccc:05::2"
        [("eth1", yellowFrame 1 true)]) = 1 ∧
    (runReceiver plainText topo4p4x8 "yellow-host05" 5 "yellow" ["eth1"]
        [("eth1", yellowFrame 1 false), ("eth1", yellowFrame 1 true)]).toOption.map
          (fun r => r.flows.map FlowDict.trim) = some [some ⟨1, 0, 1⟩] ∧
      (bothWays yellowFlow (arrivalsAt plainText "2001:db8:cccc:05::2"
        [("eth1", yellowFrame 1 false), ("eth1", yellowFrame 1 true)])).card = 1 := by
  decide

end Srv6Mrc
