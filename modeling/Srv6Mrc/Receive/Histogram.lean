/-
  `srv6_mrc/reorder.py`: what the counters of a flow add up to.

  Every call of `observe` counts a packet or a duplicate, and every packet in one bin and on one
  plane.  The window forgets, so that a repeated packet may count as a packet, but none that arrives
  is left out (`observeAll_conserves`).  With exact arithmetic a percentile of the histogram is one of
  the packets (`percentile_least`).
-/
import Srv6Mrc.Lib.Interleave
import Srv6Mrc.Lib.Json
import Srv6Mrc.Lib.Sorting
import Srv6Mrc.Lib.Tally
import Srv6Mrc.Receive.Reorder

namespace Srv6Mrc

open Py

namespace FlowStats

/-! ## Derived metrics -/

/-- `reorder_max` -/
def reorderMax (st : FlowStats) : Int := st.reorderHist.keys.max?.getD 0

/-- `reorder_mean`, exact. -/
def reorderMean (st : FlowStats) : ℚ :=
  if st.reorderHist.entries = [] then 0
  else ((st.reorderHist.entries.map fun bin => bin.1 * (bin.2 : Int)).sum : ℚ) / st.reorderHist.total

/-- The loop of `reorder_percentile`. -/
def firstReaching (hist : Dict Int Nat) (target : ℚ) : Nat → List Int → Option Int
  | _, [] => none
  | cum, d :: ds =>
    let cum := cum + hist.tally d
    if target ≤ cum then some d else firstReaching hist target cum ds

/-- `reorder_percentile`, exact. -/
def reorderPercentile (st : FlowStats) (pct : ℚ) : Except Exc Int :=
  if st.reorderHist.entries = [] then .ok 0
  else if ¬ (0 < pct ∧ pct ≤ 100) then .error .valueError
  else
    let total := st.reorderHist.total
    let target := total * pct / 100
    match firstReaching st.reorderHist target 0 (st.reorderHist.keys.mergeSort fun x y => x ≤ y) with
    | some d => .ok d
    | none => .ok st.reorderMax

/-! ## What is counted -/

/-- The delta and the plane of an arrival that is counted. -/
def counts (st : FlowStats) (a : Nat × Option Nat) : List (Int × Option Nat) :=
  if a.1 ∈ st.window then []
  else [(if st.lastSeqSeen < (a.1 : Int) then 0 else st.lastSeqSeen - a.1, a.2)]

/-- The arrivals that are counted. -/
def counted (flow : FlowKey) (arrivals : List (Nat × Option Nat)) : List (Int × Option Nat) :=
  Interleave.logFrom (fun st a => st.observe a.1 a.2) counts { flow } arrivals

theorem counted_snoc (flow : FlowKey) (arrivals : List (Nat × Option Nat)) (a : Nat × Option Nat) :
    counted flow (arrivals ++ [a])
      = counted flow arrivals ++ counts (observeAll flow arrivals) a := by
  unfold counted observeAll
  rw [Interleave.logFrom_append]
  simp only [Interleave.logFrom, List.append_nil]

/-- The stats after some arrivals, and those of them that were counted. -/
structure Conserves (st : FlowStats) (arrivals : List (Nat × Option Nat))
    (counted : List (Int × Option Nat)) : Prop where
  calls : st.received + st.duplicates = arrivals.length
  received : st.received = counted.length
  hist : Dict.Tallies st.reorderHist (counted.map Prod.fst)
  planes : Dict.Tallies st.perPlane (counted.filterMap Prod.snd)
  nonneg : ∀ c ∈ counted, 0 ≤ c.1
  size : st.window.length ≤ windowCap
  window : ∀ seq ∈ st.window, seq ∈ seenSeqs arrivals
  le_last : ∀ seq ∈ seenSeqs arrivals, (seq : Int) ≤ st.lastSeqSeen
  last : arrivals = [] ∧ st.lastSeqSeen = -1 ∨ ∃ seq ∈ seenSeqs arrivals, st.lastSeqSeen = seq
  distinct : (seenSeqs arrivals).card ≤ st.received

theorem length_slide {window : List Nat} (h : window.length ≤ windowCap) (seq : Nat) :
    (slide window seq).length ≤ windowCap := by
  unfold slide
  dsimp only
  split
  · cases hmin : (seq :: window).min? with
    | none => cases List.min?_eq_none_iff.mp hmin
    | some smallest =>
      dsimp only
      rw [List.length_erase_of_mem (List.min?_mem hmin), List.length_cons]
      omega
  · omega

theorem mem_slide {window : List Nat} {seq s : Nat} (h : s ∈ slide window seq) :
    s = seq ∨ s ∈ window := by
  unfold slide at h
  dsimp only at h
  split at h
  · split at h
    · exact List.mem_cons.mp (List.mem_of_mem_erase h)
    · exact List.mem_cons.mp h
  · exact List.mem_cons.mp h

/-- A packet that is counted brings the plane that it came with. -/
theorem length_planes {flow : FlowKey} {arrivals : List (Nat × Option Nat)}
    (h : ∀ a ∈ arrivals, a.2.isSome) :
    ((counted flow arrivals).filterMap Prod.snd).length = (counted flow arrivals).length := by
  induction arrivals using List.reverseRecOn with
  | nil => rfl
  | append_singleton arrivals a ih =>
    have hrest := ih fun b hb => h b (List.mem_append_left _ hb)
    obtain ⟨plane, hplane⟩ := Option.isSome_iff_exists.mp
      (h a (List.mem_append_right _ (List.mem_singleton.mpr rfl)))
    rw [counted_snoc, List.filterMap_append, List.length_append, List.length_append, hrest]
    unfold counts
    split
    · rfl
    · rw [hplane]
      rfl

/-- A packet that counts is put on its plane. -/
theorem Conserves.planes_snoc {st : FlowStats} {arrivals : List (Nat × Option Nat)}
    {counted : List (Int × Option Nat)} (h : Conserves st arrivals counted) {seq : Nat}
    (hseq : seq ∉ st.window) (plane : Option Nat) (delta : Int) :
    Dict.Tallies (st.observe seq plane).perPlane
      ((counted ++ [(delta, plane)]).filterMap Prod.snd) := by
  unfold observe
  dsimp only
  rw [if_neg hseq, List.filterMap_append]
  cases plane with
  | none =>
    rw [List.filterMap_cons_none rfl, List.filterMap_nil, List.append_nil]
    split <;> exact h.planes
  | some plane => split <;> exact h.planes.bump plane

/-- One arrival more. -/
theorem Conserves.snoc {st : FlowStats} {arrivals : List (Nat × Option Nat)}
    {counted : List (Int × Option Nat)} (h : Conserves st arrivals counted) (a : Nat × Option Nat) :
    Conserves (st.observe a.1 a.2) (arrivals ++ [a]) (counted ++ counts st a) := by
  have hsnoc := seenSeqs_snoc arrivals a
  have hmem : ∀ seq ∈ seenSeqs arrivals, seq ∈ seenSeqs (arrivals ++ [a]) := fun seq hs => by
    rw [hsnoc]
    exact Finset.mem_insert_of_mem hs
  have hcalls := h.calls
  unfold observe counts
  dsimp only
  by_cases hin : a.1 ∈ st.window
  · -- a duplicate, which was seen
    have hsame : seenSeqs (arrivals ++ [a]) = seenSeqs arrivals := by
      rw [hsnoc, Finset.insert_eq_of_mem (h.window _ hin)]
    rw [if_pos hin, if_pos hin, List.append_nil]
    refine ⟨?_, h.received, h.hist, h.planes, h.nonneg, h.size, ?_, ?_, Or.inr ?_, ?_⟩
    · rw [List.length_append, List.length_singleton, ← hcalls]
      exact (Nat.add_assoc ..).symm
    · rw [hsame]
      exact h.window
    · rw [hsame]
      exact h.le_last
    · rw [hsame]
      rcases h.last with ⟨rfl, -⟩ | hlast
      · exact absurd (h.window _ hin) (Finset.notMem_empty _)
      · exact hlast
    · rw [hsame]
      exact h.distinct
  · have hplanes (delta : Int) := h.planes_snoc hin a.2 delta
    unfold observe at hplanes
    dsimp only at hplanes
    rw [if_neg hin] at hplanes
    have hwindow : ∀ seq ∈ slide st.window a.1, seq ∈ seenSeqs (arrivals ++ [a]) := by
      intro seq hs
      rcases mem_slide hs with rfl | hs
      · rw [hsnoc]
        exact Finset.mem_insert_self ..
      · exact hmem seq (h.window seq hs)
    have hdistinct : (seenSeqs (arrivals ++ [a])).card ≤ st.received + 1 := by
      rw [hsnoc]
      exact (Finset.card_insert_le _ _).trans (Nat.succ_le_succ h.distinct)
    have hcalls' : st.received + 1 + st.duplicates = (arrivals ++ [a]).length := by
      rw [List.length_append, List.length_singleton]
      omega
    have hreceived : ∀ delta : Int, st.received + 1 = (counted ++ [(delta, a.2)]).length := by
      intro delta
      rw [List.length_append, List.length_singleton, h.received]
    rw [if_neg hin, if_neg hin]
    by_cases hlt : st.lastSeqSeen < (a.1 : Int)
    · rw [if_pos hlt] at hplanes
      rw [if_pos hlt, if_pos hlt]
      refine ⟨hcalls', hreceived 0, ?_, hplanes _, ?_, length_slide h.size _, hwindow, ?_, Or.inr ?_,
        hdistinct⟩
      · rw [List.map_append]
        exact h.hist.bump 0
      · exact List.forall_mem_append.mpr ⟨h.nonneg, List.forall_mem_singleton.mpr le_rfl⟩
      · intro seq hs
        rw [hsnoc] at hs
        rcases Finset.mem_insert.mp hs with rfl | hs
        · exact le_rfl
        · exact (h.le_last seq hs).trans hlt.le
      · rw [hsnoc]
        exact ⟨a.1, Finset.mem_insert_self .., rfl⟩
    · rw [if_neg hlt] at hplanes
      rw [if_neg hlt, if_neg hlt]
      refine ⟨hcalls', hreceived _, ?_, hplanes _, ?_, length_slide h.size _, hwindow, ?_, Or.inr ?_,
        hdistinct⟩
      · rw [List.map_append]
        exact h.hist.bump _
      · exact List.forall_mem_append.mpr ⟨h.nonneg, List.forall_mem_singleton.mpr (by omega)⟩
      · intro seq hs
        rw [hsnoc] at hs
        rcases Finset.mem_insert.mp hs with rfl | hs
        · exact not_lt.mp hlt
        · exact h.le_last seq hs
      · rcases h.last with ⟨-, hlast⟩ | ⟨seq, hs, hlast⟩
        · omega
        · exact ⟨seq, hmem seq hs, hlast⟩

theorem conserves_observeAll (flow : FlowKey) (arrivals : List (Nat × Option Nat)) :
    Conserves (observeAll flow arrivals) arrivals (counted flow arrivals) := by
  induction arrivals using List.reverseRecOn with
  | nil =>
    exact ⟨rfl, rfl, Dict.tallies_empty, Dict.tallies_empty, List.forall_mem_nil _, Nat.zero_le _,
      List.forall_mem_nil _, fun seq hs => absurd hs (Finset.notMem_empty _), Or.inl ⟨rfl, rfl⟩,
      Nat.le_refl 0⟩
  | append_singleton arrivals a ih =>
    have hobserve : observeAll flow (arrivals ++ [a])
        = (observeAll flow arrivals).observe a.1 a.2 := by
      unfold observeAll
      rw [List.foldl_append]
      rfl
    rw [hobserve, counted_snoc]
    exact ih.snoc a

/-! ## Percentiles -/

theorem countP_notMem_cons {xs ds : List Int} {d : Int} (h : d ∉ ds) :
    (xs.countP fun x => x ∉ d :: ds) + (xs.countP fun x => x = d) = xs.countP fun x => x ∉ ds := by
  induction xs with
  | nil => rfl
  | cons x xs ih =>
    simp only [List.countP_cons]
    by_cases hx : x = d
    · subst hx
      simp only [List.mem_cons_self, not_true_eq_false, h, not_false_eq_true, decide_false,
        decide_true, if_true, Bool.false_eq_true, if_false]
      omega
    · simp only [List.mem_cons, hx, false_or, decide_false, Bool.false_eq_true, if_false] at ih ⊢
      omega

/-- The loop over the bins that are left: what went before did not reach the target. -/
theorem firstReaching_least {hist : Dict Int Nat} {xs : List Int} (h : Dict.Tallies hist xs)
    {target : ℚ} (htop : target ≤ xs.length) :
    ∀ {ds : List Int} {cum : Nat}, ds.Pairwise (· < ·) → (∀ d ∈ ds, d ∈ xs) →
      (∀ x ∈ xs, x ∈ ds ∨ ∀ d ∈ ds, x < d) → (cum = xs.countP fun x => x ∉ ds) →
      (cum : ℚ) < target →
      ∃ d ∈ xs, firstReaching hist target cum ds = some d ∧
        target ≤ (xs.countP fun x => x ≤ d : Nat) ∧
        ∀ d' < d, ((xs.countP fun x => x ≤ d' : Nat) : ℚ) < target := by
  intro ds
  induction ds with
  | nil =>
    intro cum _ _ _ hcum hlt
    have hall : (xs.countP fun x => decide (x ∉ ([] : List Int))) = xs.length :=
      List.countP_eq_length.mpr fun x _ => decide_eq_true List.not_mem_nil
    rw [hcum, hall] at hlt
    exact absurd htop (not_le.mpr hlt)
  | cons d ds ih =>
    intro cum hpair hin hout hcum hlt
    obtain ⟨hd, hpair'⟩ := List.pairwise_cons.mp hpair
    have hnotin : d ∉ ds := fun hmem => lt_irrefl d (hd d hmem)
    have hcum' : cum + hist.tally d = xs.countP fun x => x ∉ ds := by
      rw [hcum, h.tally_eq, countP_notMem_cons hnotin]
    have hle : (xs.countP fun x => x ∉ ds) = xs.countP fun x => x ≤ d := by
      refine List.countP_congr fun x hx => ?_
      rw [decide_eq_true_iff, decide_eq_true_iff]
      constructor
      · intro hnot
        rcases hout x hx with hmem | hbelow
        · exact ((List.mem_cons.mp hmem).resolve_right hnot).le
        · exact (hbelow d List.mem_cons_self).le
      · intro hxd hmem
        exact absurd hxd (not_le.mpr (hd x hmem))
    rw [firstReaching]
    by_cases hreach : target ≤ ((cum + hist.tally d : Nat) : ℚ)
    · rw [if_pos hreach]
      refine ⟨d, hin d List.mem_cons_self, rfl, ?_, fun d' hd' => ?_⟩
      · rwa [← hle, ← hcum']
      · refine lt_of_le_of_lt ?_ hlt
        rw [hcum]
        refine Nat.cast_le.mpr (List.countP_mono_left fun x _ hx => ?_)
        have hxd' : x < d := lt_of_le_of_lt (of_decide_eq_true hx) hd'
        refine decide_eq_true fun hmem => ?_
        rcases List.mem_cons.mp hmem with rfl | hmem
        · exact lt_irrefl _ hxd'
        · exact lt_asymm hxd' (hd x hmem)
    · rw [if_neg hreach]
      refine ih hpair' (fun e he => hin e (List.mem_cons_of_mem d he)) (fun x hx => ?_) hcum'
        (not_le.mp hreach)
      rcases hout x hx with hmem | hbelow
      · rcases List.mem_cons.mp hmem with rfl | hmem
        · exact Or.inr hd
        · exact Or.inl hmem
      · exact Or.inr fun e he => hbelow e (List.mem_cons_of_mem d he)

/-- A percentile is the least delta that enough of the packets do not exceed. -/
theorem percentile_least {st : FlowStats} {arrivals : List (Nat × Option Nat)}
    {counted : List (Int × Option Nat)} (h : Conserves st arrivals counted) (hne : counted ≠ [])
    {pct : ℚ} (hpos : 0 < pct) (hle : pct ≤ 100) :
    ∃ d, st.reorderPercentile pct = .ok d ∧ (∃ c ∈ counted, c.1 = d) ∧
      pct * st.received ≤ 100 * (counted.countP fun c => c.1 ≤ d : Nat) ∧
      ∀ d' < d, 100 * ((counted.countP fun c => c.1 ≤ d' : Nat) : ℚ) < pct * st.received := by
  have hxs : (counted.map Prod.fst).length = st.received := by
    rw [List.length_map, h.received]
  have hrecv : (0 : ℚ) < st.received := by
    rw [h.received]
    exact_mod_cast List.length_pos_iff.mpr hne
  have hnone : st.reorderHist.entries ≠ [] := by
    intro hnil
    have htotal := h.hist.total
    unfold Dict.total at htotal
    rw [hnil, hxs] at htotal
    rw [← htotal] at hrecv
    exact lt_irrefl _ hrecv
  have hsorted := List.mergeSort_perm st.reorderHist.keys fun x y => decide (x ≤ y)
  have hmem : ∀ d, d ∈ (st.reorderHist.keys.mergeSort fun x y => decide (x ≤ y))
      ↔ d ∈ counted.map Prod.fst := fun d => by rw [hsorted.mem_iff, h.hist.keys]
  have hall : ((counted.map Prod.fst).countP fun x =>
      x ∉ (st.reorderHist.keys.mergeSort fun x y => decide (x ≤ y))) = 0 :=
    List.countP_eq_zero.mpr fun x hx hnot => of_decide_eq_true hnot ((hmem x).mpr hx)
  have hpair : (st.reorderHist.keys.mergeSort fun x y => decide (x ≤ y)).Pairwise (· < ·) :=
    Sorting.pairwise_lt_mergeSort_id st.reorderHist.nodup
  have htop : st.received * pct / 100 ≤ ((counted.map Prod.fst).length : ℚ) := by
    rw [hxs, div_le_iff₀ (by norm_num)]
    exact mul_le_mul_of_nonneg_left hle hrecv.le
  have hstart : ((0 : Nat) : ℚ) < st.received * pct / 100 := by
    rw [Nat.cast_zero]
    positivity
  obtain ⟨d, hd, hfirst, hreach, hleast⟩ := firstReaching_least h.hist htop hpair
    (fun d hd => (hmem d).mp hd) (fun x hx => Or.inl ((hmem x).mpr hx)) hall.symm hstart
  simp only [List.countP_map, Function.comp_def] at hreach hleast
  refine ⟨d, ?_, List.mem_map.mp hd, ?_, fun d' hd' => ?_⟩
  · unfold reorderPercentile
    rw [if_neg hnone, if_neg (not_not.mpr ⟨hpos, hle⟩), h.hist.total, hxs]
    dsimp only
    rw [hfirst]
  · rw [div_le_iff₀ (by norm_num)] at hreach
    linarith only [hreach]
  · have hbelow := hleast d' hd'
    rw [lt_div_iff₀ (by norm_num)] at hbelow
    linarith only [hbelow]

/-- What a flow's statistics say of its arrivals, whatever these are. -/
theorem observeAll_conserves (flow : FlowKey) (arrivals : List (Nat × Option Nat)) :
    let st := observeAll flow arrivals
    let packets := counted flow arrivals
    st.received + st.duplicates = arrivals.length ∧
    st.received = packets.length ∧
    (st.reorderHist.total = st.received ∧
      ∀ delta, st.reorderHist.tally delta = packets.countP fun c => c.1 = delta) ∧
    ((∀ a ∈ arrivals, a.2.isSome) → st.perPlane.total = st.received) ∧
    (arrivals = [] ∧ st.lastSeqSeen = -1 ∨
      ∃ seq, IsGreatest {seq | ∃ a ∈ arrivals, a.1 = seq} seq ∧ st.lastSeqSeen = seq) ∧
    st.window.length ≤ windowCap ∧
    (seenSeqs arrivals).card ≤ st.received ∧
    ((seenSeqs arrivals).card ≤ windowCap → st.received = (seenSeqs arrivals).card) ∧
    ∀ pct : ℚ, (arrivals = [] → st.reorderPercentile pct = .ok 0) ∧
      (arrivals ≠ [] → ¬ (0 < pct ∧ pct ≤ 100) → st.reorderPercentile pct = .error .valueError) ∧
      (arrivals ≠ [] → 0 < pct → pct ≤ 100 →
        ∃ d, st.reorderPercentile pct = .ok d ∧ (∃ c ∈ packets, c.1 = d) ∧
          pct * st.received ≤ 100 * (packets.countP fun c => c.1 ≤ d : Nat) ∧
          ∀ d' < d, 100 * ((packets.countP fun c => c.1 ≤ d' : Nat) : ℚ) < pct * st.received) := by
  intro st packets
  have h := conserves_observeAll flow arrivals
  have htotal : st.reorderHist.total = st.received := by
    rw [h.hist.total, List.length_map, h.received]
  have hsome : arrivals ≠ [] → packets ≠ [] := by
    -- the first arrival is always counted
    intro hne hnil
    have hcard := h.distinct
    rw [h.received, show counted flow arrivals = [] from hnil, List.length_nil, Nat.le_zero] at hcard
    obtain ⟨a, rest, rfl⟩ := List.exists_cons_of_ne_nil hne
    exact absurd hcard (Finset.card_pos.mpr (seenSeqs_nonempty a rest)).ne'
  refine ⟨h.calls, h.received, ⟨htotal, fun delta => ?_⟩, fun hplanes => ?_, ?_, h.size, h.distinct,
    fun hcap => (tracks_observeAll flow hcap).received, fun pct => ⟨?_, fun hne hpct => ?_,
      fun hne hpos hle => percentile_least h (hsome hne) hpos hle⟩⟩
  · rw [h.hist.tally_eq, List.countP_map]
    rfl
  · rw [h.planes.total, h.received]
    exact length_planes hplanes
  · refine h.last.imp id ?_
    rintro ⟨seq, hseq, hlast⟩
    refine ⟨seq, ⟨List.mem_map.mp (List.mem_toFinset.mp hseq), ?_⟩, hlast⟩
    rintro s ⟨a, ha, rfl⟩
    have hle := h.le_last a.1 (mem_seenSeqs ha)
    rw [hlast] at hle
    exact_mod_cast hle
  · rintro rfl
    rfl
  · have hnone : st.reorderHist.entries ≠ [] := by
      intro hnil
      have hempty : st.reorderHist.total = 0 := by
        unfold Dict.total
        rw [hnil]
        rfl
      rw [htotal, h.received] at hempty
      exact hsome hne (List.length_eq_zero_iff.mp hempty)
    unfold reorderPercentile
    rw [if_neg hnone, if_pos hpct]

end FlowStats
end Srv6Mrc
