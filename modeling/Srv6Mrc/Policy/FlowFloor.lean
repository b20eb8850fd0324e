/-
  Does the floor of the table leave every flow a usable EV?

  The floor counts over the whole grid, and a flow draws from some of its columns.  Fewer EVs than
  the floor outside these columns: then one inside is usable (`usable_of_outside_lt`).  No fewer:
  then all inside can be ASSUMED_BAD together, and a pick takes the round-robin of `pick_ev` over
  them.

  And an ASSUMED_BAD EV can be picked also next to usable ones.  A draw near 2^64 is 1.0 as a
  double.  If no threshold before the last is above it, `_weighted_pick` returns the last EV of the
  flow, whatever its weight (`picksUsable_iff`).
-/
import Srv6Mrc.EvState.Outage
import Srv6Mrc.Policy.Doubles
import Srv6Mrc.Policy.Twin

namespace Srv6Mrc

open Normalise EVStateTable Py

namespace HealthAwareMrc

variable (p : HealthAwareMrc)

/-! ## The EVs of a flow -/

/-- `select_spines_for_addrs` for a flow. -/
def spinesOf (flow : FlowKey) : Except PolicyError (List Nat) :=
  selectSpinesForAddrs p.table.numPaths flow.srcAddr flow.dstAddr p.pathsPerPlane

/-- The EV is in the flow's set: on any plane, one of the flow's spines. -/
def OfFlow (flow : FlowKey) (e : p.table.EV) : Prop :=
  ∃ spines, p.spinesOf flow = .ok spines ∧ (e.2 : Nat) ∈ spines

/-- The EVs over some spines, plane by plane. -/
def evsOver (spines : List (Fin p.table.numPaths)) : List p.table.EV :=
  (List.finRange p.table.numPlanes).flatMap fun plane => spines.map fun spine => (plane, spine)

variable {p}

/-- The spines of a flow are as many as its fan-out, and in range. -/
theorem exists_spines (p : HealthAwareMrc) (flow : FlowKey) :
    ∃ qs : List (Fin p.table.numPaths), p.spinesOf flow = .ok (qs.map Fin.val) ∧
      qs.length = p.pathsPerPlane ∧ qs.Nodup := by
  obtain ⟨spines, hsel, hlen, hnd, hlt⟩ := spinesOfFlow_ok p.paths_pos p.paths_le flow
  have himage : ∀ spine ∈ spines, ∃ q : Fin p.table.numPaths, True ∧ q.val = spine :=
    fun spine hs => ⟨⟨spine, hlt spine hs⟩, trivial, rfl⟩
  obtain ⟨qs, -, rfl⟩ := exists_map_eq himage
  rw [List.length_map] at hlen
  exact ⟨qs, hsel, hlen, hnd.of_map _⟩

/-- An EV is over the spines if its own is one of them. -/
theorem mem_evsOver {qs : List (Fin p.table.numPaths)} {e : p.table.EV} :
    e ∈ p.evsOver qs ↔ e.2 ∈ qs := by
  obtain ⟨plane, spine⟩ := e
  unfold evsOver
  simp

/-- As pairs of numbers. -/
theorem map_evsOver (qs : List (Fin p.table.numPaths)) :
    (p.evsOver qs).map (fun e => ((e.1 : Nat), (e.2 : Nat)))
      = List.range p.table.numPlanes ×ˢ qs.map Fin.val := by
  show _ = (List.range p.table.numPlanes).flatMap fun plane => (qs.map Fin.val).map (Prod.mk plane)
  rw [← List.map_coe_finRange_eq_range, List.flatMap_map]
  unfold evsOver
  rw [List.map_flatMap]
  simp only [List.map_map, Function.comp_def]

theorem nodup_evsOver {qs : List (Fin p.table.numPaths)} (h : qs.Nodup) : (p.evsOver qs).Nodup := by
  have hprod : p.evsOver qs = (List.finRange p.table.numPlanes) ×ˢ qs := rfl
  rw [hprod]
  exact (List.nodup_finRange _).product h

/-- There is one on every plane for each. -/
theorem length_evsOver (qs : List (Fin p.table.numPaths)) :
    (p.evsOver qs).length = p.table.numPlanes * qs.length := by
  unfold evsOver
  simp [List.length_flatMap]

/-- The set of a flow are the EVs over its spines. -/
theorem ofFlow_iff {flow : FlowKey} {qs : List (Fin p.table.numPaths)}
    (hqs : p.spinesOf flow = .ok (qs.map Fin.val)) {e : p.table.EV} :
    p.OfFlow flow e ↔ e ∈ p.evsOver qs := by
  rw [mem_evsOver]
  unfold OfFlow
  rw [hqs]
  constructor
  · rintro ⟨spines, ⟨⟩, hmem⟩
    obtain ⟨q, hq, heq⟩ := List.mem_map.mp hmem
    exact Fin.ext heq ▸ hq
  · exact fun h => ⟨_, rfl, List.mem_map.mpr ⟨e.2, h, rfl⟩⟩

/-- Some EVs and the others are the whole grid. -/
theorem length_add_countP_not_mem {es : List p.table.EV} (h : es.Nodup) :
    es.length + p.table.cells.countP (fun c => c ∉ es) = p.table.numPlanes * p.table.numPaths := by
  have hinside : p.table.cells.countP (fun c => c ∈ es) = es.length := by
    rw [List.countP_eq_length_filter]
    refine ((List.perm_ext_iff_of_nodup (nodup_cells.filter _) h).mpr ?_).length_eq
    intro c
    rw [List.mem_filter, decide_eq_true_eq]
    exact ⟨fun hc => hc.2, fun hc => ⟨mem_cells c, hc⟩⟩
  have hnot : p.table.cells.countP (fun c => c ∉ es)
      = p.table.cells.countP (fun c => ¬ decide (c ∈ es) = true) :=
    List.countP_congr fun c _ => by simp
  rw [← length_cells, hnot, ← hinside]
  exact (List.length_eq_countP_add_countP _).symm

/-- The other columns. -/
theorem countP_outside {qs : List (Fin p.table.numPaths)} (h : qs.Nodup) :
    p.table.cells.countP (fun c => c ∉ p.evsOver qs)
      = p.table.numPlanes * (p.table.numPaths - qs.length) := by
  have htotal := length_add_countP_not_mem (nodup_evsOver h)
  rw [length_evsOver] at htotal
  rw [Nat.mul_sub]
  omega

/-! ## Usable EVs -/

variable (p) in
/-- One EV of the flow's set is not ASSUMED_BAD. -/
def HasUsable (s : p.table.Store) (flow : FlowKey) : Prop :=
  ∃ e, p.OfFlow flow e ∧ (s.evs p.tenant e).state ≠ .assumedBad

variable (p) in
/-- At every point of every run, for every flow. -/
def Always (P : p.table.Store → FlowKey → Prop) : Prop :=
  ∀ (cb : Option (TransitionCb p.table)) calls s, p.table.AtPoint cb calls s → ∀ flow, P s flow

/-- More usable EVs than lie outside: one is inside. -/
theorem usable_of_outside_lt {s : p.table.Store} {es : List p.table.EV}
    (h : p.table.cells.countP (fun c => c ∉ es) < p.table.usable p.tenant s) :
    ∃ e ∈ es, (s.evs p.tenant e).state ≠ .assumedBad := by
  by_contra hnone
  push Not at hnone
  have hle : p.table.usable p.tenant s ≤ p.table.cells.countP (fun c => c ∉ es) := by
    refine List.countP_mono_left fun c _ hc => ?_
    exact decide_eq_true fun hin => of_decide_eq_true hc (hnone c hin)
  omega

variable (p) in
/-- No signal demotes, or the floor is above the number of EVs outside a flow's set. -/
def Guarded : Prop :=
  ¬ p.table.cfg.Demotes ∨
    ((p.table.numPlanes * (p.table.numPaths - p.pathsPerPlane) : Nat) : Int) < p.table.minActive

/-- With the floor above what is outside, a flow always has a usable EV. -/
theorem hasUsable_of_guarded (h : p.Guarded) : p.Always p.HasUsable := by
  intro cb calls s hs flow
  obtain ⟨qs, hqs, hlen, hnd⟩ := p.exists_spines flow
  rcases h with hno | hfloor
  · have hpos := p.paths_pos
    obtain ⟨q, hq⟩ : ∃ q, q ∈ qs := List.exists_mem_of_length_pos (by omega)
    let e : p.table.EV := (⟨0, p.table.numPlanes_pos⟩, q)
    exact ⟨e, (ofFlow_iff hqs).mpr (mem_evsOver.mpr hq), never_bad hno hs p.tenant e⟩
  · have hle : p.table.minActive ≤ p.table.usable p.tenant s :=
      (hs.inv (floor_after cb calls) floor_writeInv) p.tenant
    rw [← hlen, ← countP_outside hnd] at hfloor
    obtain ⟨e, he, hne⟩ := usable_of_outside_lt (p := p) (by exact_mod_cast hfloor.trans_le hle)
    exact ⟨e, (ofFlow_iff hqs).mpr he, hne⟩

/-- Not guarded, any flow can lose all its EVs. -/
theorem all_bad_of_not_guarded (h : ¬ p.Guarded) (flow : FlowKey) :
    ∃ calls, ¬ p.HasUsable (p.table.after none calls) flow := by
  unfold Guarded at h
  rw [not_or, not_not, not_lt] at h
  obtain ⟨qs, hqs, hlen, hnd⟩ := p.exists_spines flow
  obtain ⟨hdem, hroom⟩ := h
  rw [← hlen, ← countP_outside hnd] at hroom
  obtain ⟨calls, hbad⟩ := demote_all hdem p.tenant_mem (nodup_evsOver hnd) hroom
  refine ⟨calls, ?_⟩
  rintro ⟨e, he, hne⟩
  exact hne (hbad e ((ofFlow_iff hqs).mp he))

/-! ## The round-robin -/

/-- The snapshot policy has the grid that the table publishes. -/
def Loaded (F : Type) [Floats F] (p : HealthAwareMrc) (s : p.table.Store)
    (st : MrcSnapshot.Store F) : Prop :=
  MrcSnapshot.Coherent p.twin st ∧ p.wgrid F s = .ok st.wgrid

variable (p) in
/-- The weights that a pick gathers, in either policy, do not add up to more than zero. -/
def FallsBack (s : p.table.Store) (flow : FlowKey) : Prop :=
  (∃ spines wgrid flat, p.spinesOf flow = .ok spines ∧ p.wgrid ℚ s = .ok wgrid ∧
    flatWeights wgrid p.table.numPlanes spines = .ok flat ∧ flat.sum ≤ 0) ∨
  ∃ st spines, p.Loaded ℚ s st ∧ p.spinesOf flow = .ok spines ∧ (p.twin.cdfFor st spines).1 = .ok none

/-- The weights of a table, gathered over some spines. -/
theorem flatWeights_ok {F : Type} {wgrid : List (List F)} {weight : p.table.EV → F}
    (hentry : ∀ e : p.table.EV, entry wgrid e.1 e.2 = some (weight e))
    (qs : List (Fin p.table.numPaths)) :
    flatWeights wgrid p.table.numPlanes (qs.map Fin.val) = .ok ((p.evsOver qs).map weight) := by
  have hrow : ∀ plane < p.table.numPlanes, ∃ row, wgrid[plane]? = some row ∧
      ∀ spine ∈ qs.map Fin.val, spine < row.length := by
    intro plane hplane
    obtain ⟨row, hrow, -⟩ := Option.bind_eq_some_iff.mp
      (hentry (⟨plane, hplane⟩, ⟨0, p.table.numPaths_pos⟩))
    refine ⟨row, hrow, fun spine hspine => ?_⟩
    obtain ⟨q, -, rfl⟩ := List.mem_map.mp hspine
    obtain ⟨row', hrow', hget⟩ := Option.bind_eq_some_iff.mp (hentry (⟨plane, hplane⟩, q))
    cases hrow.symm.trans hrow'
    exact (List.getElem?_eq_some_iff.mp hget).1
  obtain ⟨flat, hflat, hmap⟩ := flatWeights_entries hrow
  rw [hflat]
  refine congrArg Except.ok (List.map_injective_iff.mpr (Option.some_injective F) ?_)
  rw [hmap, ← map_evsOver, List.map_map, List.map_map]
  exact List.map_congr_left fun e _ => hentry e

/-- At every point the policy's grid has the weight of each EV: zero exactly for ASSUMED_BAD. -/
theorem wgrid_at {cb : Option (TransitionCb p.table)} {calls : List EVStateTable.Call}
    {s : p.table.Store} (hs : p.table.AtPoint cb calls s) :
    ∃ (wgrid : List (List ℚ)) (weight : p.table.EV → ℚ), p.wgrid ℚ s = .ok wgrid ∧
      (∀ e : p.table.EV, entry wgrid e.1 e.2 = some (weight e)) ∧ (∀ e, 0 ≤ weight e) ∧
      ∀ e, weight e = 0 ↔ (s.evs p.tenant e).state = .assumedBad := by
  have hpos : 0 < p.table.totalWeight p.tenant s := hs.totalWeight_pos p.tenant
  refine ⟨s.weightsCache p.tenant, _, ?_, hs.entry_weightsCache p.tenant_mem,
    fun e => div_nonneg (stateWeight_nonneg _) hpos.le, fun e => ?_⟩
  · have hid : ((s.weightsCache p.tenant).map fun row => row.map (Floats.ofRat : ℚ → ℚ))
        = s.weightsCache p.tenant := by
      show ((s.weightsCache p.tenant).map fun row => row.map id) = s.weightsCache p.tenant
      simp
    exact (p.wgrid_eq s).trans (congrArg Except.ok hid)
  · rw [div_eq_zero_iff, stateWeight_eq_zero]
    exact ⟨fun h => h.resolve_right hpos.ne', Or.inl⟩

/-- A flow's weights add up to more than zero if, and only if, it has a usable EV. -/
theorem sum_le_zero_iff {s : p.table.Store} {weight : p.table.EV → ℚ}
    (hnonneg : ∀ e, 0 ≤ weight e)
    (hzero : ∀ e, weight e = 0 ↔ (s.evs p.tenant e).state = .assumedBad) {flow : FlowKey}
    {qs : List (Fin p.table.numPaths)} (hqs : p.spinesOf flow = .ok (qs.map Fin.val)) :
    ((p.evsOver qs).map weight).sum ≤ 0 ↔ ¬ p.HasUsable s flow := by
  constructor
  · rintro hsum ⟨e, he, hne⟩
    have hpos : 0 < weight e := lt_of_le_of_ne (hnonneg e) fun h => hne ((hzero e).mp h.symm)
    refine absurd (sum_pos_of_mem (fun w hw => ?_) (List.mem_map_of_mem ((ofFlow_iff hqs).mp he))
      hpos) (not_lt.mpr hsum)
    obtain ⟨c, -, rfl⟩ := List.mem_map.mp hw
    exact hnonneg c
  · intro hnone
    refine le_of_eq (List.sum_eq_zero fun w hw => ?_)
    obtain ⟨e, he, rfl⟩ := List.mem_map.mp hw
    rw [hzero]
    by_contra hne
    exact hnone ⟨e, (ofFlow_iff hqs).mpr he, hne⟩

/-- The round-robin comes exactly when no EV of the flow is usable. -/
theorem fallsBack_iff {cb : Option (TransitionCb p.table)} {calls : List EVStateTable.Call}
    {s : p.table.Store} (hs : p.table.AtPoint cb calls s) (flow : FlowKey) :
    p.FallsBack s flow ↔ ¬ p.HasUsable s flow := by
  obtain ⟨qs, hqs, -, -⟩ := p.exists_spines flow
  obtain ⟨wgrid, weight, hwgrid, hentry, hnonneg, hzero⟩ := wgrid_at hs
  have hflat := flatWeights_ok hentry qs
  rw [← sum_le_zero_iff hnonneg hzero hqs]
  constructor
  · rintro (⟨spines, wgrid', flat, hspines, hwgrid', hflat', hsum⟩ |
      ⟨st, spines, ⟨hcoh, hgrid⟩, hspines, hnone⟩)
    · cases hqs.symm.trans hspines
      cases hwgrid.symm.trans hwgrid'
      cases hflat.symm.trans hflat'
      exact hsum
    · cases hqs.symm.trans hspines
      have hst : wgrid = st.wgrid := Except.ok.inj (hwgrid.symm.trans hgrid)
      rw [(MrcSnapshot.cdfFor_eq hcoh _).1, ← hst] at hnone
      have hflat' : flatWeights wgrid p.twin.nPlanes (qs.map Fin.val) = _ := hflat
      rw [hflat', Outcome.map_ok] at hnone
      obtain ⟨flat, hflat, hnone⟩ := hnone
      cases hflat
      split at hnone
      · cases hnone
      · rename_i hsum
        exact not_lt.mp fun hlt => hsum (decide_eq_true hlt)
  · exact fun hsum => Or.inl ⟨_, wgrid, _, hqs, hwgrid, hflat, hsum⟩

/-! ## Picks -/

/-- An index among the flow's EVs is the EV that it decodes to. -/
theorem decodeEv_ok (qs : List (Fin p.table.numPaths)) {n : Nat}
    (hn : n < p.table.numPlanes * qs.length) :
    ∃ e ∈ p.evsOver qs, decodeEv (qs.map Fin.val) n = .ok ((e.1 : Nat), (e.2 : Nat)) ∧
      (p.evsOver qs)[n]? = some e := by
  have hn' : n < p.table.numPlanes * (qs.map Fin.val).length := by rwa [List.length_map]
  obtain ⟨ev, hget, hdecode, -⟩ := decodeEv_eq hn'
  rw [← map_evsOver, List.getElem?_map] at hget
  obtain ⟨e, he, rfl⟩ := Option.map_eq_some_iff.mp hget
  exact ⟨e, List.mem_of_getElem? he, hdecode, he⟩

/-- Two EVs that are the same pair of numbers. -/
theorem ev_ext {e e' : p.table.EV}
    (h : (.ok ((e.1 : Nat), (e.2 : Nat)) : Except PolicyError _) = .ok ((e'.1 : Nat), (e'.2 : Nat))) :
    e = e' := by
  obtain ⟨hplane, hpath⟩ := Prod.mk.inj (Except.ok.inj h)
  exact Prod.ext (Fin.ext hplane) (Fin.ext hpath)

section Floats

variable {F : Type} [Floats F]

/-- Some packet of the flow gets this EV, from either policy. -/
def Picks (F : Type) [Floats F] (p : HealthAwareMrc) (s : p.table.Store) (flow : FlowKey)
    (e : p.table.EV) : Prop :=
  (∃ flows seq, (p.pickEv F s (p.cacheAfter flows) seq flow).1 = .ok ((e.1 : Nat), (e.2 : Nat))) ∨
  ∃ st seq, p.Loaded F s st ∧ (p.twin.pickEv st seq flow).1 = .ok ((e.1 : Nat), (e.2 : Nat))

/-- No packet of the flow gets an ASSUMED_BAD EV. -/
def PicksUsable (F : Type) [Floats F] (p : HealthAwareMrc) (s : p.table.Store) (flow : FlowKey) :
    Prop :=
  ∀ e, p.Picks F s flow e → (s.evs p.tenant e).state ≠ .assumedBad

/-- The EV is the last of the flow's set: the last plane, and the last of the flow's spines. -/
def LastOfFlow (p : HealthAwareMrc) (flow : FlowKey) (e : p.table.EV) : Prop :=
  ∃ spines, p.spinesOf flow = .ok spines ∧ (e.1 : Nat) + 1 = p.table.numPlanes ∧
    spines.getLast? = some (e.2 : Nat)

/-- A threshold before the last is above the greatest draw, 1.0 in doubles. -/
def Covered (cdf : List F) : Prop :=
  ∃ threshold ∈ cdf.dropLast, Floats.lt (Floats.unit (2 ^ 64 - 1)) threshold = true

/-- What keeps picks off ASSUMED_BAD EVs.  If the flow's weights add up to more than zero, the last
    EV must be usable or out of reach of the draws; if they do not, all EVs must be usable. -/
def DrawsUsable (F : Type) [Floats F] (p : HealthAwareMrc) (s : p.table.Store) (flow : FlowKey) :
    Prop :=
  ∀ spines wgrid flat, p.spinesOf flow = .ok spines → p.wgrid F s = .ok wgrid →
    flatWeights wgrid p.table.numPlanes spines = .ok flat →
    if Floats.lt (Floats.zero : F) (Floats.sum flat) then
      (∀ e, p.LastOfFlow flow e → (s.evs p.tenant e).state ≠ .assumedBad) ∨ Covered (buildCdf flat)
    else ∀ e, p.OfFlow flow e → (s.evs p.tenant e).state ≠ .assumedBad

/-- The last EV of a flow is that of the last plane and spine. -/
theorem lastOfFlow_iff {flow : FlowKey} {qs : List (Fin p.table.numPaths)}
    (hqs : p.spinesOf flow = .ok (qs.map Fin.val)) (hpos : 0 < qs.length) {e : p.table.EV} :
    p.LastOfFlow flow e ↔ (p.evsOver qs)[p.table.numPlanes * qs.length - 1]? = some e := by
  obtain ⟨planes, hplanes⟩ : ∃ n, p.table.numPlanes = n + 1 :=
    Nat.exists_eq_succ_of_ne_zero (Nat.ne_of_gt p.table.numPlanes_pos)
  have hn := Nat.sub_one_lt (Nat.mul_pos p.table.numPlanes_pos hpos).ne'
  obtain ⟨last, -, hdecode, hget⟩ := decodeEv_ok qs hn
  rw [hget, Option.some.injEq]
  -- the last index is on the last plane, at the last spine
  have hindex : p.table.numPlanes * qs.length - 1 = (qs.length - 1) + planes * qs.length := by
    rw [hplanes, Nat.succ_mul]
    omega
  have hspine : (p.table.numPlanes * qs.length - 1) % qs.length = qs.length - 1 := by
    rw [hindex, Nat.add_mul_mod_self_right, Nat.mod_eq_of_lt (by omega)]
  have hplane : (p.table.numPlanes * qs.length - 1) / qs.length = planes := by
    rw [hindex, Nat.add_mul_div_right _ _ hpos, Nat.div_eq_of_lt (by omega), Nat.zero_add]
  have hlast : (last.1 : Nat) = planes ∧ (qs.map Fin.val).getLast? = some (last.2 : Nat) := by
    unfold decodeEv at hdecode
    rw [List.length_map, hspine, hplane] at hdecode
    obtain ⟨spine, hindexed, heq⟩ := Outcome.map_ok.mp hdecode
    obtain ⟨rfl, rfl⟩ := Prod.mk.inj heq
    rw [List.getLast?_eq_getElem?, List.length_map]
    have hlt : qs.length - 1 < (qs.map Fin.val).length := by
      rw [List.length_map]
      omega
    rw [index_ok (List.getElem?_eq_getElem hlt)] at hindexed
    exact ⟨rfl, (List.getElem?_eq_getElem hlt).trans (congrArg some (Except.ok.inj hindexed))⟩
  constructor
  · rintro ⟨spines, hspines, hp, hs⟩
    cases hqs.symm.trans hspines
    rw [hlast.2] at hs
    exact Prod.ext (Fin.ext (by omega)) (Fin.ext (Option.some.inj hs))
  · rintro rfl
    exact ⟨_, hqs, by omega, hlast.2⟩

/-- What both policies draw from, at every point: the grid, and the weights over some spines. -/
theorem gathered {cb : Option (TransitionCb p.table)} {calls : List EVStateTable.Call}
    {s : p.table.Store} (hs : p.table.AtPoint cb calls s) (F : Type) [Floats F] :
    ∃ (wgrid : List (List F)) (weight : p.table.EV → ℚ), p.wgrid F s = .ok wgrid ∧
      (∀ qs, flatWeights wgrid p.table.numPlanes (qs.map Fin.val)
        = .ok ((p.evsOver qs).map fun e => Floats.ofRat (weight e))) ∧
      (∀ e, 0 ≤ weight e) ∧ (∀ e, weight e = 0 ↔ (s.evs p.tenant e).state = .assumedBad) ∧
      ∀ flow e, p.Picks F s flow e ↔ ∃ seq, ∃ spines, p.spinesOf flow = .ok spines ∧
        draw wgrid p.table.numPlanes spines seq flow = .ok ((e.1 : Nat), (e.2 : Nat)) := by
  obtain ⟨exact, weight, hexact, hentry, hnonneg, hzero⟩ := wgrid_at hs
  have hcache : exact = s.weightsCache p.tenant := by
    have hid : ((s.weightsCache p.tenant).map fun row => row.map (Floats.ofRat : ℚ → ℚ))
        = s.weightsCache p.tenant := by
      show ((s.weightsCache p.tenant).map fun row => row.map id) = s.weightsCache p.tenant
      simp
    rw [p.wgrid_eq s, hid] at hexact
    exact (Except.ok.inj hexact).symm
  subst hcache
  refine ⟨_, weight, p.wgrid_eq s, fun qs => flatWeights_ok (fun e => ?_) qs, hnonneg, hzero,
    fun flow e => ?_⟩
  · obtain ⟨row, hrow, hget⟩ := Option.bind_eq_some_iff.mp (hentry e)
    refine Option.bind_eq_some_iff.mpr ⟨row.map Floats.ofRat, ?_, ?_⟩
    · rw [List.getElem?_map, hrow]
      rfl
    · rw [List.getElem?_map, hget]
      rfl
  · obtain ⟨qs, hqs, -⟩ := p.exists_spines flow
    have hspines : selectSpinesForAddrs p.table.numPaths flow.srcAddr flow.dstAddr p.pathsPerPlane
        = .ok (qs.map Fin.val) := hqs
    have hfresh : WeightsFresh s := hs.inv (fresh_after cb calls) fresh_writeInv
    have hweights : ∀ row ∈ s.weightsCache p.tenant, ∀ w ∈ row, 0 ≤ w := by
      rw [hfresh p.tenant p.tenant_mem]
      exact gridWeights_nonneg _
    have hlive : ∀ flows seq, (p.pickEv F s (p.cacheAfter flows) seq flow).1
        = draw ((s.weightsCache p.tenant).map fun row => row.map (Floats.ofRat : ℚ → F))
            p.table.numPlanes (qs.map Fin.val) seq flow := by
      intro flows seq
      rw [(pickEv_eq (p.cacheAfter_coherent flows) s seq flow).1, hspines]
      rfl
    constructor
    · rintro (⟨flows, seq, hpick⟩ | ⟨st, seq, ⟨hcoh, hgrid⟩, hpick⟩)
      · exact ⟨seq, _, hqs, (hlive flows seq).symm.trans hpick⟩
      · have hst : st.wgrid = _ := (Except.ok.inj ((p.wgrid_eq s).symm.trans hgrid)).symm
        have htwin : selectSpinesForAddrs p.twin.nSpines flow.srcAddr flow.dstAddr
            p.twin.pathsPerPlane = .ok (qs.map Fin.val) := hqs
        rw [snapshot_pickEv hcoh hweights hst, htwin, hst] at hpick
        exact ⟨seq, _, hqs, hpick⟩
    · rintro ⟨seq, spines, hspines', hdraw⟩
      cases hqs.symm.trans hspines'
      exact Or.inl ⟨[], seq, (hlive [] seq).trans hdraw⟩

/-- The inverse of the golden ratio, modulo 2^64. -/
def gammaInverse : Nat := 0xf1de83e19937733d

/-- Every flow has a packet with the greatest draw. -/
theorem exists_last (flow : FlowKey) : ∃ seq : Int, drawBits seq flow = 2 ^ 64 - 1 := by
  refine ⟨gammaInverse * (2 ^ 64 - 1 - flow.hash5), ?_⟩
  have hinv : (gammaInverse : Int) * goldenGamma = 1 + 2 ^ 64 * 0x957bbf35006ed677 := by
    decide
  have hsum : (flow.hash5 : Int) + gammaInverse * (2 ^ 64 - 1 - flow.hash5) * goldenGamma
      = 2 ^ 64 - 1 + 2 ^ 64 * (0x957bbf35006ed677 * (2 ^ 64 - 1 - flow.hash5)) := by
    have hcomm : (gammaInverse : Int) * (2 ^ 64 - 1 - flow.hash5) * goldenGamma
        = gammaInverse * goldenGamma * (2 ^ 64 - 1 - flow.hash5) := by ring
    rw [hcomm, hinv]
    ring
  unfold drawBits
  rw [hsum, Int.add_mul_emod_self_left]
  rfl

theorem drawBits_lt_last (seq : Int) (flow : FlowKey) : drawBits seq flow < 2 ^ 64 := by
  unfold drawBits
  omega

/-- The round-robin gets to every EV of the flow. -/
theorem fallback_all {qs : List (Fin p.table.numPaths)} {e : p.table.EV} (he : e ∈ p.evsOver qs) :
    ∃ seq : Int, (fallback p.table.numPlanes (qs.map Fin.val) seq).bind (decodeEv (qs.map Fin.val))
      = .ok ((e.1 : Nat), (e.2 : Nat)) := by
  obtain ⟨n, hn, hget⟩ := List.mem_iff_getElem.mp he
  rw [length_evsOver] at hn
  have hlen : p.table.numPlanes * (qs.map Fin.val).length = p.table.numPlanes * qs.length := by
    rw [List.length_map]
  obtain ⟨hback, -⟩ := fallback_ok (hlen ▸ Nat.zero_lt_of_lt hn) (n : Int)
  obtain ⟨e', -, hdecode, hget'⟩ := decodeEv_ok qs hn
  rw [List.getElem?_eq_getElem (by rwa [length_evsOver]), hget] at hget'
  cases hget'
  refine ⟨n, ?_⟩
  rw [hback, Outcome.ok_bind, hlen, ← Int.natCast_mod, Int.toNat_natCast, Nat.mod_eq_of_lt hn]
  exact hdecode

/-- Where the round-robin is taken, the packets of a flow get its EVs, and all of them. -/
theorem draws_fallback {flow : FlowKey} {qs : List (Fin p.table.numPaths)}
    (hqs : p.spinesOf flow = .ok (qs.map Fin.val)) (hpos : 0 < qs.length) {wgrid : List (List F)}
    {ws : List F} (hflat : flatWeights wgrid p.table.numPlanes (qs.map Fin.val) = .ok ws)
    (hle : Floats.le (Floats.sum ws) (Floats.zero : F) = true) (e : p.table.EV) :
    (∃ seq : Int, draw wgrid p.table.numPlanes (qs.map Fin.val) seq flow
      = .ok ((e.1 : Nat), (e.2 : Nat))) ↔ p.OfFlow flow e := by
  have hdraw := fun seq => (draw_eq_of_flat hflat seq flow).trans (if_pos hle)
  constructor
  · rintro ⟨seq, hseq⟩
    rw [hdraw seq] at hseq
    have hn : 0 < p.table.numPlanes * (qs.map Fin.val).length :=
      Nat.mul_pos p.table.numPlanes_pos (by rwa [List.length_map])
    obtain ⟨hback, hidx⟩ := fallback_ok hn seq
    rw [List.length_map] at hidx
    obtain ⟨e', he', hdecode, -⟩ := decodeEv_ok qs hidx
    rw [hback, Outcome.ok_bind, List.length_map, hdecode] at hseq
    rw [← ev_ext hseq]
    exact (ofFlow_iff hqs).mpr he'
  · intro he
    obtain ⟨seq, hseq⟩ := fallback_all ((ofFlow_iff hqs).mp he)
    exact ⟨seq, (hdraw seq).trans hseq⟩

/-- Where the weights are drawn from, they get the EVs at the indices that are drawn. -/
theorem draws_weighted {flow : FlowKey} {qs : List (Fin p.table.numPaths)}
    {wgrid : List (List F)} {ws : List F} (hne : ws ≠ [])
    (hflat : flatWeights wgrid p.table.numPlanes (qs.map Fin.val) = .ok ws)
    (hlength : ws.length = p.table.numPlanes * qs.length)
    (hle : ¬ Floats.le (Floats.sum ws) (Floats.zero : F) = true) (e : p.table.EV) :
    (∃ seq : Int, draw wgrid p.table.numPlanes (qs.map Fin.val) seq flow
      = .ok ((e.1 : Nat), (e.2 : Nat))) ↔
      ∃ seq : Int, (p.evsOver qs)[weightedPick seq flow (buildCdf ws)]? = some e := by
  refine exists_congr fun seq => ?_
  have hlt : 0 < ws.length := List.length_pos_iff.mpr hne
  have hidx : weightedPick seq flow (buildCdf ws) < p.table.numPlanes * qs.length := by
    rcases weightedPick_cases hne seq flow with ⟨hlast, -⟩ | ⟨hbefore, -⟩ <;> omega
  obtain ⟨e', -, hdecode, hget⟩ := decodeEv_ok qs hidx
  rw [(draw_eq_of_flat hflat seq flow).trans (if_neg hle), hdecode, hget]
  exact ⟨fun h => congrArg some (ev_ext h), fun h => by rw [Option.some.inj h]⟩

variable [LawfulFloats F]

/-- At every point, no packet of a flow gets an ASSUMED_BAD EV exactly if `DrawsUsable`. -/
theorem picksUsable_iff {cb : Option (TransitionCb p.table)} {calls : List EVStateTable.Call}
    {s : p.table.Store} (hs : p.table.AtPoint cb calls s) (flow : FlowKey) :
    p.PicksUsable F s flow ↔ p.DrawsUsable F s flow := by
  obtain ⟨qs, hqs, hlen, -⟩ := p.exists_spines flow
  have hpos : 0 < qs.length := hlen ▸ p.paths_pos
  obtain ⟨wgrid, weight, hwgrid, hflat, hnonneg, hzero, hpicks⟩ := gathered hs F
  have hflat := hflat qs
  generalize hws : (p.evsOver qs).map (fun e => (Floats.ofRat (weight e) : F)) = ws at hflat
  -- the condition, for the weights gathered
  have hcond : p.DrawsUsable F s flow ↔
      if Floats.lt (Floats.zero : F) (Floats.sum ws) then
        (∀ e, p.LastOfFlow flow e → (s.evs p.tenant e).state ≠ .assumedBad) ∨ Covered (buildCdf ws)
      else ∀ e, p.OfFlow flow e → (s.evs p.tenant e).state ≠ .assumedBad := by
    constructor
    · exact fun h => h _ _ _ hqs hwgrid hflat
    · intro h spines wgrid' flat' hspines hwgrid' hflat'
      cases hqs.symm.trans hspines
      cases hwgrid.symm.trans hwgrid'
      cases hflat.symm.trans hflat'
      exact h
  have hsum : Floats.le (Floats.sum ws) (Floats.zero : F)
      = !Floats.lt Floats.zero (Floats.sum ws) := by
    have hrats : ws = ((p.evsOver qs).map weight).map Floats.ofRat := by
      rw [← hws, List.map_map]
      rfl
    rw [hrats]
    refine Floats.sum_weights _ fun w hw => ?_
    obtain ⟨e, -, rfl⟩ := List.mem_map.mp hw
    exact hnonneg e
  have hpick : ∀ e, p.Picks F s flow e ↔ ∃ seq : Int,
      draw wgrid p.table.numPlanes (qs.map Fin.val) seq flow = .ok ((e.1 : Nat), (e.2 : Nat)) := by
    intro e
    rw [hpicks]
    constructor
    · rintro ⟨seq, spines, hspines, hdraw⟩
      cases hqs.symm.trans hspines
      exact ⟨seq, hdraw⟩
    · exact fun ⟨seq, hdraw⟩ => ⟨seq, _, hqs, hdraw⟩
  rw [hcond]
  cases hlt : Floats.lt (Floats.zero : F) (Floats.sum ws) with
  | false =>
    -- the round-robin
    rw [if_neg Bool.false_ne_true]
    have hle : Floats.le (Floats.sum ws) (Floats.zero : F) = true := by rw [hsum, hlt]; rfl
    exact forall_congr' fun e =>
      imp_congr_left ((hpick e).trans (draws_fallback hqs hpos hflat hle e))
  | true =>
    -- the weighted draw
    rw [if_pos rfl]
    have hle : ¬ Floats.le (Floats.sum ws) (Floats.zero : F) = true := by
      rw [hsum, hlt]
      exact Bool.false_ne_true
    have hlength : ws.length = p.table.numPlanes * qs.length := by
      rw [← hws, List.length_map, length_evsOver]
    have hn : 0 < p.table.numPlanes * qs.length := Nat.mul_pos p.table.numPlanes_pos hpos
    have hne : ws ≠ [] := List.ne_nil_of_length_pos (hlength ▸ hn)
    have hat := fun e => (hpick e).trans (draws_weighted hne hflat hlength hle e)
    constructor
    · intro h
      by_cases hcov : Covered (buildCdf ws)
      · exact Or.inr hcov
      · -- the greatest draw ends on the last EV
        refine Or.inl fun e he => ?_
        obtain ⟨seq, hseq⟩ := exists_last flow
        rcases weightedPick_cases hne seq flow with ⟨hlast, -⟩ | ⟨-, hsome, -⟩
        · refine h e ((hat e).mpr ⟨seq, ?_⟩)
          rw [hlast, hlength]
          exact (lastOfFlow_iff hqs hpos).mp he
        · rw [hseq] at hsome
          exact absurd hsome hcov
    · intro h e he
      obtain ⟨seq, hget⟩ := (hat e).mp he
      rcases weightedPick_cases hne seq flow with ⟨hlast, hnone⟩ | ⟨-, -, hfind⟩
      · rcases h with husable | ⟨threshold, hmem, hcov⟩
        · rw [hlast, hlength] at hget
          exact husable e ((lastOfFlow_iff hqs hpos).mpr hget)
        · have habove := LawfulFloats.lt_of_last _ _ (drawBits_lt_last seq flow) hcov
          rw [hnone threshold hmem] at habove
          cases habove
      · -- before the last EV a draw ends on a weight that is not zero
        intro hbad
        refine findIdx_weight hlt hfind ?_
        generalize weightedPick seq flow (buildCdf ws) = i at hget ⊢
        rw [← hws, List.getElem?_map, hget, Option.map_some, (hzero e).mpr hbad]

end Floats

/-! ## When the floor is enough -/

variable (p) in
/-- No signal demotes, or the floor is the whole grid. -/
def Untouchable : Prop :=
  ¬ p.table.cfg.Demotes ∨ p.table.minActive = (p.table.numPlanes * p.table.numPaths : Nat)

/-- Where no EV can be demoted, the floor guards every flow. -/
theorem Untouchable.guarded (h : p.Untouchable) : p.Guarded := by
  rcases h with hno | hfull
  · exact Or.inl hno
  · refine Or.inr ?_
    have hplanes := p.table.numPlanes_pos
    have hk := p.paths_pos
    have hle := p.paths_le
    have hlt : p.table.numPlanes * (p.table.numPaths - p.pathsPerPlane)
        < p.table.numPlanes * p.table.numPaths := Nat.mul_lt_mul_of_pos_left (by omega) hplanes
    rw [hfull]
    exact_mod_cast hlt

theorem Untouchable.usable (h : p.Untouchable) {cb : Option (TransitionCb p.table)}
    {calls : List EVStateTable.Call} {s : p.table.Store} (hs : p.table.AtPoint cb calls s)
    (e : p.table.EV) : (s.evs p.tenant e).state ≠ .assumedBad := by
  rcases h with hno | hfull
  · exact never_bad hno hs p.tenant e
  · have hle : p.table.minActive ≤ p.table.usable p.tenant s :=
      (hs.inv (floor_after cb calls) floor_writeInv) p.tenant
    rw [hfull, ← length_cells] at hle
    have hall : p.table.usable p.tenant s = p.table.cells.length :=
      Nat.le_antisymm List.countP_le_length (by exact_mod_cast hle)
    exact of_decide_eq_true (List.countP_eq_length.mp hall e (mem_cells e))

/-- In any arithmetic that is lawful, as that of doubles is.  Every flow always has a usable EV, and
    never sprays round-robin over ASSUMED_BAD ones, if and only if no signal demotes or the floor is
    above the number of EVs outside a flow's set.  At every point, no packet of a flow gets an
    ASSUMED_BAD EV if and only if the draws cannot end on one.  All of it holds if and only if both
    do; it does if no signal demotes or the floor is the whole grid. -/
theorem flow_usable_iff (F : Type) [Floats F] [LawfulFloats F] (p : HealthAwareMrc) :
    (p.Always (fun s flow => p.HasUsable s flow ∧ ¬ p.FallsBack s flow ∧ p.PicksUsable F s flow) ↔
      p.Guarded ∧ p.Always (p.DrawsUsable F)) ∧
    (p.Always p.HasUsable ↔ p.Guarded) ∧
    (p.Always (fun s flow => ¬ p.FallsBack s flow) ↔ p.Guarded) ∧
    p.Always (fun s flow => p.PicksUsable F s flow ↔ p.DrawsUsable F s flow) ∧
    (p.Untouchable → p.Guarded ∧ p.Always (p.DrawsUsable F)) := by
  have husable : p.Always p.HasUsable ↔ p.Guarded := by
    refine ⟨fun h => ?_, hasUsable_of_guarded⟩
    by_contra hno
    obtain ⟨calls, hnone⟩ := all_bad_of_not_guarded hno ⟨"", "", 0, 0⟩
    exact hnone (h none calls _ (Or.inl rfl) _)
  have hfalls : p.Always (fun s flow => ¬ p.FallsBack s flow) ↔ p.Guarded := by
    rw [← husable]
    constructor
    · intro h cb calls s hs flow
      by_contra hno
      exact h cb calls s hs flow ((fallsBack_iff hs flow).mpr hno)
    · intro h cb calls s hs flow hf
      exact (fallsBack_iff hs flow).mp hf (h cb calls s hs flow)
  have hpicks : p.Always (fun s flow => p.PicksUsable F s flow ↔ p.DrawsUsable F s flow) :=
    fun cb calls s hs flow => picksUsable_iff hs flow
  refine ⟨⟨fun h => ⟨husable.mp fun cb calls s hs flow => (h cb calls s hs flow).1, ?_⟩, ?_⟩,
    husable, hfalls, hpicks, fun h => ⟨h.guarded, ?_⟩⟩
  · exact fun cb calls s hs flow =>
      (hpicks cb calls s hs flow).mp (h cb calls s hs flow).2.2
  · rintro ⟨hguarded, hdraws⟩ cb calls s hs flow
    exact ⟨husable.mpr hguarded cb calls s hs flow, hfalls.mpr hguarded cb calls s hs flow,
      (hpicks cb calls s hs flow).mpr (hdraws cb calls s hs flow)⟩
  · exact fun cb calls s hs flow =>
      (hpicks cb calls s hs flow).mp fun e _ => h.usable hs e

/-- Two paths, and one or both of them for each flow, under the default config. -/
def twoPaths (k : Nat) (hpos : 1 ≤ k) (hle : k ≤ 2) : HealthAwareMrc where
  table := { twoOfThree.table with
    numPaths := 2
    numPaths_pos := Nat.zero_lt_two }
  tenant := "green"
  pathsPerPlane := k
  tenant_mem := List.mem_singleton_self _
  paths_pos := hpos
  paths_le := hle

/-- In doubles, for a policy whose flows have both paths: with one path demoted the floor is kept,
    and so the flow has a usable EV, but whether its packets stay off the other one is up to the
    draws. -/
theorem flow_usable_iff_twoPaths :
    let p := twoPaths 2 (by decide) (by decide)
    let s := p.table.after none (List.replicate 3 (.lossWindow "green" 0 0 0 10))
    HealthAwareMrc.new p.table "green" 2 1 2 = .ok p ∧ p.HasUsable s oneFlow ∧
      (p.PicksUsable Binary64 s oneFlow ↔ p.DrawsUsable Binary64 s oneFlow) := by
  intro p s
  obtain ⟨-, husable, -, hpicks, -⟩ := flow_usable_iff Binary64 p
  have hguarded : p.Guarded := Or.inr (by decide +kernel)
  exact ⟨rfl, husable.mpr hguarded none _ s (Or.inl rfl) oneFlow,
    hpicks none _ s (Or.inl rfl) oneFlow⟩

/-- A flow of one path, path 1: three windows in which nothing arrives on it, and the flow has no
    usable EV, its weights add up to zero, and a packet gets path 1.  A flow of both paths: the same
    on path 0, and the packet with the greatest draw gets path 0. -/
theorem flow_without_usable :
    (let p := twoPaths 1 (by decide) (by decide)
      let s := p.table.after none (List.replicate 3 (.lossWindow "green" 0 1 0 10))
      (s.evs "green" ((0 : Fin 1), (1 : Fin 2))).state = .assumedBad ∧
      ¬ p.HasUsable s oneFlow ∧ p.FallsBack s oneFlow ∧
      (p.pickEv Binary64 s [] 0 oneFlow).1 = .ok (0, 1)) ∧
    (let p := twoPaths 2 (by decide) (by decide)
      let s := p.table.after none (List.replicate 3 (.lossWindow "green" 0 0 0 10))
      (s.evs "green" ((0 : Fin 1), (0 : Fin 2))).state = .assumedBad ∧
      p.HasUsable s oneFlow ∧
      (p.pickEv Binary64 s [] 7304599283980818799 oneFlow).1 = .ok (0, 0)) := by
  constructor
  · intro p s
    have hbad : (s.evs "green" ((0 : Fin 1), (1 : Fin 2))).state = .assumedBad := by decide +kernel
    have hspines : p.spinesOf oneFlow = .ok [1] := by decide
    have hnone : ¬ p.HasUsable s oneFlow := by
      rintro ⟨⟨plane, path⟩, ⟨spines, hsel, hmem⟩, hne⟩
      cases hspines.symm.trans hsel
      obtain rfl : plane = (0 : Fin 1) := Fin.fin_one_eq_zero plane
      obtain rfl : path = (1 : Fin 2) := Fin.ext (List.mem_singleton.mp hmem)
      exact hne hbad
    exact ⟨hbad, hnone, (fallsBack_iff (Or.inl rfl) oneFlow).mpr hnone, by decide +kernel⟩
  · intro p s
    have hspines : p.spinesOf oneFlow = .ok [1, 0] := by decide
    have hgood : (s.evs "green" ((0 : Fin 1), (1 : Fin 2))).state ≠ .assumedBad := by decide +kernel
    refine ⟨by decide +kernel, ⟨((0 : Fin 1), (1 : Fin 2)), ⟨[1, 0], hspines, ?_⟩, hgood⟩,
      by decide +kernel⟩
    exact List.mem_cons_self ..

end HealthAwareMrc

end Srv6Mrc
