/-
  The published weight grid.

  `_weights_cache[tenant]` is what lock-free readers see.  It is rebuilt by the transition helper
  and by nothing else, so its freshness is an invariant about writes: a write that changes no state
  leaves the grid's value where it was, a write that changes one rebuilds it (`fresh_writeInv`).
  The floor keeps at least one EV at positive weight, so the uniform fallback for an all-zero grid
  is never taken and the grid is the plain normalisation of the state weights.
-/
import Mathlib.Tactic.Ring
import Srv6Mrc.Lib.Normalise
import Srv6Mrc.EvState.Floor

namespace Srv6Mrc.EVStateTable

open Normalise

variable {T : EVStateTable}

variable (T) in
/-- The sum of the state weights over a tenant's whole grid. -/
def totalWeight (tenant : String) (s : Store T) : ℚ :=
  (T.cells.map fun c => stateWeight (s.evs tenant c).state).sum

/-- What the cache should hold for every tenant, at any moment. -/
def WeightsFresh (s : Store T) : Prop :=
  ∀ tenant ∈ T.tenants, s.weightsCache tenant = T.gridWeights (s.evs tenant)

/-! ## Freshness -/

/-- The grid depends on the records through their states only. -/
theorem gridWeights_congr {grid grid' : T.EV → EVRecord}
    (h : ∀ e, (grid' e).state = (grid e).state) : T.gridWeights grid' = T.gridWeights grid := by
  have hraw : T.rawWeights grid' = T.rawWeights grid := by
    unfold rawWeights
    simp only [h]
  unfold gridWeights
  rw [hraw]

theorem fresh_fresh : WeightsFresh T.fresh := by
  -- a tenant's grid is published by its turn of the loop, and later turns leave it
  have hfold : ∀ (ts : List String) (s : Store T), (∀ t e, s.evs t e = {}) →
      ∀ t, (t ∈ ts ∨ s.weightsCache t = T.gridWeights fun _ => {}) →
      (ts.foldl (fun s tenant => T.rebuildWeightsLocked tenant s) s).weightsCache t
        = T.gridWeights fun _ => {} := by
    intro ts
    induction ts with
    | nil =>
      intro s _ t ht
      exact ht.resolve_left (List.not_mem_nil)
    | cons t₀ ts ih =>
      intro s hs t ht
      refine ih (T.rebuildWeightsLocked t₀ s) hs t ?_
      by_cases h0 : t = t₀
      · subst h0
        refine Or.inr ?_
        have hgrid : s.evs t = fun _ => {} := funext (hs t)
        simp [rebuildWeightsLocked, hgrid]
      · rcases ht with ht | ht
        · exact Or.inl ((List.mem_cons.mp ht).resolve_left h0)
        · exact Or.inr (by simp [rebuildWeightsLocked, Function.update_of_ne h0, ht])
  intro tenant hmem
  rw [fresh_evs]
  exact hfold T.tenants _ (fun _ _ => rfl) tenant (Or.inl hmem)

/-- Writing a record builds the weights again if it has to. -/
theorem fresh_writeInv (tenant : String) : WriteInv tenant (WeightsFresh (T := T)) where
  bump := fun s hs => hs
  write := by
    intro s e r hs _ tenant' hmem
    by_cases ht : tenant' = tenant
    · subst ht
      by_cases hr : r.state = (s.evs tenant' e).state
      · -- no state changed, so the old grid is still the right one
        rw [Store.write_of_state_eq hr, Store.setEv_weightsCache, hs tenant' hmem]
        refine (gridWeights_congr fun c => ?_).symm
        by_cases hc : c = e
        · subst hc; rw [Store.setEv_same, hr]
        · rw [Store.setEv_other s r (Or.inr hc)]
      · -- a state changed, and the grid was rebuilt after it
        rw [Store.write_of_state_ne hr]
        simp [rebuildWeightsLocked]
    · have hsame : (s.write tenant e r).evs tenant' = s.evs tenant' :=
        funext fun c => s.write_other r (Or.inl ht)
      rw [hsame, ← hs tenant' hmem]
      unfold Store.write
      split
      · rfl
      · exact Function.update_of_ne ht _ _

/-- So the weights are fresh after every run. -/
theorem fresh_after (cb : Option (TransitionCb T)) (calls : List Call) :
    WeightsFresh (T.after cb calls) :=
  after_inv cb fresh_fresh (fun s c hs => step_inv cb s c (fresh_writeInv c.tenant) hs) calls

/-! ## The value of the grid -/

theorem stateWeight_nonneg (st : EVState) : 0 ≤ stateWeight st := by
  cases st <;> simp [stateWeight]

theorem stateWeight_eq_zero {st : EVState} : stateWeight st = 0 ↔ st = .assumedBad := by
  cases st <;> simp [stateWeight]

theorem rawWeights_flatten (grid : T.EV → EVRecord) :
    (T.rawWeights grid).flatten = T.cells.map fun c => stateWeight (grid c).state := by
  unfold rawWeights cells
  rw [List.map_flatMap, List.flatMap_def]
  simp [Function.comp_def]

theorem entry_rawWeights (grid : T.EV → EVRecord) (e : T.EV) :
    entry (T.rawWeights grid) e.1 e.2 = some (stateWeight (grid e).state) := by
  obtain ⟨p, q⟩ := e
  simp [entry, rawWeights]

/-- The floor at work: some EV has positive weight, so the sum is positive. -/
theorem totalWeight_pos {tenant : String} {s : Store T} (hfloor : Floor s) :
    0 < T.totalWeight tenant s := by
  have husable : 0 < T.usable tenant s := by
    have h1 := one_le_minActive (T := T)
    have h2 := hfloor tenant
    omega
  obtain ⟨c, hc, hne⟩ := List.countP_pos_iff.mp husable
  have hpos : 0 < stateWeight (s.evs tenant c).state := by
    refine lt_of_le_of_ne (stateWeight_nonneg _) fun h0 => ?_
    exact of_decide_eq_true hne (stateWeight_eq_zero.mp h0.symm)
  refine sum_pos_of_mem ?_ (List.mem_map.mpr ⟨c, hc, rfl⟩) hpos
  intro x hx
  obtain ⟨c', -, rfl⟩ := List.mem_map.mp hx
  exact stateWeight_nonneg _

/-- Above the fallback the published grid is the normalisation of the state weights. -/
theorem gridWeights_eq {tenant : String} {s : Store T} (hpos : 0 < T.totalWeight tenant s) :
    T.gridWeights (s.evs tenant) = normalise (T.rawWeights (s.evs tenant)) := by
  have hnot : ¬ (T.rawWeights (s.evs tenant)).flatten.sum ≤ 0 := by
    rw [rawWeights_flatten]
    exact not_le.mpr hpos
  unfold gridWeights
  simp only [if_neg hnot]
  rfl

/-! ## Points of a run -/

variable (T) in
/-- The stores a lock-free reader can meet: after a run of calls, or inside a tick after it. -/
def AtPoint (cb : Option (TransitionCb T)) (calls : List Call) (s : Store T) : Prop :=
  s = T.after cb calls ∨ ∃ ticked n, s = T.midTick cb calls ticked n

/-- What holds after calls and is kept by writes holds at every point. -/
theorem AtPoint.inv {I : Store T → Prop} {cb : Option (TransitionCb T)} {calls : List Call}
    {s : Store T} (hs : T.AtPoint cb calls s) (hafter : I (T.after cb calls))
    (hI : ∀ tenant, WriteInv tenant I) : I s := by
  rcases hs with rfl | ⟨ticked, n, rfl⟩
  · exact hafter
  · exact (hI ticked).turns cb (T.cells.take n) ((hI ticked).bump _ hafter)

/-- So the weights never add up to nothing. -/
theorem AtPoint.totalWeight_pos {cb : Option (TransitionCb T)} {calls : List Call} {s : Store T}
    (hs : T.AtPoint cb calls s) (tenant : String) : 0 < T.totalWeight tenant s :=
  EVStateTable.totalWeight_pos (hs.inv (floor_after cb calls) floor_writeInv)

/-- The grid at a point is the normalisation of the state weights of that moment. -/
theorem AtPoint.weightsCache_eq {cb : Option (TransitionCb T)} {calls : List Call} {s : Store T}
    (hs : T.AtPoint cb calls s) {tenant : String} (hmem : tenant ∈ T.tenants) :
    s.weightsCache tenant = normalise (T.rawWeights (s.evs tenant)) := by
  have hfresh : WeightsFresh s := hs.inv (fresh_after cb calls) fresh_writeInv
  rw [hfresh tenant hmem, gridWeights_eq (hs.totalWeight_pos tenant)]

/-- Each EV's state weight over the sum of all. -/
theorem AtPoint.entry_weightsCache {cb : Option (TransitionCb T)} {calls : List Call} {s : Store T}
    (hs : T.AtPoint cb calls s) {tenant : String} (hmem : tenant ∈ T.tenants) (e : T.EV) :
    entry (s.weightsCache tenant) e.1 e.2
      = some (stateWeight (s.evs tenant e).state / T.totalWeight tenant s) := by
  rw [hs.weightsCache_eq hmem, entry_normalise, entry_rawWeights, rawWeights_flatten]
  rfl

/-- A call for one tenant leaves every other tenant's records and grid as they were. -/
theorem step_other_tenant (cb : Option (TransitionCb T)) (s : Store T) (c : Call)
    {tenant : String} (h : c.tenant ≠ tenant) :
    (T.step cb s c).state.evs tenant = s.evs tenant
      ∧ (T.step cb s c).state.weightsCache tenant = s.weightsCache tenant := by
  refine step_inv (I := fun s' => s'.evs tenant = s.evs tenant
    ∧ s'.weightsCache tenant = s.weightsCache tenant) cb s c ⟨fun _ hs => hs, ?_⟩ ⟨rfl, rfl⟩
  rintro s' e r ⟨hevs, hw⟩ -
  constructor
  · rw [← hevs]
    exact funext fun e' => s'.write_other r (Or.inl h.symm)
  · rw [← hw]
    unfold Store.write
    split
    · rfl
    · exact Function.update_of_ne h.symm _ _

/-- The published grid, at every point of every run: each weight is the EV's state weight over the
    sum of all, computed from the states of that moment; so the weights are non-negative, sum to
    one, vanish exactly on ASSUMED_BAD, and weigh GOOD twice UNKNOWN.  The sum is positive, so the
    uniform fallback is never taken; and calls for one tenant touch no other tenant. -/
theorem weightsEv_exact (T : EVStateTable) (cb : Option (TransitionCb T)) (calls : List Call)
    (s : Store T) (hs : T.AtPoint cb calls s) (tenant : String) (hmem : tenant ∈ T.tenants) :
    (∃ W, T.weightsEv tenant s = .ok W ∧
      W.length = T.numPlanes ∧ (∀ row ∈ W, row.length = T.numPaths) ∧
      (∀ e : T.EV, entry W e.1 e.2
        = some (stateWeight (s.evs tenant e).state / T.totalWeight tenant s)) ∧
      (∀ x ∈ W.flatten, 0 ≤ x) ∧ W.flatten.sum = 1 ∧
      (∀ (e : T.EV) x, entry W e.1 e.2 = some x →
        (x = 0 ↔ (s.evs tenant e).state = .assumedBad)) ∧
      (∀ (e e' : T.EV) x x', entry W e.1 e.2 = some x → entry W e'.1 e'.2 = some x' →
        (s.evs tenant e).state = .good → (s.evs tenant e').state = .unknown → x = 2 * x')) ∧
    0 < T.totalWeight tenant s ∧
    (∀ c : Call, c.tenant ≠ tenant →
      (T.step cb s c).state.evs tenant = s.evs tenant
        ∧ (T.step cb s c).state.weightsCache tenant = s.weightsCache tenant) := by
  have hpos : 0 < T.totalWeight tenant s := hs.totalWeight_pos tenant
  have hcache := hs.weightsCache_eq hmem
  have hentry : ∀ e : T.EV, entry (normalise (T.rawWeights (s.evs tenant))) e.1 e.2
      = some (stateWeight (s.evs tenant e).state / T.totalWeight tenant s) :=
    fun e => hcache ▸ hs.entry_weightsCache hmem e
  refine ⟨⟨normalise (T.rawWeights (s.evs tenant)), ?_, ?_, ?_, hentry, ?_, ?_, ?_, ?_⟩, hpos,
    fun c hc => step_other_tenant cb s c hc⟩
  · unfold weightsEv
    rw [checkTenant_none.mpr hmem, hcache]
  · simp [normalise, rawWeights]
  · intro row hrow
    obtain ⟨row', hrow', rfl⟩ := List.mem_map.mp hrow
    obtain ⟨p, -, rfl⟩ := List.mem_map.mp hrow'
    simp
  · refine nonneg_normalise fun x hx => ?_
    rw [rawWeights_flatten] at hx
    obtain ⟨c, -, rfl⟩ := List.mem_map.mp hx
    exact stateWeight_nonneg _
  · refine sum_normalise ?_
    rw [rawWeights_flatten]
    exact ne_of_gt hpos
  · intro e x hx
    rw [hentry, Option.some.injEq] at hx
    rw [← hx, div_eq_zero_iff, stateWeight_eq_zero]
    exact ⟨fun h => h.resolve_right (ne_of_gt hpos), Or.inl⟩
  · intro e e' x x' hx hx' hgood hunknown
    rw [hentry, Option.some.injEq] at hx hx'
    rw [← hx, ← hx', hgood, hunknown]
    simp only [stateWeight]
    ring

/-- At work on the default config, after a run that demotes one EV of three. -/
theorem weightsEv_exact_threePaths :
    ∃ W, (threePaths {} (by decide)).weightsEv "green" ((threePaths {} (by decide)).after none
        [.probeSent "green" 0 1, .probeSent "green" 0 1, .probeSent "green" 0 1, .tick "green"])
      = .ok W ∧ W.flatten.sum = 1 := by
  obtain ⟨⟨W, hW, -, -, -, -, hsum, -⟩, -⟩ := weightsEv_exact (threePaths {} (by decide)) none
    [.probeSent "green" 0 1, .probeSent "green" 0 1, .probeSent "green" 0 1, .tick "green"] _
    (Or.inl rfl) "green" (List.mem_singleton_self _)
  exact ⟨W, hW, hsum⟩

end Srv6Mrc.EVStateTable
