/-
  The snapshot policy against the live one.

  `Plain` is the snapshot policy without its caches: the grid last loaded and its modification time.
  Whatever the history of picks and refreshes, `MrcSnapshot` answers what `Plain` answers, because
  every CDF in the cache is that of the grid in place (`Coherent`): a load clears the cache, so it
  does not matter either when a new grid has the `id` of an old one.

  And what `Plain` draws from a grid is what `HealthAwareMrc` draws from a table that publishes it.
-/
import Mathlib.Data.List.ProdSigma
import Srv6Mrc.Policy.Snapshot

namespace Srv6Mrc

open Py

namespace MrcSnapshot

variable {F : Type} [Floats F] {M : MrcSnapshot}

/-! ## Picks without the cache -/

/-- The grid last loaded, and the modification time of its file. -/
structure Plain (F : Type) where
  wgrid : List (List F)
  lastMtime : ℚ

/-- A pick computed afresh. -/
def Plain.pickEv (M : MrcSnapshot) (p : Plain F) (seq : Int) (flow : FlowKey) :
    Except PolicyError (Nat × Nat) :=
  (selectSpinesForAddrs M.nSpines flow.srcAddr flow.dstAddr M.pathsPerPlane).bind fun spines =>
    (flatWeights p.wgrid M.nPlanes spines).bind fun flat =>
      M.drawFrom spines seq flow
        (if Floats.lt (Floats.zero : F) (Floats.sum flat) then some (buildCdf flat) else none)

/-- Every cached CDF is the one of the grid in place. -/
structure Coherent (M : MrcSnapshot) (st : Store F) : Prop where
  spines : SpinesCoherent M.nSpines M.pathsPerPlane st.spineSubsets
  cdf : ∀ entry ∈ st.cdfCache, entry.1.1 = st.wgridId ∧
    ∃ flat, flatWeights st.wgrid M.nPlanes entry.1.2 = .ok flat ∧
      Floats.lt Floats.zero (Floats.sum flat) = true ∧ entry.2 = buildCdf flat

theorem coherent_start (wgridId : Nat) : Coherent M (M.start F wgridId) where
  spines := fun _ h => absurd h List.not_mem_nil
  cdf := fun _ h => absurd h List.not_mem_nil

/-- The cache does not show in the CDF. -/
theorem cdfFor_eq {st : Store F} (h : Coherent M st) (spines : List Nat) :
    (M.cdfFor st spines).1 = (flatWeights st.wgrid M.nPlanes spines).map (fun flat =>
      if Floats.lt (Floats.zero : F) (Floats.sum flat) then some (buildCdf flat) else none) ∧
    Coherent M (M.cdfFor st spines).2 ∧
    (M.cdfFor st spines).2.wgrid = st.wgrid ∧ (M.cdfFor st spines).2.lastMtime = st.lastMtime := by
  unfold cdfFor
  cases hc : cached st.cdfCache (st.wgridId, spines) with
  | some cdf =>
    obtain ⟨-, flat, hflat, hpos, rfl⟩ := h.cdf _ (cached_some hc)
    refine ⟨?_, h, rfl, rfl⟩
    dsimp only at hflat ⊢
    rw [hflat]
    show _ = Except.ok (if _ then _ else _)
    rw [if_pos hpos]
  | none =>
    dsimp only
    cases hflat : flatWeights st.wgrid M.nPlanes spines with
    | error err => exact ⟨rfl, h, rfl, rfl⟩
    | ok flat =>
      dsimp only
      by_cases hpos : Floats.lt (Floats.zero : F) (Floats.sum flat) = true
      · rw [if_pos hpos]
        refine ⟨?_, ⟨h.spines, fun entry he => ?_⟩, rfl, rfl⟩
        · show _ = Except.ok (if _ then _ else _)
          rw [if_pos hpos]
        · rcases List.mem_cons.mp he with rfl | he
          · exact ⟨rfl, flat, hflat, hpos, rfl⟩
          · exact h.cdf entry he
      · rw [if_neg hpos]
        refine ⟨?_, h, rfl, rfl⟩
        show _ = Except.ok (if _ then _ else _)
        rw [if_neg hpos]

/-- A pick is the one computed afresh from the grid in place. -/
theorem pickEv_eq {st : Store F} (h : Coherent M st) (seq : Int) (flow : FlowKey) :
    (M.pickEv st seq flow).1 = Plain.pickEv M ⟨st.wgrid, st.lastMtime⟩ seq flow ∧
    Coherent M (M.pickEv st seq flow).2 ∧
    (M.pickEv st seq flow).2.wgrid = st.wgrid ∧
    (M.pickEv st seq flow).2.lastMtime = st.lastMtime := by
  obtain ⟨hspines, hsubsets⟩ := spinesForFlow_eq h.spines flow
  unfold pickEv Plain.pickEv
  rw [← hspines]
  generalize spinesForFlow M.nSpines M.pathsPerPlane st.spineSubsets flow = found at hsubsets ⊢
  obtain ⟨spines, subsets⟩ := found
  cases spines with
  | error err => exact ⟨rfl, ⟨hsubsets, h.cdf⟩, rfl, rfl⟩
  | ok spines =>
    have hst : Coherent M { st with spineSubsets := subsets } := ⟨hsubsets, h.cdf⟩
    obtain ⟨hcdf, hkept⟩ := cdfFor_eq hst spines
    refine ⟨?_, hkept⟩
    dsimp only at hcdf ⊢
    rw [hcdf, Outcome.ok_bind]
    cases flatWeights st.wgrid M.nPlanes spines <;> rfl

/-! ## Histories -/

variable [Builtins F]

/-- A refresh: the grid of a newer file, if it can be read. -/
def Plain.refreshOnce (M : MrcSnapshot) (p : Plain F) (stat : Stat)
    (loaded : Except Exc (Json F)) : Except Exc Bool × Plain F :=
  match stat with
  | .found mtime =>
    if mtime ≤ p.lastMtime then (.ok false, p)
    else
      match loaded.bind M.wgridFromSnapshot with
      | .error err => (if err.caught transient then .ok false else .error err, p)
      | .ok wgrid => (.ok true, ⟨wgrid, mtime⟩)
  | _ => (.ok false, p)

/-- A call of the policy. -/
inductive Call (F : Type) where
  | pick (seq : Int) (flow : FlowKey)
  | refresh (stat : Stat) (loaded : Except Exc (Json F)) (newId : Nat)

/-- What a call returned or raised. -/
inductive Answer where
  | picked (ev : Except PolicyError (Nat × Nat))
  | refreshed (loaded : Except Exc Bool)

/-- One call. -/
def call (M : MrcSnapshot) (st : Store F) : Call F → Answer × Store F
  | .pick seq flow =>
    let (ev, st) := M.pickEv st seq flow
    (.picked ev, st)
  | .refresh stat loaded newId =>
    let (result, st) := M.refreshOnce st stat loaded newId
    (.refreshed result, st)

/-- The store after a history of calls. -/
def after (M : MrcSnapshot) (st : Store F) (calls : List (Call F)) : Store F :=
  calls.foldl (fun st c => (M.call st c).2) st

/-- The answers of a history of calls. -/
def answers (M : MrcSnapshot) : Store F → List (Call F) → List Answer
  | _, [] => []
  | st, c :: calls => (M.call st c).1 :: answers M (M.call st c).2 calls

/-- One call of the policy without caches. -/
def Plain.call (M : MrcSnapshot) (p : Plain F) : Call F → Answer × Plain F
  | .pick seq flow => (.picked (p.pickEv M seq flow), p)
  | .refresh stat loaded _ =>
    let (result, p) := p.refreshOnce M stat loaded
    (.refreshed result, p)

/-- The answers of the policy without caches. -/
def Plain.answers (M : MrcSnapshot) : Plain F → List (Call F) → List Answer
  | _, [] => []
  | p, c :: calls => (p.call M c).1 :: Plain.answers M (p.call M c).2 calls

/-- The grid a policy starts with, and no file seen. -/
def Plain.start (F : Type) [Floats F] (M : MrcSnapshot) : Plain F := ⟨M.uniformWgrid F, 0⟩

/-- A refresh does what it does without caches. -/
theorem refreshOnce_eq {st : Store F} (h : Coherent M st) (stat : Stat)
    (loaded : Except Exc (Json F)) (newId : Nat) :
    (M.refreshOnce st stat loaded newId).1
        = (Plain.refreshOnce M ⟨st.wgrid, st.lastMtime⟩ stat loaded).1 ∧
    Coherent M (M.refreshOnce st stat loaded newId).2 ∧
    (Plain.mk (M.refreshOnce st stat loaded newId).2.wgrid
        (M.refreshOnce st stat loaded newId).2.lastMtime)
      = (Plain.refreshOnce M ⟨st.wgrid, st.lastMtime⟩ stat loaded).2 := by
  unfold refreshOnce Plain.refreshOnce
  cases stat with
  | missing => exact ⟨rfl, ⟨h.spines, h.cdf⟩, rfl⟩
  | unreadable => exact ⟨rfl, ⟨h.spines, h.cdf⟩, rfl⟩
  | found mtime =>
    unfold statted
    dsimp only
    by_cases hold : mtime ≤ st.lastMtime
    · rw [if_pos hold, if_pos hold]
      exact ⟨rfl, ⟨h.spines, h.cdf⟩, rfl⟩
    · rw [if_neg hold, if_neg hold]
      unfold finish
      dsimp only
      cases loaded.bind M.wgridFromSnapshot with
      | error err =>
        dsimp only
        split
        · exact ⟨rfl, ⟨h.spines, h.cdf⟩, rfl⟩
        · exact ⟨rfl, ⟨h.spines, h.cdf⟩, rfl⟩
      | ok wgrid => exact ⟨rfl, ⟨h.spines, fun _ he => absurd he List.not_mem_nil⟩, rfl⟩

/-- One call: the same answer, and the caches stay coherent. -/
theorem call_eq {st : Store F} (h : Coherent M st) (c : Call F) :
    (M.call st c).1 = (Plain.call M ⟨st.wgrid, st.lastMtime⟩ c).1 ∧
    Coherent M (M.call st c).2 ∧
    Plain.mk (M.call st c).2.wgrid (M.call st c).2.lastMtime
      = (Plain.call M ⟨st.wgrid, st.lastMtime⟩ c).2 := by
  cases c with
  | pick seq flow =>
    obtain ⟨hpick, hcoh, hgrid, hmtime⟩ := pickEv_eq h seq flow
    refine ⟨congrArg Answer.picked hpick, hcoh, ?_⟩
    show Plain.mk (M.pickEv st seq flow).2.wgrid (M.pickEv st seq flow).2.lastMtime = _
    rw [hgrid, hmtime]
    rfl
  | refresh stat loaded newId =>
    obtain ⟨hres, hcoh, hplain⟩ := refreshOnce_eq h stat loaded newId
    exact ⟨congrArg Answer.refreshed hres, hcoh, hplain⟩

theorem coherent_after {st : Store F} (h : Coherent M st) (calls : List (Call F)) :
    Coherent M (M.after st calls) := by
  induction calls generalizing st with
  | nil => exact h
  | cons c calls ih => exact ih (call_eq h c).2.1

/-- A history of calls: the caches do not show in any answer. -/
theorem answers_eq {st : Store F} (h : Coherent M st) (calls : List (Call F)) :
    M.answers st calls = Plain.answers M ⟨st.wgrid, st.lastMtime⟩ calls := by
  induction calls generalizing st with
  | nil => rfl
  | cons c calls ih =>
    obtain ⟨hans, hcoh, hplain⟩ := call_eq h c
    unfold answers Plain.answers
    rw [hans, ih hcoh, hplain]

end MrcSnapshot

/-! ## The same draw -/

namespace HealthAwareMrc

open Normalise

variable {F : Type}

/-- The snapshot policy with the tenant, the grid and the fan-out of a live one. -/
def twin (live : HealthAwareMrc) : MrcSnapshot where
  tenant := live.tenant
  pathsPerPlane := live.pathsPerPlane
  nPlanes := live.table.numPlanes
  nSpines := live.table.numPaths
  paths_pos := live.paths_pos
  paths_le := live.paths_le

/-- The cache a live policy has after some flows. -/
def cacheAfter (live : HealthAwareMrc) (flows : List FlowKey) : SpineSubsets :=
  flows.foldl (fun cache flow =>
    (spinesForFlow live.table.numPaths live.pathsPerPlane cache flow).2) []

theorem cacheAfter_coherent (live : HealthAwareMrc) (flows : List FlowKey) :
    SpinesCoherent live.table.numPaths live.pathsPerPlane (live.cacheAfter flows) := by
  induction flows using List.reverseRecOn with
  | nil => exact fun _ h => absurd h List.not_mem_nil
  | append_singleton flows flow ih =>
    unfold cacheAfter
    rw [List.foldl_append]
    exact (spinesForFlow_eq ih flow).2

theorem mem_of_index {α : Type} {xs : List α} {i : Nat} {x : α} (h : index xs i = .ok x) :
    x ∈ xs := by
  unfold index at h
  split at h
  · rename_i hx
    cases h
    exact List.mem_of_getElem? hx
  · cases h

/-- The weights that a draw gathers are weights of the grid. -/
theorem flatWeights_mem {wgrid : List (List F)} {numPlanes : Nat} {spines : List Nat}
    {flat : List F} (h : flatWeights wgrid numPlanes spines = .ok flat) :
    ∀ w ∈ flat, ∃ row ∈ wgrid, w ∈ row := by
  unfold flatWeights at h
  cases hrows : (List.range numPlanes).mapM fun plane =>
      (index wgrid plane).bind fun row => spines.mapM (index row) with
  | error err =>
    rw [hrows] at h
    cases h
  | ok rows =>
    rw [hrows] at h
    cases h
    intro w hw
    obtain ⟨got, hgot, hw⟩ := List.mem_flatten.mp hw
    obtain ⟨plane, -, hplane⟩ := (Outcome.mem_mapM hrows).1 got hgot
    obtain ⟨row, hrow, hgot⟩ := Outcome.bind_ok.mp hplane
    obtain ⟨spine, -, hspine⟩ := (Outcome.mem_mapM hgot).1 w hw
    exact ⟨row, mem_of_index hrow, mem_of_index hspine⟩

/-- The entries that one row gives. -/
theorem mapM_index {row : List F} {spines : List Nat} (h : ∀ spine ∈ spines, spine < row.length) :
    ∃ ws, spines.mapM (index row) = .ok ws ∧ ws.map some = spines.map fun spine => row[spine]? := by
  induction spines with
  | nil => exact ⟨[], rfl, rfl⟩
  | cons spine spines ih =>
    obtain ⟨hspine, hspines⟩ := List.forall_mem_cons.mp h
    obtain ⟨ws, hws, hmap⟩ := ih hspines
    have hget := List.getElem?_eq_getElem hspine
    refine ⟨row[spine] :: ws, ?_, ?_⟩
    · rw [List.mapM_cons, index_ok hget, hws]
      rfl
    · rw [List.map_cons, List.map_cons, hget, hmap]

/-- What a draw gathers from a grid are its entries at the EVs, plane by plane. -/
theorem flatWeights_entries {wgrid : List (List F)} {numPlanes : Nat} {spines : List Nat}
    (h : ∀ plane < numPlanes, ∃ row, wgrid[plane]? = some row ∧
      ∀ spine ∈ spines, spine < row.length) :
    ∃ flat, flatWeights wgrid numPlanes spines = .ok flat ∧
      flat.map some = (List.range numPlanes ×ˢ spines).map fun ev => entry wgrid ev.1 ev.2 := by
  have hrows : ∀ planes : List Nat, (∀ plane ∈ planes, ∃ row, wgrid[plane]? = some row ∧
      ∀ spine ∈ spines, spine < row.length) →
      ∃ rows, planes.mapM (fun plane => (index wgrid plane).bind fun row =>
        spines.mapM (index row)) = .ok rows ∧
        rows.flatten.map some = (planes ×ˢ spines).map fun ev => entry wgrid ev.1 ev.2 := by
    intro planes hplanes
    induction planes with
    | nil => exact ⟨[], rfl, rfl⟩
    | cons plane planes ih =>
      obtain ⟨⟨row, hrow, hlt⟩, hplanes⟩ := List.forall_mem_cons.mp hplanes
      obtain ⟨rows, hmapM, hmap⟩ := ih hplanes
      obtain ⟨ws, hws, hget⟩ := mapM_index hlt
      refine ⟨ws :: rows, ?_, ?_⟩
      · rw [List.mapM_cons, index_ok hrow, Outcome.ok_bind, hws, hmapM]
        rfl
      · rw [List.flatten_cons, List.map_append, hmap, hget, List.product_cons, List.map_append,
          List.map_map]
        refine congrArg (· ++ _) (List.map_congr_left fun spine _ => ?_)
        show _ = entry wgrid plane spine
        unfold entry
        rw [hrow]
        rfl
  obtain ⟨rows, hmapM, hmap⟩ := hrows (List.range numPlanes) fun plane hp =>
    h plane (List.mem_range.mp hp)
  refine ⟨rows.flatten, ?_, hmap⟩
  unfold flatWeights
  rw [hmapM]
  rfl

/-- An index among the EVs over some spines is the EV that it decodes to. -/
theorem decodeEv_eq {numPlanes : Nat} {spines : List Nat} {n : Nat}
    (hn : n < numPlanes * spines.length) :
    ∃ ev : Nat × Nat, (List.range numPlanes ×ˢ spines)[n]? = some ev ∧
      decodeEv spines n = .ok ev ∧ ev.1 = n / spines.length ∧
      spines[n % spines.length]? = some ev.2 := by
  have hpos : 0 < spines.length := Nat.pos_of_mul_pos_left (Nat.zero_lt_of_lt hn)
  have hplane : n / spines.length < numPlanes := Nat.div_lt_of_lt_mul (by rwa [Nat.mul_comm])
  have hcol : n % spines.length < spines.length := Nat.mod_lt n hpos
  have hget := List.getElem?_eq_getElem hcol
  refine ⟨(n / spines.length, spines[n % spines.length]), ?_, ?_, rfl, hget⟩
  · have h := getElem?_product (List.range numPlanes) spines (i := n / spines.length) hcol
    rw [Nat.div_add_mod', hget, List.getElem?_range hplane] at h
    exact h
  · unfold decodeEv
    rw [index_ok hget]
    rfl

variable [Floats F]

/-- A draw from the weights that it gathers. -/
theorem draw_eq_of_flat {wgrid : List (List F)} {numPlanes : Nat} {spines : List Nat}
    {flat : List F} (h : flatWeights wgrid numPlanes spines = .ok flat) (seq : Int)
    (flow : FlowKey) :
    draw wgrid numPlanes spines seq flow
      = if Floats.le (Floats.sum flat) (Floats.zero : F) then
          (fallback numPlanes spines seq).bind (decodeEv spines)
        else decodeEv spines (weightedPick seq flow (buildCdf flat)) := by
  unfold draw
  rw [h, Outcome.ok_bind]
  dsimp only
  split <;> rfl

/-- The round-robin stays among the flow's EVs. -/
theorem fallback_ok {numPlanes : Nat} {spines : List Nat} (hpos : 0 < numPlanes * spines.length)
    (seq : Int) :
    fallback numPlanes spines seq = .ok (seq % (numPlanes * spines.length : Nat)).toNat ∧
      (seq % (numPlanes * spines.length : Nat)).toNat < numPlanes * spines.length := by
  have hlt := Int.emod_lt_of_pos seq
    (by exact_mod_cast hpos : (0 : Int) < (numPlanes * spines.length : Nat))
  unfold fallback
  rw [if_neg hpos.ne']
  exact ⟨rfl, by omega⟩

/-- The grid that the live policy draws from. -/
theorem wgrid_eq (live : HealthAwareMrc) (s : live.table.Store) :
    live.wgrid F s = .ok ((s.weightsCache live.tenant).map fun row => row.map Floats.ofRat) := by
  unfold wgrid EVStateTable.weightsEv
  rw [EVStateTable.checkTenant_none.mpr live.tenant_mem]

/-- A list of images is the image of a list. -/
theorem exists_map_eq {α β : Type} {f : α → β} {P : α → Prop} {ys : List β}
    (h : ∀ y ∈ ys, ∃ x, P x ∧ f x = y) : ∃ xs : List α, (∀ x ∈ xs, P x) ∧ xs.map f = ys := by
  induction ys with
  | nil => exact ⟨[], fun x hx => absurd hx List.not_mem_nil, rfl⟩
  | cons y ys ih =>
    obtain ⟨x, hx, rfl⟩ := h y (List.mem_cons_self ..)
    obtain ⟨xs, hxs, rfl⟩ := ih fun y hy => h y (List.mem_cons_of_mem _ hy)
    refine ⟨x :: xs, fun x' hx' => ?_, rfl⟩
    rcases List.mem_cons.mp hx' with rfl | hx'
    · exact hx
    · exact hxs x' hx'

/-- One policy asks whether the sum is zero or less, the other whether it is above zero: on the
    weights of a table they agree. -/
theorem draw_eq {weights : List (List ℚ)} (hnonneg : ∀ row ∈ weights, ∀ w ∈ row, 0 ≤ w)
    (M : MrcSnapshot) (spines : List Nat) (seq : Int) (flow : FlowKey) :
    draw (F := F) (weights.map fun row => row.map Floats.ofRat) M.nPlanes spines seq flow
      = (flatWeights (F := F) (weights.map fun row => row.map Floats.ofRat) M.nPlanes spines).bind
          fun flat => M.drawFrom spines seq flow
            (if Floats.lt (Floats.zero : F) (Floats.sum flat) then some (buildCdf flat)
              else none) := by
  unfold draw
  cases hflat : flatWeights (F := F) (weights.map fun row => row.map Floats.ofRat) M.nPlanes
      spines with
  | error err => rfl
  | ok flat =>
    have himage : ∀ w ∈ flat, ∃ x : ℚ, 0 ≤ x ∧ Floats.ofRat x = w := by
      intro w hw
      obtain ⟨row', hrow', hw⟩ := flatWeights_mem hflat w hw
      obtain ⟨row, hrow, rfl⟩ := List.mem_map.mp hrow'
      obtain ⟨x, hx, rfl⟩ := List.mem_map.mp hw
      exact ⟨x, hnonneg row hrow x hx, rfl⟩
    obtain ⟨ws, hws, rfl⟩ := exists_map_eq himage
    rw [Outcome.ok_bind, Outcome.ok_bind, Floats.sum_weights ws hws]
    unfold MrcSnapshot.drawFrom
    cases Floats.lt (Floats.zero : F) (Floats.sum (ws.map Floats.ofRat)) <;> rfl

/-- A pick of the live policy, whatever the cache. -/
theorem pickEv_eq {live : HealthAwareMrc} {cache : SpineSubsets}
    (hcache : SpinesCoherent live.table.numPaths live.pathsPerPlane cache) (s : live.table.Store)
    (seq : Int) (flow : FlowKey) :
    (live.pickEv F s cache seq flow).1
        = (selectSpinesForAddrs live.table.numPaths flow.srcAddr flow.dstAddr
            live.pathsPerPlane).bind (fun spines =>
          draw ((s.weightsCache live.tenant).map fun row => row.map (Floats.ofRat : ℚ → F))
            live.table.numPlanes spines seq flow) ∧
      SpinesCoherent live.table.numPaths live.pathsPerPlane (live.pickEv F s cache seq flow).2 := by
  obtain ⟨hspines, hcache'⟩ := spinesForFlow_eq hcache flow
  refine ⟨?_, hcache'⟩
  show (spinesForFlow live.table.numPaths live.pathsPerPlane cache flow).1.bind (fun spines =>
    (live.wgrid F s).bind fun wgrid => draw wgrid live.table.numPlanes spines seq flow) = _
  rw [hspines, live.wgrid_eq s]
  rfl

/-- A pick of the snapshot policy draws like the live one. -/
theorem snapshot_pickEv {M : MrcSnapshot} {st : MrcSnapshot.Store F}
    (hst : MrcSnapshot.Coherent M st) {weights : List (List ℚ)}
    (hnonneg : ∀ row ∈ weights, ∀ w ∈ row, 0 ≤ w)
    (hgrid : st.wgrid = weights.map fun row => row.map Floats.ofRat) (seq : Int) (flow : FlowKey) :
    (M.pickEv st seq flow).1
      = (selectSpinesForAddrs M.nSpines flow.srcAddr flow.dstAddr M.pathsPerPlane).bind
          fun spines => draw st.wgrid M.nPlanes spines seq flow := by
  rw [(MrcSnapshot.pickEv_eq hst seq flow).1]
  unfold MrcSnapshot.Plain.pickEv
  rw [hgrid]
  exact congrArg _ (funext fun spines => (draw_eq hnonneg M spines seq flow).symm)

/-- A twin that has loaded what the live policy's table publishes picks what the live policy
    picks. -/
theorem pickEv_twin {live : HealthAwareMrc} {s : live.table.Store}
    (hfresh : EVStateTable.WeightsFresh s) {st : MrcSnapshot.Store F}
    (hst : MrcSnapshot.Coherent live.twin st)
    (hgrid : st.wgrid = (s.weightsCache live.tenant).map fun row => row.map Floats.ofRat)
    (flows : List FlowKey) (seq : Int) (flow : FlowKey) :
    (live.twin.pickEv st seq flow).1 = (live.pickEv F s (live.cacheAfter flows) seq flow).1 := by
  have hnonneg : ∀ row ∈ s.weightsCache live.tenant, ∀ w ∈ row, 0 ≤ w := by
    rw [hfresh live.tenant live.tenant_mem]
    exact EVStateTable.gridWeights_nonneg _
  rw [snapshot_pickEv hst hnonneg hgrid, (pickEv_eq (live.cacheAfter_coherent flows) s seq flow).1,
    hgrid]
  rfl

end HealthAwareMrc

/-! ## The twin property -/

open EVStateTable MrcSnapshot in
/-- The snapshot policy is a twin of the live one, whatever the floats.  At every point of every run
    of a table its snapshot can be written; a twin that loads it, as it is or in the daemon's
    wrapper and after any history of its own, picks for every packet what the live policy picks from
    that table.  And in every history of picks and refreshes of a policy, each answer is the one
    computed afresh from the grid last loaded. -/
theorem snapshot_policy_twin (F : Type) [Floats F] [Builtins F] (live : HealthAwareMrc)
    (cb : Option (TransitionCb live.table)) (calls : List EVStateTable.Call)
    (s : live.table.Store) (hs : live.table.AtPoint cb calls s) :
    (∃ doc : Json F, live.table.snapshot s = .ok doc ∧
      ∀ published : Json F,
        (published = doc ∨ ∃ payload : DaemonPayload F, published = payload.json doc) →
      ∀ (wgridId : Nat) (history : List (MrcSnapshot.Call F)) (mtime : ℚ) (newId : Nat),
        let st := live.twin.after (live.twin.start F wgridId) history
        st.lastMtime < mtime →
        let r := live.twin.refreshOnce st (.found mtime) (.ok published) newId
        r.1 = .ok true ∧ ∀ flows seq flow,
          (live.twin.pickEv r.2 seq flow).1
            = (live.pickEv F s (live.cacheAfter flows) seq flow).1) ∧
    ∀ (M : MrcSnapshot) (wgridId : Nat) (history : List (MrcSnapshot.Call F)),
      M.answers (M.start F wgridId) history = Plain.answers M (Plain.start F M) history := by
  have hfresh : WeightsFresh s := hs.inv (fresh_after cb calls) fresh_writeInv
  have hcovers : ∀ tenant ∈ live.table.tenants, live.table.Covers (s.weightsCache tenant) := by
    intro tenant hmem
    rw [hfresh tenant hmem]
    exact gridWeights_covers _
  refine ⟨⟨document F s, snapshot_ok hcovers, ?_⟩,
    fun M wgridId history => answers_eq (coherent_start wgridId) history⟩
  intro published hpub wgridId history mtime newId st hnewer r
  have hread : live.twin.wgridFromSnapshot published
      = .ok ((s.weightsCache live.tenant).map fun row => row.map Floats.ofRat) := by
    have hdoc : live.twin.wgridFromSnapshot (document F s)
        = .ok ((s.weightsCache live.tenant).map fun row => row.map Floats.ofRat) :=
      wgrid_document rfl rfl live.tenant_mem (hcovers live.tenant live.tenant_mem)
    rcases hpub with rfl | ⟨payload, rfl⟩
    · exact hdoc
    · exact (wgrid_payload live.twin payload s).trans hdoc
  have hcoh : Coherent live.twin st := coherent_after (coherent_start wgridId) history
  have hloaded : r.1 = .ok true ∧
      r.2.wgrid = (s.weightsCache live.tenant).map fun row => row.map Floats.ofRat := by
    subst r
    unfold refreshOnce statted
    dsimp only
    rw [if_neg (not_le.mpr hnewer)]
    unfold finish
    dsimp only
    rw [Outcome.ok_bind, hread]
    exact ⟨rfl, rfl⟩
  exact ⟨hloaded.1, fun flows seq flow => HealthAwareMrc.pickEv_twin hfresh
    (refreshOnce_eq hcoh (.found mtime) (.ok published) newId).2.1 hloaded.2 flows seq flow⟩

/-- Two of the three paths of the small table, for one flow. -/
def twoOfThree : HealthAwareMrc where
  table := EVStateTable.threePaths {} (by decide)
  tenant := "green"
  pathsPerPlane := 2
  tenant_mem := List.mem_singleton_self _
  paths_pos := Nat.zero_lt_two
  paths_le := by decide

/-- A flow between two hosts. -/
def oneFlow : FlowKey := ⟨"2001:db8::1", "2001:db8::2", 7, 9⟩

/-- The flow has paths 0 and 1; path 1 demoted and the snapshot loaded, both policies pick path 0. -/
theorem snapshot_policy_twin_twoOfThree :
    let s := twoOfThree.table.after none
      [.probeSent "green" 0 1, .probeSent "green" 0 1, .probeSent "green" 0 1, .tick "green"]
    ∃ doc : Json ℚ, twoOfThree.table.snapshot s = .ok doc ∧
      let r := twoOfThree.twin.refreshOnce (twoOfThree.twin.start ℚ 0) (.found 1) (.ok doc) 1
      r.1 = .ok true ∧
      (twoOfThree.twin.pickEv r.2 5 oneFlow).1 = (twoOfThree.pickEv ℚ s [] 5 oneFlow).1 ∧
      (twoOfThree.pickEv ℚ s [] 5 oneFlow).1 = .ok (0, 0) := by
  intro s
  obtain ⟨⟨doc, hdoc, h⟩, -⟩ := snapshot_policy_twin ℚ twoOfThree none _ s (Or.inl rfl)
  refine ⟨doc, hdoc, ?_⟩
  obtain ⟨hloaded, hpick⟩ := h doc (Or.inl rfl) 0 [] 1 1 (by decide)
  exact ⟨hloaded, hpick [] 5 oneFlow, by decide +kernel⟩

end Srv6Mrc
