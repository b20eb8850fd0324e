/-
  The document that goes from the daemon to a data sender: `EVStateTable.snapshot` of `ev_state.py`,
  the payload that `daemon.py` wraps it in, and `_wgrid_from_snapshot` of `policy.py`, which reads
  the weights out of either.

  The EVs of a tenant are a flat list, plane by plane, and the reader finds one by its index.
-/
import Srv6Mrc.EvState.WeightGrid
import Srv6Mrc.Lib.Json
import Srv6Mrc.Policy.Draw

namespace Srv6Mrc

open Py

/-! ## Writing -/

/-- `round(x, 6)`: the nearest multiple of `10 ** -6`, the even one of two. -/
def roundSix (q : ℚ) : ℚ :=
  let n := ⌊q * 10 ^ 6⌋
  let rest := q * 10 ^ 6 - n
  (if rest < 1 / 2 ∨ rest = 1 / 2 ∧ n % 2 = 0 then n else n + 1) / 10 ^ 6

namespace EVStateTable

variable {F : Type} [Floats F] (T : EVStateTable)

/-- The `"config"` of a snapshot. -/
def configJson : Json F :=
  .obj [("probe_window_ticks", .int T.cfg.probeWindowTicks),
    ("probe_min_samples", .int T.cfg.probeMinSamples),
    ("probe_fail_ratio", .float (Floats.ofRat T.cfg.probeFailRatio)),
    ("probe_recover_ratio", .float (Floats.ofRat T.cfg.probeRecoverRatio)),
    ("probe_recover_ticks", .int T.cfg.probeRecoverTicks),
    ("loss_threshold", .float (Floats.ofRat T.cfg.lossThreshold)),
    ("loss_demote_consecutive", .int T.cfg.lossDemoteConsecutive),
    ("min_active_evs", .int T.minActive),
    ("loss_backoff_max_level", .int T.cfg.lossBackoffMaxLevel),
    ("loss_backoff_reset_ticks", .int T.cfg.lossBackoffResetTicks)]

/-- One EV of a snapshot. -/
def recordJson (e : T.EV) (r : EVRecord) (weight : ℚ) : Json F :=
  .obj [("plane", .int (e.1 : Nat)),
    ("path", .int (e.2 : Nat)),
    ("state", .str r.state.value),
    ("window_sent", .int r.windowSent),
    ("window_recv", .int r.windowRecv),
    ("total_sent", .int r.totalSent),
    ("total_recv", .int r.totalRecv),
    ("last_probe_ratio", .float (Floats.ofRat (roundSix r.lastProbeRatio))),
    ("consecutive_healthy_windows", .int r.consecutiveHealthyWindows),
    ("consecutive_loss_demote_windows", .int r.consecutiveLossDemoteWindows),
    ("last_loss_ratio", .float (Floats.ofRat (roundSix r.lastLossRatio))),
    ("transitions", .int r.transitions),
    ("demotes_suppressed_by_floor", .int r.demotesSuppressedByFloor),
    ("loss_backoff_level", .int r.lossBackoffLevel),
    ("weight", .float (Floats.ofRat weight))]

/-- The EVs of one tenant. -/
def tenantJson (s : T.Store) (tenant : String) : Except PolicyError (Json F) :=
  (T.cells.mapM fun e =>
    (index (s.weightsCache tenant) e.1).bind fun row =>
      (index row e.2).map fun weight => T.recordJson e (s.evs tenant e) weight).map .arr

/-- `snapshot` -/
def snapshot (s : T.Store) : Except PolicyError (Json F) :=
  (T.tenants.eraseDups.mapM fun tenant =>
    (T.tenantJson s tenant).map fun evs => (tenant, evs)).map fun tenants =>
      .obj [("config", T.configJson), ("num_planes", .int T.numPlanes),
        ("num_paths", .int T.numPaths), ("tenants", .obj tenants)]

end EVStateTable

/-- What the daemon adds to a snapshot. -/
structure DaemonPayload (F : Type) where
  srcHost : String
  srcId : Int
  tenant : String
  dstId : Int
  capturedNs : Int
  transportStats : Json F
  dispatchStats : Json F
  dispatchRxGapBuckets : Json F
  dispatchRxBacklogBuckets : Json F
  kernelRxDwellBuckets : Json F
  probeEmitBuckets : Json F

/-- The payload of `_publish_all_snapshots`. -/
def DaemonPayload.json {F : Type} (p : DaemonPayload F) (snap : Json F) : Json F :=
  .obj [("src_host", .str p.srcHost), ("src_id", .int p.srcId), ("tenant", .str p.tenant),
    ("dst_id", .int p.dstId), ("captured_ns", .int p.capturedNs), ("ev_state", snap),
    ("transport_stats", p.transportStats), ("dispatch_stats", p.dispatchStats),
    ("dispatch_rx_gap_buckets", p.dispatchRxGapBuckets),
    ("dispatch_rx_backlog_buckets", p.dispatchRxBacklogBuckets),
    ("kernel_rx_dwell_buckets", p.kernelRxDwellBuckets),
    ("probe_emit_buckets", p.probeEmitBuckets)]

/-! ## Reading -/

/-- What `MrcSnapshot.__init__` accepts. -/
structure MrcSnapshot where
  tenant : String
  pathsPerPlane : Nat
  nPlanes : Nat
  nSpines : Nat
  paths_pos : 1 ≤ pathsPerPlane
  paths_le : pathsPerPlane ≤ nSpines

namespace MrcSnapshot

/-- The checks of `__init__`, for a topology of `planes` planes with `spines` spines each. -/
def new (tenant : String) (pathsPerPlane : Int) (planes spines : Nat) (refreshIntervalMs : Int) :
    Except PolicyError MrcSnapshot :=
  let paths : Int := if pathsPerPlane = -1 then spines else pathsPerPlane
  if hrange : 1 ≤ paths ∧ paths ≤ spines then
    if refreshIntervalMs ≤ 0 then .error (.refreshInterval refreshIntervalMs)
    else .ok {
      tenant := tenant
      pathsPerPlane := paths.toNat
      nPlanes := planes
      nSpines := spines
      paths_pos := by omega
      paths_le := by omega }
  else .error (.pathsPerPlane spines paths)

variable {F : Type} [Builtins F]

/-- The table's part of a document: under `"ev_state"` if a dict is there, else all of it. -/
def unwrap (data : Json F) : Except Exc (Json F) :=
  (data.get "ev_state").map fun wrapped =>
    match wrapped with
    | some (.obj fields) => .obj fields
    | _ => data

/-- `int(data["num_planes"])` and `int(data["num_paths"])` -/
def dims (data : Json F) : Except Exc (Int × Int) :=
  (data.item "num_planes").bind fun planes => planes.toInt.bind fun nPlanes =>
    (data.item "num_paths").bind fun paths => paths.toInt.map fun nPaths => (nPlanes, nPaths)

/-- `tenants[self.tenant]`, or the `KeyError` whose message lists the tenants. -/
def tenantEvs (tenant : String) (data : Json F) : Except Exc (Json F) :=
  (data.get "tenants").bind fun found =>
    let tenants := found.getD (.obj [])
    (tenants.contains tenant).bind fun known =>
      if known then tenants.item tenant else tenants.keys.bind fun _ => .error .keyError

/-- `float(evs[i]["weight"])` -/
def weightAt (evs : Json F) (i : Nat) : Except Exc F :=
  (evs.index i).bind fun rec => (rec.item "weight").bind Json.toFloat

/-- The loop over planes and paths. -/
def gridOf (nPlanes nPaths : Nat) (evs : Json F) : Except Exc (List (List F)) :=
  (List.range nPlanes).mapM fun plane =>
    (List.range nPaths).mapM fun path => weightAt evs (plane * nPaths + path)

/-- `_wgrid_from_snapshot` -/
def wgridFromSnapshot (M : MrcSnapshot) (data : Json F) : Except Exc (List (List F)) :=
  (unwrap data).bind fun data => (dims data).bind fun (nPlanes, nPaths) =>
    if nPlanes ≠ M.nPlanes ∨ nPaths ≠ M.nSpines then .error .valueError
    else (tenantEvs M.tenant data).bind fun evs => evs.len.bind fun n =>
      if (n : Int) ≠ nPlanes * nPaths then .error .valueError
      else gridOf M.nPlanes M.nSpines evs

end MrcSnapshot

/-! ## What is read of what was written -/

open Normalise

theorem index_ok {α : Type} {xs : List α} {i : Nat} {x : α} (h : xs[i]? = some x) :
    index xs i = .ok x := by
  unfold index
  rw [h]

/-- A row and then an entry of it. -/
theorem index_entry {α β : Type} {rows : List (List α)} {i j : Nat} {x : α}
    (h : entry rows i j = some x) (f : α → β) :
    ((index rows i).bind fun row => (index row j).map f) = .ok (f x) := by
  obtain ⟨row, hrow, hx⟩ := Option.bind_eq_some_iff.mp h
  rw [index_ok hrow]
  show (index row j).map f = _
  rw [index_ok hx]
  rfl

/-- The product of two lists, row by row. -/
theorem getElem?_product {α β : Type} (as : List α) (bs : List β) {i j : Nat}
    (hj : j < bs.length) :
    (as.flatMap fun a => bs.map fun b => (a, b))[i * bs.length + j]?
      = as[i]?.bind fun a => bs[j]?.map fun b => (a, b) := by
  induction as generalizing i with
  | nil => simp
  | cons a as ih =>
    rw [List.flatMap_cons]
    cases i with
    | zero =>
      rw [Nat.zero_mul, Nat.zero_add, List.getElem?_append_left (by rw [List.length_map]; exact hj),
        List.getElem?_map]
      rfl
    | succ i =>
      have hle : bs.length ≤ (i + 1) * bs.length + j := by
        rw [Nat.succ_mul]
        omega
      have hsub : (i + 1) * bs.length + j - bs.length = i * bs.length + j := by
        rw [Nat.succ_mul]
        omega
      rw [List.getElem?_append_right (by rw [List.length_map]; exact hle), List.length_map, hsub, ih]
      rfl

namespace EVStateTable

variable {F : Type} [Floats F] {T : EVStateTable}

/-- The EV with a given index. -/
theorem getElem?_cells (e : T.EV) : T.cells[(e.1 : Nat) * T.numPaths + e.2]? = some e := by
  have h := getElem?_product (List.finRange T.numPlanes) (List.finRange T.numPaths)
    (i := e.1) (j := e.2) (by rw [List.length_finRange]; exact e.2.isLt)
  rw [List.length_finRange] at h
  unfold cells
  rw [h]
  simp

variable (T) in
/-- A grid with an entry for each EV. -/
structure Covers (weights : List (List ℚ)) : Prop where
  planes : weights.length = T.numPlanes
  paths : ∀ row ∈ weights, row.length = T.numPaths

/-- The weight of an EV. -/
def weightOf (weights : List (List ℚ)) (e : T.EV) : ℚ := (entry weights e.1 e.2).getD 0

/-- Every EV has its weight in the grid. -/
theorem Covers.entry_eq {weights : List (List ℚ)} (h : T.Covers weights) (e : T.EV) :
    entry weights e.1 e.2 = some (weightOf weights e) := by
  have hp : (e.1 : Nat) < weights.length := by rw [h.planes]; exact e.1.isLt
  have hq : (e.2 : Nat) < weights[(e.1 : Nat)].length := by
    rw [h.paths _ (List.getElem_mem hp)]
    exact e.2.isLt
  have hentry : entry weights e.1 e.2 = some weights[(e.1 : Nat)][(e.2 : Nat)] := by
    unfold entry
    rw [List.getElem?_eq_getElem hp]
    exact List.getElem?_eq_getElem hq
  unfold weightOf
  rw [hentry]
  rfl

/-- The published grid always has an entry for each EV, and none is negative. -/
theorem gridWeights_covers (grid : T.EV → EVRecord) : T.Covers (T.gridWeights grid) := by
  unfold gridWeights
  dsimp only
  split
  · refine ⟨List.length_replicate, fun row hrow => ?_⟩
    rw [List.eq_of_mem_replicate hrow, List.length_replicate]
  · refine ⟨by simp [rawWeights], fun row hrow => ?_⟩
    obtain ⟨row', hrow', rfl⟩ := List.mem_map.mp hrow
    obtain ⟨p, -, rfl⟩ := List.mem_map.mp hrow'
    simp

theorem gridWeights_nonneg (grid : T.EV → EVRecord) :
    ∀ row ∈ T.gridWeights grid, ∀ w ∈ row, 0 ≤ w := by
  have hraw : ∀ w ∈ (T.rawWeights grid).flatten, 0 ≤ w := by
    intro w hw
    rw [rawWeights_flatten] at hw
    obtain ⟨c, -, rfl⟩ := List.mem_map.mp hw
    exact stateWeight_nonneg _
  intro row hrow w hw
  unfold gridWeights at hrow
  dsimp only at hrow
  split at hrow
  · rw [List.eq_of_mem_replicate hrow] at hw
    rw [List.eq_of_mem_replicate hw]
    exact one_div_nonneg.mpr (Nat.cast_nonneg _)
  · obtain ⟨row', hrow', rfl⟩ := List.mem_map.mp hrow
    obtain ⟨x, hx, rfl⟩ := List.mem_map.mp hw
    exact div_nonneg (hraw x (List.mem_flatten_of_mem hrow' hx)) (List.sum_nonneg hraw)

/-- The EVs of a tenant, written. -/
theorem tenantJson_ok {s : T.Store} {tenant : String} (h : T.Covers (s.weightsCache tenant)) :
    T.tenantJson s tenant = .ok (.arr (T.cells.map fun e =>
      (T.recordJson e (s.evs tenant e) (weightOf (s.weightsCache tenant) e) : Json F))) := by
  unfold tenantJson
  rw [Outcome.mapM_ok fun e _ => index_entry (h.entry_eq e)
    fun weight => T.recordJson e (s.evs tenant e) weight]
  rfl

variable (F) in
/-- The document of a table with a grid for every tenant. -/
def document (s : T.Store) : Json F :=
  .obj [("config", T.configJson), ("num_planes", .int T.numPlanes), ("num_paths", .int T.numPaths),
    ("tenants", .obj (T.tenants.eraseDups.map fun tenant =>
      (tenant, .arr (T.cells.map fun e =>
        T.recordJson e (s.evs tenant e) (weightOf (s.weightsCache tenant) e)))))]

/-- A snapshot can be taken if the cache covers the grid. -/
theorem snapshot_ok {s : T.Store} (h : ∀ tenant ∈ T.tenants, T.Covers (s.weightsCache tenant)) :
    T.snapshot s = .ok (document F s) := by
  unfold snapshot
  rw [Outcome.mapM_ok (g := fun tenant => (tenant, .arr (T.cells.map fun e =>
    T.recordJson e (s.evs tenant e) (weightOf (s.weightsCache tenant) e))))]
  · rfl
  · intro tenant hmem
    rw [tenantJson_ok (h tenant (List.mem_eraseDups.mp hmem))]
    rfl

end EVStateTable

/-- A dict made of its keys has an entry for each of them. -/
theorem field_map {F : Type} {keys : List String} {key : String} (h : key ∈ keys)
    (f : String → Json F) : Json.field key (keys.map fun k => (k, f k)) = some (f key) := by
  unfold Json.field
  induction keys with
  | nil => exact absurd h List.not_mem_nil
  | cons k keys ih =>
    rw [List.map_cons, List.find?_cons]
    by_cases hk : k = key
    · subst hk
      simp
    · rw [show decide (k = key) = false from decide_eq_false hk]
      exact ih ((List.mem_cons.mp h).resolve_left fun heq => hk heq.symm)

namespace MrcSnapshot

variable {F : Type} [Builtins F] [Floats F] {T : EVStateTable}

/-- The weights of a tenant's list, read back. -/
theorem gridOf_ok {s : T.Store} {tenant : String} (h : T.Covers (s.weightsCache tenant)) :
    gridOf T.numPlanes T.numPaths (.arr (T.cells.map fun e =>
      (T.recordJson e (s.evs tenant e) (T.weightOf (s.weightsCache tenant) e) : Json F)))
    = .ok ((s.weightsCache tenant).map fun row => row.map Floats.ofRat) := by
  have hat : ∀ (p : Fin T.numPlanes) (q : Fin T.numPaths),
      weightAt (.arr (T.cells.map fun e =>
        (T.recordJson e (s.evs tenant e) (T.weightOf (s.weightsCache tenant) e) : Json F)))
        (p * T.numPaths + q)
      = .ok (Floats.ofRat (T.weightOf (s.weightsCache tenant) (p, q))) := by
    intro p q
    unfold weightAt Json.index
    dsimp only
    rw [List.getElem?_map, EVStateTable.getElem?_cells (p, q)]
    rfl
  have hrow : ∀ plane ∈ List.range T.numPlanes,
      ((List.range T.numPaths).mapM fun path => weightAt (.arr (T.cells.map fun e =>
        (T.recordJson e (s.evs tenant e) (T.weightOf (s.weightsCache tenant) e) : Json F)))
        (plane * T.numPaths + path))
      = .ok (((s.weightsCache tenant)[plane]?.getD []).map Floats.ofRat) := by
    intro plane hplane
    -- row by row, and cell by cell in a row
    have hp : plane < T.numPlanes := List.mem_range.mp hplane
    have hp' : plane < (s.weightsCache tenant).length := h.planes ▸ hp
    have hlen := h.paths _ (List.getElem_mem hp')
    rw [Outcome.mapM_ok (g := fun path =>
      Floats.ofRat ((entry (s.weightsCache tenant) plane path).getD 0))]
    · rw [List.getElem?_eq_getElem hp', Option.getD_some]
      refine congrArg Except.ok (List.ext_getElem? fun path => ?_)
      rw [List.getElem?_map, List.getElem?_map]
      by_cases hq : path < T.numPaths
      · rw [List.getElem?_range hq, Option.map_some, entry, List.getElem?_eq_getElem hp',
          Option.bind_some, List.getElem?_eq_getElem (hlen ▸ hq)]
        rfl
      · rw [List.getElem?_eq_none (by rw [List.length_range]; omega),
          List.getElem?_eq_none (by omega)]
        rfl
    · intro path hpath
      exact hat ⟨plane, hp⟩ ⟨path, List.mem_range.mp hpath⟩
  unfold gridOf
  rw [Outcome.mapM_ok hrow]
  refine congrArg Except.ok (List.ext_getElem? fun plane => ?_)
  rw [List.getElem?_map, List.getElem?_map]
  by_cases hp : plane < T.numPlanes
  · rw [List.getElem?_range hp, Option.map_some, List.getElem?_eq_getElem (h.planes ▸ hp)]
    rfl
  · rw [List.getElem?_eq_none (by rw [List.length_range]; omega),
      List.getElem?_eq_none (by rw [h.planes]; omega)]
    rfl

/-- The weights of a snapshot, read by a policy of its grid and one of its tenants. -/
theorem wgrid_document {M : MrcSnapshot} (hplanes : M.nPlanes = T.numPlanes)
    (hpaths : M.nSpines = T.numPaths) (hmem : M.tenant ∈ T.tenants) {s : T.Store}
    (h : T.Covers (s.weightsCache M.tenant)) :
    M.wgridFromSnapshot (EVStateTable.document F s)
      = .ok ((s.weightsCache M.tenant).map fun row => row.map Floats.ofRat) := by
  have hevs : tenantEvs M.tenant (EVStateTable.document F s)
      = .ok (.arr (T.cells.map fun e => T.recordJson e (s.evs M.tenant e)
          (T.weightOf (s.weightsCache M.tenant) e))) := by
    have hfield := field_map (List.mem_eraseDups.mpr hmem) fun tenant =>
      (.arr (T.cells.map fun e => T.recordJson e (s.evs tenant e)
        (T.weightOf (s.weightsCache tenant) e)) : Json F)
    have hget : Json.get "tenants" (EVStateTable.document F s)
        = .ok (some (.obj (T.tenants.eraseDups.map fun tenant =>
          (tenant, .arr (T.cells.map fun e => T.recordJson e (s.evs tenant e)
            (T.weightOf (s.weightsCache tenant) e)))))) := rfl
    unfold tenantEvs
    rw [hget, Outcome.ok_bind]
    dsimp only [Option.getD_some]
    unfold Json.contains
    dsimp only
    rw [hfield, Outcome.ok_bind]
    show Json.item M.tenant (.obj _) = _
    unfold Json.item
    dsimp only
    rw [hfield]
  have hunwrap : unwrap (EVStateTable.document F s) = .ok (EVStateTable.document F s) := rfl
  have hdims : dims (EVStateTable.document F s) = .ok ((T.numPlanes : Int), (T.numPaths : Int)) :=
    rfl
  unfold wgridFromSnapshot
  rw [hunwrap, Outcome.ok_bind, hdims, Outcome.ok_bind]
  dsimp only
  rw [if_neg (by rw [hplanes, hpaths]; simp), hevs, Outcome.ok_bind]
  unfold Json.len
  dsimp only
  rw [Outcome.ok_bind, if_neg, hplanes, hpaths]
  · exact gridOf_ok h
  · rw [List.length_map, EVStateTable.length_cells]
    simp

/-- The daemon's wrapper is taken off. -/
theorem wgrid_payload (M : MrcSnapshot) (payload : DaemonPayload F) (s : T.Store) :
    M.wgridFromSnapshot (payload.json (EVStateTable.document F s))
      = M.wgridFromSnapshot (EVStateTable.document F s) := rfl

end MrcSnapshot

end Srv6Mrc
