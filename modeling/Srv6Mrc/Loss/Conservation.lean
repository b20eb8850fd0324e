/-
  The receiver's windows conserve arrivals.

  `Tracked` says what the dictionary holds at every moment of a run: for each flow, cells that count
  what is pending for it, and an id that counts its snapshots.  A snapshot turns the pending cells
  into records (`report_eq`), and so every arrival is in one report, or pending (`conserved`).
-/
import Srv6Mrc.Loss.Arrivals

namespace Srv6Mrc.LossWindowTable

variable {W : LossWindowTable} {K : Type} [DecidableEq K]

/-! ## One snapshot -/

/-- The record says this of the EV: its arrivals, the span of the full ones, capped, and their
    largest gap. -/
structure Reports (rec : PlaneLossRecord) (e : W.EV) (seqs : List Int) (trimmed : Nat) : Prop where
  plane : rec.planeId.toNat = e.1
  path : rec.pathId.toNat = e.2
  seen : rec.seen.toNat = seqs.length
  expected : (rec.expected.toNat : Int) = min (span seqs) 0xFFFFFFFF
  maxGap : (rec.maxGap.toNat : Int) = largestIncrease seqs
  trimmed : rec.trimmed.toNat = trimmed

/-- The record of a cell, on a grid whose indices fit a byte. -/
def recordOf (e : W.EV) (c : EvCounters) : PlaneLossRecord where
  planeId := .ofNat e.1
  pathId := .ofNat e.2
  seen := .ofNat (min c.seen 0xFFFFFFFF)
  expected := .ofNat (min c.expectedLocal 0xFFFFFFFF).toNat
  maxGap := .ofNat (min c.maxGap 0xFFFFFFFF).toNat
  trimmed := .ofNat (min c.trimmed 0xFFFFFFFF)

theorem checkU8_ok {v : Int} (h0 : 0 ≤ v) (h1 : v ≤ 0xFF) (name : String) :
    checkU8 v name = .ok (.ofNat v.toNat) := if_neg (by omega)

theorem checkU32_ok {v : Int} (h0 : 0 ≤ v) (h1 : v ≤ 0xFFFFFFFF) (name : String) :
    checkU32 v name = .ok (.ofNat v.toNat) := if_neg (by omega)

/-- On a grid of up to 256 planes and paths an EV's record can be made. -/
theorem evRecord_eq (hp : W.numPlanes ≤ 256) (hq : W.numPaths ≤ 256) (e : W.EV) {c : EvCounters}
    {seqs : List Int} {trimmed : Nat} (hc : Counts c seqs trimmed) (hpos : ∀ s ∈ seqs, 0 ≤ s) :
    W.evRecord e c = .ok (recordOf e c) := by
  have h1 := e.1.isLt
  have h2 := e.2.isLt
  have hspan : 0 ≤ c.expectedLocal := hc.expectedLocal hpos ▸ span_nonneg seqs
  have hgap : 0 ≤ c.maxGap := hc.gap ▸ largestIncrease_nonneg seqs
  unfold evRecord PlaneLossRecord.new
  rw [checkU8_ok (by omega) (by omega), checkU8_ok (by omega) (by omega),
    checkU32_ok (by omega) (by omega), checkU32_ok (by omega) (by omega),
    checkU32_ok (by omega) (by omega), checkU32_ok (by omega) (by omega)]
  rfl

/-- The record of an EV reports what arrived, below the caps. -/
theorem reports_recordOf (hp : W.numPlanes ≤ 256) (hq : W.numPaths ≤ 256) (e : W.EV)
    {c : EvCounters} {seqs : List Int} {trimmed : Nat} (hc : Counts c seqs trimmed)
    (hpos : ∀ s ∈ seqs, 0 ≤ s) (htop : ∀ s ∈ seqs, s ≤ 0xFFFFFFFF)
    (hseen : seqs.length < 2 ^ 32) (htrim : trimmed < 2 ^ 32) :
    Reports (recordOf e c) e seqs trimmed := by
  have h1 : e.1.val < 2 ^ 8 := Nat.lt_of_lt_of_le e.1.isLt hp
  have h2 : e.2.val < 2 ^ 8 := Nat.lt_of_lt_of_le e.2.isLt hq
  have hspan := span_nonneg seqs
  have hgap0 := largestIncrease_nonneg seqs
  have hgap1 := largestIncrease_le (by decide) hpos htop
  have hword : ∀ n : Nat, n ≤ 0xFFFFFFFF → (UInt32.ofNat n).toNat = n := by
    intro n hn
    exact UInt32.toNat_ofNat_of_lt' (Nat.lt_succ_of_le hn)
  refine ⟨UInt8.toNat_ofNat_of_lt' h1, UInt8.toNat_ofNat_of_lt' h2, ?_, ?_, ?_, ?_⟩
  · show (UInt32.ofNat (min c.seen 0xFFFFFFFF)).toNat = _
    rw [hword _ (by omega), hc.seen]
    omega
  · show ((UInt32.ofNat (min c.expectedLocal 0xFFFFFFFF).toNat).toNat : Int) = _
    rw [hc.expectedLocal hpos, hword _ (by omega)]
    omega
  · show ((UInt32.ofNat (min c.maxGap 0xFFFFFFFF).toNat).toNat : Int) = _
    rw [hc.gap, hword _ (by omega)]
    omega
  · show (UInt32.ofNat (min c.trimmed 0xFFFFFFFF)).toNat = _
    rw [hword _ (by omega), hc.trim]
    omega

/-! ## What every call keeps -/

/-- Every flow's window holds what is pending for it, and its id counts the flow's snapshots. -/
def Tracked (s : W.Flows K) (ops : List (Op K)) : Prop :=
  ∀ k, (s.window k).nextWindowId = ops.count (.snapshot k) % 0x10000 ∧
    ∀ e, Counts ((s.window k).evs e) (fulls k e (pending k ops)) (trims k e (pending k ops))

theorem tracked_nil : Tracked (fun _ => none : W.Flows K) [] := fun _ => ⟨rfl, fun _ => counts_empty⟩

/-- A call that is no snapshot goes to the end of what is pending. -/
theorem tracked_pending {l : W.Log K} {ops : List (Op K)} {op : Op K}
    (hne : ∀ k, op ≠ .snapshot k) (h : Tracked l.flows ops)
    (hid : ∀ k, ((W.opStep l op).flows.window k).nextWindowId
      = (l.flows.window k).nextWindowId) :
    Tracked (W.opStep l op).flows (ops ++ [op]) := by
  intro k
  have hcount : (ops ++ [op]).count (.snapshot k) = ops.count (.snapshot k) := by
    rw [List.count_append, List.count_singleton, if_neg (by simpa using hne k)]
    rfl
  refine ⟨by rw [hid, (h k).1, hcount], fun e => ?_⟩
  rw [pending_concat ops (hne k)]
  exact counts_step (h k).2 (hne k) e

theorem tracked_record {l : W.Log K} {ops : List (Op K)} (h : Tracked l.flows ops) (k : K)
    (plane path seq : Int) :
    Tracked (W.opStep l (.record k plane path seq)).flows (ops ++ [.record k plane path seq]) := by
  refine tracked_pending (fun k' heq => by cases heq) h fun k' => ?_
  show ((W.record k plane path seq l.flows).state.window k').nextWindowId = _
  rcases record_cases (W := W) k plane path seq l.flows with ⟨e, -, -, -, -, hok⟩ | ⟨-, err, herr⟩
  · rw [hok, Outcome.state_ok, setEv_nextWindowId]
  · rw [herr, Outcome.state_raise]

theorem tracked_recordTrimmed {l : W.Log K} {ops : List (Op K)} (h : Tracked l.flows ops) (k : K)
    (plane path : Int) :
    Tracked (W.opStep l (.recordTrimmed k plane path)).flows
      (ops ++ [.recordTrimmed k plane path]) := by
  refine tracked_pending (fun k' heq => by cases heq) h fun k' => ?_
  show ((W.recordTrimmed k plane path l.flows).state.window k').nextWindowId = _
  rcases recordTrimmed_cases (W := W) k plane path l.flows with ⟨e, -, -, hok⟩ | ⟨-, err, herr⟩
  · rw [hok, Outcome.state_ok, setEv_nextWindowId]
  · rw [herr, Outcome.state_raise]

/-- `snapshot_and_reset` of a window that counts some arrivals, on a grid whose indices fit a byte. -/
theorem snapshotAndReset_counts (hp : W.numPlanes ≤ 256) (hq : W.numPaths ≤ 256) {s : W.Flows K}
    {k : K} {seqs : W.EV → List Int} {trimmed : W.EV → Nat}
    (hid : (s.window k).nextWindowId < 0x10000)
    (hc : ∀ e, Counts ((s.window k).evs e) (seqs e) (trimmed e)) (hpos : ∀ e, ∀ x ∈ seqs e, 0 ≤ x) :
    W.snapshotAndReset k s
      = (Function.update s k (some { nextWindowId := ((s.window k).nextWindowId + 1) % 0x10000 }),
        .ok ⟨.ofNat (s.window k).nextWindowId,
          (W.cells.filter fun e => ((s.window k).evs e).active).map fun e =>
            recordOf e ((s.window k).evs e)⟩) := by
  have hrecs : (W.cells.filter fun e => ((s.window k).evs e).active).mapM
      (fun e => W.evRecord e ((s.window k).evs e))
      = .ok ((W.cells.filter fun e => ((s.window k).evs e).active).map fun e =>
          recordOf e ((s.window k).evs e)) :=
    Outcome.mapM_ok fun e _ => evRecord_eq hp hq e (hc e) (hpos e)
  have hcheck : ∀ name, checkU16 ((s.window k).nextWindowId : Nat) name
      = .ok (.ofNat (s.window k).nextWindowId) := fun name => if_neg (by omega)
  unfold snapshotAndReset
  dsimp only
  rw [hrecs]
  dsimp only
  rw [LossReport.new, hcheck]
  rfl

section Snapshot

variable {s : W.Flows K} {ops : List (Op K)}

/-- `snapshot_and_reset` of a table that tracks its run. -/
theorem snapshotAndReset_eq (hp : W.numPlanes ≤ 256) (hq : W.numPaths ≤ 256) (h : Tracked s ops)
    (k : K) :
    W.snapshotAndReset k s
      = (Function.update s k (some { nextWindowId := ((s.window k).nextWindowId + 1) % 0x10000 }),
        .ok ⟨.ofNat (s.window k).nextWindowId,
          (W.cells.filter fun e => ((s.window k).evs e).active).map fun e =>
            recordOf e ((s.window k).evs e)⟩) :=
  snapshotAndReset_counts hp hq ((h k).1 ▸ Nat.mod_lt _ (by decide)) (h k).2
    fun _ => fulls_nonneg _ _ _

end Snapshot

/-- A snapshot reports what is pending, and starts again. -/
theorem tracked_snapshot (hp : W.numPlanes ≤ 256) (hq : W.numPaths ≤ 256) {l : W.Log K}
    {ops : List (Op K)} (h : Tracked l.flows ops) (k : K) :
    Tracked (W.opStep l (.snapshot k)).flows (ops ++ [.snapshot k]) := by
  intro k'
  by_cases hk : k' = k
  · subst hk
    have hwin : (W.opStep l (.snapshot k')).flows.window k'
        = { nextWindowId := ((l.flows.window k').nextWindowId + 1) % 0x10000 } := by
      show (W.snapshotAndReset k' l.flows).1.window k' = _
      rw [snapshotAndReset_eq hp hq h]
      simp [Flows.window]
    rw [hwin, pending_snapshot]
    refine ⟨?_, fun e => counts_empty⟩
    show (_ + 1) % _ = _
    rw [(h k').1, List.count_append, List.count_singleton_self]
    omega
  · have hne : (Op.snapshot k : Op K) ≠ .snapshot k' := by
      intro heq
      exact hk (Op.snapshot.inj heq).symm
    have hwin : (W.opStep l (.snapshot k)).flows.window k' = l.flows.window k' :=
      snapshot_window_other _ hk
    have hcount : (ops ++ [Op.snapshot k]).count (Op.snapshot k') = ops.count (.snapshot k') := by
      rw [List.count_append, List.count_singleton, if_neg (by simpa using Ne.symm hk)]
      rfl
    refine ⟨by rw [hwin, (h k').1, hcount], fun e => ?_⟩
    rw [pending_concat ops hne]
    exact counts_step (h k').2 hne e

/-! ## Runs -/

theorem run_snoc (ops : List (Op K)) (op : Op K) :
    W.run (ops ++ [op]) = W.opStep (W.run ops) op := by
  simp [run, List.foldl_append]

theorem reports_snapshot (l : W.Log K) (k : K) :
    (W.opStep l (.snapshot k)).reports = l.reports ++ [(k, (W.snapshotAndReset k l.flows).2)] := rfl

/-- The counters of a run are those of what is pending. -/
theorem tracked_run (hp : W.numPlanes ≤ 256) (hq : W.numPaths ≤ 256) (ops : List (Op K)) :
    Tracked (W.run ops).flows ops := by
  induction ops using List.reverseRecOn with
  | nil => exact tracked_nil
  | append_singleton ops op ih =>
    rw [run_snoc]
    cases op with
    | record k plane path seq => exact tracked_record ih k plane path seq
    | recordTrimmed k plane path => exact tracked_recordTrimmed ih k plane path
    | snapshot k => exact tracked_snapshot hp hq ih k

/-- `op` is a snapshot. -/
def Op.isSnapshot : Op K → Bool
  | .snapshot _ => true
  | _ => false

/-- There are as many reports as snapshots. -/
theorem length_reports (ops : List (Op K)) :
    (W.run ops).reports.length = ops.countP Op.isSnapshot := by
  induction ops using List.reverseRecOn with
  | nil => rfl
  | append_singleton ops op ih =>
    rw [run_snoc, List.countP_append, ← ih]
    cases op with
    | record k plane path seq => rfl
    | recordTrimmed k plane path => rfl
    | snapshot k => exact List.length_append

theorem reports_extend (ops ops' : List (Op K)) :
    (W.run ops).reports <+: (W.run (ops ++ ops')).reports := by
  induction ops' using List.reverseRecOn with
  | nil => exact (List.append_nil ops).symm ▸ List.prefix_refl _
  | append_singleton ops' op ih =>
    rw [← List.append_assoc, run_snoc]
    cases op with
    | record k plane path seq => exact ih
    | recordTrimmed k plane path => exact ih
    | snapshot k => exact ih.trans (List.prefix_append ..)

/-- Where the report of a snapshot stands in the log. -/
theorem reports_at (before : List (Op K)) (k : K) (after : List (Op K)) :
    (W.run (before ++ .snapshot k :: after)).reports[before.countP Op.isSnapshot]?
      = some (k, (W.snapshotAndReset k (W.run before).flows).2) := by
  have hpre : (W.run (before ++ [.snapshot k])).reports
      <+: (W.run (before ++ .snapshot k :: after)).reports := by
    have happ : before ++ .snapshot k :: after = before ++ [.snapshot k] ++ after := by simp
    rw [happ]
    exact reports_extend ..
  rw [run_snoc, reports_snapshot] at hpre
  obtain ⟨rest, hrest⟩ := hpre
  rw [← length_reports (W := W) before, ← hrest, List.append_assoc, List.getElem?_append_right (le_refl _), Nat.sub_self]
  rfl

/-! ## What a report says, and what all reports say together -/

/-- The EV has an arrival, full or trimmed, among these calls. -/
def arrived (k : K) (ops : List (Op K)) (e : W.EV) : Bool :=
  fulls k e ops ≠ [] ∨ trims k e ops ≠ 0

/-- Fewer than 2^32 arrivals of either kind on each EV. -/
def Few (W : LossWindowTable) (k : K) (ops : List (Op K)) : Prop :=
  ∀ e : W.EV, (fulls k e ops).length < 2 ^ 32 ∧ trims k e ops < 2 ^ 32

/-- The report's count on one EV. -/
def countOn (count : PlaneLossRecord → UInt32) (k : K) (e : W.EV) :
    K × Except WireError LossReport → Nat
  | (k', .ok report) =>
    if k' = k then
      ((report.planes.filter fun rec => rec.ev = ((e.1 : Nat), (e.2 : Nat))).map fun rec =>
        (count rec).toNat).sum
    else 0
  | (_, .error _) => 0

/-- The numbers that are recorded have four bytes. -/
theorem fulls_le (k : K) (e : W.EV) (ops : List (Op K)) :
    ∀ seq ∈ fulls k e ops, seq ≤ 0xFFFFFFFF := by
  intro seq hmem
  obtain ⟨op, -, hop⟩ := List.mem_filterMap.mp hmem
  unfold full at hop
  split at hop
  · split at hop
    · rename_i h
      rw [← Option.some.inj hop]
      exact h.2.2.2.2
    · cases hop
  · cases hop

theorem filter_cells (P : W.EV → Bool) (e : W.EV) :
    (W.cells.filter P).filter (fun c => c = e) = if P e then [e] else [] := by
  have hone : W.cells.count e = 1 := List.count_eq_one_of_mem nodup_cells (mem_cells e)
  rw [List.filter_eq]
  split
  · rename_i h
    rw [List.count_filter h, hone]
    rfl
  · rename_i h
    rw [List.count_eq_zero_of_not_mem fun hmem => h (List.mem_filter.mp hmem).2]
    rfl

section Report

variable {s : W.Flows K} {ops : List (Op K)}

/-- The report of a snapshot: the window's id, and a record for each EV with an arrival. -/
theorem report_eq (hp : W.numPlanes ≤ 256) (hq : W.numPaths ≤ 256) (h : Tracked s ops) (k : K)
    (hfew : Few W k (pending k ops)) :
    ∃ report : LossReport, (W.snapshotAndReset k s).2 = .ok report ∧
      report.windowId.toNat = ops.count (.snapshot k) % 2 ^ 16 ∧
      List.Forall₂ (fun rec e =>
          Reports rec e (fulls k e (pending k ops)) (trims k e (pending k ops)))
        report.planes (W.cells.filter (arrived k (pending k ops))) := by
  rw [snapshotAndReset_eq hp hq h]
  have hactive : (W.cells.filter fun e => ((s.window k).evs e).active)
      = W.cells.filter (arrived k (pending k ops)) := by
    refine List.filter_congr fun e _ => ?_
    rw [Bool.eq_iff_iff, ((h k).2 e).active, arrived, decide_eq_true_eq]
  refine ⟨_, rfl, ?_, ?_⟩
  · show (UInt16.ofNat (s.window k).nextWindowId).toNat = _
    rw [(h k).1]
    exact UInt16.toNat_ofNat_of_lt' (Nat.mod_lt _ (by decide))
  · show List.Forall₂ _ (List.map _ _) _
    rw [hactive, List.forall₂_map_left_iff, List.forall₂_same]
    intro e _
    exact reports_recordOf hp hq e ((h k).2 e) (fulls_nonneg _ _ _) (fulls_le _ _ _) (hfew e).1
      (hfew e).2

/-- In the sum over a report's records an EV counts once, with what its record says. -/
theorem sum_records {P : W.EV → Bool} {f : W.EV → PlaneLossRecord}
    (hev : ∀ c, (f c).ev = ((c.1 : Nat), (c.2 : Nat))) (count : PlaneLossRecord → UInt32)
    (e : W.EV) :
    (((((W.cells.filter P).map f).filter fun rec => rec.ev = ((e.1 : Nat), (e.2 : Nat)))).map
      fun rec => (count rec).toNat).sum = if P e then (count (f e)).toNat else 0 := by
  have hsame : ∀ c : W.EV, decide ((f c).ev = ((e.1 : Nat), (e.2 : Nat))) = decide (c = e) := by
    intro c
    refine decide_eq_decide.mpr ?_
    rw [hev, Prod.mk.injEq]
    constructor
    · rintro ⟨h1, h2⟩
      exact Prod.ext (Fin.ext h1) (Fin.ext h2)
    · rintro rfl
      exact ⟨rfl, rfl⟩
  rw [List.filter_map]
  have hcomp : ((fun rec : PlaneLossRecord => decide (rec.ev = ((e.1 : Nat), (e.2 : Nat)))) ∘ f)
      = fun c => decide (c = e) := funext hsame
  rw [hcomp, filter_cells]
  split <;> simp

theorem ev_recordOf (hp : W.numPlanes ≤ 256) (hq : W.numPaths ≤ 256) (e : W.EV) (c : EvCounters) :
    (recordOf e c).ev = ((e.1 : Nat), (e.2 : Nat)) := by
  have h1 : e.1.val < 2 ^ 8 := Nat.lt_of_lt_of_le e.1.isLt hp
  have h2 : e.2.val < 2 ^ 8 := Nat.lt_of_lt_of_le e.2.isLt hq
  exact Prod.ext (UInt8.toNat_ofNat_of_lt' h1) (UInt8.toNat_ofNat_of_lt' h2)

/-- A snapshot reports what was pending, in both counters. -/
theorem countOn_snapshot (hp : W.numPlanes ≤ 256) (hq : W.numPaths ≤ 256) (h : Tracked s ops)
    (k : K) (hfew : Few W k (pending k ops)) (e : W.EV) :
    countOn PlaneLossRecord.seen k e (k, (W.snapshotAndReset k s).2)
        = (fulls k e (pending k ops)).length ∧
      countOn PlaneLossRecord.trimmed k e (k, (W.snapshotAndReset k s).2)
        = trims k e (pending k ops) := by
  have hcell := (h k).2 e
  have hrec := reports_recordOf hp hq e hcell (fulls_nonneg _ _ _) (fulls_le _ _ _) (hfew e).1
    (hfew e).2
  -- an EV that is left out has nothing to report
  have hidle : ¬ ((s.window k).evs e).active = true →
      fulls k e (pending k ops) = [] ∧ trims k e (pending k ops) = 0 := by
    rw [hcell.active, not_or, not_not, not_not]
    exact fun hno => hno
  rw [snapshotAndReset_eq hp hq h]
  constructor
  · show (if k = k then _ else _) = _
    rw [if_pos rfl, sum_records (fun c => ev_recordOf hp hq c _)]
    split
    · exact hrec.seen
    · rename_i hno
      rw [(hidle hno).1]
      rfl
  · show (if k = k then _ else _) = _
    rw [if_pos rfl, sum_records (fun c => ev_recordOf hp hq c _)]
    split
    · exact hrec.trimmed
    · rename_i hno
      exact (hidle hno).2.symm

end Report

/-- The report of one flow counts nothing for another. -/
theorem countOn_other (count : PlaneLossRecord → UInt32) {k k' : K} (h : k' ≠ k) (e : W.EV)
    (result : Except WireError LossReport) : countOn count k e (k', result) = 0 := by
  cases result with
  | ok report => exact if_neg h
  | error err => rfl

/-- Every arrival of a run is in one report, or pending. -/
theorem conserved (hp : W.numPlanes ≤ 256) (hq : W.numPaths ≤ 256) (ops : List (Op K))
    (hfew : ∀ before, before <+: ops → ∀ k, Few W k (pending k before)) (k : K) (e : W.EV) :
    (fulls k e ops).length
        = ((W.run ops).reports.map (countOn PlaneLossRecord.seen k e)).sum
          + (fulls k e (pending k ops)).length ∧
      trims k e ops
        = ((W.run ops).reports.map (countOn PlaneLossRecord.trimmed k e)).sum
          + trims k e (pending k ops) := by
  induction ops using List.reverseRecOn with
  | nil => exact ⟨rfl, rfl⟩
  | append_singleton ops op ih =>
    obtain ⟨ihf, iht⟩ := ih fun before hb => hfew before (hb.trans (List.prefix_append ..))
    rw [run_snoc, fulls_concat, trims_concat, List.length_append]
    by_cases hop : op = .snapshot k
    · -- the window closes: what was pending goes into the report
      subst hop
      have hsnap := countOn_snapshot hp hq (tracked_run hp hq ops) k
        (hfew ops (List.prefix_append ..) k) e
      rw [pending_snapshot, reports_snapshot, List.map_append, List.map_append, List.sum_append,
        List.sum_append, List.map_singleton, List.map_singleton, List.sum_singleton,
        List.sum_singleton, hsnap.1, hsnap.2]
      exact ⟨ihf, iht⟩
    · rw [pending_concat ops hop, fulls_concat, trims_concat, List.length_append]
      have hlog : ∀ count, ((W.opStep (W.run ops) op).reports.map (countOn count k e)).sum
          = ((W.run ops).reports.map (countOn count k e)).sum := by
        intro count
        cases op with
        | record k' plane path seq => rfl
        | recordTrimmed k' plane path => rfl
        | snapshot k' =>
          have hne : k' ≠ k := fun hk => hop (congrArg Op.snapshot hk)
          rw [reports_snapshot, List.map_append, List.sum_append, List.map_singleton, List.sum_singleton,
            countOn_other count hne, Nat.add_zero]
      rw [hlog, hlog]
      omega

/-- A call that fails a range check raises and changes nothing; any other returns. -/
theorem rejected_iff (k : K) (plane path seq : Int) (s : W.Flows K) :
    ((W.record k plane path seq s).raised = none ↔ W.Accepts (.record k plane path seq)) ∧
    ((W.record k plane path seq s).raised ≠ none → (W.record k plane path seq s).state = s) ∧
    ((W.recordTrimmed k plane path s).raised = none ↔ W.Accepts (.recordTrimmed k plane path)) ∧
    ((W.recordTrimmed k plane path s).raised ≠ none →
      (W.recordTrimmed k plane path s).state = s) := by
  refine ⟨?_, ?_, ?_, ?_⟩
  · rcases record_cases (W := W) k plane path seq s with
      ⟨e, rfl, rfl, h0, h1, hok⟩ | ⟨hrej, err, herr⟩
    · rw [hok]
      have hp := e.1.isLt
      have hq := e.2.isLt
      exact ⟨fun _ => ⟨⟨by omega, by omega⟩, ⟨by omega, by omega⟩, h0, h1⟩, fun _ => rfl⟩
    · rw [herr]
      exact ⟨fun h => (by cases h), fun h => absurd h hrej⟩
  · rcases record_cases (W := W) k plane path seq s with ⟨e, -, -, -, -, hok⟩ | ⟨-, err, herr⟩
    · rw [hok]
      exact fun h => absurd rfl h
    · rw [herr]
      exact fun _ => rfl
  · rcases recordTrimmed_cases (W := W) k plane path s with ⟨e, rfl, rfl, hok⟩ | ⟨hrej, err, herr⟩
    · rw [hok]
      have hp := e.1.isLt
      have hq := e.2.isLt
      exact ⟨fun _ => ⟨⟨by omega, by omega⟩, by omega, by omega⟩, fun _ => rfl⟩
    · rw [herr]
      exact ⟨fun h => (by cases h), fun h => absurd h hrej⟩
  · rcases recordTrimmed_cases (W := W) k plane path s with ⟨e, -, -, hok⟩ | ⟨-, err, herr⟩
    · rw [hok]
      exact fun h => absurd rfl h
    · rw [herr]
      exact fun _ => rfl

/-- Receiver windows conserve arrivals.  Whatever the interleaving of calls, rejected ones included,
    every snapshot reports exactly the arrivals of its flow since the flow's previous snapshot: one
    record for each EV with an arrival, in grid order, with the counts, the span of the full
    arrivals (capped at u32) and their largest gap; and over the run every accepted arrival is in
    one report, or pending in its own cell. -/
theorem windows_conserve (W : LossWindowTable) (hp : W.numPlanes ≤ 256) (hq : W.numPaths ≤ 256)
    (ops : List (Op K)) (hfew : ∀ before, before <+: ops → ∀ k, Few W k (pending k before)) :
    (∀ before k after, ops = before ++ .snapshot k :: after →
      ∃ report, (W.run ops).reports[before.countP Op.isSnapshot]? = some (k, .ok report) ∧
        report.windowId.toNat = before.count (.snapshot k) % 2 ^ 16 ∧
        List.Forall₂ (fun rec e =>
            Reports rec e (fulls k e (pending k before)) (trims k e (pending k before)))
          report.planes (W.cells.filter (arrived k (pending k before)))) ∧
    (W.run ops).reports.length = ops.countP Op.isSnapshot ∧
    (∀ k (e : W.EV),
      (fulls k e ops).length
        = ((W.run ops).reports.map (countOn PlaneLossRecord.seen k e)).sum
          + (fulls k e (pending k ops)).length ∧
      trims k e ops
        = ((W.run ops).reports.map (countOn PlaneLossRecord.trimmed k e)).sum
          + trims k e (pending k ops) ∧
      Counts (((W.run ops).flows.window k).evs e) (fulls k e (pending k ops))
        (trims k e (pending k ops))) ∧
    (∀ (s : W.Flows K) k plane path seq,
      ((W.record k plane path seq s).raised = none ↔ W.Accepts (.record k plane path seq)) ∧
      ((W.record k plane path seq s).raised ≠ none → (W.record k plane path seq s).state = s) ∧
      ((W.recordTrimmed k plane path s).raised = none ↔ W.Accepts (.recordTrimmed k plane path)) ∧
      ((W.recordTrimmed k plane path s).raised ≠ none →
        (W.recordTrimmed k plane path s).state = s)) := by
  refine ⟨?_, length_reports ops, fun k e => ?_, fun s k plane path seq => rejected_iff ..⟩
  · rintro before k after rfl
    obtain ⟨report, hreport, hid, hplanes⟩ := report_eq hp hq (tracked_run hp hq before) k
      (hfew before (List.prefix_append ..) k)
    exact ⟨report, by rw [reports_at, hreport], hid, hplanes⟩
  · obtain ⟨hfull, htrim⟩ := conserved hp hq ops hfew k e
    exact ⟨hfull, htrim, (tracked_run hp hq ops k).2 e⟩

/-- In a short run no window has too many packets. -/
theorem few_of_short (W : LossWindowTable) {ops : List (Op K)} (h : ops.length < 2 ^ 32) :
    ∀ before, before <+: ops → ∀ k, Few W k (pending k before) := by
  intro before hb k e
  have hlen : (pending k before).length ≤ ops.length :=
    (List.rtakeWhile_suffix _ _).length_le.trans hb.length_le
  have hf : (fulls k e (pending k before)).length ≤ (pending k before).length :=
    List.length_filterMap_le ..
  have ht : trims k e (pending k before) ≤ (pending k before).length := List.countP_le_length
  omega

/-- Two flows on two EVs, a rejected call, and two snapshots of one flow. -/
def twoFlows : List (Op String) :=
  [.record "a" 0 0 5, .record "b" 0 1 1, .record "a" 0 0 9, .record "a" 7 0 1,
    .recordTrimmed "a" 0 1, .snapshot "a", .snapshot "a"]

theorem windows_conserve_twoFlows :
    let W : LossWindowTable := ⟨1, 2, by decide, by decide⟩
    twoFlows.length < 2 ^ 32 ∧
    ((W.run twoFlows).reports.map (countOn PlaneLossRecord.seen "a" ((0, 0) : W.EV))).sum
      + (fulls "a" ((0, 0) : W.EV) (pending "a" twoFlows)).length = 2 := by
  intro W
  have hshort : twoFlows.length < 2 ^ 32 := by decide
  obtain ⟨-, -, hconserved, -⟩ := windows_conserve W (by decide) (by decide) twoFlows
    (few_of_short W hshort)
  refine ⟨hshort, (hconserved "a" (0, 0)).1.symm.trans ?_⟩
  decide

/-- The two limits of a report: a span of 2^32 sequence numbers is reported as
    2^32 - 1, and on a grid of 257 planes the snapshot of the last one raises, after the window id
    was taken and before the counters are reset. -/
theorem windows_not_exact :
    (let W : LossWindowTable := ⟨1, 1, by decide, by decide⟩
     let ops : List (Op String) := [.record "a" 0 0 0, .record "a" 0 0 0xFFFFFFFF]
     span (fulls "a" ((0, 0) : W.EV) ops) = 2 ^ 32 ∧
     (W.run (ops ++ [.snapshot "a"])).reports
       = [("a", .ok ⟨0, [⟨0, 0, 2, 0xFFFFFFFF, 0xFFFFFFFF, 0⟩]⟩)]) ∧
    (let W : LossWindowTable := ⟨257, 1, by decide, by decide⟩
     let ops : List (Op String) := [.record "a" 256 0 5, .snapshot "a"]
     (W.run ops).reports = [("a", .error (.notUint8 "plane_id" 256))] ∧
     ((W.run ops).flows.window "a").nextWindowId = 1 ∧
     ((W.run ops).flows.window "a").evs (256, 0) = ⟨1, 5, 5, 0, 5, 0⟩) := by
  decide

end Srv6Mrc.LossWindowTable
