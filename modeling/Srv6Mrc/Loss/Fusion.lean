/-
  `srv6_mrc/mrc/loss_compute.py`: `apply_loss_report`, the fusion of a loss report with the sent
  windows, and what it does to the table.

  The source is two loops with about ten ways through their bodies, and the second loop looks at
  states the first may have changed.  `applyLossReport` is that code.  Its meaning is a list of
  `record_loss_window` calls — `reportedCalls`, then `lostCalls` — and `applyLossReport_exact` says
  that it makes exactly these, never raises, and counts every way through exactly once.
-/
import Srv6Mrc.EvState.History
import Srv6Mrc.Loss.Window

namespace Srv6Mrc

/-- Diagnostic counters for the fusion logic. -/
structure LossFusionStats where
  reportsProcessed : Nat := 0
  planesUpdated : Nat := 0
  planesSkippedNoData : Nat := 0
  pairedWithSentWindow : Nat := 0
  fellBackToReceiverExpected : Nat := 0
  noPairingWindowInRing : Nat := 0
  absentEvsCountedAsLost : Nat := 0
  absentCheckSkippedLowCoverage : Nat := 0
  deriving DecidableEq, Repr

/-- `MIN_SENT_FOR_ABSENT_LOSS` -/
def minSentForAbsentLoss : Int := 2

/-- `MIN_COVERAGE_FOR_ABSENT_LOSS` -/
def minCoverageForAbsentLoss : ℚ := 1 / 2

namespace EVStateTable

variable {T : EVStateTable}

variable (T) in
/-- What `apply_loss_report` mutates. -/
structure Fused where
  table : Store T
  stats : LossFusionStats

/-- A call on the table, as part of the fusion. -/
def Fused.onTable (f : Fused T) (o : Outcome PyError (Store T)) : Outcome PyError (Fused T) :=
  ⟨{ f with table := o.state }, o.raised⟩

variable (T)

/-- The body of the loop over the report's records. -/
def planeTurn (cb : Option (TransitionCb T)) (tenant : String) (paired : Option SentWindow)
    (rec : PlaneLossRecord) (f : Fused T) : Outcome PyError (Fused T) :=
  if rec.noData then
    .ok { f with stats.planesSkippedNoData := f.stats.planesSkippedNoData + 1 }
  else
    let denominator : Nat :=
      match paired with
      | none => 0
      | some w => w.sentOn rec.planeId.toNat rec.pathId.toNat
    if denominator = 0 then
      .ok { f with stats.fellBackToReceiverExpected := f.stats.fellBackToReceiverExpected + 1 }
    else
      (f.onTable (T.recordLossWindow cb tenant rec.planeId.toNat rec.pathId.toNat rec.arrived
        denominator f.table)).andThen fun f =>
      .ok { f with
        stats.planesUpdated := f.stats.planesUpdated + 1
        stats.pairedWithSentWindow := f.stats.pairedWithSentWindow + 1 }

/-- The body of the loop over the paired window's cells. -/
def absentTurn (cb : Option (TransitionCb T)) (tenant : String) (reported : List (Nat × Nat))
    (minSentForAbsent : Int) : Nat × Nat × Nat → Fused T → Outcome PyError (Fused T)
  | (plane, path, senderSent), f =>
    if (senderSent : Int) < minSentForAbsent then .ok f
    else if (plane, path) ∈ reported then .ok f
    else
      match T.state tenant plane path f.table with
      | .error err => .raise err f
      | .ok state =>
        if state = .assumedBad then .ok f
        else
          (f.onTable
            (T.recordLossWindow cb tenant plane path 0 senderSent f.table)).andThen fun f =>
          .ok { f with stats.absentEvsCountedAsLost := f.stats.absentEvsCountedAsLost + 1 }

/-- `apply_loss_report` -/
def applyLossReport (cb : Option (TransitionCb T)) (tenant : String) (report : LossReport)
    (sentRing : SentWindowRing T.numPlanes T.numPaths) (receivedAtNs maxWindowSkewNs : Int)
    (minSentForAbsent : Int) (f : Fused T) : Outcome PyError (Fused T) :=
  if report.planes = [] then .ok f
  else
    let f := { f with stats.reportsProcessed := f.stats.reportsProcessed + 1 }
    let paired := sentRing.findClosest receivedAtNs maxWindowSkewNs
    let f :=
      match paired with
      | none => { f with stats.noPairingWindowInRing := f.stats.noPairingWindowInRing + 1 }
      | some _ => f
    (Outcome.forEach (T.planeTurn cb tenant paired) report.planes f).andThen fun f =>
    match paired with
    | none => .ok f
    | some w =>
      if w.totalSent = 0 ∨ (report.totalSeen : ℚ) < minCoverageForAbsentLoss * w.totalSent then
        .ok { f with
          stats.absentCheckSkippedLowCoverage := f.stats.absentCheckSkippedLowCoverage + 1 }
      else Outcome.forEach (T.absentTurn cb tenant report.reported minSentForAbsent) w.cells f

/-! ## What it should do -/

/-- The call for one record of the report: in range, not all zero, and sent on. -/
def reportedCall (tenant : String) (w : SentWindow) (rec : PlaneLossRecord) : Option Call :=
  if rec.planeId.toNat < T.numPlanes ∧ rec.pathId.toNat < T.numPaths ∧ rec.noData = false
      ∧ 0 < w.sentOn rec.planeId.toNat rec.pathId.toNat then
    some (.lossWindow tenant rec.planeId.toNat rec.pathId.toNat rec.arrived
      (w.sentOn rec.planeId.toNat rec.pathId.toNat))
  else none

/-- The calls for a list of records, in its order. -/
def reportedCalls (tenant : String) (paired : Option SentWindow) (recs : List PlaneLossRecord) :
    List Call :=
  match paired with
  | none => []
  | some w => recs.filterMap (T.reportedCall tenant w)

/-- The report accounts for at least half of what was sent. -/
def Covered (w : SentWindow) (report : LossReport) : Prop :=
  0 < w.totalSent ∧ w.totalSent ≤ 2 * report.totalSeen

instance (w : SentWindow) (report : LossReport) : Decidable (Covered w report) := by
  unfold Covered; exact inferInstance

/-- An EV that counts as lost: sent on at least twice, not in the report, not ASSUMED_BAD. -/
def Lost (tenant : String) (w : SentWindow) (report : LossReport) (s : Store T) (e : T.EV) : Prop :=
  2 ≤ w.sentOn e.1 e.2 ∧ ((e.1 : Nat), (e.2 : Nat)) ∉ report.reported
    ∧ (s.evs tenant e).state ≠ .assumedBad

instance (tenant : String) (w : SentWindow) (report : LossReport) (s : Store T) (e : T.EV) :
    Decidable (T.Lost tenant w report s e) := by
  unfold Lost; exact inferInstance

/-- The calls of the second pass over the EVs `es`, each decided when its turn comes. -/
def absentCalls (cb : Option (TransitionCb T)) (tenant : String) (w : SentWindow)
    (report : LossReport) : Store T → List T.EV → List Call
  | _, [] => []
  | s, e :: es =>
    if T.Lost tenant w report s e then
      let c := Call.lossWindow tenant e.1 e.2 0 (w.sentOn e.1 e.2)
      c :: absentCalls cb tenant w report (T.step cb s c).state es
    else absentCalls cb tenant w report s es

/-- The calls of the second pass, from the table the first pass left. -/
def lostCalls (cb : Option (TransitionCb T)) (tenant : String) (paired : Option SentWindow)
    (report : LossReport) (s : Store T) : List Call :=
  match paired with
  | none => []
  | some w =>
    if report.planes ≠ [] ∧ Covered w report then
      T.absentCalls cb tenant w report
        (T.runFrom cb s (T.reportedCalls tenant paired report.planes)) T.cells
    else []

/-- All calls a report amounts to. -/
def fusionCalls (cb : Option (TransitionCb T)) (tenant : String) (paired : Option SentWindow)
    (report : LossReport) (s : Store T) : List Call :=
  T.reportedCalls tenant paired report.planes ++ T.lostCalls cb tenant paired report s

variable {T}

/-! ## The calls return -/

theorem runFrom_append (cb : Option (TransitionCb T)) (s : Store T) (calls calls' : List Call) :
    T.runFrom cb s (calls ++ calls') = T.runFrom cb (T.runFrom cb s calls) calls' :=
  List.foldl_append

/-- A loss window of an EV of the grid, with something expected, is recorded. -/
theorem recordLossWindow_returns {cb : Option (TransitionCb T)} (hcb : Returns cb)
    {tenant : String} (hmem : tenant ∈ T.tenants) {plane path seen expected : Nat}
    (hplane : plane < T.numPlanes) (hpath : path < T.numPaths) (hexp : 0 < expected)
    (s : Store T) :
    (T.recordLossWindow cb tenant plane path seen expected s).raised = none := by
  rcases recordLossWindow_cases tenant plane path seen expected s with
    ⟨e, -, -, -, heq⟩ | ⟨hno, -⟩
  · rw [heq]
    exact hcb.notify ..
  · exact absurd ⟨⟨rfl, hmem, rfl, rfl⟩, by omega, by omega⟩
      (hno tenant (⟨plane, hplane⟩, ⟨path, hpath⟩))

theorem state_ok {tenant : String} (hmem : tenant ∈ T.tenants) (e : T.EV) (s : Store T) :
    T.state tenant (e.1 : Nat) (e.2 : Nat) s = .ok (s.evs tenant e).state := by
  unfold EVStateTable.state
  rw [checkTenant_none.mpr hmem, checkEv_ok.mpr ⟨rfl, rfl⟩]
  rfl

/-! ## The first pass -/

/-- Is a record fed to the table? -/
def updates (T : EVStateTable) (tenant : String) (paired : Option SentWindow)
    (rec : PlaneLossRecord) : Bool :=
  match paired with
  | none => false
  | some w => (T.reportedCall tenant w rec).isSome

/-- The counters after the records `recs`. -/
def LossFusionStats.afterPlanes (T : EVStateTable) (tenant : String) (paired : Option SentWindow)
    (recs : List PlaneLossRecord) (st : LossFusionStats) : LossFusionStats :=
  { st with
    planesUpdated := st.planesUpdated + recs.countP (T.updates tenant paired)
    pairedWithSentWindow := st.pairedWithSentWindow + recs.countP (T.updates tenant paired)
    planesSkippedNoData := st.planesSkippedNoData + recs.countP PlaneLossRecord.noData
    fellBackToReceiverExpected := st.fellBackToReceiverExpected
      + recs.countP fun rec => !rec.noData && !T.updates tenant paired rec }

/-- One record: at most one call, and one counter (or the two that go together). -/
theorem planeTurn_eq {cb : Option (TransitionCb T)} (hcb : Returns cb) {tenant : String}
    (hmem : tenant ∈ T.tenants) {paired : Option SentWindow}
    (hshape : ∀ w, paired = some w → w.Shaped T.numPlanes T.numPaths) (rec : PlaneLossRecord)
    (f : Fused T) :
    T.planeTurn cb tenant paired rec f
      = .ok ⟨T.runFrom cb f.table (T.reportedCalls tenant paired [rec]),
          LossFusionStats.afterPlanes T tenant paired [rec] f.stats⟩ := by
  unfold planeTurn
  cases hno : rec.noData with
  | true =>
    have hcall : ∀ w, T.reportedCall tenant w rec = none := fun w =>
      if_neg fun h => by rw [hno] at h; nomatch h.2.2.1
    cases paired with
    | none => simp [LossFusionStats.afterPlanes, updates, reportedCalls, runFrom, hno]
    | some w =>
      simp [LossFusionStats.afterPlanes, updates, reportedCalls, runFrom, hno, hcall w]
  | false =>
    cases paired with
    | none => simp [LossFusionStats.afterPlanes, updates, reportedCalls, runFrom, hno]
    | some w =>
      by_cases h0 : w.sentOn rec.planeId.toNat rec.pathId.toNat = 0
      · have hcall : T.reportedCall tenant w rec = none :=
          if_neg fun h => absurd h.2.2.2 (by omega)
        simp [LossFusionStats.afterPlanes, updates, reportedCalls, runFrom, hno, hcall, h0]
      · have hpos := Nat.pos_of_ne_zero h0
        -- the ids come off the wire; a count at them means that they are in the grid
        obtain ⟨hplane, hpath⟩ := (hshape w rfl).in_range hpos
        have hcall : T.reportedCall tenant w rec
            = some (.lossWindow tenant rec.planeId.toNat rec.pathId.toNat rec.arrived
              (w.sentOn rec.planeId.toNat rec.pathId.toNat)) :=
          if_pos ⟨hplane, hpath, hno, hpos⟩
        have hret : (f.onTable (T.recordLossWindow cb tenant rec.planeId.toNat rec.pathId.toNat
            rec.arrived (w.sentOn rec.planeId.toNat rec.pathId.toNat) f.table)).raised = none :=
          recordLossWindow_returns hcb hmem hplane hpath hpos f.table
        have hrun : T.runFrom cb f.table (T.reportedCalls tenant (some w) [rec])
            = (T.recordLossWindow cb tenant rec.planeId.toNat rec.pathId.toNat rec.arrived
              (w.sentOn rec.planeId.toNat rec.pathId.toNat) f.table).state := by
          rw [reportedCalls, List.filterMap_cons_some hcall]
          rfl
        simp only [Bool.false_eq_true, if_false, if_neg h0]
        rw [Outcome.andThen_none hret, hrun]
        simp [LossFusionStats.afterPlanes, updates, hno, hcall, Fused.onTable]

theorem reportedCalls_cons (T : EVStateTable) (tenant : String) (paired : Option SentWindow)
    (rec : PlaneLossRecord) (recs : List PlaneLossRecord) :
    T.reportedCalls tenant paired (rec :: recs)
      = T.reportedCalls tenant paired [rec] ++ T.reportedCalls tenant paired recs := by
  cases paired with
  | none => rfl
  | some w =>
    show List.filterMap _ ([rec] ++ recs) = _
    exact List.filterMap_append

theorem LossFusionStats.afterPlanes_cons (T : EVStateTable) (tenant : String)
    (paired : Option SentWindow) (rec : PlaneLossRecord) (recs : List PlaneLossRecord)
    (st : LossFusionStats) :
    LossFusionStats.afterPlanes T tenant paired (rec :: recs) st
      = LossFusionStats.afterPlanes T tenant paired recs
          (LossFusionStats.afterPlanes T tenant paired [rec] st) := by
  simp only [LossFusionStats.afterPlanes, List.countP_cons, List.countP_nil,
    LossFusionStats.mk.injEq, true_and, and_true]
  omega

/-- The first loop makes the reported calls and counts each record once. -/
theorem planes_eq {cb : Option (TransitionCb T)} (hcb : Returns cb) {tenant : String}
    (hmem : tenant ∈ T.tenants) {paired : Option SentWindow}
    (hshape : ∀ w, paired = some w → w.Shaped T.numPlanes T.numPaths)
    (recs : List PlaneLossRecord) (f : Fused T) :
    Outcome.forEach (T.planeTurn cb tenant paired) recs f
      = .ok ⟨T.runFrom cb f.table (T.reportedCalls tenant paired recs),
          LossFusionStats.afterPlanes T tenant paired recs f.stats⟩ := by
  induction recs generalizing f with
  | nil => cases paired <;> rfl
  | cons rec recs ih =>
    rw [Outcome.forEach_cons, planeTurn_eq hcb hmem hshape, Outcome.andThen_none rfl]
    show Outcome.forEach (T.planeTurn cb tenant paired) recs
      ⟨T.runFrom cb f.table (T.reportedCalls tenant paired [rec]),
        LossFusionStats.afterPlanes T tenant paired [rec] f.stats⟩ = _
    rw [ih, ← runFrom_append, ← reportedCalls_cons, ← LossFusionStats.afterPlanes_cons]

/-! ## The second pass -/

/-- One cell: a lost EV gets its call and is counted, any other is passed over. -/
theorem absentTurn_eq {cb : Option (TransitionCb T)} (hcb : Returns cb) {tenant : String}
    (hmem : tenant ∈ T.tenants) (w : SentWindow) (report : LossReport) (e : T.EV) (f : Fused T) :
    T.absentTurn cb tenant report.reported minSentForAbsentLoss (e.1, e.2, w.sentOn e.1 e.2) f
      = if T.Lost tenant w report f.table e then
          .ok ⟨(T.step cb f.table (.lossWindow tenant e.1 e.2 0 (w.sentOn e.1 e.2))).state,
            { f.stats with absentEvsCountedAsLost := f.stats.absentEvsCountedAsLost + 1 }⟩
        else .ok f := by
  unfold absentTurn
  dsimp only
  rw [state_ok hmem]
  dsimp only
  by_cases hfew : (w.sentOn e.1 e.2 : Int) < minSentForAbsentLoss
  · have hnot : ¬ T.Lost tenant w report f.table e := by
      intro h
      have h2 : 2 ≤ w.sentOn e.1 e.2 := h.1
      have hmin : minSentForAbsentLoss = 2 := rfl
      omega
    rw [if_pos hfew, if_neg hnot]
  · by_cases hin : ((e.1 : Nat), (e.2 : Nat)) ∈ report.reported
    · rw [if_neg hfew, if_pos hin, if_neg fun h : T.Lost .. => h.2.1 hin]
    · by_cases hbad : (f.table.evs tenant e).state = .assumedBad
      · rw [if_neg hfew, if_neg hin, if_pos hbad, if_neg fun h : T.Lost .. => h.2.2 hbad]
      · have h2 : 2 ≤ w.sentOn e.1 e.2 := by
          have hmin : minSentForAbsentLoss = 2 := rfl
          omega
        have hlost : T.Lost tenant w report f.table e := ⟨h2, hin, hbad⟩
        have hret : (f.onTable (T.recordLossWindow cb tenant (e.1 : Nat) (e.2 : Nat) (0 : Nat)
            (w.sentOn e.1 e.2) f.table)).raised = none :=
          recordLossWindow_returns hcb hmem e.1.isLt e.2.isLt (by omega) f.table
        rw [if_neg hfew, if_neg hin, if_neg hbad, if_pos hlost]
        exact Outcome.andThen_none hret

/-- The second loop makes the calls for the lost EVs and counts them. -/
theorem absents_eq {cb : Option (TransitionCb T)} (hcb : Returns cb) {tenant : String}
    (hmem : tenant ∈ T.tenants) (w : SentWindow) (report : LossReport) (es : List T.EV)
    (f : Fused T) :
    Outcome.forEach (T.absentTurn cb tenant report.reported minSentForAbsentLoss)
        (es.map fun e => ((e.1 : Nat), (e.2 : Nat), w.sentOn e.1 e.2)) f
      = .ok ⟨T.runFrom cb f.table (T.absentCalls cb tenant w report f.table es),
          { f.stats with
            absentEvsCountedAsLost := f.stats.absentEvsCountedAsLost
              + (T.absentCalls cb tenant w report f.table es).length }⟩ := by
  induction es generalizing f with
  | nil => rfl
  | cons e es ih =>
    -- `e` is judged by the table as the EVs before it left it
    rw [List.map_cons, Outcome.forEach_cons, absentTurn_eq hcb hmem, absentCalls]
    by_cases hlost : T.Lost tenant w report f.table e
    · rw [if_pos hlost, if_pos hlost, Outcome.andThen_none rfl]
      refine (ih _).trans ?_
      simp only [Outcome.state_ok, List.length_cons]
      rw [Nat.add_assoc, Nat.add_comm 1]
      rfl
    · rw [if_neg hlost, if_neg hlost, Outcome.andThen_none rfl]
      exact ih f

/-- The cells of a window of the grid are the EVs, in grid order. -/
theorem cells_map {w : SentWindow} (h : w.Shaped T.numPlanes T.numPaths) :
    w.cells = T.cells.map fun e => ((e.1 : Nat), (e.2 : Nat), w.sentOn e.1 e.2) := by
  rw [h.cells_eq, cells, List.map_flatMap]
  simp [Function.comp_def]

theorem covered_iff (w : SentWindow) (report : LossReport) :
    Covered w report ↔
      ¬ (w.totalSent = 0 ∨ (report.totalSeen : ℚ) < minCoverageForAbsentLoss * w.totalSent) := by
  have hcast : (report.totalSeen : ℚ) < minCoverageForAbsentLoss * w.totalSent
      ↔ 2 * report.totalSeen < w.totalSent := by
    rw [minCoverageForAbsentLoss, ← @Nat.cast_lt ℚ, Nat.cast_mul]
    constructor
    · intro h
      push_cast
      linarith
    · intro h
      push_cast at h
      linarith
  rw [hcast, Covered]
  omega

/-! ## The whole fusion -/

theorem length_reportedCalls (T : EVStateTable) (tenant : String) (paired : Option SentWindow)
    (recs : List PlaneLossRecord) :
    (T.reportedCalls tenant paired recs).length = recs.countP (T.updates tenant paired) := by
  cases paired with
  | none =>
    show 0 = recs.countP fun _ => false
    rw [List.countP_false]; rfl
  | some w => exact List.length_filterMap_eq_countP

variable (T) in
/-- What the counters should say after a report: how many calls either pass made, how many records
    had no data, how many others had no usable count to pair with, and whether the report could not
    be paired or covered too little. -/
def fusionStats (cb : Option (TransitionCb T)) (tenant : String) (paired : Option SentWindow)
    (report : LossReport) (s : Store T) (st : LossFusionStats) : LossFusionStats where
  reportsProcessed := st.reportsProcessed + if report.planes = [] then 0 else 1
  planesUpdated := st.planesUpdated + (T.reportedCalls tenant paired report.planes).length
  pairedWithSentWindow :=
    st.pairedWithSentWindow + (T.reportedCalls tenant paired report.planes).length
  planesSkippedNoData :=
    st.planesSkippedNoData + report.planes.countP PlaneLossRecord.noData
  fellBackToReceiverExpected := st.fellBackToReceiverExpected
    + report.planes.countP fun rec => !rec.noData && !T.updates tenant paired rec
  noPairingWindowInRing := st.noPairingWindowInRing
    + if report.planes ≠ [] ∧ paired = none then 1 else 0
  absentEvsCountedAsLost :=
    st.absentEvsCountedAsLost + (T.lostCalls cb tenant paired report s).length
  absentCheckSkippedLowCoverage := st.absentCheckSkippedLowCoverage
    + if report.planes ≠ [] ∧ ∃ w, paired = some w ∧ ¬ Covered w report then 1 else 0

/-- `apply_loss_report`, in one equation. -/
theorem applyLossReport_eq {cb : Option (TransitionCb T)} (hcb : Returns cb) {tenant : String}
    (hmem : tenant ∈ T.tenants) (report : LossReport)
    (sentRing : SentWindowRing T.numPlanes T.numPaths) (receivedAtNs maxWindowSkewNs : Int)
    (f : Fused T) :
    T.applyLossReport cb tenant report sentRing receivedAtNs maxWindowSkewNs minSentForAbsentLoss f
      = (let paired := sentRing.findClosest receivedAtNs maxWindowSkewNs
         .ok ⟨T.runFrom cb f.table (T.fusionCalls cb tenant paired report f.table),
           T.fusionStats cb tenant paired report f.table f.stats⟩) := by
  unfold applyLossReport
  by_cases hempty : report.planes = []
  · rw [if_pos hempty]
    unfold fusionCalls lostCalls fusionStats
    rw [hempty]
    cases hp : sentRing.findClosest receivedAtNs maxWindowSkewNs with
    | none => simp [reportedCalls, lostCalls, runFrom]
    | some w => simp [reportedCalls, lostCalls, runFrom, hempty]
  · rw [if_neg hempty]
    cases hp : sentRing.findClosest receivedAtNs maxWindowSkewNs with
    | none =>
      dsimp only
      rw [planes_eq hcb hmem (fun w hw => by cases hw),
        Outcome.andThen_none rfl]
      simp [fusionCalls, lostCalls, fusionStats, length_reportedCalls,
        LossFusionStats.afterPlanes, hempty]
    | some w =>
      have hshape : w.Shaped T.numPlanes T.numPaths := SentWindowRing.findClosest_shaped hp
      dsimp only
      rw [planes_eq hcb hmem (fun w' hw => Option.some.inj hw ▸ hshape), Outcome.andThen_none rfl]
      by_cases hcov : Covered w report
      · rw [if_neg ((covered_iff w report).mp hcov), cells_map hshape, absents_eq hcb hmem]
        simp [fusionCalls, lostCalls, fusionStats, length_reportedCalls,
          LossFusionStats.afterPlanes, hempty, hcov, runFrom_append]
      · rw [if_pos (not_not.mp fun h => hcov ((covered_iff w report).mpr h))]
        simp [fusionCalls, lostCalls, fusionStats, length_reportedCalls,
          LossFusionStats.afterPlanes, hempty, hcov]

/-- `apply_loss_report` does exactly what its contract says: it pairs the report with a closest
    window within the skew bound, makes the reported calls and then the lost calls and nothing
    else, never raises, and counts which way every record and every absent EV went. -/
theorem applyLossReport_exact (T : EVStateTable) (cb : Option (TransitionCb T)) (hcb : Returns cb)
    (tenant : String) (hmem : tenant ∈ T.tenants) (report : LossReport)
    (sentRing : SentWindowRing T.numPlanes T.numPaths) (receivedAtNs maxWindowSkewNs : Int)
    (f : Fused T) :
    let paired := sentRing.findClosest receivedAtNs maxWindowSkewNs
    let o := T.applyLossReport cb tenant report sentRing receivedAtNs maxWindowSkewNs
      minSentForAbsentLoss f
    (paired = none ↔
      ∀ w ∈ sentRing.windows, maxWindowSkewNs < |w.midpointNs - receivedAtNs|) ∧
    (∀ w, paired = some w → w ∈ sentRing.windows ∧
      |w.midpointNs - receivedAtNs| ≤ maxWindowSkewNs ∧
      ∀ w' ∈ sentRing.windows, |w.midpointNs - receivedAtNs| ≤ |w'.midpointNs - receivedAtNs|) ∧
    o.raised = none ∧
    o.state.table = T.runFrom cb f.table
      (T.reportedCalls tenant paired report.planes ++ T.lostCalls cb tenant paired report f.table) ∧
    o.state.stats = T.fusionStats cb tenant paired report f.table f.stats := by
  intro paired o
  have ho : o = .ok ⟨T.runFrom cb f.table (T.fusionCalls cb tenant paired report f.table),
      T.fusionStats cb tenant paired report f.table f.stats⟩ :=
    applyLossReport_eq hcb hmem report sentRing receivedAtNs maxWindowSkewNs f
  rw [ho]
  exact ⟨SentWindowRing.findClosest_none, fun w hw => SentWindowRing.findClosest_some hw, rfl, rfl,
    rfl⟩

/-- A ring of one window for one plane of three paths, its midpoint at 5. -/
def oneWindow (sent : List Nat) (h : sent.length = 3) : SentWindowRing 1 3 where
  capacity := 1
  windows := [⟨0, 10, [sent], 0⟩]
  capacity_pos := by omega
  bounded := Nat.le_refl _
  shaped := by
    intro w hw
    rw [List.mem_singleton.mp hw]
    exact ⟨rfl, fun row hrow => by rw [List.mem_singleton.mp hrow]; exact h⟩

/-- At work on a report of four of six packets, with none from (0, 1): one call for each of the
    other two and one for it. -/
theorem applyLossReport_exact_threePaths :
    let T := threePaths {} (by decide)
    let report : LossReport := ⟨0, [⟨0, 0, 2, 2, 0, 0⟩, ⟨0, 2, 2, 2, 0, 0⟩]⟩
    let o := T.applyLossReport none "green" report (oneWindow [2, 2, 2] rfl) 5 0
      minSentForAbsentLoss ⟨T.fresh, {}⟩
    o.raised = none ∧
    o.state.table = T.runFrom none T.fresh [.lossWindow "green" 0 0 2 2,
      .lossWindow "green" 0 2 2 2, .lossWindow "green" 0 1 0 2] := by
  intro T report o
  obtain ⟨-, -, hret, htable, -⟩ := applyLossReport_exact T none returns_none "green"
    (List.mem_singleton_self _) report (oneWindow [2, 2, 2] rfl) 5 0 ⟨T.fresh, {}⟩
  refine ⟨hret, htable.trans (congrArg (T.runFrom none T.fresh) ?_)⟩
  decide +kernel

/-- The same report where one lossy window demotes: a callback that raises, as `_log_transition`
    does, ends it at (0, 1), which is not counted, and so does a tenant the table does not know. -/
theorem applyLossReport_raises :
    let T := threePaths { lossDemoteConsecutive := 1 } (by decide)
    let cb : Option (TransitionCb T) :=
      some fun _ _ _ _ _ => some (.keyError "consecutive_probe_timeouts")
    let report : LossReport := ⟨0, [⟨0, 0, 2, 2, 0, 0⟩, ⟨0, 2, 2, 2, 0, 0⟩]⟩
    let paired := (oneWindow [2, 2, 2] rfl).findClosest 5 0
    let o := T.applyLossReport cb "green" report (oneWindow [2, 2, 2] rfl) 5 0
      minSentForAbsentLoss ⟨T.fresh, {}⟩
    o.raised = some (.keyError "consecutive_probe_timeouts") ∧
    o.state.stats.absentEvsCountedAsLost = 0 ∧
    (T.lostCalls cb "green" paired report T.fresh).length = 1 ∧
    (T.applyLossReport none "blue" report (oneWindow [2, 2, 2] rfl) 5 0
      minSentForAbsentLoss ⟨T.fresh, {}⟩).raised = some (.unknownTenant "blue" ["green"]) := by
  decide +kernel

end EVStateTable
end Srv6Mrc
