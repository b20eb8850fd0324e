/-
  Runs of a sender: table calls and loss reports, in any order.

  A report reaches an EV in one of three ways: by a record of its own, by its absence from a report
  that should have had it, or not at all.  `report_absent` says what the last two do to its record;
  a quarantined EV, or one the report cannot say anything about, is left alone.  What the loss
  windows of a report keep, the report keeps (`report_inv`), and with it every run.
-/
import Srv6Mrc.EvState.WeightGrid
import Srv6Mrc.Loss.Fusion

namespace Srv6Mrc.EVStateTable

variable {T : EVStateTable}

variable (T) in
/-- One operation of the sender on its table. -/
inductive Op where
  | call (c : Call)
  | report (tenant : String) (report : LossReport)
      (sentRing : SentWindowRing T.numPlanes T.numPaths) (receivedAtNs maxWindowSkewNs : Int)

variable (T) in
/-- One operation, whatever it raises. -/
def opStep (cb : Option (TransitionCb T)) (f : Fused T) : T.Op → Fused T
  | .call c => { f with table := (T.step cb f.table c).state }
  | .report tenant report sentRing receivedAtNs maxWindowSkewNs =>
    (T.applyLossReport cb tenant report sentRing receivedAtNs maxWindowSkewNs
      minSentForAbsentLoss f).state

variable (T) in
/-- A run of operations. -/
def opsFrom (cb : Option (TransitionCb T)) (f : Fused T) (ops : List T.Op) : Fused T :=
  ops.foldl (T.opStep cb) f

theorem opsFrom_snoc (cb : Option (TransitionCb T)) (f : Fused T) (ops : List T.Op) (op : T.Op) :
    T.opsFrom cb f (ops ++ [op]) = T.opStep cb (T.opsFrom cb f ops) op := by
  simp [opsFrom, List.foldl_append]

/-! ## Calls that do not reach an EV -/

/-- Calls that are nothing to an EV leave its record. -/
theorem runFrom_quiet (cb : Option (TransitionCb T)) {tenant : String} {e : T.EV}
    {calls : List Call} (h : ∀ c ∈ calls, T.signal tenant e c = .quiet) (s : Store T) :
    (T.runFrom cb s calls).evs tenant e = s.evs tenant e := by
  induction calls generalizing s with
  | nil => rfl
  | cons c calls ih =>
    show (T.runFrom cb (T.step cb s c).state calls).evs tenant e = _
    rw [ih (fun c' hc' => h c' (List.mem_cons_of_mem c hc')), step_evs,
      h c (List.mem_cons_self ..), afterSignal]

/-- A loss window of one EV does not reach another. -/
theorem signal_lossWindow_other {tenant : String} {e : T.EV} {plane path : Nat}
    (h : (plane, path) ≠ ((e.1 : Nat), (e.2 : Nat))) (seen expected : Int) :
    T.signal tenant e (.lossWindow tenant plane path seen expected) = .quiet := by
  refine if_neg ?_
  rintro ⟨⟨-, -, hp, hq⟩, -⟩
  exact h (Prod.ext (by omega) (by omega))

/-- Records of others are nothing to an EV. -/
theorem reportedCalls_quiet {tenant : String} {e : T.EV} {paired : Option SentWindow}
    {recs : List PlaneLossRecord}
    (h : ((e.1 : Nat), (e.2 : Nat)) ∉ recs.map PlaneLossRecord.ev) :
    ∀ c ∈ T.reportedCalls tenant paired recs, T.signal tenant e c = .quiet := by
  intro c hc
  cases paired with
  | none => exact absurd hc List.not_mem_nil
  | some w =>
    obtain ⟨rec, hrec, hcall⟩ := List.mem_filterMap.mp hc
    unfold reportedCall at hcall
    split at hcall
    · rw [← Option.some.inj hcall]
      refine signal_lossWindow_other (fun heq => h ?_) _ _
      rw [← heq]
      exact List.mem_map.mpr ⟨rec, hrec, rfl⟩
    · nomatch hcall

/-- The absence of others is nothing to an EV. -/
theorem absentCalls_quiet (cb : Option (TransitionCb T)) {tenant : String} {e : T.EV}
    (w : SentWindow) (report : LossReport) {es : List T.EV} (h : e ∉ es) (s : Store T) :
    ∀ c ∈ T.absentCalls cb tenant w report s es, T.signal tenant e c = .quiet := by
  induction es generalizing s with
  | nil => exact fun c hc => absurd hc List.not_mem_nil
  | cons e' es ih =>
    obtain ⟨hne, hnot⟩ := not_or.mp (List.mem_cons.not.mp h)
    intro c hc
    rw [absentCalls] at hc
    split at hc
    · rcases List.mem_cons.mp hc with rfl | hc
      · refine signal_lossWindow_other (fun heq => hne ?_) _ _
        rw [Prod.mk.injEq] at heq
        exact Prod.ext (Fin.ext heq.1.symm) (Fin.ext heq.2.symm)
      · exact ih hnot _ c hc
    · exact ih hnot _ c hc

/-- The calls for absent EVs, in two parts. -/
theorem absentCalls_append (cb : Option (TransitionCb T)) (tenant : String) (w : SentWindow)
    (report : LossReport) (s : Store T) (es es' : List T.EV) :
    T.absentCalls cb tenant w report s (es ++ es')
      = T.absentCalls cb tenant w report s es
        ++ T.absentCalls cb tenant w report
            (T.runFrom cb s (T.absentCalls cb tenant w report s es)) es' := by
  induction es generalizing s with
  | nil => rfl
  | cons e es ih =>
    rw [List.cons_append, absentCalls, absentCalls]
    by_cases hlost : T.Lost tenant w report s e
    · rw [if_pos hlost, if_pos hlost]
      dsimp only
      rw [ih]
      rfl
    · rw [if_neg hlost, if_neg hlost, ih]

/-! ## A report without a record for the EV -/

variable (T) in
/-- The report speaks about the EV by not mentioning it: it is not empty, and pairs with a window
    with two packets or more on the EV of which it accounts for at least half. -/
def Qualifies (e : T.EV) (report : LossReport) (sentRing : SentWindowRing T.numPlanes T.numPaths)
    (receivedAtNs maxWindowSkewNs : Int) : Prop :=
  report.planes ≠ [] ∧ ∃ w, sentRing.findClosest receivedAtNs maxWindowSkewNs = some w ∧
    2 ≤ w.sentOn e.1 e.2 ∧ w.totalSent ≤ 2 * report.totalSeen

section Pairing

variable {e : T.EV} {report : LossReport} {sentRing : SentWindowRing T.numPlanes T.numPaths}
  {receivedAtNs maxWindowSkewNs : Int}

theorem not_qualifies (hp : sentRing.findClosest receivedAtNs maxWindowSkewNs = none) :
    ¬ T.Qualifies e report sentRing receivedAtNs maxWindowSkewNs := by
  rintro ⟨-, w, hw, -⟩
  rw [hp] at hw
  cases hw

/-- With one, it is what was sent and reported that counts. -/
theorem qualifies_iff {w : SentWindow}
    (hp : sentRing.findClosest receivedAtNs maxWindowSkewNs = some w) :
    T.Qualifies e report sentRing receivedAtNs maxWindowSkewNs
      ↔ report.planes ≠ [] ∧ 2 ≤ w.sentOn e.1 e.2 ∧ w.totalSent ≤ 2 * report.totalSeen := by
  constructor
  · rintro ⟨hne, w', hw', h2, hcov⟩
    obtain rfl := Option.some.inj (hp.symm.trans hw')
    exact ⟨hne, h2, hcov⟩
  · rintro ⟨hne, h2, hcov⟩
    exact ⟨hne, w, hp, h2, hcov⟩

end Pairing

variable (T) in
/-- The table when the EV's turn comes in the second pass of a report. -/
def atTurn (cb : Option (TransitionCb T)) (tenant : String) (e : T.EV) (report : LossReport)
    (paired : Option SentWindow) (s : Store T) : Store T :=
  let s₁ := T.runFrom cb s (T.reportedCalls tenant paired report.planes)
  match paired with
  | none => s₁
  | some w => T.runFrom cb s₁ (T.absentCalls cb tenant w report s₁ (T.before e))

/-- The calls before an EV's turn leave its record. -/
theorem atTurn_evs (cb : Option (TransitionCb T)) {tenant : String} {e : T.EV}
    {report : LossReport} (hno : ((e.1 : Nat), (e.2 : Nat)) ∉ report.reported)
    (paired : Option SentWindow) (s : Store T) :
    (T.atTurn cb tenant e report paired s).evs tenant e = s.evs tenant e := by
  unfold atTurn
  cases paired with
  | none => exact runFrom_quiet cb (reportedCalls_quiet hno) s
  | some w =>
    dsimp only
    rw [runFrom_quiet cb (absentCalls_quiet cb w report (not_mem_before e) _),
      runFrom_quiet cb (reportedCalls_quiet hno)]

/-- The second pass, seen by one EV: its own turn, or nothing. -/
theorem absentCalls_evs (cb : Option (TransitionCb T)) {tenant : String}
    (hmem : tenant ∈ T.tenants) (e : T.EV) (w : SentWindow) (report : LossReport) (s : Store T) :
    let turn := T.runFrom cb s (T.absentCalls cb tenant w report s (T.before e))
    (T.runFrom cb s (T.absentCalls cb tenant w report s T.cells)).evs tenant e
      = if T.Lost tenant w report turn e then
          T.lossJudge (T.room tenant e turn) (turn.ticks tenant) 1 (turn.evs tenant e)
        else turn.evs tenant e := by
  intro turn
  -- only the EV's own call reaches it, and that is decided at its turn
  have hcells : T.absentCalls cb tenant w report s T.cells
      = T.absentCalls cb tenant w report s (T.before e)
        ++ T.absentCalls cb tenant w report turn (e :: T.behind e) := by
    rw [← absentCalls_append, ← cells_eq e]
  rw [hcells, runFrom_append, absentCalls]
  by_cases hlost : T.Lost tenant w report turn e
  · rw [if_pos hlost, if_pos hlost]
    show (T.runFrom cb (T.step cb turn _).state _).evs tenant e = _
    have hpos : 0 < w.sentOn e.1 e.2 := Nat.lt_of_lt_of_le Nat.zero_lt_two hlost.1
    rw [runFrom_quiet cb (absentCalls_quiet cb w report (not_mem_behind e) _), step_evs,
      signal_lost hmem e hpos, afterSignal]
  · rw [if_neg hlost, if_neg hlost]
    exact runFrom_quiet cb (absentCalls_quiet cb w report (not_mem_behind e) turn) turn

/-- A report without a record for the EV: if it qualifies and the EV is not quarantined, it is one
    more window of total loss; else the EV's record does not change. -/
theorem report_absent {cb : Option (TransitionCb T)} (hcb : Returns cb) {tenant : String}
    (hmem : tenant ∈ T.tenants) {e : T.EV} {report : LossReport}
    (hno : ((e.1 : Nat), (e.2 : Nat)) ∉ report.reported)
    (sentRing : SentWindowRing T.numPlanes T.numPaths) (receivedAtNs maxWindowSkewNs : Int)
    (f : Fused T) :
    let turn := T.atTurn cb tenant e report
      (sentRing.findClosest receivedAtNs maxWindowSkewNs) f.table
    let r := f.table.evs tenant e
    let r' := (T.opStep cb f
      (.report tenant report sentRing receivedAtNs maxWindowSkewNs)).table.evs tenant e
    (T.Qualifies e report sentRing receivedAtNs maxWindowSkewNs → r.state ≠ .assumedBad →
      r' = T.lossJudge (T.room tenant e turn) (turn.ticks tenant) 1 r) ∧
    (¬ T.Qualifies e report sentRing receivedAtNs maxWindowSkewNs ∨ r.state = .assumedBad →
      r' = r) := by
  intro turn r r'
  have hr' : r' = (T.runFrom cb f.table (T.fusionCalls cb tenant
      (sentRing.findClosest receivedAtNs maxWindowSkewNs) report f.table)).evs tenant e := by
    show ((T.applyLossReport ..).state.table).evs tenant e = _
    rw [applyLossReport_eq hcb hmem]
    rfl
  have hturn : turn.evs tenant e = r := atTurn_evs cb hno _ f.table
  rw [fusionCalls, runFrom_append] at hr'
  cases hp : sentRing.findClosest receivedAtNs maxWindowSkewNs with
  | none =>
    -- nothing to compare the report with
    have hnot : ¬ T.Qualifies e report sentRing receivedAtNs maxWindowSkewNs := not_qualifies hp
    refine ⟨fun h => absurd h hnot, fun _ => ?_⟩
    rw [hr', hp]
    exact runFrom_quiet cb (reportedCalls_quiet hno) f.table
  | some w =>
    have hsplit : turn = T.runFrom cb
        (T.runFrom cb f.table (T.reportedCalls tenant (some w) report.planes))
        (T.absentCalls cb tenant w report
          (T.runFrom cb f.table (T.reportedCalls tenant (some w) report.planes)) (T.before e)) := by
      show T.atTurn cb tenant e report (sentRing.findClosest receivedAtNs maxWindowSkewNs) f.table
        = _
      rw [hp]
      rfl
    rw [hp, lostCalls] at hr'
    by_cases hcov : report.planes ≠ [] ∧ Covered w report
    · rw [if_pos hcov, absentCalls_evs cb hmem e w report, ← hsplit, hturn] at hr'
      constructor
      · intro hq hne
        obtain ⟨-, h2, -⟩ := (qualifies_iff hp).mp hq
        rw [hr', if_pos ⟨h2, hno, by rw [hturn]; exact hne⟩]
      · intro h
        rw [hr', if_neg]
        rintro ⟨h2, -, hne⟩
        rcases h with h | h
        · exact h ((qualifies_iff hp).mpr ⟨hcov.1, h2, hcov.2.2⟩)
        · exact hne (by rw [hturn]; exact h)
    · -- two packets on the EV are packets sent, so only the coverage is in question
      rw [if_neg hcov] at hr'
      have hsame : r' = r := by
        rw [hr']
        exact runFrom_quiet cb (reportedCalls_quiet hno) f.table
      refine ⟨fun hq _ => ?_, fun _ => hsame⟩
      obtain ⟨hne, h2, hle⟩ := (qualifies_iff hp).mp hq
      have hsent := w.sentOn_le_totalSent e.1 e.2
      exact absurd ⟨hne, by omega, hle⟩ hcov

/-! ## What a report keeps -/

variable (T) in
/-- The loss windows a report makes with paired window `w` keep the invariant: those of the EVs
    that were sent on. -/
def KeptBy (cb : Option (TransitionCb T)) (tenant : String) (I : Store T → Prop) (w : SentWindow) :
    Prop :=
  ∀ (plane path seen : Nat) s, 0 < w.sentOn plane path → I s →
    I (T.recordLossWindow cb tenant plane path seen (w.sentOn plane path) s).state

section Invariant

variable {cb : Option (TransitionCb T)} {tenant : String} {I : Store T → Prop}

/-- A record's turn keeps what its call keeps. -/
theorem planeTurn_inv {paired : Option SentWindow}
    (hcall : ∀ w, paired = some w → T.KeptBy cb tenant I w) (rec : PlaneLossRecord) {f : Fused T}
    (hf : I f.table) : I (T.planeTurn cb tenant paired rec f).state.table := by
  unfold planeTurn
  split
  · exact hf
  · cases paired with
    | none => exact hf
    | some w =>
      dsimp only
      split
      · exact hf
      · rename_i hpos
        refine Outcome.andThen_inv (I := fun f' : Fused T => I f'.table) ?_ fun s hs => hs
        exact hcall w rfl _ _ _ _ (Nat.pos_of_ne_zero hpos) hf

theorem absentTurn_inv {w : SentWindow} (hshape : w.Shaped T.numPlanes T.numPaths)
    (hcall : T.KeptBy cb tenant I w) (reported : List (Nat × Nat)) {cell : Nat × Nat × Nat}
    (hcell : cell ∈ w.cells) {f : Fused T} (hf : I f.table) :
    I (T.absentTurn cb tenant reported minSentForAbsentLoss cell f).state.table := by
  obtain ⟨plane, path, senderSent⟩ := cell
  obtain rfl := hshape.sent_of_mem_cells hcell
  unfold absentTurn
  dsimp only
  split
  · exact hf
  · rename_i hmin
    split
    · exact hf
    · split
      · exact hf
      · split
        · exact hf
        · refine Outcome.andThen_inv (I := fun f' : Fused T => I f'.table) ?_ fun s hs => hs
          have hpos : 0 < w.sentOn plane path := by
            unfold minSentForAbsentLoss at hmin
            omega
          exact hcall plane path 0 _ hpos hf

/-- The rule for one report: an invariant of the table that every loss window of an EV sent on in
    the paired window keeps, the report keeps, also when it is cut short. -/
theorem report_inv (report : LossReport) {sentRing : SentWindowRing T.numPlanes T.numPaths}
    {receivedAtNs maxWindowSkewNs : Int}
    (hcall : ∀ w, sentRing.findClosest receivedAtNs maxWindowSkewNs = some w →
      T.KeptBy cb tenant I w) {f : Fused T} (hf : I f.table) :
    I (T.opStep cb f (.report tenant report sentRing receivedAtNs maxWindowSkewNs)).table := by
  show I (T.applyLossReport ..).state.table
  unfold applyLossReport
  split
  · exact hf
  · refine Outcome.andThen_inv (I := fun f' : Fused T => I f'.table)
      (Outcome.forEach_inv (I := fun f' : Fused T => I f'.table)
        (fun rec _ f' hf' => planeTurn_inv hcall rec hf') ?_) ?_
    · dsimp only
      split
      · exact hf
      · exact hf
    · intro f' hf'
      cases hp : sentRing.findClosest receivedAtNs maxWindowSkewNs with
      | none => exact hf'
      | some w =>
        dsimp only
        split
        · exact hf'
        · exact Outcome.forEach_inv (I := fun f' : Fused T => I f'.table)
            (fun cell hcell f'' hf'' => absentTurn_inv
              (SentWindowRing.findClosest_shaped hp) (hcall w hp) _ hcell hf'') hf'

end Invariant

/-- A report for one tenant leaves the EVs of every other as they were. -/
theorem report_other (cb : Option (TransitionCb T)) {tenant tenant' : String}
    (h : tenant' ≠ tenant) (report : LossReport)
    (sentRing : SentWindowRing T.numPlanes T.numPaths) (receivedAtNs maxWindowSkewNs : Int)
    (f : Fused T) :
    (T.opStep cb f (.report tenant report sentRing receivedAtNs maxWindowSkewNs)).table.evs tenant'
      = f.table.evs tenant' := by
  refine report_inv (I := fun s => s.evs tenant' = f.table.evs tenant') report ?_ rfl
  intro w _ plane path seen s _ hs
  have hother := (step_other_tenant cb s
    (.lossWindow tenant plane path seen (w.sentOn plane path)) h.symm).1
  exact hother.trans hs

/-- A report paired with a window in which nothing was sent on the EV leaves the EV as it was. -/
theorem report_unsent (cb : Option (TransitionCb T)) {tenant : String} {e : T.EV}
    (report : LossReport) {sentRing : SentWindowRing T.numPlanes T.numPaths}
    {receivedAtNs maxWindowSkewNs : Int}
    (h : ∀ w, sentRing.findClosest receivedAtNs maxWindowSkewNs = some w → w.sentOn e.1 e.2 = 0)
    (f : Fused T) :
    (T.opStep cb f (.report tenant report sentRing receivedAtNs maxWindowSkewNs)).table.evs tenant e
      = f.table.evs tenant e := by
  refine report_inv (I := fun s => s.evs tenant e = f.table.evs tenant e) report ?_ rfl
  intro w hp plane path seen s hpos hs
  have hne : (plane, path) ≠ ((e.1 : Nat), (e.2 : Nat)) := by
    intro heq
    rw [Prod.mk.injEq] at heq
    rw [heq.1, heq.2, h w hp] at hpos
    exact absurd hpos (Nat.lt_irrefl 0)
  have hquiet := step_evs cb s (.lossWindow tenant plane path seen (w.sentOn plane path)) tenant e
  rw [signal_lossWindow_other hne] at hquiet
  exact hquiet.trans hs

/-! ## Invariants over runs of operations -/

/-- The calls a run makes itself, apart from those its reports make. -/
def ownCalls (ops : List T.Op) : List Call :=
  ops.filterMap fun op => match op with
    | .call c => some c
    | .report .. => none

/-- The calls of two lists of operations. -/
theorem ownCalls_append (ops ops' : List T.Op) :
    ownCalls (ops ++ ops') = ownCalls ops ++ ownCalls ops' :=
  List.filterMap_append

theorem ownCalls_call (ops : List T.Op) (c : Call) :
    ownCalls (ops ++ [.call c]) = ownCalls ops ++ [c] := by
  simp [ownCalls]

theorem ownCalls_report (ops : List T.Op) (tenant : String) (report : LossReport)
    (sentRing : SentWindowRing T.numPlanes T.numPaths) (receivedAtNs maxWindowSkewNs : Int) :
    ownCalls (ops ++ [.report tenant report sentRing receivedAtNs maxWindowSkewNs])
      = ownCalls ops := by
  simp [ownCalls]

/-- A fact about single records holds after every run of operations. -/
theorem RecordInv.afterOps {P : EVRecord → Prop} (h : T.RecordInv P)
    (cb : Option (TransitionCb T)) (stats : LossFusionStats) (ops : List T.Op) :
    ∀ tenant e, P ((T.opsFrom cb ⟨T.fresh, stats⟩ ops).table.evs tenant e) := by
  induction ops using List.reverseRecOn with
  | nil =>
    intro tenant e
    show P (T.fresh.evs tenant e)
    rw [fresh_evs]
    exact h.fresh
  | append_singleton ops op ih =>
    rw [opsFrom_snoc]
    cases op with
    | call c => exact fun tenant e => h.step cb ih c tenant e
    | report t report sentRing receivedAtNs maxWindowSkewNs =>
      refine report_inv (I := fun s => ∀ tenant e, P (s.evs tenant e)) report ?_ ih
      intro w _ plane path seen s _ hs tenant e
      exact h.step cb hs (.lossWindow t plane path seen (w.sentOn plane path)) tenant e

/-- A loss window leaves the probe window. -/
theorem lossWindow_window (cb : Option (TransitionCb T)) (s : Store T) (t : String)
    (plane path seen expected : Int) (tenant : String) (e : T.EV) :
    ((T.recordLossWindow cb t plane path seen expected s).state.evs tenant e).bucket
        = (s.evs tenant e).bucket ∧
      ((T.recordLossWindow cb t plane path seen expected s).state.evs tenant e).buckets
        = (s.evs tenant e).buckets := by
  have hstep : (T.recordLossWindow cb t plane path seen expected s).state.evs tenant e
      = T.afterSignal cb s tenant e (T.signal tenant e (.lossWindow t plane path seen expected)) :=
    step_evs cb s (.lossWindow t plane path seen expected) tenant e
  rw [hstep, signal]
  split
  · exact lossJudge_window ..
  · exact ⟨rfl, rfl⟩

/-- Reports do not touch the probe windows: these track the calls the run makes itself. -/
theorem tracks_afterOps {cb : Option (TransitionCb T)} (hcb : Returns cb)
    (hmax : 0 ≤ T.cfg.lossBackoffMaxLevel) (tenant : String) (e : T.EV) (stats : LossFusionStats)
    (ops : List T.Op) :
    SlidingWindow.Tracks T.win ((T.opsFrom cb ⟨T.fresh, stats⟩ ops).table.evs tenant e).bucket
      ((T.opsFrom cb ⟨T.fresh, stats⟩ ops).table.evs tenant e).buckets
      (T.probeLog tenant e (ownCalls ops)) := by
  induction ops using List.reverseRecOn with
  | nil =>
    show SlidingWindow.Tracks T.win (T.fresh.evs tenant e).bucket (T.fresh.evs tenant e).buckets []
    rw [fresh_evs]
    exact SlidingWindow.tracks_empty _
  | append_singleton ops op ih =>
    rw [opsFrom_snoc]
    cases op with
    | call c =>
      rw [ownCalls_call, probeLog_snoc]
      refine window_step cb (fun m _ _ _ h => h.add m) (fun _ _ _ h => h.close) ?_ ih c
      intro hraised
      have hret : (T.upTo cb tenant e (T.opsFrom cb ⟨T.fresh, stats⟩ ops).table).raised = none :=
        turns_return hcb hmax _ ((level_recordInv hmax).afterOps cb stats ops tenant)
      exact absurd hret hraised
    | report t report sentRing receivedAtNs maxWindowSkewNs =>
      rw [ownCalls_report]
      refine report_inv (I := fun s => SlidingWindow.Tracks T.win (s.evs tenant e).bucket
        (s.evs tenant e).buckets (T.probeLog tenant e (ownCalls ops))) report ?_ ih
      intro w _ plane path seen s _ hs
      have hwin := lossWindow_window cb s t plane path seen (w.sentOn plane path) tenant e
      rwa [hwin.1, hwin.2]

end Srv6Mrc.EVStateTable
