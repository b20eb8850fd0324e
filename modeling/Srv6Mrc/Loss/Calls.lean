/-
  A report as the calls it makes, whatever the callback does about them.

  `applyLossReport_eq` is about a callback that returns.  One that raises ends the report at the
  call that raised, and the calls after it are not made.  `makeCalls` makes calls in that way, and
  `applyLossReport_calls` says that a report is its `fusionCalls`, so made.  What is known about the
  list of calls is then known about every start of it.
-/
import Srv6Mrc.EvState.Demotion
import Srv6Mrc.Loss.Run

namespace Srv6Mrc.EVStateTable

variable {T : EVStateTable}

variable (T) in
/-- Make calls one after the other, up to the first that raises. -/
def makeCalls (cb : Option (TransitionCb T)) (calls : List Call) (s : Store T) :
    Outcome PyError (Store T) :=
  Outcome.forEach (fun c s => T.step cb s c) calls s

/-- The fusion has left this table, and raised the same. -/
def Fused.Leaves (o : Outcome PyError (Fused T)) (o' : Outcome PyError (Store T)) : Prop :=
  o.state.table = o'.state ∧ o.raised = o'.raised

theorem Fused.Leaves.andThen {o : Outcome PyError (Fused T)} {o' : Outcome PyError (Store T)}
    {g : Fused T → Outcome PyError (Fused T)} {g' : Store T → Outcome PyError (Store T)}
    (h : Fused.Leaves o o')
    (hnext : o'.raised = none → Fused.Leaves (g o.state) (g' o.state.table)) :
    Fused.Leaves (o.andThen g) (o'.andThen g') := by
  obtain ⟨htable, hraised⟩ := h
  by_cases hr : o'.raised = none
  · rw [Outcome.andThen_none hr, Outcome.andThen_none (hraised.trans hr), ← htable]
    exact hnext hr
  · rw [Outcome.andThen_some hr, Outcome.andThen_some (hraised ▸ hr)]
    exact ⟨htable, hraised⟩

/-- A call in the middle of a turn, and counters raised after it. -/
theorem Fused.Leaves.onTable {f : Fused T} {o : Outcome PyError (Store T)}
    {count : Fused T → Fused T} (hcount : ∀ f, (count f).table = f.table) :
    Fused.Leaves ((f.onTable o).andThen fun f => .ok (count f)) o := by
  by_cases hr : (f.onTable o).raised = none
  · rw [Outcome.andThen_none hr]
    exact ⟨hcount _, hr.symm⟩
  · rw [Outcome.andThen_some hr]
    exact ⟨rfl, rfl⟩

section Loops

variable (cb : Option (TransitionCb T)) {tenant : String}

theorem makeCalls_append (calls calls' : List Call) (s : Store T) :
    T.makeCalls cb (calls ++ calls') s = (T.makeCalls cb calls s).andThen (T.makeCalls cb calls') :=
  Outcome.forEach_append ..

theorem makeCalls_single (c : Call) (s : Store T) : T.makeCalls cb [c] s = T.step cb s c := by
  show (T.step cb s c).andThen _ = _
  by_cases hr : (T.step cb s c).raised = none
  · rw [Outcome.andThen_none hr, Outcome.forEach_nil, Outcome.ok, ← hr]
  · rw [Outcome.andThen_some hr]

theorem makeCalls_state {calls : List Call} {s : Store T}
    (h : (T.makeCalls cb calls s).raised = none) :
    (T.makeCalls cb calls s).state = T.runFrom cb s calls :=
  Outcome.forEach_state h

/-- The calls that are made are a start of the list, and the table is the one they leave. -/
theorem makeCalls_prefix (calls : List Call) (s : Store T) :
    ∃ made, made <+: calls ∧ (T.makeCalls cb calls s).state = T.runFrom cb s made := by
  induction calls generalizing s with
  | nil => exact ⟨[], List.prefix_refl _, rfl⟩
  | cons c calls ih =>
    have hcons : T.makeCalls cb (c :: calls) s = (T.step cb s c).andThen (T.makeCalls cb calls) :=
      rfl
    by_cases hr : (T.step cb s c).raised = none
    · obtain ⟨made, hpre, hstate⟩ := ih (T.step cb s c).state
      refine ⟨c :: made, List.prefix_cons_inj c |>.mpr hpre, ?_⟩
      rw [hcons, Outcome.andThen_none hr, hstate]
      rfl
    · refine ⟨[c], List.prefix_append [c] calls, ?_⟩
      rw [hcons, Outcome.andThen_some hr]
      rfl

theorem planeTurn_calls {paired : Option SentWindow}
    (hshape : ∀ w, paired = some w → w.Shaped T.numPlanes T.numPaths) (rec : PlaneLossRecord)
    (f : Fused T) :
    Fused.Leaves (T.planeTurn cb tenant paired rec f)
      (T.makeCalls cb (T.reportedCalls tenant paired [rec]) f.table) := by
  unfold planeTurn
  cases paired with
  | none => by_cases hno : rec.noData = true <;> simp [hno, reportedCalls, makeCalls, Fused.Leaves]
  | some w =>
    by_cases hno : rec.noData = true
    · have hcall : T.reportedCall tenant w rec = none := if_neg fun h => by simp [hno] at h
      simp [hno, reportedCalls, hcall, makeCalls, Fused.Leaves]
    · by_cases h0 : w.sentOn rec.planeId.toNat rec.pathId.toNat = 0
      · have hcall : T.reportedCall tenant w rec = none :=
          if_neg fun h => absurd h.2.2.2 (by omega)
        simp [hno, h0, reportedCalls, hcall, makeCalls, Fused.Leaves]
      · have hpos := Nat.pos_of_ne_zero h0
        obtain ⟨hplane, hpath⟩ := (hshape w rfl).in_range hpos
        have hcall : T.reportedCall tenant w rec
            = some (.lossWindow tenant rec.planeId.toNat rec.pathId.toNat rec.arrived
              (w.sentOn rec.planeId.toNat rec.pathId.toNat)) :=
          if_pos ⟨hplane, hpath, by simpa using hno, hpos⟩
        rw [reportedCalls, List.filterMap_cons_some hcall, List.filterMap_nil, makeCalls_single,
          if_neg hno]
        dsimp only
        rw [if_neg h0]
        exact Fused.Leaves.onTable fun _ => rfl

/-- The loop over the records makes theirs. -/
theorem planes_calls {paired : Option SentWindow}
    (hshape : ∀ w, paired = some w → w.Shaped T.numPlanes T.numPaths)
    (recs : List PlaneLossRecord) (f : Fused T) :
    Fused.Leaves (Outcome.forEach (T.planeTurn cb tenant paired) recs f)
      (T.makeCalls cb (T.reportedCalls tenant paired recs) f.table) := by
  induction recs generalizing f with
  | nil => cases paired <;> exact ⟨rfl, rfl⟩
  | cons rec recs ih =>
    rw [Outcome.forEach_cons, reportedCalls_cons, makeCalls_append]
    exact (planeTurn_calls cb hshape rec f).andThen fun _ => ih _

/-- An absent EV's turn makes its call, if enough was sent on it. -/
theorem absentTurn_calls (hmem : tenant ∈ T.tenants) (w : SentWindow) (report : LossReport)
    (e : T.EV) (f : Fused T) :
    Fused.Leaves
      (T.absentTurn cb tenant report.reported minSentForAbsentLoss (e.1, e.2, w.sentOn e.1 e.2) f)
      (if T.Lost tenant w report f.table e then
        T.step cb f.table (.lossWindow tenant e.1 e.2 0 (w.sentOn e.1 e.2))
      else .ok f.table) := by
  unfold absentTurn
  dsimp only
  rw [state_ok hmem]
  dsimp only
  have hmin : minSentForAbsentLoss = 2 := rfl
  by_cases hfew : (w.sentOn e.1 e.2 : Int) < minSentForAbsentLoss
  · have hnot : ¬ T.Lost tenant w report f.table e := by
      intro h
      have h2 : 2 ≤ w.sentOn e.1 e.2 := h.1
      omega
    rw [if_pos hfew, if_neg hnot]
    exact ⟨rfl, rfl⟩
  · by_cases hin : ((e.1 : Nat), (e.2 : Nat)) ∈ report.reported
    · rw [if_neg hfew, if_pos hin, if_neg fun h : T.Lost .. => h.2.1 hin]
      exact ⟨rfl, rfl⟩
    · by_cases hbad : (f.table.evs tenant e).state = .assumedBad
      · rw [if_neg hfew, if_neg hin, if_pos hbad, if_neg fun h : T.Lost .. => h.2.2 hbad]
        exact ⟨rfl, rfl⟩
      · have h2 : 2 ≤ w.sentOn e.1 e.2 := by omega
        have hlost : T.Lost tenant w report f.table e := ⟨h2, hin, hbad⟩
        rw [if_neg hfew, if_neg hin, if_neg hbad, if_pos hlost]
        exact Fused.Leaves.onTable fun _ => rfl

/-- The loop over the grid makes theirs. -/
theorem absents_calls (hmem : tenant ∈ T.tenants) (w : SentWindow) (report : LossReport)
    (es : List T.EV) (f : Fused T) :
    Fused.Leaves
      (Outcome.forEach (T.absentTurn cb tenant report.reported minSentForAbsentLoss)
        (es.map fun e => ((e.1 : Nat), (e.2 : Nat), w.sentOn e.1 e.2)) f)
      (T.makeCalls cb (T.absentCalls cb tenant w report f.table es) f.table) := by
  induction es generalizing f with
  | nil => exact ⟨rfl, rfl⟩
  | cons e es ih =>
    have hturn := absentTurn_calls cb hmem w report e f
    rw [List.map_cons, Outcome.forEach_cons, absentCalls]
    by_cases hlost : T.Lost tenant w report f.table e
    · rw [if_pos hlost] at hturn ⊢
      -- the calls after this one are decided by the table it leaves
      refine hturn.andThen fun _ => ?_
      rw [← hturn.1]
      exact ih _
    · rw [if_neg hlost] at hturn ⊢
      obtain ⟨htable, hraised⟩ := hturn
      rw [Outcome.andThen_none hraised]
      have hnext := ih (T.absentTurn cb tenant report.reported minSentForAbsentLoss
        (e.1, e.2, w.sentOn e.1 e.2) f).state
      rwa [show _ = f.table from htable] at hnext

/-- `apply_loss_report` makes the calls of `fusionCalls`, up to one that raises. -/
theorem applyLossReport_calls (hmem : tenant ∈ T.tenants) (report : LossReport)
    (sentRing : SentWindowRing T.numPlanes T.numPaths) (receivedAtNs maxWindowSkewNs : Int)
    (f : Fused T) :
    Fused.Leaves
      (T.applyLossReport cb tenant report sentRing receivedAtNs maxWindowSkewNs
        minSentForAbsentLoss f)
      (T.makeCalls cb (T.fusionCalls cb tenant
        (sentRing.findClosest receivedAtNs maxWindowSkewNs) report f.table) f.table) := by
  unfold applyLossReport fusionCalls
  rw [makeCalls_append]
  by_cases hempty : report.planes = []
  · rw [if_pos hempty, hempty]
    cases hp : sentRing.findClosest receivedAtNs maxWindowSkewNs with
    | none => exact ⟨rfl, rfl⟩
    | some w =>
      rw [lostCalls, if_neg fun h => h.1 hempty]
      exact ⟨rfl, rfl⟩
  · rw [if_neg hempty]
    cases hp : sentRing.findClosest receivedAtNs maxWindowSkewNs with
    | none =>
      exact (planes_calls cb (fun w hw => by cases hw) report.planes _).andThen fun _ => ⟨rfl, rfl⟩
    | some w =>
      have hshape : w.Shaped T.numPlanes T.numPaths := SentWindowRing.findClosest_shaped hp
      have hpaired : ∀ w', some w = some w' → w'.Shaped T.numPlanes T.numPaths :=
        fun w' hw => Option.some.inj hw ▸ hshape
      have hplanes : Fused.Leaves (Outcome.forEach (T.planeTurn cb tenant (some w)) report.planes _)
          _ := planes_calls cb hpaired report.planes
        { f with stats.reportsProcessed := f.stats.reportsProcessed + 1 }
      refine hplanes.andThen fun hr => ?_
      dsimp only
      rw [lostCalls]
      by_cases hcov : Covered w report
      · -- the second pass starts from the table the first one left
        have hfirst := hplanes.1.trans (makeCalls_state cb hr)
        rw [if_neg ((covered_iff w report).mp hcov), if_pos ⟨hempty, hcov⟩, cells_map hshape,
          ← hfirst]
        exact absents_calls cb hmem w report T.cells _
      · rw [if_pos (not_not.mp fun h => hcov ((covered_iff w report).mpr h)),
          if_neg fun h => hcov h.2]
        exact ⟨rfl, rfl⟩

end Loops

/-- A report for a tenant the table does not know leaves the table as it was. -/
theorem report_unknown (cb : Option (TransitionCb T)) {tenant : String} (h : tenant ∉ T.tenants)
    (report : LossReport) (sentRing : SentWindowRing T.numPlanes T.numPaths)
    (receivedAtNs maxWindowSkewNs : Int) (f : Fused T) :
    (T.opStep cb f (.report tenant report sentRing receivedAtNs maxWindowSkewNs)).table
      = f.table := by
  refine report_inv (I := fun s => s = f.table) report ?_ rfl
  rintro w - plane path seen s - rfl
  rcases recordLossWindow_cases (T := T) tenant plane path seen (w.sentOn plane path) f.table with
    ⟨e, hN, -⟩ | ⟨-, raised, heq⟩
  · exact absurd hN.2.1 h
  · rw [heq]

/-! ## The streak over a list of calls -/

/-- One call raises the streak by at most one, and only a loss window above the threshold does. -/
theorem step_streak_le (cb : Option (TransitionCb T)) (s : Store T) (c : Call) (tenant : String)
    (e : T.EV) :
    ((T.step cb s c).state.evs tenant e).consecutiveLossDemoteWindows
      ≤ (s.evs tenant e).consecutiveLossDemoteWindows
        + if T.lossAbove tenant e c = true then 1 else 0 := by
  unfold lossAbove
  rw [step_evs]
  cases T.signal tenant e c with
  | sent => exact Nat.le_refl _
  | recv => exact Nat.le_refl _
  | quiet => exact Nat.le_refl _
  | close =>
    rw [afterSignal]
    split
    · rw [judge_streak]
      split
      · exact Nat.zero_le _
      · exact Nat.le_refl _
    · exact Nat.le_refl _
  | loss ratio =>
    rw [afterSignal, lossJudge_streak]
    simp only [decide_eq_true_eq]
    split
    · exact Nat.zero_le _
    · split
      · exact Nat.le_refl _
      · split
        · exact Nat.zero_le _
        · exact Nat.le_refl _

/-- A streak grows by the losses of its EV at most. -/
theorem runFrom_streak_le (cb : Option (TransitionCb T)) (calls : List Call) (s : Store T)
    (tenant : String) (e : T.EV) :
    ((T.runFrom cb s calls).evs tenant e).consecutiveLossDemoteWindows
      ≤ (s.evs tenant e).consecutiveLossDemoteWindows + calls.countP (T.lossAbove tenant e) := by
  induction calls generalizing s with
  | nil => exact Nat.le_refl _
  | cons c calls ih =>
    have hstep := step_streak_le cb s c tenant e
    have hrest := ih (T.step cb s c).state
    rw [List.countP_cons]
    show ((T.runFrom cb (T.step cb s c).state calls).evs tenant e).consecutiveLossDemoteWindows ≤ _
    omega

/-- Loss windows at or below the threshold do not demote. -/
theorem runFrom_spared (cb : Option (TransitionCb T)) {calls : List Call} {tenant : String}
    {e : T.EV} (h : ∀ c ∈ calls, T.signal tenant e c = .quiet ∨
      ∃ ratio, ratio ≤ T.cfg.lossThreshold ∧ T.signal tenant e c = .loss ratio)
    {s : Store T} (hs : (s.evs tenant e).state ≠ .assumedBad) :
    ((T.runFrom cb s calls).evs tenant e).state ≠ .assumedBad := by
  induction calls generalizing s with
  | nil => exact hs
  | cons c calls ih =>
    show ((T.runFrom cb (T.step cb s c).state calls).evs tenant e).state ≠ _
    refine ih (fun c' hc' => h c' (List.mem_cons_of_mem c hc')) ?_
    rw [step_evs]
    rcases h c (List.mem_cons_self ..) with hsig | ⟨ratio, hle, hsig⟩
    · rw [hsig, afterSignal]
      exact hs
    · rw [hsig, afterSignal]
      intro hbad
      exact absurd (lossJudge_bad hs hbad).1 (not_lt.mpr hle)

/-- A report raises the streak at most by its calls above the threshold, made or not. -/
theorem report_streak_le (cb : Option (TransitionCb T)) {tenant : String}
    (hmem : tenant ∈ T.tenants) (report : LossReport)
    (sentRing : SentWindowRing T.numPlanes T.numPaths) (receivedAtNs maxWindowSkewNs : Int)
    (f : Fused T) (tenant' : String) (e : T.EV) :
    ((T.opStep cb f (.report tenant report sentRing receivedAtNs maxWindowSkewNs)).table.evs
        tenant' e).consecutiveLossDemoteWindows
      ≤ (f.table.evs tenant' e).consecutiveLossDemoteWindows
        + (T.fusionCalls cb tenant (sentRing.findClosest receivedAtNs maxWindowSkewNs) report
            f.table).countP (T.lossAbove tenant' e) := by
  have hcalls := applyLossReport_calls cb hmem report sentRing receivedAtNs maxWindowSkewNs f
  obtain ⟨made, hpre, hmade⟩ := makeCalls_prefix cb (T.fusionCalls cb tenant
    (sentRing.findClosest receivedAtNs maxWindowSkewNs) report f.table) f.table
  have htable : (T.opStep cb f
      (.report tenant report sentRing receivedAtNs maxWindowSkewNs)).table
      = T.runFrom cb f.table made := hcalls.1.trans hmade
  rw [htable]
  have hrun := runFrom_streak_le cb made f.table tenant' e
  have hcount := hpre.sublist.countP_le (p := T.lossAbove tenant' e)
  omega

/-- A call that does not reach an EV is no loss window of it. -/
theorem lossAbove_of_quiet {tenant : String} {e : T.EV} {c : Call}
    (h : T.signal tenant e c = .quiet) : T.lossAbove tenant e c = false := by
  rw [lossAbove, h]

theorem names_of_lossAbove {tenant : String} {e : T.EV} {t : String}
    {plane path seen expected : Int}
    (h : T.lossAbove tenant e (.lossWindow t plane path seen expected) = true) :
    T.Names tenant e t plane path := by
  by_contra hN
  have hquiet : T.signal tenant e (.lossWindow t plane path seen expected) = .quiet :=
    if_neg fun h' => hN h'.1
  rw [lossAbove_of_quiet hquiet] at h
  cases h

end Srv6Mrc.EVStateTable
