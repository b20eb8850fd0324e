/-
  Repeated records in a report.

  `LossReport` says that of two records for one EV the last one wins, and `apply_loss_report` feeds
  both to the table.  `latestWins` is the report the type documents.  The two reports leave the same
  table, on every table of the grid, exactly if no superseded record is fed at all and none tips the
  coverage of the report: that is `Harmless`, a condition on the report and the window it is paired
  with.

  That it is enough needs no table (`fusionCalls_latestWins`: the calls are the same).  That it is
  necessary takes one table, `counting`: there every loss window counts and none demotes, so that
  the streak of an EV is the number of calls it got.
-/
import Mathlib.Data.List.Count
import Srv6Mrc.Wire.RoundTrip
import Srv6Mrc.EvState.Floor
import Srv6Mrc.Loss.Calls

namespace Srv6Mrc

namespace LossReport

/-! ## The last record of each EV -/

/-- The records that no later record supersedes. -/
def latest : List PlaneLossRecord → List PlaneLossRecord
  | [] => []
  | rec :: recs =>
    if ∃ later ∈ recs, later.ev = rec.ev then latest recs else rec :: latest recs

/-- The records that a later record supersedes. -/
def superseded : List PlaneLossRecord → List PlaneLossRecord
  | [] => []
  | rec :: recs =>
    if ∃ later ∈ recs, later.ev = rec.ev then rec :: superseded recs else superseded recs

/-- The report as the type documents it: for each EV, its last record. -/
def latestWins (report : LossReport) : LossReport := { report with planes := latest report.planes }

/-- The latest records are of the EVs that are reported. -/
theorem mem_latest (recs : List PlaneLossRecord) (ev : Nat × Nat) :
    ev ∈ (latest recs).map PlaneLossRecord.ev ↔ ev ∈ recs.map PlaneLossRecord.ev := by
  induction recs with
  | nil => exact Iff.rfl
  | cons rec recs ih =>
    rw [latest]
    split
    · rename_i hlater
      rw [ih, List.map_cons, List.mem_cons]
      constructor
      · exact Or.inr
      · rintro (rfl | h)
        · exact List.mem_map.mpr hlater
        · exact h
    · rw [List.map_cons, List.mem_cons, ih, List.map_cons, List.mem_cons]

theorem nodup_latest (recs : List PlaneLossRecord) :
    ((latest recs).map PlaneLossRecord.ev).Nodup := by
  induction recs with
  | nil => exact List.nodup_nil
  | cons rec recs ih =>
    rw [latest]
    split
    · exact ih
    · rename_i hlast
      rw [List.map_cons, List.nodup_cons, mem_latest, List.mem_map]
      exact ⟨hlast, ih⟩

/-- Every record is the last of its EV, or superseded. -/
theorem countP_latest (p : PlaneLossRecord → Bool) (recs : List PlaneLossRecord) :
    recs.countP p = (latest recs).countP p + (superseded recs).countP p := by
  induction recs with
  | nil => rfl
  | cons rec recs ih =>
    rw [latest, superseded]
    split
    · rw [List.countP_cons, List.countP_cons, ih]
      omega
    · rw [List.countP_cons, List.countP_cons, ih]
      omega

theorem superseded_subset {recs : List PlaneLossRecord} : superseded recs ⊆ recs := by
  induction recs with
  | nil => exact List.Subset.refl _
  | cons rec recs ih =>
    rw [superseded]
    split
    · exact List.cons_subset_cons rec ih
    · exact List.Subset.trans ih (List.subset_cons_self rec recs)

/-- Records that give nothing can be left out. -/
theorem filterMap_latest {β : Type} {f : PlaneLossRecord → Option β} {recs : List PlaneLossRecord}
    (h : ∀ rec ∈ superseded recs, f rec = none) : recs.filterMap f = (latest recs).filterMap f := by
  induction recs with
  | nil => rfl
  | cons rec recs ih =>
    rw [superseded] at h
    rw [latest]
    split
    · rename_i hlater
      rw [if_pos hlater] at h
      rw [List.filterMap_cons_none (h rec (List.mem_cons_self ..))]
      exact ih fun rec' hrec' => h rec' (List.mem_cons_of_mem rec hrec')
    · rename_i hlast
      rw [if_neg hlast] at h
      rw [List.filterMap_cons, List.filterMap_cons, ih h]

/-- Keeping the latest reports the same EVs. -/
theorem reported_latestWins (report : LossReport) (ev : Nat × Nat) :
    ev ∈ report.latestWins.reported ↔ ev ∈ report.reported :=
  mem_latest report.planes ev

theorem latestWins_planes (report : LossReport) :
    report.latestWins.planes = [] ↔ report.planes = [] := by
  show latest report.planes = [] ↔ _
  rw [List.eq_nil_iff_forall_not_mem, List.eq_nil_iff_forall_not_mem]
  constructor
  · intro h rec hrec
    have hmem := (mem_latest report.planes rec.ev).mpr (List.mem_map_of_mem hrec)
    obtain ⟨rec', hrec', -⟩ := List.mem_map.mp hmem
    exact h rec' hrec'
  · intro h rec hrec
    have hmem := (mem_latest report.planes rec.ev).mp (List.mem_map_of_mem hrec)
    obtain ⟨rec', hrec', -⟩ := List.mem_map.mp hmem
    exact h rec' hrec'

/-- No superseded record is fed to the table — it has no data, or nothing was sent on its EV — and
    leaving them out does not change whether the report covers the window, or every EV sent on
    twice has a record. -/
def Harmless (paired : Option SentWindow) (report : LossReport) : Prop :=
  ∀ w, paired = some w →
    (∀ rec ∈ superseded report.planes,
      rec.noData = true ∨ w.sentOn rec.planeId.toNat rec.pathId.toNat = 0) ∧
    ((EVStateTable.Covered w report ↔ EVStateTable.Covered w report.latestWins) ∨
      ∀ plane path, 2 ≤ w.sentOn plane path → (plane, path) ∈ report.reported)

end LossReport

namespace EVStateTable

open LossReport

variable {T : EVStateTable}

/-! ## Enough: the calls are the same -/

/-- Which EVs are absent depends on those reported only. -/
theorem absentCalls_congr (cb : Option (TransitionCb T)) {tenant : String} (w : SentWindow)
    {report report' : LossReport} (h : ∀ ev, ev ∈ report.reported ↔ ev ∈ report'.reported)
    (es : List T.EV) (s : Store T) :
    T.absentCalls cb tenant w report s es = T.absentCalls cb tenant w report' s es := by
  induction es generalizing s with
  | nil => rfl
  | cons e es ih =>
    have hlost : T.Lost tenant w report s e ↔ T.Lost tenant w report' s e := by
      unfold Lost
      rw [h]
    rw [absentCalls, absentCalls]
    by_cases hl : T.Lost tenant w report s e
    · rw [if_pos hl, if_pos (hlost.mp hl)]
      dsimp only
      rw [ih]
    · rw [if_neg hl, if_neg fun hl' => hl (hlost.mpr hl'), ih]

/-- An EV that is reported is not absent. -/
theorem absentCalls_reported (cb : Option (TransitionCb T)) {tenant : String} {w : SentWindow}
    {report : LossReport} (h : ∀ plane path, 2 ≤ w.sentOn plane path →
      (plane, path) ∈ report.reported) (es : List T.EV) (s : Store T) :
    T.absentCalls cb tenant w report s es = [] := by
  induction es generalizing s with
  | nil => rfl
  | cons e es ih =>
    rw [absentCalls, if_neg fun hl => hl.2.1 (h _ _ hl.1), ih]

/-- Harmless repetitions make no calls and unmake none. -/
theorem fusionCalls_latestWins (cb : Option (TransitionCb T)) (tenant : String)
    {paired : Option SentWindow} {report : LossReport} (h : Harmless paired report) (s : Store T) :
    T.fusionCalls cb tenant paired report s
      = T.fusionCalls cb tenant paired report.latestWins s := by
  cases paired with
  | none => rfl
  | some w =>
    obtain ⟨hunfed, hcov⟩ := h w rfl
    have hfirst : T.reportedCalls tenant (some w) report.planes
        = T.reportedCalls tenant (some w) report.latestWins.planes := by
      refine filterMap_latest fun rec hrec => if_neg ?_
      rintro ⟨-, -, hdata, hpos⟩
      rcases hunfed rec hrec with hno | h0
      · rw [hno] at hdata
        cases hdata
      · omega
    rw [fusionCalls, fusionCalls, lostCalls, lostCalls, ← hfirst]
    refine congrArg _ ?_
    have hne : report.latestWins.planes ≠ [] ↔ report.planes ≠ [] :=
      not_congr (latestWins_planes report)
    have hsame : ∀ s, T.absentCalls cb tenant w report s T.cells
        = T.absentCalls cb tenant w report.latestWins s T.cells :=
      absentCalls_congr cb w (fun ev => (reported_latestWins report ev).symm) T.cells
    rw [← hsame]
    rcases hcov with hcov | hall
    · exact if_congr (and_congr hne.symm hcov) rfl rfl
    · -- whichever way the coverage goes, the second pass has nothing to do
      rw [absentCalls_reported cb hall]
      simp only [ite_self]

/-! ## One call for each EV -/

/-- A call of a record is for the record's EV. -/
theorem ev_of_lossAbove {tenant tenant' : String} {e : T.EV} {w : SentWindow}
    {rec : PlaneLossRecord} {c : Call} (hcall : T.reportedCall tenant w rec = some c)
    (h : T.lossAbove tenant' e c = true) : rec.ev = ((e.1 : Nat), (e.2 : Nat)) := by
  unfold reportedCall at hcall
  split at hcall
  · rw [← Option.some.inj hcall] at h
    obtain ⟨-, -, hp, hq⟩ := names_of_lossAbove h
    exact Prod.ext (Nat.cast_injective hp) (Nat.cast_injective hq)
  · cases hcall

/-- An EV gets at most as many calls as it has records. -/
theorem reportedCalls_count_le {tenant tenant' : String} {e : T.EV} (paired : Option SentWindow)
    (recs : List PlaneLossRecord) :
    (T.reportedCalls tenant paired recs).countP (T.lossAbove tenant' e)
      ≤ (recs.map PlaneLossRecord.ev).count ((e.1 : Nat), (e.2 : Nat)) := by
  cases paired with
  | none => exact Nat.zero_le _
  | some w =>
    induction recs with
    | nil => exact Nat.le_refl _
    | cons rec recs ih =>
      rw [List.map_cons, List.count_cons, reportedCalls]
      cases hcall : T.reportedCall tenant w rec with
      | none =>
        rw [List.filterMap_cons_none hcall]
        exact ih.trans (Nat.le_add_right ..)
      | some c =>
        rw [List.filterMap_cons_some hcall, List.countP_cons]
        refine Nat.add_le_add ih ?_
        by_cases habove : T.lossAbove tenant' e c = true
        · rw [if_pos habove, if_pos (by simpa using ev_of_lossAbove hcall habove)]
        · rw [if_neg habove]
          exact Nat.zero_le _

/-- An EV gets one call at most for being absent. -/
theorem absentCalls_count_le (cb : Option (TransitionCb T)) {tenant tenant' : String}
    {e : T.EV} (w : SentWindow) (report : LossReport) {es : List T.EV} (hnd : es.Nodup)
    (s : Store T) :
    (T.absentCalls cb tenant w report s es).countP (T.lossAbove tenant' e)
      ≤ if ((e.1 : Nat), (e.2 : Nat)) ∈ report.reported then 0 else 1 := by
  induction es generalizing s with
  | nil => exact Nat.zero_le _
  | cons e' es ih =>
    obtain ⟨hnot, hnd⟩ := List.nodup_cons.mp hnd
    rw [absentCalls]
    split
    · rename_i hlost
      dsimp only
      rw [List.countP_cons]
      by_cases habove : T.lossAbove tenant' e
          (.lossWindow tenant (e'.1 : Nat) (e'.2 : Nat) 0 (w.sentOn e'.1 e'.2)) = true
      · -- this is the call of the EV itself: it is not reported, and its turn does not come again
        obtain ⟨rfl, -, hp, hq⟩ := names_of_lossAbove habove
        obtain rfl : e' = e :=
          Prod.ext (Fin.ext (Nat.cast_injective hp)) (Fin.ext (Nat.cast_injective hq))
        have hrest : (T.absentCalls cb tenant w report (T.step cb s
            (.lossWindow tenant (e'.1 : Nat) (e'.2 : Nat) 0 (w.sentOn e'.1 e'.2))).state es).countP
            (T.lossAbove tenant e') = 0 := by
          refine List.countP_eq_zero.mpr fun c hc => ?_
          rw [lossAbove_of_quiet (absentCalls_quiet cb w report hnot _ c hc)]
          exact Bool.false_ne_true
        rw [hrest, if_pos habove, if_neg hlost.2.1]
      · rw [if_neg habove]
        exact ih hnd _
    · exact ih hnd s

/-- A report without repetitions makes at most one call above the threshold for each EV. -/
theorem fusionCalls_count_le (cb : Option (TransitionCb T)) {tenant tenant' : String} {e : T.EV}
    (paired : Option SentWindow) {report : LossReport} (hnd : report.reported.Nodup)
    (s : Store T) :
    (T.fusionCalls cb tenant paired report s).countP (T.lossAbove tenant' e) ≤ 1 := by
  have hfirst : (T.reportedCalls tenant paired report.planes).countP (T.lossAbove tenant' e)
      ≤ (report.planes.map PlaneLossRecord.ev).count ((e.1 : Nat), (e.2 : Nat)) :=
    reportedCalls_count_le paired report.planes
  have hone : (report.planes.map PlaneLossRecord.ev).count ((e.1 : Nat), (e.2 : Nat))
      = if ((e.1 : Nat), (e.2 : Nat)) ∈ report.reported then 1 else 0 := by
    split
    · rename_i hin
      exact List.count_eq_one_of_mem hnd hin
    · rename_i hout
      exact List.count_eq_zero_of_not_mem hout
  have hsecond : (T.lostCalls cb tenant paired report s).countP (T.lossAbove tenant' e)
      ≤ if ((e.1 : Nat), (e.2 : Nat)) ∈ report.reported then 0 else 1 := by
    unfold lostCalls
    cases paired with
    | none => exact Nat.zero_le _
    | some w =>
      dsimp only
      split
      · exact absentCalls_count_le cb w report nodup_cells _
      · exact Nat.zero_le _
  rw [fusionCalls, List.countP_append]
  split at hone <;> rename_i hin
  · rw [if_pos hin] at hsecond
    omega
  · rw [if_neg hin] at hsecond
    omega

/-! ## Necessary: a table that counts -/

/-- A table of the same grid, with its own tenants and tunables. -/
abbrev onGrid (G : EVStateTable) (tenants : List String) (ht : tenants ≠ []) (cfg : EVStateConfig)
    (hw : 0 ≤ cfg.probeWindowTicks) : EVStateTable :=
  { G with tenants := tenants, cfg := cfg, tenants_ne := ht, window_nonneg := hw }

/-- Every loss window is above the threshold, and every EV is needed. -/
def countingCfg (G : EVStateTable) : EVStateConfig :=
  { lossThreshold := -1, minActiveEvs := some (G.numPlanes * G.numPaths) }

/-- The table of the same grid that demotes nothing and counts every loss window. -/
abbrev counting (G : EVStateTable) : EVStateTable :=
  G.onGrid G.tenants G.tenants_ne G.countingCfg (show (0 : Int) ≤ 5 by decide)

section Counting

variable {G : EVStateTable}

/-- The counting table has no room to demote. -/
theorem counting_room (tenant : String) (e : G.counting.EV) (s : Store G.counting) :
    G.counting.room tenant e s = false := by
  have hlt : G.counting.usableAfter tenant e s < G.counting.cells.length := by
    unfold usableAfter
    exact List.countP_lt_length_iff.mpr ⟨e, mem_cells e, by simp⟩
  rw [length_cells] at hlt
  have hmin : (G.numPlanes * G.numPaths : Nat) ≤ G.counting.minActive := by
    show _ ≤ max 1 (min (G.numPlanes * G.numPaths : Int) (G.numPlanes * G.numPaths : Int))
    push_cast
    omega
  have hlt' : G.counting.usableAfter tenant e s < G.numPlanes * G.numPaths := hlt
  unfold room
  rw [decide_eq_false_iff_not]
  omega

theorem lossRatio_nonneg {seen expected : Int} (h : 0 < expected) : 0 ≤ lossRatio seen expected := by
  have hnum : 0 ≤ expected - min seen expected := by omega
  exact div_nonneg (by exact_mod_cast hnum) (by exact_mod_cast h.le)

theorem signal_loss_nonneg {tenant : String} {e : T.EV} {c : Call} {ratio : ℚ}
    (h : T.signal tenant e c = .loss ratio) : 0 ≤ ratio := by
  obtain ⟨t, plane, path, seen, expected, rfl⟩ := signal_loss h
  rw [signal] at h
  split at h
  · rename_i hN
    rw [← Signal.loss.inj h]
    exact lossRatio_nonneg hN.2.2
  · cases h

/-- A loss window there is one more on the streak, whatever was lost. -/
theorem counting_lossJudge (tenant : String) (e : G.counting.EV) (s : Store G.counting) (now : Nat)
    {ratio : ℚ} (h : 0 ≤ ratio) (r : EVRecord) :
    (G.counting.lossJudge (G.counting.room tenant e s) now ratio r).consecutiveLossDemoteWindows
      = r.consecutiveLossDemoteWindows + 1 := by
  have hthr : G.counting.cfg.lossThreshold < ratio := lt_of_lt_of_le (by decide : (-1 : ℚ) < 0) h
  rw [lossJudge_streak, if_pos hthr, if_neg]
  rintro ⟨hne, hbad⟩
  have hroom := (lossJudge_bad hne hbad).2.2
  rw [counting_room] at hroom
  cases hroom

/-- Without room each loss above the threshold is counted. -/
theorem counting_step (s : Store G.counting) (c : Call) (tenant : String) (e : G.counting.EV) :
    ((G.counting.step none s c).state.evs tenant e).consecutiveLossDemoteWindows
      = (s.evs tenant e).consecutiveLossDemoteWindows
        + if G.counting.lossAbove tenant e c = true then 1 else 0 := by
  unfold lossAbove
  rw [step_evs]
  cases hsig : G.counting.signal tenant e c with
  | sent => rfl
  | recv => rfl
  | quiet => rfl
  | close =>
    rw [afterSignal]
    split
    · rw [judge_streak, if_neg]
      · rfl
      · rintro ⟨hne, hbad⟩
        have hroom := (judge_bad hne hbad).2
        rw [counting_room] at hroom
        cases hroom
    · rfl
  | loss ratio =>
    have h0 := signal_loss_nonneg hsig
    have hthr : G.counting.cfg.lossThreshold < ratio := lt_of_lt_of_le (by decide : (-1 : ℚ) < 0) h0
    rw [afterSignal, counting_lossJudge tenant e s _ h0]
    simp only [decide_eq_true hthr, if_true]

/-- The streak of an EV is the number of calls it got. -/
theorem counting_runFrom (calls : List Call) (s : Store G.counting) (tenant : String)
    (e : G.counting.EV) :
    ((G.counting.runFrom none s calls).evs tenant e).consecutiveLossDemoteWindows
      = (s.evs tenant e).consecutiveLossDemoteWindows
        + calls.countP (G.counting.lossAbove tenant e) := by
  induction calls generalizing s with
  | nil => rfl
  | cons c calls ih =>
    show ((G.counting.runFrom none (G.counting.step none s c).state calls).evs tenant
      e).consecutiveLossDemoteWindows = _
    rw [ih, counting_step, List.countP_cons]
    omega

end Counting

/-! ## Exactly -/

/-- The last record of each EV wins: on every table of the grid, in every state a run of it can
    reach, the report leaves what it leaves with the superseded records taken out, and no streak
    grows by more than one. -/
def LatestWins (G : EVStateTable) (report : LossReport)
    (sentRing : SentWindowRing G.numPlanes G.numPaths) (receivedAtNs maxWindowSkewNs : Int) :
    Prop :=
  ∀ (tenants : List String) (ht : tenants ≠ []) (cfg : EVStateConfig)
    (hw : 0 ≤ cfg.probeWindowTicks) (cb : Option (TransitionCb (G.onGrid tenants ht cfg hw)))
    (tenant : String) (ops : List (G.onGrid tenants ht cfg hw).Op),
    let T := G.onGrid tenants ht cfg hw
    let f := T.opsFrom cb ⟨T.fresh, {}⟩ ops
    let after := fun r => (T.opStep cb f
      (.report tenant r sentRing receivedAtNs maxWindowSkewNs)).table
    after report = after report.latestWins ∧
    ∀ tenant' (e : T.EV), ((after report).evs tenant' e).consecutiveLossDemoteWindows
      ≤ (f.table.evs tenant' e).consecutiveLossDemoteWindows + 1

section Exactly

variable {G : EVStateTable} {report : LossReport}
  {sentRing : SentWindowRing G.numPlanes G.numPaths} {receivedAtNs maxWindowSkewNs : Int}

/-- A harmless report does what its latest records do. -/
theorem latestWins_of_harmless
    (h : Harmless (sentRing.findClosest receivedAtNs maxWindowSkewNs) report) :
    LatestWins G report sentRing receivedAtNs maxWindowSkewNs := by
  intro tenants ht cfg hw cb tenant ops T f after
  by_cases hmem : tenant ∈ T.tenants
  · have hcalls : ∀ r, after r = (T.makeCalls cb (T.fusionCalls cb tenant
        (sentRing.findClosest receivedAtNs maxWindowSkewNs) r f.table) f.table).state :=
      fun r => (applyLossReport_calls cb hmem r sentRing receivedAtNs maxWindowSkewNs f).1
    have hsame : after report = after report.latestWins := by
      rw [hcalls, hcalls, fusionCalls_latestWins cb tenant h]
    refine ⟨hsame, fun tenant' e => ?_⟩
    rw [hsame]
    have hle := report_streak_le cb hmem report.latestWins sentRing receivedAtNs maxWindowSkewNs f
      tenant' e
    have hnd : report.latestWins.reported.Nodup := nodup_latest report.planes
    exact hle.trans (Nat.add_le_add_left (fusionCalls_count_le cb _ hnd f.table) _)
  · have hkeep : ∀ r, after r = f.table := fun r =>
      report_unknown cb hmem r sentRing receivedAtNs maxWindowSkewNs f
    rw [hkeep, hkeep]
    exact ⟨rfl, fun _ _ => Nat.le_add_right ..⟩

/-- On the counting table, fresh, an EV's streak after a report is the number of its calls. -/
theorem counting_report {tenant : String} (hmem : tenant ∈ G.tenants) (r : LossReport)
    (e : G.counting.EV) :
    ((G.counting.opStep none ⟨G.counting.fresh, {}⟩
        (.report tenant r sentRing receivedAtNs maxWindowSkewNs)).table.evs tenant
        e).consecutiveLossDemoteWindows
      = (G.counting.fusionCalls none tenant (sentRing.findClosest receivedAtNs maxWindowSkewNs) r
          G.counting.fresh).countP (G.counting.lossAbove tenant e) := by
  have htable : (G.counting.opStep none ⟨G.counting.fresh, {}⟩
      (.report tenant r sentRing receivedAtNs maxWindowSkewNs)).table
      = G.counting.runFrom none G.counting.fresh (G.counting.fusionCalls none tenant
        (sentRing.findClosest receivedAtNs maxWindowSkewNs) r G.counting.fresh) :=
    congrArg (fun o : Outcome PyError (Fused G.counting) => o.state.table)
      (applyLossReport_eq (T := G.counting) returns_none hmem r sentRing receivedAtNs
        maxWindowSkewNs ⟨G.counting.fresh, {}⟩)
  rw [htable, counting_runFrom, fresh_evs]
  exact Nat.zero_add _

/-- A superseded record that is fed counts on its EV's streak, on top of the last one. -/
theorem unfed_of_latestWins {w : SentWindow}
    (hp : sentRing.findClosest receivedAtNs maxWindowSkewNs = some w)
    (h : LatestWins G report sentRing receivedAtNs maxWindowSkewNs) :
    ∀ rec ∈ superseded report.planes,
      rec.noData = true ∨ w.sentOn rec.planeId.toNat rec.pathId.toNat = 0 := by
  intro rec hrec
  by_contra hfed
  rw [not_or] at hfed
  obtain ⟨hdata, hsent⟩ := hfed
  have hpos := Nat.pos_of_ne_zero hsent
  obtain ⟨hplane, hpath⟩ := (SentWindowRing.findClosest_shaped hp).in_range hpos
  have hmem : G.tenants.head G.tenants_ne ∈ G.tenants := List.head_mem _
  set tenant := G.tenants.head G.tenants_ne
  let e : G.counting.EV := (⟨rec.planeId.toNat, hplane⟩, ⟨rec.pathId.toNat, hpath⟩)
  -- both reports have a record for the EV, so all its calls come from the first pass
  have hin : ((e.1 : Nat), (e.2 : Nat)) ∈ report.reported :=
    List.mem_map.mpr ⟨rec, superseded_subset hrec, rfl⟩
  have hcount : ∀ r : LossReport, ((e.1 : Nat), (e.2 : Nat)) ∈ r.reported →
      ((G.counting.opStep none ⟨G.counting.fresh, {}⟩
        (.report tenant r sentRing receivedAtNs maxWindowSkewNs)).table.evs tenant
        e).consecutiveLossDemoteWindows
      = r.planes.countP fun rec' => ((G.counting.reportedCall tenant w rec').map
          (G.counting.lossAbove tenant e)).getD false := by
    intro r hr
    have hlost : (G.counting.lostCalls none tenant (some w) r G.counting.fresh).countP
        (G.counting.lossAbove tenant e) = 0 := by
      unfold lostCalls
      dsimp only
      split
      · refine Nat.le_zero.mp ?_
        have hle : ∀ s, (G.counting.absentCalls none tenant w r s G.counting.cells).countP
            (G.counting.lossAbove tenant e) ≤ _ := absentCalls_count_le none w r nodup_cells
        rw [if_pos hr] at hle
        exact hle _
      · rfl
    rw [counting_report hmem, hp, fusionCalls, List.countP_append, hlost, Nat.add_zero]
    exact List.countP_filterMap
  have hboth := (h G.tenants G.tenants_ne G.countingCfg (show (0 : Int) ≤ 5 by decide) none
    tenant []).1
  have hstreak := congrArg (fun s : Store G.counting =>
    (s.evs tenant e).consecutiveLossDemoteWindows) hboth
  have hsum := (hcount report hin).symm.trans (hstreak.trans
    (hcount report.latestWins ((reported_latestWins report _).mpr hin)))
  rw [countP_latest] at hsum
  have hzero := Nat.add_eq_left.mp hsum
  -- but this record has its call
  refine List.countP_eq_zero.mp hzero rec hrec ?_
  have hcall : G.counting.reportedCall tenant w rec
      = some (.lossWindow tenant rec.planeId.toNat rec.pathId.toNat rec.arrived
        (w.sentOn rec.planeId.toNat rec.pathId.toNat)) :=
    if_pos ⟨hplane, hpath, by simpa using hdata, hpos⟩
  have hsig : G.counting.signal tenant e (.lossWindow tenant rec.planeId.toNat rec.pathId.toNat
      rec.arrived (w.sentOn rec.planeId.toNat rec.pathId.toNat))
      = .loss (lossRatio rec.arrived (w.sentOn rec.planeId.toNat rec.pathId.toNat)) :=
    if_pos ⟨⟨rfl, hmem, rfl, rfl⟩, by omega, by omega⟩
  have h0 := signal_loss_nonneg hsig
  have hthr : G.counting.cfg.lossThreshold
      < lossRatio rec.arrived (w.sentOn rec.planeId.toNat rec.pathId.toNat) :=
    lt_of_lt_of_le (by decide : (-1 : ℚ) < 0) h0
  rw [hcall, Option.map_some, Option.getD_some, lossAbove, hsig]
  exact decide_eq_true hthr

/-- A change of coverage counts on the streak of an EV without a record. -/
theorem covered_of_latestWins {w : SentWindow}
    (hp : sentRing.findClosest receivedAtNs maxWindowSkewNs = some w)
    (h : LatestWins G report sentRing receivedAtNs maxWindowSkewNs) :
    (Covered w report ↔ Covered w report.latestWins) ∨
      ∀ plane path, 2 ≤ w.sentOn plane path → (plane, path) ∈ report.reported := by
  refine or_iff_not_imp_right.mpr fun hsome => ?_
  push Not at hsome
  obtain ⟨plane, path, h2, hout⟩ := hsome
  obtain ⟨hplane, hpath⟩ := (SentWindowRing.findClosest_shaped hp).in_range
    (Nat.lt_of_lt_of_le Nat.zero_lt_two h2)
  have hmem : G.tenants.head G.tenants_ne ∈ G.tenants := List.head_mem _
  set tenant := G.tenants.head G.tenants_ne
  let e : G.counting.EV := (⟨plane, hplane⟩, ⟨path, hpath⟩)
  have hone : ∀ r : LossReport, ((e.1 : Nat), (e.2 : Nat)) ∉ r.reported →
      (((G.counting.opStep none ⟨G.counting.fresh, {}⟩
        (.report tenant r sentRing receivedAtNs maxWindowSkewNs)).table.evs tenant
        e).consecutiveLossDemoteWindows = 1
        ↔ G.counting.Qualifies e r sentRing receivedAtNs maxWindowSkewNs) := by
    intro r hr
    obtain ⟨hyes, hno⟩ := report_absent (T := G.counting) returns_none hmem hr sentRing
      receivedAtNs maxWindowSkewNs ⟨G.counting.fresh, {}⟩
    have hfresh : G.counting.fresh.evs tenant e = {} := by rw [fresh_evs]
    constructor
    · intro hstreak
      by_contra hq
      rw [hno (Or.inl hq), hfresh] at hstreak
      exact absurd hstreak (by decide)
    · intro hq
      rw [hyes hq (by rw [hfresh]; decide), counting_lossJudge _ _ _ _ zero_le_one, hfresh]
  have hboth := (h G.tenants G.tenants_ne G.countingCfg (show (0 : Int) ≤ 5 by decide) none
    tenant []).1
  have hstreak := congrArg (fun s : Store G.counting =>
    (s.evs tenant e).consecutiveLossDemoteWindows) hboth
  have hiff := (hone report hout).symm.trans ((Eq.congr_left hstreak).trans
    (hone report.latestWins fun hin => hout ((reported_latestWins report _).mp hin)))
  have hqual : ∀ r : LossReport, G.counting.Qualifies e r sentRing receivedAtNs maxWindowSkewNs
      ↔ r.planes ≠ [] ∧ 2 ≤ w.sentOn plane path ∧ w.totalSent ≤ 2 * r.totalSeen :=
    fun r => qualifies_iff (T := G.counting) (e := e) hp
  rw [hqual, hqual] at hiff
  -- an empty report covers what its empty counterpart covers
  by_cases hempty : report.planes = []
  · have hsame : report.latestWins = report := by
      show ({ report with planes := latest report.planes } : LossReport) = report
      rw [hempty]
      cases report
      cases hempty
      rfl
    rw [hsame]
  · have hne : report.latestWins.planes ≠ [] := fun hl => hempty ((latestWins_planes report).mp hl)
    have hsent := w.sentOn_le_totalSent plane path
    constructor
    · rintro ⟨-, hcov⟩
      exact ⟨by omega, (hiff.mp ⟨hempty, h2, hcov⟩).2.2⟩
    · rintro ⟨-, hcov⟩
      exact ⟨by omega, (hiff.mpr ⟨hne, h2, hcov⟩).2.2⟩

end Exactly

/-- A report is applied as the type documents it, on every table of the grid, exactly if its
    repetitions are harmless for the window it is paired with. -/
theorem latestWins_iff_harmless (G : EVStateTable) (report : LossReport)
    (sentRing : SentWindowRing G.numPlanes G.numPaths) (receivedAtNs maxWindowSkewNs : Int) :
    LatestWins G report sentRing receivedAtNs maxWindowSkewNs
      ↔ Harmless (sentRing.findClosest receivedAtNs maxWindowSkewNs) report := by
  constructor
  · intro h w hp
    exact ⟨unfed_of_latestWins hp h, covered_of_latestWins hp h⟩
  · exact latestWins_of_harmless

/-- A LOSS_REPORT datagram with the record for (0, 0) — nothing of four packets seen — `n` times,
    and one each for (0, 1) and (0, 2), which lost nothing. -/
def repeated (n : Nat) : List UInt8 :=
  [0xA7, 2, 0, 0, 0, .ofNat (n + 2), 0, 0]
    ++ (List.replicate n [0, 0, 0, 0, 0, 0, 0, 0, 0, 0, 0, 4, 0, 0, 0, 0]).flatten
    ++ [0, 1, 0, 0, 0, 0, 0, 4, 0, 0, 0, 4, 0, 0, 0, 0]
    ++ [0, 2, 0, 0, 0, 0, 0, 4, 0, 0, 0, 4, 0, 0, 0, 0]

/-- The record twice is two lossy windows, and three times is a demotion. -/
theorem repeated_record_counts :
    let T := threePaths {} (by decide)
    let after := fun r => ((T.opStep none ⟨T.fresh, {}⟩
      (.report "green" r (oneWindow [4, 4, 4] rfl) 5 0)).table.evs "green" (onPath 0))
    (∃ report, decodeLossReport (repeated 2) = .ok report ∧
      (after report).consecutiveLossDemoteWindows = 2 ∧
      (after report.latestWins).consecutiveLossDemoteWindows = 1) ∧
    ∃ report, decodeLossReport (repeated 3) = .ok report ∧
      (after report).state = .assumedBad ∧ (after report.latestWins).state = .unknown := by
  intro T after
  refine ⟨⟨⟨0, [⟨0, 0, 0, 4, 0, 0⟩, ⟨0, 0, 0, 4, 0, 0⟩, ⟨0, 1, 4, 4, 0, 0⟩, ⟨0, 2, 4, 4, 0, 0⟩]⟩,
    ?_⟩, ⟨0, [⟨0, 0, 0, 4, 0, 0⟩, ⟨0, 0, 0, 4, 0, 0⟩, ⟨0, 0, 0, 4, 0, 0⟩, ⟨0, 1, 4, 4, 0, 0⟩,
    ⟨0, 2, 4, 4, 0, 0⟩]⟩, ?_⟩
  · decide +kernel
  · decide +kernel

end EVStateTable
end Srv6Mrc
