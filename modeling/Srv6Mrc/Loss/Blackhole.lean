/-
  A blackhole that probes cannot see is demoted by loss reports.

  The receiver never mentions an EV it hears nothing on, so the evidence is absence: each report
  that qualifies adds one to the EV's loss streak, nothing else in the run touches the streak
  (`streak_step`), and the report that fills it demotes the EV if the floor has room.
-/
import Srv6Mrc.EvState.Demotion
import Srv6Mrc.Loss.Run

namespace Srv6Mrc.EVStateTable

variable {T : EVStateTable}

instance (e : T.EV) (report : LossReport) (sentRing : SentWindowRing T.numPlanes T.numPaths)
    (receivedAtNs maxWindowSkewNs : Int) :
    Decidable (T.Qualifies e report sentRing receivedAtNs maxWindowSkewNs) := by
  unfold Qualifies; exact inferInstance

variable (T) in
/-- The operation is a report that speaks about the EV by not mentioning it. -/
def qualifying (tenant : String) (e : T.EV) : T.Op → Bool
  | .call _ => false
  | .report t report sentRing receivedAtNs maxWindowSkewNs =>
    t = tenant ∧ T.Qualifies e report sentRing receivedAtNs maxWindowSkewNs

variable (T) in
/-- What a sender does while an EV is a blackhole for data: it sends and receives probes, ticks,
    and gets reports that have no record for the EV. -/
def Unheard (tenant : String) (e : T.EV) : T.Op → Prop
  | .call c => ∀ t plane path seen expected, c ≠ .lossWindow t plane path seen expected
  | .report t report _ _ _ => t = tenant → ((e.1 : Nat), (e.2 : Nat)) ∉ report.reported

/-- A probe or a tick that does not demote the EV leaves its loss streak. -/
theorem call_streak (cb : Option (TransitionCb T)) {tenant : String} {e : T.EV} {c : Call}
    (hc : ∀ t plane path seen expected, c ≠ .lossWindow t plane path seen expected) (s : Store T)
    (hkeep : (s.evs tenant e).state ≠ .assumedBad →
      ((T.step cb s c).state.evs tenant e).state ≠ .assumedBad) :
    ((T.step cb s c).state.evs tenant e).consecutiveLossDemoteWindows
      = (s.evs tenant e).consecutiveLossDemoteWindows := by
  rw [step_evs] at hkeep ⊢
  cases hsig : T.signal tenant e c with
  | sent => rfl
  | recv => rfl
  | quiet => rfl
  | loss ratio =>
    obtain ⟨t, plane, path, seen, expected, hcall⟩ := signal_loss hsig
    exact absurd hcall (hc t plane path seen expected)
  | close =>
    rw [hsig, afterSignal] at hkeep
    rw [afterSignal]
    split
    · rename_i hraised
      rw [if_pos hraised] at hkeep
      rw [judge_streak, if_neg fun h => hkeep h.1 h.2]
      rfl
    · rfl

/-- A full streak of lossy windows: the EV is demoted if the floor has room, else it is counted. -/
theorem lossJudge_full (room : Bool) (now : Nat) {ratio : ℚ} {r : EVRecord}
    (habove : T.cfg.lossThreshold < ratio) (hfull : T.StreakFull r) :
    (room = true → (T.lossJudge room now ratio r).state = .assumedBad) ∧
    (room = false → (T.lossJudge room now ratio r).demotesSuppressedByFloor
      = r.demotesSuppressedByFloor + 1) := by
  rw [lossJudge, if_pos habove, if_pos hfull]
  constructor
  · intro h; rw [h]; rfl
  · intro h; rw [h]; rfl

section Run

variable {cb : Option (TransitionCb T)} (hcb : Returns cb) (hthr : T.cfg.lossThreshold < 1)
  {tenant : String} (hmem : tenant ∈ T.tenants) {e : T.EV}

include hcb hthr hmem

/-- One operation: the EV is ASSUMED_BAD afterwards, or a qualifying report has added one to its
    streak and anything else nothing. -/
theorem streak_step {op : T.Op} (hop : T.Unheard tenant e op) (f : Fused T)
    (hne : (f.table.evs tenant e).state ≠ .assumedBad)
    (htick : ∀ c, op = .call c →
      ((T.opStep cb f op).table.evs tenant e).state ≠ .assumedBad) :
    ((T.opStep cb f op).table.evs tenant e).state = .assumedBad ∨
    ((T.opStep cb f op).table.evs tenant e).state ≠ .assumedBad ∧
      ((T.opStep cb f op).table.evs tenant e).consecutiveLossDemoteWindows
        = (f.table.evs tenant e).consecutiveLossDemoteWindows
          + if T.qualifying tenant e op = true then 1 else 0 := by
  cases op with
  | call c =>
    have hkeep := htick c rfl
    exact Or.inr ⟨hkeep, call_streak cb hop f.table fun _ => hkeep⟩
  | report t report sentRing receivedAtNs maxWindowSkewNs =>
    by_cases ht : t = tenant
    · subst ht
      obtain ⟨hlost, hsame⟩ :=
        report_absent hcb hmem (hop rfl) sentRing receivedAtNs maxWindowSkewNs f
      by_cases hq : T.Qualifies e report sentRing receivedAtNs maxWindowSkewNs
      · have hqual : T.qualifying t e (.report t report sentRing receivedAtNs maxWindowSkewNs)
            = true := decide_eq_true ⟨rfl, hq⟩
        rw [hlost hq hne, if_pos hqual]
        by_cases hbad : (T.lossJudge (T.room t e (T.atTurn cb t e report
            (sentRing.findClosest receivedAtNs maxWindowSkewNs) f.table))
            ((T.atTurn cb t e report (sentRing.findClosest receivedAtNs maxWindowSkewNs)
              f.table).ticks t) 1 (f.table.evs t e)).state = .assumedBad
        · exact Or.inl hbad
        · refine Or.inr ⟨hbad, ?_⟩
          rw [lossJudge_streak, if_neg fun h => hbad h.2, if_pos hthr]
      · have hqual : ¬ T.qualifying t e
            (.report t report sentRing receivedAtNs maxWindowSkewNs) = true :=
          fun h => hq (of_decide_eq_true h).2
        rw [hsame (Or.inl hq), if_neg hqual]
        exact Or.inr ⟨hne, rfl⟩
    · have hqual : ¬ T.qualifying tenant e
          (.report t report sentRing receivedAtNs maxWindowSkewNs) = true :=
        fun h => ht (of_decide_eq_true h).1
      rw [report_other cb (Ne.symm ht), if_neg hqual]
      exact Or.inr ⟨hne, rfl⟩

/-- The run so far: the EV was ASSUMED_BAD at some point, or its streak counts at least the
    qualifying reports. -/
theorem streak_run {f : Fused T} (hstart : (f.table.evs tenant e).state ≠ .assumedBad)
    {ops : List T.Op} (hops : ∀ op ∈ ops, T.Unheard tenant e op)
    (hticks : ∀ p c, p ++ [.call c] <+: ops →
      ((T.opsFrom cb f p).table.evs tenant e).state ≠ .assumedBad →
      ((T.opsFrom cb f (p ++ [.call c])).table.evs tenant e).state ≠ .assumedBad) :
    ∀ p, p <+: ops →
      (∃ q, q <+: p ∧ ((T.opsFrom cb f q).table.evs tenant e).state = .assumedBad) ∨
      ((T.opsFrom cb f p).table.evs tenant e).state ≠ .assumedBad ∧
        p.countP (T.qualifying tenant e)
          ≤ ((T.opsFrom cb f p).table.evs tenant e).consecutiveLossDemoteWindows := by
  intro p
  induction p using List.reverseRecOn with
  | nil => exact fun _ => Or.inr ⟨hstart, Nat.zero_le _⟩
  | append_singleton p op ih =>
    intro hp
    rcases ih ((List.prefix_append _ _).trans hp) with ⟨q, hq, hbad⟩ | ⟨hne, hcount⟩
    · exact Or.inl ⟨q, hq.trans (List.prefix_append _ _), hbad⟩
    · have hop : T.Unheard tenant e op :=
        hops op (hp.subset (List.mem_append_right _ (List.mem_singleton_self op)))
      have hstep := streak_step hcb hthr hmem hop (T.opsFrom cb f p) hne fun c hc => by
        subst hc
        rw [← opsFrom_snoc]
        exact hticks p c hp hne
      rw [← opsFrom_snoc] at hstep
      -- demoted now, or one more step of the streak
      rcases hstep with hbad | ⟨hne', hstreak⟩
      · exact Or.inl ⟨p ++ [op], List.prefix_refl _, hbad⟩
      · refine Or.inr ⟨hne', ?_⟩
        rw [hstreak, List.countP_append, List.countP_singleton]
        exact Nat.add_le_add_right hcount _

end Run

/-- A blackhole that probes cannot see is demoted by loss reports.  From any state in which the EV
    is not ASSUMED_BAD, through any run of probes, ticks that do not demote it and reports without
    a record for it, a qualifying report that is at least the `loss_demote_consecutive`-th finds
    the EV demoted before, or demotes it if `min_active` other EVs are usable at its turn, else
    counts one more suppressed demotion; a report that does not qualify leaves the EV's record
    alone. -/
theorem blackhole_demoted (T : EVStateTable) (cb : Option (TransitionCb T)) (hcb : Returns cb)
    (hthr : T.cfg.lossThreshold < 1) (tenant : String) (hmem : tenant ∈ T.tenants) (e : T.EV)
    (f : Fused T) (hstart : (f.table.evs tenant e).state ≠ .assumedBad) (ops : List T.Op)
    (hops : ∀ op ∈ ops, T.Unheard tenant e op)
    (hticks : ∀ p c, p ++ [.call c] <+: ops →
      ((T.opsFrom cb f p).table.evs tenant e).state ≠ .assumedBad →
      ((T.opsFrom cb f (p ++ [.call c])).table.evs tenant e).state ≠ .assumedBad)
    (p : List T.Op) (report : LossReport) (sentRing : SentWindowRing T.numPlanes T.numPaths)
    (receivedAtNs maxWindowSkewNs : Int)
    (hp : p ++ [.report tenant report sentRing receivedAtNs maxWindowSkewNs] <+: ops) :
    let turn := T.atTurn cb tenant e report (sentRing.findClosest receivedAtNs maxWindowSkewNs)
      (T.opsFrom cb f p).table
    let r := (T.opsFrom cb f p).table.evs tenant e
    let r' := (T.opsFrom cb f
      (p ++ [.report tenant report sentRing receivedAtNs maxWindowSkewNs])).table.evs tenant e
    (T.Qualifies e report sentRing receivedAtNs maxWindowSkewNs →
      T.cfg.lossDemoteConsecutive ≤ (p.countP (T.qualifying tenant e) + 1 : Nat) →
      (∃ q, q <+: p ∧ ((T.opsFrom cb f q).table.evs tenant e).state = .assumedBad) ∨
      ((T.minActive ≤ T.usableAfter tenant e turn → r'.state = .assumedBad) ∧
        (T.usableAfter tenant e turn < T.minActive →
          r'.demotesSuppressedByFloor = r.demotesSuppressedByFloor + 1))) ∧
    (¬ T.Qualifies e report sentRing receivedAtNs maxWindowSkewNs → r' = r) := by
  intro turn r r'
  have hno := hops _ (hp.subset (List.mem_append_right _ (List.mem_singleton_self _))) rfl
  obtain ⟨hlost, hsame⟩ :=
    report_absent hcb hmem hno sentRing receivedAtNs maxWindowSkewNs (T.opsFrom cb f p)
  rw [← opsFrom_snoc] at hlost hsame
  refine ⟨fun hq hk => ?_, fun hq => hsame (Or.inl hq)⟩
  rcases streak_run hcb hthr hmem hstart hops hticks p ((List.prefix_append _ _).trans hp) with
    hbad | ⟨hne, hcount⟩
  · exact Or.inl hbad
  · have hcount' : p.countP (T.qualifying tenant e) ≤ r.consecutiveLossDemoteWindows := hcount
    have hfull : T.StreakFull r := ⟨hne, by omega⟩
    have hr' : r' = T.lossJudge (T.room tenant e turn) (turn.ticks tenant) 1 r := hlost hq hne
    obtain ⟨hyes, hnot⟩ := lossJudge_full (T.room tenant e turn) (turn.ticks tenant) hthr hfull
    rw [hr']
    exact Or.inr ⟨fun hroom => hyes (decide_eq_true hroom),
      fun hroom => hnot (decide_eq_false (not_le.mpr hroom))⟩

/-- A report of four packets of six, with none from (0, 1). -/
def fourOfSix (T : EVStateTable) (sentRing : SentWindowRing T.numPlanes T.numPaths) : T.Op :=
  .report "green" ⟨0, [⟨0, 0, 2, 2, 0, 0⟩, ⟨0, 2, 2, 2, 0, 0⟩]⟩ sentRing 5 0

/-- At work on the default config: the third report in a row demotes (0, 1). -/
theorem blackhole_demoted_threePaths :
    let T := threePaths {} (by decide)
    let op := fourOfSix T (oneWindow [2, 2, 2] rfl)
    ((T.opsFrom none ⟨T.fresh, {}⟩ [op, op, op]).table.evs "green" (onPath 1)).state
      = .assumedBad := by
  intro T op
  obtain ⟨hdemoted, -⟩ := blackhole_demoted T none returns_none (by decide +kernel) "green"
    (List.mem_singleton_self _) (onPath 1) ⟨T.fresh, {}⟩ (by decide) [op, op, op]
    (by
      intro o ho
      obtain rfl : o = op := by simpa using ho
      exact fun _ => by decide)
    (by
      intro p c hp
      have hmem : Op.call c ∈ [op, op, op] := hp.subset (by simp)
      simp [op, fourOfSix] at hmem)
    [op, op] _ _ _ _ (List.prefix_refl _)
  have hqual : T.Qualifies (onPath 1) ⟨0, [⟨0, 0, 2, 2, 0, 0⟩, ⟨0, 2, 2, 2, 0, 0⟩]⟩
      (oneWindow [2, 2, 2] rfl) 5 0 :=
    ⟨by decide, ⟨0, 10, [[2, 2, 2]], 0⟩, by decide, by decide, by decide⟩
  rcases hdemoted hqual (by decide) with ⟨q, hq, hbad⟩ | ⟨hyes, -⟩
  · have hnot : ∀ q ∈ [op, op].inits,
        ((T.opsFrom none ⟨T.fresh, {}⟩ q).table.evs "green" (onPath 1)).state ≠ .assumedBad := by
      decide +kernel
    exact absurd hbad (hnot q ((List.mem_inits _ _).mpr hq))
  · exact hyes (by decide +kernel)

/-- Where one report is enough to demote and two EVs are missing from it, a callback that raises
    ends the report at the first of them: (0, 1) is not reached, with the floor's one other EV
    usable throughout. -/
theorem blackhole_missed :
    let T := threePaths { lossDemoteConsecutive := 1 } (by decide)
    let cb : Option (TransitionCb T) :=
      some fun _ _ _ _ _ => some (.keyError "consecutive_probe_timeouts")
    let ring : SentWindowRing 1 3 := oneWindow [2, 2, 8] rfl
    let report : LossReport := ⟨0, [⟨0, 2, 8, 8, 0, 0⟩]⟩
    let s' := (T.opStep cb ⟨T.fresh, {}⟩ (.report "green" report ring 5 0)).table
    T.Qualifies (onPath 1) report ring 5 0 ∧ T.minActive ≤ T.usableAfter "green" (onPath 1) s' ∧
      s'.evs "green" (onPath 1) = T.fresh.evs "green" (onPath 1) := by
  intro T cb ring report s'
  exact ⟨⟨by decide, ⟨0, 10, [[2, 2, 8]], 0⟩, by decide, by decide,
    by decide +kernel⟩, by decide +kernel, by decide +kernel⟩

end Srv6Mrc.EVStateTable
