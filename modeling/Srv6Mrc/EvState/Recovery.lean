/-
  Why an EV recovers, and how long it had to wait.

  The wait after a loss-driven demotion doubles when it came soon after a loss-driven recovery, and
  probe-driven demotions in between neither inherit nor reset that.  The record keeps three fields
  for it that five branches write.  Here the EV's chronicle — its evaluations, demotions and
  promotions, newest first, read off the states before and after each call — is the specification:
  `lossLevel` and `healthyRun` are functions of the chronicle alone, and `Chronicled` says that the
  record's fields are exactly these (`chronicled_after`).
-/
import Srv6Mrc.EvState.Demotion

namespace Srv6Mrc.EVStateTable

variable {T : EVStateTable}

/-! ## The chronicle -/

/-- What happens to one EV. -/
inductive Entry where
  /-- A tick evaluated it. -/
  | evaluated (v : Verdict)
  /-- It was moved to ASSUMED_BAD, by a loss window or its probes, `now` on the tenant's clock. -/
  | demoted (byLoss : Bool) (now : Nat)
  /-- It was moved to GOOD. -/
  | promoted (now : Nat)
  deriving DecidableEq

/-- The entry for a change of state, if it was one. -/
def change (old new : EVState) (byLoss : Bool) (now : Nat) : List Entry :=
  if new = old then []
  else if new = .assumedBad then [.demoted byLoss now]
  else [.promoted now]

variable (T) in
/-- What one call adds to the chronicle of an EV, newest first. -/
def entries (cb : Option (TransitionCb T)) (tenant : String) (e : T.EV) (s : Store T) (c : Call) :
    List Entry :=
  let r := s.evs tenant e
  let s' := (T.step cb s c).state
  change r.state (s'.evs tenant e).state (T.signal tenant e c ≠ .close) (s'.ticks tenant)
    ++ if T.signal tenant e c = .close ∧ (T.upTo cb tenant e s).raised = none then
        [.evaluated (T.verdict (T.rotate r))]
      else []

variable (T) in
/-- The chronicle of an EV over a run, newest first. -/
def chronicle (cb : Option (TransitionCb T)) (tenant : String) (e : T.EV) (calls : List Call) :
    List Entry :=
  (calls.foldl (fun (sh : Store T × List Entry) c =>
    ((T.step cb sh.1 c).state, T.entries cb tenant e sh.1 c ++ sh.2)) (T.fresh, [])).2

theorem chronicle_nil (cb : Option (TransitionCb T)) (tenant : String) (e : T.EV) :
    T.chronicle cb tenant e [] = [] := rfl

theorem chronicle_snoc (cb : Option (TransitionCb T)) (tenant : String) (e : T.EV)
    (calls : List Call) (c : Call) :
    T.chronicle cb tenant e (calls ++ [c])
      = T.entries cb tenant e (T.after cb calls) c ++ T.chronicle cb tenant e calls := by
  have hfst : ∀ (cs : List Call) (sh : Store T × List Entry),
      (cs.foldl (fun (sh : Store T × List Entry) c =>
        ((T.step cb sh.1 c).state, T.entries cb tenant e sh.1 c ++ sh.2)) sh).1
        = T.runFrom cb sh.1 cs := by
    intro cs
    induction cs with
    | nil => intro sh; rfl
    | cons c cs ih => intro sh; exact ih _
  unfold chronicle
  rw [List.foldl_append, List.foldl_cons, List.foldl_nil, hfst]
  rfl

/-! ## The specification, on the chronicle alone -/

/-- How many healthy evaluations in a row, silent ones not counted, since the EV last changed
    state. -/
def healthyRun : List Entry → Nat
  | .evaluated .healthy :: h => healthyRun h + 1
  | .evaluated .silent :: h => healthyRun h
  | _ => 0

/-- Was the last demotion loss-driven? -/
def lastDemotion : List Entry → Option Bool
  | [] => none
  | .demoted byLoss _ :: _ => some byLoss
  | .evaluated _ :: h => lastDemotion h
  | .promoted _ :: h => lastDemotion h

/-- When the EV last recovered from a loss-driven demotion. -/
def lastLossRecovery : List Entry → Option Nat
  | [] => none
  | .promoted now :: h => if lastDemotion h = some true then some now else lastLossRecovery h
  | .evaluated _ :: h => lastLossRecovery h
  | .demoted _ _ :: h => lastLossRecovery h

variable (T) in
/-- The level of the last loss-driven demotion: one more than the level of the one before it, up to
    `loss_backoff_max_level`, if it came less than `loss_backoff_reset_ticks` after a recovery from
    a loss-driven demotion, else zero. -/
def lossLevel : List Entry → Int
  | [] => 0
  | .demoted true now :: h =>
    match lastLossRecovery h with
    | none => 0
    | some last =>
      if (now : Int) - last < T.cfg.lossBackoffResetTicks then
        min (lossLevel h + 1) T.cfg.lossBackoffMaxLevel
      else 0
  | .demoted false _ :: h => lossLevel h
  | .evaluated _ :: h => lossLevel h
  | .promoted _ :: h => lossLevel h

variable (T) in
/-- The record carries what the chronicle says. -/
structure Chronicled (h : List Entry) (r : EVRecord) : Prop where
  healthy : r.consecutiveHealthyWindows = healthyRun h
  level : r.lossBackoffLevel = T.lossLevel h
  recovered : r.lastLossRecoverTick = lastLossRecovery h
  bad : r.state = .assumedBad → lastDemotion h = some r.lossDemoted
  usable : r.state ≠ .assumedBad → r.lossDemoted = false
  unknown : r.state = .unknown → lastDemotion h = none

/-! ## One call -/

theorem change_same (st : EVState) (byLoss : Bool) (now : Nat) : change st st byLoss now = [] :=
  if_pos rfl

theorem change_bad {st : EVState} (h : st ≠ .assumedBad) (byLoss : Bool) (now : Nat) :
    change st .assumedBad byLoss now = [.demoted byLoss now] := by
  rw [change, if_neg (Ne.symm h), if_pos rfl]

theorem change_good {st : EVState} (h : st ≠ .good) (byLoss : Bool) (now : Nat) :
    change st .good byLoss now = [.promoted now] := by
  rw [change, if_neg (Ne.symm h), if_neg (by simp)]

/-- A turn keeps the record chronicled. -/
theorem Chronicled.turn {h : List Entry} {r : EVRecord} (hr : T.Chronicled h r) (room : Bool)
    (now : Nat) :
    T.Chronicled (change r.state (T.judge room now (T.rotate r)).state false now
      ++ .evaluated (T.verdict (T.rotate r)) :: h) (T.judge room now (T.rotate r)) := by
  have hj := judged (T := T) room now (T.rotate r)
  generalize T.judge room now (T.rotate r) = r' at hj ⊢
  cases hj with
  | silent hv =>
    have hchange : change r.state (T.rotate r).state false now = [] := change_same ..
    rw [hchange, hv]
    exact ⟨hr.healthy, hr.level, hr.recovered, hr.bad, hr.usable, hr.unknown⟩
  | held hv =>
    have hrun : healthyRun (.evaluated (T.verdict (T.rotate r)) :: h) = 0 := by
      rcases hv with hv | hv | ⟨hv, -⟩
      · rw [hv]; rfl
      · rw [hv]; rfl
      · rw [hv]; rfl
    have hchange : change r.state ((T.rotate r).noted 0).state false now = [] := change_same ..
    rw [hchange]
    exact ⟨hrun.symm, hr.level, hr.recovered, hr.bad, hr.usable, hr.unknown⟩
  | demoted hv hne _ =>
    have hchange : change r.state (T.demoted false now ((T.rotate r).noted 0)).state false now
        = [.demoted false now] := change_bad hne ..
    rw [hchange]
    exact ⟨rfl, hr.level, hr.recovered, fun _ => rfl, fun hn => absurd rfl hn,
      fun hu => nomatch hu⟩
  | suppressed hv hne _ =>
    have hchange : change r.state (suppressed ((T.rotate r).noted 0)).state false now = [] :=
      change_same ..
    rw [hchange, hv]
    exact ⟨rfl, hr.level, hr.recovered, hr.bad, hr.usable, hr.unknown⟩
  | promoted hv hgo =>
    obtain ⟨n, -, hne, -, -⟩ := recovers_gate hgo
    have hchange : change r.state (promoted now
        ((T.rotate r).noted ((T.rotate r).consecutiveHealthyWindows + 1))).state false now
        = [.promoted now] := change_good hne ..
    rw [hchange, hv]
    refine ⟨rfl, hr.level, ?_, fun hb => (nomatch hb), fun _ => rfl, fun hu => nomatch hu⟩
    show (if r.lossDemoted then some now else r.lastLossRecoverTick)
      = if lastDemotion h = some true then some now else lastLossRecovery h
    -- an UNKNOWN EV has no demotion to recover from
    cases hst : r.state with
    | good => exact absurd hst hne
    | assumedBad => rw [hr.bad hst, hr.recovered]; simp
    | unknown =>
      have hno : r.lossDemoted = false := hr.usable (by rw [hst]; simp)
      rw [hr.unknown hst, hno, hr.recovered]; simp
  | counted hv _ =>
    have hchange : change r.state
        ((T.rotate r).noted ((T.rotate r).consecutiveHealthyWindows + 1)).state false now = [] :=
      change_same ..
    rw [hchange, hv]
    refine ⟨?_, hr.level, hr.recovered, hr.bad, hr.usable, hr.unknown⟩
    show r.consecutiveHealthyWindows + 1 = healthyRun h + 1
    rw [hr.healthy]

/-- A loss window keeps the record chronicled. -/
theorem Chronicled.loss {h : List Entry} {r : EVRecord} (hr : T.Chronicled h r) (room : Bool)
    (now : Nat) (ratio : ℚ) :
    T.Chronicled (change r.state (T.lossJudge room now ratio r).state true now ++ h)
      (T.lossJudge room now ratio r) := by
  have hj := lossJudged (T := T) room now ratio r
  generalize T.lossJudge room now ratio r = r' at hj ⊢
  cases hj with
  | demoted _ hfull _ =>
    have hchange : change r.state (T.demoted true now (countLoss ratio r)).state true now
        = [.demoted true now] := change_bad hfull.1 ..
    rw [hchange]
    refine ⟨rfl, ?_, hr.recovered, fun _ => rfl, fun hn => absurd rfl hn, fun hu => nomatch hu⟩
    show T.nextLevel now (countLoss ratio r) = _
    unfold nextLevel
    rw [show (countLoss ratio r).lastLossRecoverTick = lastLossRecovery h from hr.recovered,
      show (countLoss ratio r).lossBackoffLevel = T.lossLevel h from hr.level]
    rfl
  | suppressed _ _ _ =>
    rw [show change r.state (suppressed (countLoss ratio r)).state true now = [] from
      change_same ..]
    exact ⟨hr.healthy, hr.level, hr.recovered, hr.bad, hr.usable, hr.unknown⟩
  | counted _ _ =>
    rw [show change r.state (countLoss ratio r).state true now = [] from change_same ..]
    exact ⟨hr.healthy, hr.level, hr.recovered, hr.bad, hr.usable, hr.unknown⟩
  | cleared _ _ =>
    rw [change_same]
    exact ⟨hr.healthy, hr.level, hr.recovered, hr.bad, hr.usable, hr.unknown⟩
  | kept _ _ =>
    rw [change_same]
    exact ⟨hr.healthy, hr.level, hr.recovered, hr.bad, hr.usable, hr.unknown⟩

/-- The record of every EV, after every run, carries exactly what its chronicle says. -/
theorem chronicled_after (cb : Option (TransitionCb T)) (tenant : String) (e : T.EV)
    (calls : List Call) :
    T.Chronicled (T.chronicle cb tenant e calls) ((T.after cb calls).evs tenant e) := by
  induction calls using List.reverseRecOn with
  | nil =>
    rw [chronicle_nil, after_nil, fresh_evs]
    exact ⟨rfl, rfl, rfl, fun hb => (by cases hb), fun _ => rfl, fun _ => rfl⟩
  | append_singleton calls c ih =>
    rw [chronicle_snoc, entries, after_snoc, step_evs, step_ticks cb _ c tenant e]
    cases hsig : T.signal tenant e c with
    | sent =>
      simp only [afterSignal]
      rw [show (countSent ((T.after cb calls).evs tenant e)).state
        = ((T.after cb calls).evs tenant e).state from rfl, change_same]
      exact ⟨ih.healthy, ih.level, ih.recovered, ih.bad, ih.usable, ih.unknown⟩
    | recv =>
      simp only [afterSignal]
      rw [show (countRecv ((T.after cb calls).evs tenant e)).state
        = ((T.after cb calls).evs tenant e).state from rfl, change_same]
      exact ⟨ih.healthy, ih.level, ih.recovered, ih.bad, ih.usable, ih.unknown⟩
    | quiet =>
      simp only [afterSignal]
      rw [change_same]
      exact ih
    | close =>
      rw [afterSignal, if_pos (rfl : Signal.close = .close)]
      by_cases hraised : (T.upTo cb tenant e (T.after cb calls)).raised = none
      · rw [if_pos hraised, if_pos (And.intro rfl hraised), List.append_assoc]
        exact ih.turn (T.room tenant e (T.upTo cb tenant e (T.after cb calls)).state)
          ((T.after cb calls).ticks tenant + 1)
      · rw [if_neg hraised, if_neg (fun h : _ ∧ _ => hraised h.2), change_same]
        exact ih
    | loss ratio =>
      rw [afterSignal, if_neg (by simp : ¬ Signal.loss ratio = .close),
        if_neg (fun h : _ ∧ _ => by cases h.1), List.append_nil, Nat.add_zero]
      exact ih.loss (T.room tenant e (T.after cb calls)) ((T.after cb calls).ticks tenant) ratio

/-! ## Recovery soundness -/

/-- The hold, by the kind of the last demotion. -/
theorem hold_value {r : EVRecord} {n : Int} (h : T.hold r = .ok n) :
    (r.lossDemoted = false → n = T.cfg.probeRecoverTicks) ∧
    (r.lossDemoted = true → 0 ≤ r.lossBackoffLevel
      ∧ n = T.cfg.probeRecoverTicks * 2 ^ r.lossBackoffLevel.toNat) := by
  unfold hold pyShiftLeft at h
  constructor
  · intro hl
    rw [if_neg (by rw [hl]; simp)] at h
    exact (Except.ok.inj h).symm
  · intro hl
    rw [if_pos hl] at h
    split at h
    · nomatch h
    · rename_i hneg
      exact ⟨not_lt.mp hneg, (Except.ok.inj h).symm⟩

theorem verdict_healthy {r : EVRecord} (h : T.verdict r = .healthy) :
    0 < r.windowSent ∧ T.cfg.probeRecoverRatio ≤ r.windowRatio := by
  unfold verdict at h
  split at h
  · nomatch h
  · rename_i hpos
    split at h
    · nomatch h
    · split at h
      · nomatch h
      · split at h
        · rename_i hrec
          exact ⟨Nat.pos_of_ne_zero hpos, hrec⟩
        · nomatch h

/-- An evaluation moves an EV from ASSUMED_BAD to GOOD only if its window is healthy and the gate
    lets it pass. -/
theorem judge_good {room : Bool} {now : Nat} {r : EVRecord} (hbad : r.state = .assumedBad)
    (h : (T.judge room now r).state = .good) :
    T.verdict r = .healthy ∧ T.recovers (r.noted (r.consecutiveHealthyWindows + 1)) = true := by
  have hne : r.state ≠ .good := by rw [hbad]; decide
  have hj := judged (T := T) room now r
  generalize T.judge room now r = r' at h hj
  cases hj with
  | silent _ => exact absurd h hne
  | held _ => exact absurd h hne
  | demoted _ _ _ => cases h
  | suppressed _ _ _ => exact absurd h hne
  | promoted hv hgo => exact ⟨hv, hgo⟩
  | counted _ _ => exact absurd h hne

/-- A loss window does not move an EV from ASSUMED_BAD to GOOD. -/
theorem lossJudge_not_good {room : Bool} {now : Nat} {ratio : ℚ} {r : EVRecord}
    (hbad : r.state = .assumedBad) : (T.lossJudge room now ratio r).state ≠ .good := by
  have hne : r.state ≠ .good := by rw [hbad]; decide
  have hj := lossJudged (T := T) room now ratio r
  generalize T.lossJudge room now ratio r = r' at hj ⊢
  cases hj with
  | demoted _ _ _ => exact fun h => by cases h
  | suppressed _ _ _ => exact hne
  | counted _ _ => exact hne
  | cleared _ _ => exact hne
  | kept _ _ => exact hne

/-- A call moves an EV from ASSUMED_BAD to GOOD only as a tick that gets to the EV. -/
theorem step_good {cb : Option (TransitionCb T)} {tenant : String} {e : T.EV} {s : Store T}
    {c : Call} (hbad : (s.evs tenant e).state = .assumedBad)
    (hgood : ((T.step cb s c).state.evs tenant e).state = .good) :
    T.signal tenant e c = .close ∧ (T.upTo cb tenant e s).raised = none ∧
      T.verdict (T.rotate (s.evs tenant e)) = .healthy ∧
      T.recovers ((T.rotate (s.evs tenant e)).noted
        ((s.evs tenant e).consecutiveHealthyWindows + 1)) = true := by
  have hne : (s.evs tenant e).state ≠ .good := by rw [hbad]; decide
  rw [step_evs] at hgood
  cases hsig : T.signal tenant e c with
  | sent => rw [hsig] at hgood; exact absurd hgood hne
  | recv => rw [hsig] at hgood; exact absurd hgood hne
  | quiet => rw [hsig] at hgood; exact absurd hgood hne
  | loss ratio => rw [hsig] at hgood; exact absurd hgood (lossJudge_not_good hbad)
  | close =>
    rw [hsig, afterSignal] at hgood
    split at hgood
    · rename_i hraised
      exact ⟨rfl, hraised, judge_good (r := T.rotate (s.evs tenant e)) hbad hgood⟩
    · exact absurd hgood hne

/-- Every recovery happens in a tick, at a healthy evaluation of an EV without a loss streak, and
    after the wait its last demotion asked for. -/
theorem recovery_evidence (T : EVStateTable) (cb : Option (TransitionCb T)) (tenant : String)
    (e : T.EV) (calls : List Call) (c : Call)
    (hbad : ((T.after cb calls).evs tenant e).state = .assumedBad)
    (hgood : ((T.after cb (calls ++ [c])).evs tenant e).state = .good) :
    c = .tick tenant ∧
    (let r := T.rotate ((T.after cb calls).evs tenant e)
     0 < r.windowSent ∧ T.cfg.probeRecoverRatio ≤ r.windowRatio
      ∧ r.consecutiveLossDemoteWindows = 0) ∧
    ∃ h now byLoss,
      T.chronicle cb tenant e calls = h ∧
      T.chronicle cb tenant e (calls ++ [c]) = .promoted now :: .evaluated .healthy :: h ∧
      lastDemotion h = some byLoss ∧
      (byLoss = false →
        T.cfg.probeRecoverTicks ≤ healthyRun (.evaluated .healthy :: h)) ∧
      (byLoss = true → 0 ≤ T.lossLevel h ∧
        T.cfg.probeRecoverTicks * 2 ^ (T.lossLevel h).toNat
          ≤ healthyRun (.evaluated .healthy :: h)) := by
  have hchron := chronicled_after cb tenant e calls
  have hsnoc := chronicle_snoc cb tenant e calls c
  rw [entries, ← after_snoc, hbad, hgood] at hsnoc
  rw [after_snoc] at hgood
  obtain ⟨hsig, hraised, hv, hgo⟩ := step_good hbad hgood
  obtain ⟨hpos, hratio⟩ := verdict_healthy hv
  obtain ⟨n, hhold, -, hstreak, hle⟩ := recovers_gate hgo
  obtain ⟨hprobe, hloss⟩ := hold_value hhold
  -- this evaluation is the last of the run that the gate counts
  have hrun : healthyRun (.evaluated .healthy :: T.chronicle cb tenant e calls)
      = ((T.after cb calls).evs tenant e).consecutiveHealthyWindows + 1 := by
    rw [hchron.healthy]; rfl
  refine ⟨(signal_close.mp hsig).1, ⟨hpos, hratio, hstreak⟩, _,
    (T.after cb (calls ++ [c])).ticks tenant, _, rfl, ?_, hchron.bad hbad, ?_, ?_⟩
  · rw [hsnoc, if_pos ⟨hsig, hraised⟩, hv, change_good (by simp)]
    rfl
  · intro hl
    rw [hrun, ← hprobe hl]
    exact hle
  · intro hl
    obtain ⟨hlevel, hn⟩ := hloss hl
    have hlevel' : 0 ≤ ((T.after cb calls).evs tenant e).lossBackoffLevel := hlevel
    have hn' : n = T.cfg.probeRecoverTicks
        * 2 ^ ((T.after cb calls).evs tenant e).lossBackoffLevel.toNat := hn
    rw [hchron.level] at hlevel' hn'
    refine ⟨hlevel', ?_⟩
    rw [hrun, ← hn']
    exact hle

/-- A loss-driven demotion, a recovery, and soon after it a second loss-driven demotion: it now
    takes two healthy evaluations. -/
def backoffRun : List Call :=
  [.lossWindow "green" 0 1 0 1, .probeSent "green" 0 1, .probeRecv "green" 0 1, .tick "green",
    .lossWindow "green" 0 1 0 1, .probeSent "green" 0 1, .probeRecv "green" 0 1, .tick "green",
    .probeSent "green" 0 1, .probeRecv "green" 0 1]

/-- At work on one-interval windows, one-sample decisions and a base hold of one. -/
theorem recovery_evidence_threePaths :
    let T := threePaths { probeWindowTicks := 1, probeMinSamples := 1, probeRecoverTicks := 1,
                          lossDemoteConsecutive := 1 } (by decide)
    T.lossLevel (T.chronicle none "green" (onPath 1) backoffRun) = 1 ∧
      2 ≤ healthyRun
        (.evaluated .healthy :: T.chronicle none "green" (onPath 1) backoffRun) := by
  intro T
  have hlevel : T.lossLevel (T.chronicle none "green" (onPath 1) backoffRun) = 1 := by
    decide +kernel
  have hlast : lastDemotion (T.chronicle none "green" (onPath 1) backoffRun) = some true := by
    decide +kernel
  obtain ⟨-, -, h, now, byLoss, rfl, -, hby, -, hloss⟩ := recovery_evidence T none "green"
    (onPath 1) backoffRun (.tick "green") (by decide +kernel) (by decide +kernel)
  rw [hlast, Option.some.injEq] at hby
  obtain ⟨-, hrun⟩ := hloss hby.symm
  rw [hlevel] at hrun
  have htwo : T.cfg.probeRecoverTicks * 2 ^ (1 : Int).toNat = 2 := by decide
  rw [htwo] at hrun
  exact ⟨hlevel, by exact_mod_cast hrun⟩

end Srv6Mrc.EVStateTable
