/-
  Why an EV is demoted.

  Both demotion rules read counters — the bucket sums and the loss streak — that are written in
  many branches.  Here they are tied to the calls of the run: the window is the last
  `probe_window_ticks` intervals of the probe log, and the streak counts the loss windows above
  the threshold since the latest thing that clears it (`streak_after`).  So every demotion has its
  evidence in the history, and an EV that loses no probe is never demoted by one.
-/
import Mathlib.Tactic.Ring
import Mathlib.Tactic.Linarith
import Srv6Mrc.EvState.History

namespace Srv6Mrc.EVStateTable

open SlidingWindow

variable {T : EVStateTable}

/-! ## The loss streak -/

variable (T) in
/-- The call is a loss window of the EV with a ratio above `loss_threshold`. -/
def lossAbove (tenant : String) (e : T.EV) (c : Call) : Bool :=
  match T.signal tenant e c with
  | .loss ratio => T.cfg.lossThreshold < ratio
  | _ => false

variable (T) in
/-- The call is a loss window of the EV with a ratio at or below half of `loss_threshold`. -/
def lossBelow (tenant : String) (e : T.EV) (c : Call) : Bool :=
  match T.signal tenant e c with
  | .loss ratio => ratio ≤ T.cfg.lossThreshold / 2
  | _ => false

variable (T) in
/-- After the run `calls`, the call `c` moves the EV to ASSUMED_BAD. -/
def Demotes (cb : Option (TransitionCb T)) (tenant : String) (e : T.EV) (calls : List Call)
    (c : Call) : Prop :=
  ((T.after cb calls).evs tenant e).state ≠ .assumedBad
    ∧ ((T.after cb (calls ++ [c])).evs tenant e).state = .assumedBad

variable (T) in
/-- The run `older ++ since` is cut at the latest of: its start, the EV's last loss window at or
    below half of the threshold, and the EV's previous demotion. -/
structure StreakCut (cb : Option (TransitionCb T)) (tenant : String) (e : T.EV)
    (older since : List Call) : Prop where
  cut : older = [] ∨ ∃ calls c, older = calls ++ [c] ∧
    (T.lossBelow tenant e c = true ∨ T.Demotes cb tenant e calls c)
  no_low : ∀ c ∈ since, T.lossBelow tenant e c = false
  no_demotion : ∀ mid c rest, since = mid ++ c :: rest → ¬ T.Demotes cb tenant e (older ++ mid) c

/-- A turn clears the streak if it demotes, else leaves it. -/
theorem judge_streak (room : Bool) (now : Nat) (r : EVRecord) :
    (T.judge room now r).consecutiveLossDemoteWindows
      = if r.state ≠ .assumedBad ∧ (T.judge room now r).state = .assumedBad then 0
        else r.consecutiveLossDemoteWindows := by
  have hj := judged (T := T) room now r
  generalize T.judge room now r = r' at hj ⊢
  cases hj with
  | silent _ => exact (if_neg fun h => h.1 h.2).symm
  | held _ => exact (if_neg fun h => h.1 h.2).symm
  | demoted _ hne _ => exact (if_pos ⟨hne, rfl⟩).symm
  | suppressed _ _ _ => exact (if_neg fun h => h.1 h.2).symm
  | promoted _ _ => exact (if_neg fun h => nomatch h.2).symm
  | counted _ _ => exact (if_neg fun h => h.1 h.2).symm

/-- A loss window clears the streak if it demotes, else counts, clears or leaves it by its ratio. -/
theorem lossJudge_streak (room : Bool) (now : Nat) (ratio : ℚ) (r : EVRecord) :
    (T.lossJudge room now ratio r).consecutiveLossDemoteWindows
      = if r.state ≠ .assumedBad ∧ (T.lossJudge room now ratio r).state = .assumedBad then 0
        else if T.cfg.lossThreshold < ratio then r.consecutiveLossDemoteWindows + 1
        else if ratio ≤ T.cfg.lossThreshold / 2 then 0
        else r.consecutiveLossDemoteWindows := by
  have hj := lossJudged (T := T) room now ratio r
  generalize T.lossJudge room now ratio r = r' at hj ⊢
  cases hj with
  | demoted _ hfull _ => exact (if_pos ⟨hfull.1, rfl⟩).symm
  | suppressed habove _ _ => rw [if_neg fun h => h.1 h.2, if_pos habove]; rfl
  | counted habove _ => rw [if_neg fun h => h.1 h.2, if_pos habove]; rfl
  | cleared habove hlow => rw [if_neg fun h => h.1 h.2, if_neg habove, if_pos hlow]
  | kept habove hlow => rw [if_neg fun h => h.1 h.2, if_neg habove, if_neg hlow]

/-- One call's effect on the streak counter. -/
theorem step_streak (hthr : 0 ≤ T.cfg.lossThreshold) (cb : Option (TransitionCb T))
    (tenant : String) (e : T.EV) (calls : List Call) (c : Call) :
    (T.Demotes cb tenant e calls c ∨ T.lossBelow tenant e c = true →
      ((T.after cb (calls ++ [c])).evs tenant e).consecutiveLossDemoteWindows = 0) ∧
    (¬ T.Demotes cb tenant e calls c → T.lossBelow tenant e c = false →
      ((T.after cb (calls ++ [c])).evs tenant e).consecutiveLossDemoteWindows
        = ((T.after cb calls).evs tenant e).consecutiveLossDemoteWindows
          + if T.lossAbove tenant e c = true then 1 else 0) := by
  unfold Demotes lossBelow lossAbove
  rw [after_snoc, step_evs]
  set r := (T.after cb calls).evs tenant e with hr
  cases T.signal tenant e c with
  | sent => simp [afterSignal, countSent, ← hr]
  | recv => simp [afterSignal, countRecv, ← hr]
  | quiet => simp [afterSignal, ← hr]
  | close =>
    rw [afterSignal]
    split
    · rw [judge_streak]
      simp only [← hr]
      constructor
      · intro h
        exact if_pos (h.resolve_right (by simp))
      · intro h _
        exact if_neg h
    · simp [← hr]
  | loss ratio =>
    rw [afterSignal, lossJudge_streak]
    simp only [← hr, decide_eq_true_eq, decide_eq_false_iff_not]
    constructor
    · rintro (h | h)
      · exact if_pos h
      · -- half of a threshold that is not negative lies below it
        have hnot : ¬ T.cfg.lossThreshold < ratio := by linarith
        rw [if_neg hnot, if_pos h]
        exact ite_self 0
    · intro hd hlow
      rw [if_neg hd, if_neg hlow]
      split <;> rfl

/-- The streak counter is the number of loss windows above the threshold since the cut. -/
theorem streak_after (hthr : 0 ≤ T.cfg.lossThreshold) (cb : Option (TransitionCb T))
    (tenant : String) (e : T.EV) (calls : List Call) :
    ∃ older since, calls = older ++ since ∧ T.StreakCut cb tenant e older since ∧
      ((T.after cb calls).evs tenant e).consecutiveLossDemoteWindows
        = since.countP (T.lossAbove tenant e) := by
  induction calls using List.reverseRecOn with
  | nil =>
    refine ⟨[], [], rfl, ⟨Or.inl rfl, fun c hc => absurd hc List.not_mem_nil, ?_⟩, ?_⟩
    · intro mid c rest h
      simp at h
    · rw [after_nil, fresh_evs]; rfl
  | append_singleton calls c ih =>
    obtain ⟨older, since, rfl, hcut, hcount⟩ := ih
    obtain ⟨hclear, hkeep⟩ := step_streak hthr cb tenant e (older ++ since) c
    by_cases hreset : T.Demotes cb tenant e (older ++ since) c ∨ T.lossBelow tenant e c = true
    · -- this call is the latest that clears the streak: the cut moves behind it
      refine ⟨older ++ since ++ [c], [], by rw [List.append_nil],
        ⟨?_, fun c hc => absurd hc List.not_mem_nil, ?_⟩, hclear hreset⟩
      · exact Or.inr ⟨older ++ since, c, rfl, hreset.symm⟩
      · intro mid c rest h
        simp at h
    · -- the cut stays, and this call is the last one since
      push Not at hreset
      obtain ⟨hnd, hnl⟩ := hreset
      have hlow : T.lossBelow tenant e c = false := Bool.not_eq_true _ ▸ hnl
      refine ⟨older, since ++ [c], by rw [List.append_assoc], ⟨hcut.cut, ?_, ?_⟩, ?_⟩
      · intro c' hc'
        rcases List.mem_append.mp hc' with h | h
        · exact hcut.no_low c' h
        · rw [List.mem_singleton.mp h]; exact hlow
      · intro mid c' rest h
        rcases List.eq_nil_or_concat rest with rfl | ⟨rest, c'', rfl⟩
        · obtain ⟨rfl, hc'⟩ := List.append_inj' h rfl
          obtain rfl : c = c' := List.head_eq_of_cons_eq hc'
          exact hnd
        · rw [List.concat_eq_append, ← List.cons_append, ← List.append_assoc] at h
          exact hcut.no_demotion mid c' rest (List.append_inj' h rfl).1
      · rw [hkeep hnd hlow, hcount, List.countP_append, List.countP_singleton]

/-! ## Demotion soundness -/

theorem verdict_failing {r : EVRecord} :
    T.verdict r = .failing ↔ 0 < r.windowSent ∧ T.cfg.probeMinSamples ≤ r.windowSent
      ∧ r.windowRatio < T.cfg.probeFailRatio := by
  unfold verdict
  constructor
  · intro h
    split at h
    · nomatch h
    · rename_i hpos
      split at h
      · nomatch h
      · rename_i hmin
        split at h
        · rename_i hfail
          exact ⟨Nat.pos_of_ne_zero hpos, not_lt.mp hmin, hfail⟩
        · split at h <;> nomatch h
  · rintro ⟨hpos, hmin, hfail⟩
    rw [if_neg (Nat.ne_of_gt hpos), if_neg (not_lt.mpr hmin), if_pos hfail]

variable (T) in
/-- What stands behind a demotion: a tick that closes a failing window — `S` probes sent and `R`
    received in the last `probe_window_ticks` intervals — or a loss window that fills the streak of
    lossy windows since the last time it was cleared. -/
def Evidence (cb : Option (TransitionCb T)) (tenant : String) (e : T.EV) (calls : List Call)
    (c : Call) : Prop :=
  (c = .tick tenant ∧ ∃ S R, recent T.win (T.probeLog tenant e calls) = (S, R) ∧
    T.cfg.probeMinSamples ≤ S ∧ 0 < S ∧ ((min R S : Nat) : ℚ) / S < T.cfg.probeFailRatio) ∨
  (T.lossAbove tenant e c = true ∧
    ∃ older since, calls = older ++ since ∧ T.StreakCut cb tenant e older since ∧
      T.cfg.lossDemoteConsecutive ≤ (since ++ [c]).countP (T.lossAbove tenant e))

/-- Every demotion has its evidence in the calls of the run, if ticks do not raise. -/
theorem demotion_evidence (T : EVStateTable) (cb : Option (TransitionCb T)) (hcb : Returns cb)
    (hthr : 0 ≤ T.cfg.lossThreshold) (hmax : 0 ≤ T.cfg.lossBackoffMaxLevel) (tenant : String)
    (e : T.EV) (calls : List Call) (c : Call) (h : T.Demotes cb tenant e calls c) :
    T.Evidence cb tenant e calls c := by
  obtain ⟨hpre, hpost⟩ := h
  rw [after_snoc, step_evs] at hpost
  cases hsig : T.signal tenant e c with
  | sent => rw [hsig] at hpost; exact absurd hpost hpre
  | recv => rw [hsig] at hpost; exact absurd hpost hpre
  | quiet => rw [hsig] at hpost; exact absurd hpost hpre
  | close =>
    refine Or.inl ⟨(signal_close.mp hsig).1, _, _, rfl, ?_⟩
    rw [hsig, afterSignal, if_pos (upTo_returns hcb hmax calls tenant e)] at hpost
    obtain ⟨hfail, -⟩ := judge_bad (r := T.rotate ((T.after cb calls).evs tenant e)) hpre hpost
    obtain ⟨hS, hR⟩ := rotate_window (tracks_after hcb hmax tenant e calls)
    obtain ⟨hpos, hmin, hratio⟩ := verdict_failing.mp hfail
    rw [EVRecord.windowRatio] at hratio
    rw [← hS, ← hR]
    exact ⟨hmin, hpos, hratio⟩
  | loss ratio =>
    rw [hsig, afterSignal] at hpost
    obtain ⟨habove, hfull, -⟩ := lossJudge_bad hpre hpost
    have hc : T.lossAbove tenant e c = true := by
      rw [lossAbove, hsig]
      exact decide_eq_true habove
    obtain ⟨older, since, hcalls, hcut, hcount⟩ := streak_after hthr cb tenant e calls
    refine Or.inr ⟨hc, older, since, hcalls, hcut, ?_⟩
    rw [List.countP_append, List.countP_singleton, if_pos hc, ← hcount]
    exact hfull.2

/-- At work on the default config: three probes go out, none comes back. -/
theorem demotion_evidence_threePaths :
    (threePaths {} (by decide)).Evidence none "green" (onPath 1)
      [.probeSent "green" 0 1, .probeSent "green" 0 1, .probeSent "green" 0 1] (.tick "green") :=
  demotion_evidence (threePaths {} (by decide)) none returns_none (by decide +kernel) (by decide)
    "green" _ _ _ (by unfold Demotes; decide +kernel)

/-- One-tick windows, single-sample decisions, and a backoff capped below zero. -/
def negativeLevel : EVStateTable :=
  threePaths { probeWindowTicks := 1, probeMinSamples := 1, probeRecoverTicks := 1,
               lossDemoteConsecutive := 1, lossBackoffMaxLevel := -1 } (by decide)

/-- Two loss-driven demotions of (0, 0) with a recovery in between: its level is now −1, and its
    next healthy window raises in the middle of the tick. -/
def negativeLevelRun : List Call :=
  [.lossWindow "green" 0 0 0 1, .probeSent "green" 0 0, .probeRecv "green" 0 0, .tick "green",
    .lossWindow "green" 0 0 0 1, .probeSent "green" 0 0, .probeRecv "green" 0 0]

theorem no_evidence_of_empty {T : EVStateTable} {cb : Option (TransitionCb T)} {tenant : String}
    {e : T.EV} {calls : List Call}
    (h : recent T.win (T.probeLog tenant e calls) = (0, 0)) :
    ¬ T.Evidence cb tenant e calls (.tick tenant) := by
  rintro (⟨-, S, R, hSR, -, hpos, -⟩ | ⟨habove, -⟩)
  · rw [h, Prod.mk.injEq] at hSR
    omega
  · unfold lossAbove at habove
    rcases signal_tick tenant e with hsig | hsig
    · rw [hsig] at habove; nomatch habove
    · rw [hsig] at habove; nomatch habove

/-- Without returning ticks there are demotions without evidence.  A negative backoff level, or a
    callback, raises in the turn of (0, 0): the bucket of (0, 1) is not rotated, and the next tick
    demotes (0, 1) although no probe was sent on it in the interval that tick closes. -/
theorem demotion_without_evidence :
    (negativeLevel.Demotes none "green" (onPath 1)
        (negativeLevelRun ++ [.probeSent "green" 0 1, .tick "green"]) (.tick "green") ∧
      ¬ negativeLevel.Evidence none "green" (onPath 1)
        (negativeLevelRun ++ [.probeSent "green" 0 1, .tick "green"]) (.tick "green")) ∧
    (let T := threePaths { probeWindowTicks := 1, probeMinSamples := 1 } (by decide)
     let cb : Option (TransitionCb T) := some fun _ _ _ _ _ => some (.keyError "")
     T.Demotes cb "green" (onPath 1)
        [.probeSent "green" 0 0, .probeSent "green" 0 1, .tick "green"] (.tick "green") ∧
      ¬ T.Evidence cb "green" (onPath 1)
        [.probeSent "green" 0 0, .probeSent "green" 0 1, .tick "green"] (.tick "green")) := by
  refine ⟨⟨?_, no_evidence_of_empty (by decide)⟩,
    ⟨?_, no_evidence_of_empty (by decide)⟩⟩
  · unfold Demotes
    decide +kernel
  · unfold Demotes
    decide +kernel

/-! ## A lossless path -/

/-- What a turn counts since some moment of the run, against what was ever sent and received: at
    that moment no more had come back than had gone out. -/
theorem window_recv_bound {cb : Option (TransitionCb T)} {tenant : String} {e : T.EV}
    {calls : List Call}
    (hmatch : ∀ p, p <+: calls → T.recvCount tenant e p ≤ T.sentCount tenant e p) :
    let r := T.rotate ((T.after cb calls).evs tenant e)
    r.windowSent + T.recvCount tenant e calls ≤ r.windowRecv + T.sentCount tenant e calls := by
  intro r
  obtain ⟨newest, older, hlog, hsum⟩ := (since_after cb tenant e calls).sum_close
  obtain ⟨p, since, rfl, hsince⟩ := probeLog_split hlog
  have hbuckets : r.buckets.sum
      = (T.sentCount tenant e since, T.recvCount tenant e since) := by
    rw [← total_probeLog, hsince, ← hsum]; rfl
  have hsent : r.windowSent = T.sentCount tenant e since := by rw [windowSent_eq, hbuckets]
  have hrecv : r.windowRecv = T.recvCount tenant e since := by rw [windowRecv_eq, hbuckets]
  have hp := hmatch p (List.prefix_append p since)
  have hsplit : T.sentCount tenant e (p ++ since)
      = T.sentCount tenant e p + T.sentCount tenant e since := List.countP_append
  have hsplit' : T.recvCount tenant e (p ++ since)
      = T.recvCount tenant e p + T.recvCount tenant e since := List.countP_append
  omega

/-- A path that loses nothing is never demoted by its probes: every return matches a probe sent
    before, and at every tick the probes still in flight are at most a `1 - probe_fail_ratio` part
    of those sent in the last `probe_window_ticks` intervals. -/
theorem lossless_not_demoted (T : EVStateTable) (cb : Option (TransitionCb T))
    (hfail : T.cfg.probeFailRatio ≤ 1) (tenant : String) (e : T.EV) (calls : List Call)
    (hmatch : ∀ p, p <+: calls → T.recvCount tenant e p ≤ T.sentCount tenant e p)
    (hflight : ∀ p, p ++ [.tick tenant] <+: calls →
      (T.sentCount tenant e p - T.recvCount tenant e p : ℚ)
        ≤ (1 - T.cfg.probeFailRatio) * (recent T.win (T.probeLog tenant e p)).1) :
    ∀ p, p ++ [.tick tenant] <+: calls → ¬ T.Demotes cb tenant e p (.tick tenant) := by
  rintro p hp ⟨hpre, hpost⟩
  rw [after_snoc, step_evs] at hpost
  rcases signal_tick tenant e with hsig | hsig
  · rw [hsig, afterSignal] at hpost
    split at hpost
    · set r := T.rotate ((T.after cb p).evs tenant e) with hr
      obtain ⟨hverdict, -⟩ := judge_bad (r := r) hpre hpost
      obtain ⟨hpos, -, hratio⟩ := verdict_failing.mp hverdict
      -- the window holds at least the last intervals, and all of one stretch of the run
      have hcover : (recent T.win (T.probeLog tenant e p)).1 ≤ r.windowSent := by
        rw [windowSent_eq]
        exact (covers_after cb tenant e p).recent_le_close.1
      have hbound : r.windowSent + T.recvCount tenant e p
          ≤ r.windowRecv + T.sentCount tenant e p :=
        window_recv_bound fun q hq =>
          hmatch q (hq.trans ((List.prefix_append p _).trans hp))
      have hposQ : (0 : ℚ) < r.windowSent := by exact_mod_cast hpos
      rw [EVRecord.windowRatio, div_lt_iff₀ hposQ] at hratio
      have hcoverQ : ((recent T.win (T.probeLog tenant e p)).1 : ℚ) ≤ r.windowSent := by
        exact_mod_cast hcover
      have hboundQ : (r.windowSent : ℚ) + T.recvCount tenant e p
          ≤ r.windowRecv + T.sentCount tenant e p := by exact_mod_cast hbound
      have hslack : (1 - T.cfg.probeFailRatio) * (recent T.win (T.probeLog tenant e p)).1
          ≤ (1 - T.cfg.probeFailRatio) * r.windowSent :=
        mul_le_mul_of_nonneg_left hcoverQ (by linarith)
      have hfl := hflight p hp
      -- the source caps what came back at what was sent
      rcases Nat.le_total r.windowRecv r.windowSent with hle | hle
      · rw [min_eq_left hle] at hratio
        linarith
      · rw [min_eq_right hle] at hratio
        have hone : T.cfg.probeFailRatio * r.windowSent ≤ 1 * r.windowSent :=
          mul_le_mul_of_nonneg_right hfail hposQ.le
        linarith
    · exact hpre hpost
  · rw [hsig] at hpost
    exact hpre hpost

/-- One of two probes is still out when the tick comes. -/
def losslessRun : List Call :=
  [.probeSent "green" 0 1, .probeRecv "green" 0 1, .probeSent "green" 0 1, .tick "green"]

/-- At work on the default config. -/
theorem lossless_not_demoted_threePaths :
    ¬ (threePaths {} (by decide)).Demotes none "green" (onPath 1) losslessRun.dropLast
      (.tick "green") := by
  refine lossless_not_demoted (threePaths {} (by decide)) none (by decide +kernel) "green"
    (onPath 1) losslessRun ?_ ?_ _ (List.prefix_refl _)
  · intro p hp
    have hall : ∀ q ∈ losslessRun.inits, (threePaths {} (by decide)).recvCount "green" (onPath 1) q
        ≤ (threePaths {} (by decide)).sentCount "green" (onPath 1) q := by decide
    exact hall p ((List.mem_inits _ _).mpr hp)
  · exact of_prefix_concat (by decide +kernel)

end Srv6Mrc.EVStateTable
