/-
  One EV at a time: what an evaluation and a loss window do to a single record.

  `_evaluate_locked`, `_try_demote_locked` and `_transition_locked` write one record field by
  field, ask the rest of the grid one question (are `min_active` other EVs usable?) and read one
  clock.  This file says the result in one go: `judge` and `lossJudge` are functions of the record,
  that answer and that clock, and `evaluateLocked_eq` / `recordLossWindow_eq` are the equations
  that replace the source's code from here on.  Nothing below unfolds the methods again.

  `Verdict` names the five ways an evaluation can go (silent, thin, failing, healthy, in between).
-/
import Srv6Mrc.EvState.Table

namespace Srv6Mrc

/-- `min(recv, sent) / sent` over the whole window. -/
def EVRecord.windowRatio (r : EVRecord) : ℚ := (min r.windowRecv r.windowSent : Nat) / r.windowSent

/-- The record with this evaluation's ratio noted and the healthy-window counter set. -/
def EVRecord.noted (r : EVRecord) (healthy : Nat) : EVRecord :=
  { r with lastProbeRatio := r.windowRatio, consecutiveHealthyWindows := healthy }

/-- What one evaluation finds in the window. -/
inductive Verdict where
  /-- Nothing sent: neither demote nor recover evidence. -/
  | silent
  /-- Fewer than `probe_min_samples` sent. -/
  | thin
  /-- Ratio below `probe_fail_ratio`. -/
  | failing
  /-- Ratio at or above `probe_recover_ratio` (and not failing). -/
  | healthy
  /-- Neither failing nor healthy. -/
  | between
  deriving DecidableEq, Repr

namespace EVStateTable

variable {T : EVStateTable}

/-! ## Storing a record -/

/-- Replace one record and, if its state changed, publish the tenant's weights again. -/
def Store.write (s : Store T) (tenant : String) (e : T.EV) (r : EVRecord) : Store T :=
  if r.state = (s.evs tenant e).state then s.setEv tenant e r
  else T.rebuildWeightsLocked tenant (s.setEv tenant e r)

namespace Store

@[simp] theorem setEv_same (s : Store T) (tenant : String) (e : T.EV) (r : EVRecord) :
    (s.setEv tenant e r).evs tenant e = r := by
  simp [setEv]

theorem setEv_other (s : Store T) {tenant tenant' : String} {e e' : T.EV} (r : EVRecord)
    (h : tenant' ≠ tenant ∨ e' ≠ e) :
    (s.setEv tenant e r).evs tenant' e' = s.evs tenant' e' := by
  by_cases ht : tenant' = tenant
  · subst ht
    have he : e' ≠ e := h.resolve_left (fun hn => hn rfl)
    simp [setEv, Function.update_of_ne he]
  · simp [setEv, Function.update_of_ne ht]

@[simp] theorem setEv_setEv (s : Store T) (tenant : String) (e : T.EV) (r r' : EVRecord) :
    (s.setEv tenant e r).setEv tenant e r' = s.setEv tenant e r' := by
  simp [setEv]

@[simp] theorem setEv_ticks (s : Store T) (tenant : String) (e : T.EV) (r : EVRecord) :
    (s.setEv tenant e r).ticks = s.ticks := rfl

@[simp] theorem setEv_weightsCache (s : Store T) (tenant : String) (e : T.EV) (r : EVRecord) :
    (s.setEv tenant e r).weightsCache = s.weightsCache := rfl

/-- The step of the clock leaves the records. -/
@[simp] theorem bumpTick_evs (s : Store T) (tenant : String) :
    (s.bumpTick tenant).evs = s.evs := rfl

@[simp] theorem write_ticks (s : Store T) (tenant : String) (e : T.EV) (r : EVRecord) :
    (s.write tenant e r).ticks = s.ticks := by
  unfold write; split <;> rfl

theorem write_evs (s : Store T) (tenant : String) (e : T.EV) (r : EVRecord) :
    (s.write tenant e r).evs = (s.setEv tenant e r).evs := by
  unfold write; split <;> rfl

/-- The record that was written is there. -/
@[simp] theorem write_same (s : Store T) (tenant : String) (e : T.EV) (r : EVRecord) :
    (s.write tenant e r).evs tenant e = r := by
  rw [write_evs, setEv_same]

theorem write_other (s : Store T) {tenant tenant' : String} {e e' : T.EV} (r : EVRecord)
    (h : tenant' ≠ tenant ∨ e' ≠ e) :
    (s.write tenant e r).evs tenant' e' = s.evs tenant' e' := by
  rw [write_evs, setEv_other s r h]

/-- A record with the same state is only set. -/
theorem write_of_state_eq {s : Store T} {tenant : String} {e : T.EV} {r : EVRecord}
    (h : r.state = (s.evs tenant e).state) : s.write tenant e r = s.setEv tenant e r := by
  rw [write, if_pos h]

/-- With another state the weights are built again. -/
theorem write_of_state_ne {s : Store T} {tenant : String} {e : T.EV} {r : EVRecord}
    (h : r.state ≠ (s.evs tenant e).state) :
    s.write tenant e r = T.rebuildWeightsLocked tenant (s.setEv tenant e r) := by
  rw [write, if_neg h]

/-- Writing over a record that has just been stored, states unchanged so far, is one write. -/
theorem setEv_write {s : Store T} {tenant : String} {e : T.EV} {r r' : EVRecord}
    (h : r.state = (s.evs tenant e).state) :
    (s.setEv tenant e r).write tenant e r' = s.write tenant e r' := by
  unfold write
  rw [setEv_same, setEv_setEv, h]

end Store

variable (T)

/-! ## The record after a demotion, a suppressed one, a promotion -/

/-- The record of an EV just demoted. -/
def demoted (byLoss : Bool) (now : Nat) (r : EVRecord) : EVRecord :=
  { r with
    state := .assumedBad
    transitions := r.transitions + 1
    consecutiveHealthyWindows := 0
    consecutiveLossDemoteWindows := 0
    lossDemoted := byLoss
    lossBackoffLevel := if byLoss then T.nextLevel now r else r.lossBackoffLevel }

/-- The record of an EV whose demotion the floor suppressed. -/
def suppressed (r : EVRecord) : EVRecord :=
  { r with demotesSuppressedByFloor := r.demotesSuppressedByFloor + 1 }

/-- The record of an EV just promoted. -/
def promoted (now : Nat) (r : EVRecord) : EVRecord :=
  { r with
    state := .good
    transitions := r.transitions + 1
    consecutiveHealthyWindows := 0
    lastLossRecoverTick := if r.lossDemoted then some now else r.lastLossRecoverTick
    lossDemoted := false }

/-- A demotion attempt: `room` says whether the floor allows it. -/
def attempt (byLoss room : Bool) (now : Nat) (r : EVRecord) : EVRecord :=
  if room then T.demoted byLoss now r else suppressed r

/-! ## The record after an evaluation, after a loss window -/

/-- What an evaluation finds in this record's window. -/
def verdict (r : EVRecord) : Verdict :=
  if r.windowSent = 0 then .silent
  else if (r.windowSent : Int) < T.cfg.probeMinSamples then .thin
  else if r.windowRatio < T.cfg.probeFailRatio then .failing
  else if T.cfg.probeRecoverRatio ≤ r.windowRatio then .healthy
  else .between

/-- The recovery gate, its healthy-window counter already raised. -/
def recovers (r : EVRecord) : Bool :=
  match T.hold r with
  | .error _ => false
  | .ok hold =>
    r.state ≠ .good ∧ r.consecutiveLossDemoteWindows = 0 ∧ hold ≤ r.consecutiveHealthyWindows

/-- The record after an evaluation. -/
def judge (room : Bool) (now : Nat) (r : EVRecord) : EVRecord :=
  match T.verdict r with
  | .silent => { r with lastProbeRatio := 0 }
  | .thin => r.noted 0
  | .failing =>
    if r.state = .assumedBad then r.noted 0 else T.attempt false room now (r.noted 0)
  | .healthy =>
    if T.recovers (r.noted (r.consecutiveHealthyWindows + 1)) then
      promoted now (r.noted (r.consecutiveHealthyWindows + 1))
    else r.noted (r.consecutiveHealthyWindows + 1)
  | .between => r.noted 0

/-- The exception an evaluation raises on its own: the recovery hold shifted by a negative level. -/
def shiftError (r : EVRecord) : Option PyError :=
  if T.verdict r = .healthy ∧ r.lossDemoted = true ∧ r.lossBackoffLevel < 0 then
    some .negativeShiftCount
  else none

/-- The record with a loss window above the threshold counted. -/
def countLoss (ratio : ℚ) (r : EVRecord) : EVRecord :=
  { r with
    lastLossRatio := ratio
    consecutiveLossDemoteWindows := r.consecutiveLossDemoteWindows + 1 }

/-- One more loss window above the threshold fills the streak of an EV that can still be
    demoted. -/
def StreakFull (r : EVRecord) : Prop :=
  r.state ≠ .assumedBad ∧ T.cfg.lossDemoteConsecutive ≤ (r.consecutiveLossDemoteWindows + 1 : Nat)

instance (r : EVRecord) : Decidable (T.StreakFull r) := by
  unfold StreakFull; exact inferInstance

/-- The record after a loss window of loss ratio `ratio`. -/
def lossJudge (room : Bool) (now : Nat) (ratio : ℚ) (r : EVRecord) : EVRecord :=
  if T.cfg.lossThreshold < ratio then
    if T.StreakFull r then T.attempt true room now (countLoss ratio r) else countLoss ratio r
  else if ratio ≤ T.cfg.lossThreshold / 2 then
    { r with lastLossRatio := ratio, consecutiveLossDemoteWindows := 0 }
  else { r with lastLossRatio := ratio }

/-- Does the floor leave room to demote `e`? -/
def room (tenant : String) (e : T.EV) (s : Store T) : Bool :=
  decide (T.minActive ≤ T.usableAfter tenant e s)

/-- What the callback does about a change from `old` to `new` in store `s`. -/
def notify (cb : Option (TransitionCb T)) (s : Store T) (tenant : String) (e : T.EV)
    (old new : EVState) : Option PyError :=
  if old = new then none
  else match cb with
    | none => none
    | some f => f s tenant e old new

/-! ## The ways an evaluation, a loss window can go -/

/-- Every way an evaluation can go, with its condition and the record it leaves. -/
inductive Judged (room : Bool) (now : Nat) (r : EVRecord) : EVRecord → Prop
  | silent (h : T.verdict r = .silent) : Judged room now r { r with lastProbeRatio := 0 }
  | held (h : T.verdict r = .thin ∨ T.verdict r = .between
      ∨ T.verdict r = .failing ∧ r.state = .assumedBad) : Judged room now r (r.noted 0)
  | demoted (h : T.verdict r = .failing) (hne : r.state ≠ .assumedBad) (hroom : room = true) :
      Judged room now r (T.demoted false now (r.noted 0))
  | suppressed (h : T.verdict r = .failing) (hne : r.state ≠ .assumedBad) (hroom : room = false) :
      Judged room now r (EVStateTable.suppressed (r.noted 0))
  | promoted (h : T.verdict r = .healthy)
      (hgo : T.recovers (r.noted (r.consecutiveHealthyWindows + 1)) = true) :
      Judged room now r
        (EVStateTable.promoted now (r.noted (r.consecutiveHealthyWindows + 1)))
  | counted (h : T.verdict r = .healthy)
      (hgo : T.recovers (r.noted (r.consecutiveHealthyWindows + 1)) = false) :
      Judged room now r (r.noted (r.consecutiveHealthyWindows + 1))

/-- Every way a loss window can go, with its condition and the record it leaves. -/
inductive LossJudged (room : Bool) (now : Nat) (ratio : ℚ) (r : EVRecord) : EVRecord → Prop
  | demoted (h : T.cfg.lossThreshold < ratio) (hfull : T.StreakFull r) (hroom : room = true) :
      LossJudged room now ratio r (T.demoted true now (countLoss ratio r))
  | suppressed (h : T.cfg.lossThreshold < ratio) (hfull : T.StreakFull r) (hroom : room = false) :
      LossJudged room now ratio r (EVStateTable.suppressed (countLoss ratio r))
  | counted (h : T.cfg.lossThreshold < ratio) (hfull : ¬ T.StreakFull r) :
      LossJudged room now ratio r (countLoss ratio r)
  | cleared (h : ¬ T.cfg.lossThreshold < ratio) (hlow : ratio ≤ T.cfg.lossThreshold / 2) :
      LossJudged room now ratio r
        { r with lastLossRatio := ratio, consecutiveLossDemoteWindows := 0 }
  | kept (h : ¬ T.cfg.lossThreshold < ratio) (hlow : ¬ ratio ≤ T.cfg.lossThreshold / 2) :
      LossJudged room now ratio r { r with lastLossRatio := ratio }

variable {T}

/-- What the judgement of a tick can do. -/
theorem judged (room : Bool) (now : Nat) (r : EVRecord) :
    T.Judged room now r (T.judge room now r) := by
  unfold judge
  cases hv : T.verdict r with
  | silent => exact .silent hv
  | thin => exact .held (Or.inl hv)
  | failing =>
    by_cases hbad : r.state = .assumedBad
    · simp only [if_pos hbad]
      exact .held (Or.inr (Or.inr ⟨hv, hbad⟩))
    · simp only [if_neg hbad]
      cases room with
      | true => exact .demoted hv hbad rfl
      | false => exact .suppressed hv hbad rfl
  | healthy =>
    cases hgo : T.recovers (r.noted (r.consecutiveHealthyWindows + 1)) with
    | true => exact .promoted hv hgo
    | false => exact .counted hv hgo
  | between => exact .held (Or.inr (Or.inl hv))

/-- What the judgement of a loss window can do. -/
theorem lossJudged (room : Bool) (now : Nat) (ratio : ℚ) (r : EVRecord) :
    T.LossJudged room now ratio r (T.lossJudge room now ratio r) := by
  unfold lossJudge
  by_cases habove : T.cfg.lossThreshold < ratio
  · simp only [if_pos habove]
    by_cases hfull : T.StreakFull r
    · rw [if_pos hfull]
      cases room with
      | true => exact .demoted habove hfull rfl
      | false => exact .suppressed habove hfull rfl
    · rw [if_neg hfull]
      exact .counted habove hfull
  · simp only [if_neg habove]
    by_cases hlow : ratio ≤ T.cfg.lossThreshold / 2
    · rw [if_pos hlow]
      exact .cleared habove hlow
    · rw [if_neg hlow]
      exact .kept habove hlow

/-- A recovery passes the gate: not GOOD, no loss streak, and the hold served. -/
theorem recovers_gate {r : EVRecord} (h : T.recovers r = true) :
    ∃ n, T.hold r = .ok n ∧ r.state ≠ .good ∧ r.consecutiveLossDemoteWindows = 0
      ∧ n ≤ r.consecutiveHealthyWindows := by
  unfold recovers at h
  cases hh : T.hold r with
  | error err => rw [hh] at h; nomatch h
  | ok n =>
    rw [hh] at h
    exact ⟨n, rfl, of_decide_eq_true h⟩

/-- An evaluation moves an EV to ASSUMED_BAD only if its window fails and the floor allows it. -/
theorem judge_bad {room : Bool} {now : Nat} {r : EVRecord} (hne : r.state ≠ .assumedBad)
    (h : (T.judge room now r).state = .assumedBad) : T.verdict r = .failing ∧ room = true := by
  have hj := judged (T := T) room now r
  generalize T.judge room now r = r' at h hj
  cases hj with
  | silent _ => exact absurd h hne
  | held _ => exact absurd h hne
  | demoted hv _ hroom => exact ⟨hv, hroom⟩
  | suppressed _ _ _ => exact absurd h hne
  | promoted _ _ => nomatch h
  | counted _ _ => exact absurd h hne

/-- A loss window moves an EV to ASSUMED_BAD only on a full streak and if the floor allows it. -/
theorem lossJudge_bad {room : Bool} {now : Nat} {ratio : ℚ} {r : EVRecord}
    (hne : r.state ≠ .assumedBad) (h : (T.lossJudge room now ratio r).state = .assumedBad) :
    T.cfg.lossThreshold < ratio ∧ T.StreakFull r ∧ room = true := by
  have hj := lossJudged (T := T) room now ratio r
  generalize T.lossJudge room now ratio r = r' at h hj
  cases hj with
  | demoted habove hfull hroom => exact ⟨habove, hfull, hroom⟩
  | suppressed _ _ _ => exact absurd h hne
  | counted _ _ => exact absurd h hne
  | cleared _ _ => exact absurd h hne
  | kept _ _ => exact absurd h hne

/-! ## The equations -/

/-- Without a callback nothing is raised. -/
@[simp] theorem notify_none (s : Store T) (tenant : String) (e : T.EV) (old new : EVState) :
    T.notify none s tenant e old new = none := by
  unfold notify; split <;> rfl

/-- Where the state stays, there is no call. -/
@[simp] theorem notify_self (cb : Option (TransitionCb T)) (s : Store T) (tenant : String)
    (e : T.EV) (old : EVState) : T.notify cb s tenant e old old = none := by
  unfold notify; rw [if_pos rfl]

/-- The question to the grid is about the other EVs: this EV's own record does not matter. -/
theorem usableAfter_congr {tenant : String} {e : T.EV} {s s' : Store T}
    (h : ∀ c, c ≠ e → (s'.evs tenant c).state = (s.evs tenant c).state) :
    T.usableAfter tenant e s' = T.usableAfter tenant e s := by
  unfold usableAfter
  refine List.countP_congr fun c _ => ?_
  by_cases hc : c = e
  · simp [hc]
  · simp [hc, h c hc]

/-- The room is counted over the others. -/
@[simp] theorem usableAfter_setEv (tenant : String) (e : T.EV) (s : Store T) (r : EVRecord) :
    T.usableAfter tenant e (s.setEv tenant e r) = T.usableAfter tenant e s :=
  usableAfter_congr fun _ hc => by rw [s.setEv_other r (Or.inr hc)]

/-- So a record does not change its own room. -/
@[simp] theorem room_setEv (tenant : String) (e : T.EV) (s : Store T) (r : EVRecord) :
    T.room tenant e (s.setEv tenant e r) = T.room tenant e s := by
  unfold room; rw [usableAfter_setEv]

/-- The record of an EV just moved to ASSUMED_BAD, before its demotion is attributed. -/
def badRecord (r : EVRecord) : EVRecord :=
  { r with
    state := .assumedBad
    transitions := r.transitions + 1
    consecutiveHealthyWindows := 0
    consecutiveLossDemoteWindows := 0 }

/-- `_transition_locked` to ASSUMED_BAD, from any other state. -/
theorem transitionLocked_bad (cb : Option (TransitionCb T)) {tenant : String} {e : T.EV}
    {s : Store T} {r : EVRecord} (hr : r.state = (s.evs tenant e).state)
    (hne : r.state ≠ .assumedBad) :
    T.transitionLocked cb tenant e .assumedBad (s.setEv tenant e r)
      = ⟨s.write tenant e (badRecord r),
          T.notify cb (s.write tenant e (badRecord r)) tenant e r.state .assumedBad⟩ := by
  have hw : s.write tenant e (badRecord r)
      = T.rebuildWeightsLocked tenant (s.setEv tenant e (badRecord r)) :=
    Store.write_of_state_ne fun h => hne (hr.trans h.symm)
  rw [hw]
  unfold transitionLocked notify
  simp only [Store.setEv_same, if_neg hne, Store.setEv_setEv, reduceCtorEq, if_false, if_true]
  cases cb <;> rfl

/-- `_transition_locked` to GOOD, from any other state. -/
theorem transitionLocked_good (cb : Option (TransitionCb T)) {tenant : String} {e : T.EV}
    {s : Store T} {r : EVRecord} (hr : r.state = (s.evs tenant e).state)
    (hne : r.state ≠ .good) :
    T.transitionLocked cb tenant e .good (s.setEv tenant e r)
      = ⟨s.write tenant e (promoted (s.ticks tenant) r),
          T.notify cb (s.write tenant e (promoted (s.ticks tenant) r)) tenant e r.state .good⟩ := by
  have hw : s.write tenant e (promoted (s.ticks tenant) r)
      = T.rebuildWeightsLocked tenant (s.setEv tenant e (promoted (s.ticks tenant) r)) :=
    Store.write_of_state_ne fun h => hne (hr.trans h.symm)
  rw [hw]
  unfold transitionLocked notify
  simp only [Store.setEv_same, if_neg hne, Store.setEv_setEv, reduceCtorEq, if_false, if_true,
    Store.setEv_ticks, promoted]
  cases cb <;> cases r.lossDemoted <;> simp [Outcome.ok]

/-- `_try_demote_locked`, on an EV that is not ASSUMED_BAD. -/
theorem tryDemoteLocked_eq (cb : Option (TransitionCb T)) {tenant : String} {e : T.EV}
    (byLoss : Bool) {s : Store T} {r : EVRecord} (hr : r.state = (s.evs tenant e).state)
    (hne : r.state ≠ .assumedBad) :
    T.tryDemoteLocked cb tenant e byLoss (s.setEv tenant e r)
      = (let r' := T.attempt byLoss (T.room tenant e s) (s.ticks tenant) r
         let s' := s.write tenant e r'
         ⟨s', T.notify cb s' tenant e r.state r'.state⟩) := by
  unfold tryDemoteLocked
  -- the floor asks about the other EVs, so it does not see that `r` is stored already
  by_cases hroom : T.minActive ≤ T.usableAfter tenant e s
  · have hnlt : ¬ (T.usableAfter tenant e s : Int) < T.minActive := by omega
    have hyes : T.room tenant e s = true := by rw [room, decide_eq_true hroom]
    simp only [usableAfter_setEv, if_neg hnlt, hyes, attempt, if_true, Store.setEv_same,
      Store.setEv_setEv, Store.setEv_ticks]
    rw [transitionLocked_bad cb (by cases byLoss <;> exact hr) (by cases byLoss <;> exact hne)]
    cases byLoss <;> rfl
  · have hlt : (T.usableAfter tenant e s : Int) < T.minActive := by omega
    have hno : T.room tenant e s = false := by rw [room, decide_eq_false hroom]
    simp only [usableAfter_setEv, if_pos hlt, hno, attempt, Store.setEv_same,
      Store.setEv_setEv, Bool.false_eq_true, if_false]
    rw [Store.write_of_state_eq (r := suppressed r) hr]
    simp [suppressed, Outcome.ok]

/-- The hold raises for a negative level only. -/
theorem hold_error {r : EVRecord} {err : PyError} (h : T.hold r = .error err) :
    r.lossDemoted = true ∧ r.lossBackoffLevel < 0 ∧ err = .negativeShiftCount := by
  unfold hold pyShiftLeft at h
  split at h
  · rename_i hl
    split at h
    · rename_i hlt
      exact ⟨hl, hlt, (Except.error.inj h).symm⟩
    · nomatch h
  · nomatch h

theorem hold_ok {r : EVRecord} {n : Int} (h : T.hold r = .ok n) :
    ¬ (r.lossDemoted = true ∧ r.lossBackoffLevel < 0) := by
  rintro ⟨hl, hlt⟩
  unfold hold pyShiftLeft at h
  rw [if_pos hl, if_pos hlt] at h
  nomatch h

/-- `_evaluate_locked`, in one equation. -/
theorem evaluateLocked_eq (cb : Option (TransitionCb T)) (tenant : String) (e : T.EV)
    (s : Store T) :
    T.evaluateLocked cb tenant e s
      = (let r := s.evs tenant e
         let r' := T.judge (T.room tenant e s) (s.ticks tenant) r
         let s' := s.write tenant e r'
         ⟨s', (T.shiftError r).or (T.notify cb s' tenant e r.state r'.state)⟩) := by
  unfold evaluateLocked
  set r := s.evs tenant e with hr
  have hratio : ((min r.windowRecv r.windowSent : Nat) : ℚ) / r.windowSent = r.windowRatio := rfl
  have hstate : r.state = (s.evs tenant e).state := rfl
  have hkeep : ∀ n, s.write tenant e (r.noted n) = s.setEv tenant e (r.noted n) :=
    fun n => Store.write_of_state_eq (r := r.noted n) hstate
  by_cases hsent : r.windowSent = 0
  · have hv : T.verdict r = .silent := by rw [verdict, if_pos hsent]
    simp [hsent, judge, shiftError, hv, Outcome.ok, Store.write_of_state_eq, ← hr]
  by_cases hthin : (r.windowSent : Int) < T.cfg.probeMinSamples
  · have hv : T.verdict r = .thin := by rw [verdict, if_neg hsent, if_pos hthin]
    simp only [if_neg hsent, if_pos hthin, hratio, judge, shiftError, hv, hkeep]
    simp [Outcome.ok, EVRecord.noted]
  -- failing: the one branch that asks the floor
  by_cases hfail : r.windowRatio < T.cfg.probeFailRatio
  · have hv : T.verdict r = .failing := by
      rw [verdict, if_neg hsent, if_neg hthin, if_pos hfail]
    simp only [if_neg hsent, if_neg hthin, hratio, if_pos hfail, judge, shiftError, hv]
    by_cases hbad : r.state = .assumedBad
    · simp only [hbad, ne_eq, not_true_eq_false, if_true, if_false, hkeep]
      simp [Outcome.ok, EVRecord.noted, hbad]
    · simp only [hbad, ne_eq, not_false_eq_true, if_true, if_false]
      refine (tryDemoteLocked_eq cb false (r := r.noted 0) hstate hbad).trans ?_
      simp [EVRecord.noted]
  by_cases hrec : T.cfg.probeRecoverRatio ≤ r.windowRatio
  · have hv : T.verdict r = .healthy := by
      rw [verdict, if_neg hsent, if_neg hthin, if_neg hfail, if_pos hrec]
    simp only [if_neg hsent, if_neg hthin, hratio, if_neg hfail, if_pos hrec, judge, shiftError,
      hv, true_and]
    have hnoted : ({ r with
        lastProbeRatio := r.windowRatio
        consecutiveHealthyWindows := r.consecutiveHealthyWindows + 1 } : EVRecord)
        = r.noted (r.consecutiveHealthyWindows + 1) := rfl
    rw [hnoted]
    set r' : EVRecord := r.noted (r.consecutiveHealthyWindows + 1) with hr'
    have hstate' : r'.state = (s.evs tenant e).state := rfl
    cases hh : T.hold r' with
    | error err =>
      -- the shift raises with the counter already raised: that write stays
      obtain ⟨hl, hlt, rfl⟩ := hold_error hh
      have hn : T.recovers r' = false := by rw [recovers, hh]
      have hcond : r.lossDemoted = true ∧ r.lossBackoffLevel < 0 := ⟨hl, hlt⟩
      rw [if_pos hcond, hn]
      simp [Outcome.raise, Store.write_of_state_eq hstate']
    | ok n =>
      have hcond : ¬ (r.lossDemoted = true ∧ r.lossBackoffLevel < 0) := hold_ok hh
      have hgate : T.recovers r' = decide (r.state ≠ .good
          ∧ r.consecutiveLossDemoteWindows = 0 ∧ n ≤ (r.consecutiveHealthyWindows + 1 : Nat)) := by
        rw [recovers, hh]
        rfl
      rw [if_neg hcond, hgate]
      by_cases hgo : r.state ≠ .good ∧ r.consecutiveLossDemoteWindows = 0
          ∧ n ≤ (r.consecutiveHealthyWindows + 1 : Nat)
      · simp only [if_pos hgo, decide_eq_true hgo, if_true, Option.none_or]
        exact transitionLocked_good cb hstate' hgo.1
      · simp only [if_neg hgo, decide_eq_false hgo, Bool.false_eq_true, if_false, Option.none_or]
        rw [hkeep]
        simp [Outcome.ok, hr', EVRecord.noted]
  · have hv : T.verdict r = .between := by
      rw [verdict, if_neg hsent, if_neg hthin, if_neg hfail, if_neg hrec]
    simp only [if_neg hsent, if_neg hthin, hratio, if_neg hfail, if_neg hrec, judge, shiftError,
      hv, hkeep]
    simp [Outcome.ok, EVRecord.noted]

/-- One turn of `tick`'s loop, in one equation. -/
theorem turn_eq (cb : Option (TransitionCb T)) (tenant : String) (e : T.EV) (s : Store T) :
    T.turn cb tenant e s
      = (let r := T.rotate (s.evs tenant e)
         let r' := T.judge (T.room tenant e s) (s.ticks tenant) r
         let s' := s.write tenant e r'
         ⟨s', (T.shiftError r).or (T.notify cb s' tenant e r.state r'.state)⟩) := by
  unfold turn
  rw [evaluateLocked_eq]
  simp only [Store.setEv_same, room_setEv, Store.setEv_ticks]
  rw [Store.setEv_write (by rfl)]

/-- The loss ratio `record_loss_window` computes: seen is clamped to expected. -/
def lossRatio (seen expected : Int) : ℚ := (expected - min seen expected : Int) / expected

/-- A loss window with nothing seen is total loss. -/
theorem lossRatio_zero {n : Nat} (h : 0 < n) : lossRatio 0 n = 1 := by
  have hmin : min (0 : Int) n = 0 := by omega
  have hne : ((n : Int) : ℚ) ≠ 0 := by exact_mod_cast Nat.ne_of_gt h
  rw [lossRatio, hmin, sub_zero, div_self hne]

/-- `record_loss_window` past its checks, in one equation. -/
theorem recordLossWindow_eq (cb : Option (TransitionCb T)) {tenant : String} {plane path : Int}
    {seen expected : Int} {e : T.EV} (ht : T.checkTenant tenant = none)
    (he : T.checkEv plane path = .ok e) (hnn : ¬ (seen < 0 ∨ expected < 0)) (h0 : expected ≠ 0)
    (s : Store T) :
    T.recordLossWindow cb tenant plane path seen expected s
      = (let r := s.evs tenant e
         let r' := T.lossJudge (T.room tenant e s) (s.ticks tenant) (lossRatio seen expected) r
         let s' := s.write tenant e r'
         ⟨s', T.notify cb s' tenant e r.state r'.state⟩) := by
  have hmin : (if expected < seen then expected else seen) = min seen expected := by
    split <;> omega
  unfold recordLossWindow withEv
  simp only [ht, he, if_neg hnn, h0, hmin, if_false]
  set ratio : ℚ := lossRatio seen expected with hratio
  have hval : ((expected - min seen expected : Int) : ℚ) / expected = ratio := rfl
  rw [hval]
  unfold lossJudge
  by_cases habove : T.cfg.lossThreshold < ratio
  · simp only [if_pos habove]
    by_cases hgo : (s.evs tenant e).state ≠ .assumedBad
        ∧ T.cfg.lossDemoteConsecutive ≤ ((s.evs tenant e).consecutiveLossDemoteWindows + 1 : Nat)
    · have hfull : T.StreakFull (s.evs tenant e) := hgo
      simp only [if_pos hgo, if_pos hfull]
      exact tryDemoteLocked_eq cb true rfl hgo.1
    · have hfull : ¬ T.StreakFull (s.evs tenant e) := hgo
      simp only [if_neg hgo, if_neg hfull]
      simp [countLoss, Outcome.ok, Store.write_of_state_eq]
  · simp only [if_neg habove]
    by_cases hlow : ratio ≤ T.cfg.lossThreshold / 2
    · simp [hlow, Outcome.ok, Store.write_of_state_eq]
    · simp [hlow, Outcome.ok, Store.write_of_state_eq]

end EVStateTable
end Srv6Mrc
