/-
  `srv6_mrc/cli/spray.py`: the `_log_transition` callback that `SRV6_MRC_LOG_TRANSITIONS=1`
  installs, and `EVStateTable.inspect`, which it reads.

  The callback asks `inspect()` for a key it does not have, so it raises at every transition, in
  the middle of whatever call caused it.  A run with the log is the run without it exactly as long
  as nothing moves (`unaffected_iff_quiet`): `Quiet` is that condition, on the state before a call.
-/
import Srv6Mrc.EvState.Demotion

namespace Srv6Mrc.EVStateTable

variable {T : EVStateTable}

/-! ## The callback -/

/-- The values `inspect()` puts in its dictionary. -/
inductive PyValue where
  | str (s : String)
  | int (n : Int)
  | float (x : ℚ)
  deriving DecidableEq

variable (T) in
/-- `inspect` -/
def inspect (tenant : String) (plane path : Int) (s : Store T) :
    Except PyError (List (String × PyValue)) :=
  match T.checkTenant tenant with
  | some err => .error err
  | none => (T.checkEv plane path).map fun e =>
    let r := s.evs tenant e
    [("state", .str r.state.value),
      ("current_sent", .int r.currentSent),
      ("current_recv", .int r.currentRecv),
      ("window_sent", .int r.windowSent),
      ("window_recv", .int r.windowRecv),
      ("total_sent", .int r.totalSent),
      ("total_recv", .int r.totalRecv),
      ("last_probe_ratio", .float r.lastProbeRatio),
      ("consecutive_healthy_windows", .int r.consecutiveHealthyWindows),
      ("consecutive_loss_demote_windows", .int r.consecutiveLossDemoteWindows),
      ("last_loss_ratio", .float r.lastLossRatio),
      ("transitions", .int r.transitions),
      ("demotes_suppressed_by_floor", .int r.demotesSuppressedByFloor),
      ("loss_backoff_level", .int r.lossBackoffLevel)]

/-- `snap[key]` -/
def getItem (snap : List (String × PyValue)) (key : String) : Except PyError PyValue :=
  match snap.lookup key with
  | some v => .ok v
  | none => .error (.keyError key)

/-- What one line of the log says, its time stamp apart. -/
structure TransitionLine where
  host : String
  tenant : String
  plane : Nat
  path : Nat
  old : String
  new : String
  probeTimeouts : PyValue
  lossWindows : PyValue
  lastLossRatio : PyValue
  transitions : PyValue
  floorSuppressed : PyValue

variable (T) in
/-- The f-string of `_log_transition`: the keys are read from left to right. -/
def transitionLine (hostTag : String) (s : Store T) (tenant : String) (e : T.EV)
    (old new : EVState) : Except PyError TransitionLine := do
  let snap ← T.inspect tenant e.1 e.2 s
  let probeTimeouts ← getItem snap "consecutive_probe_timeouts"
  let lossWindows ← getItem snap "consecutive_loss_demote_windows"
  let lastLossRatio ← getItem snap "last_loss_ratio"
  let transitions ← getItem snap "transitions"
  let floorSuppressed ← getItem snap "demotes_suppressed_by_floor"
  return { host := hostTag, tenant, plane := e.1, path := e.2, old := old.value, new := new.value,
           probeTimeouts, lossWindows, lastLossRatio, transitions, floorSuppressed }

variable (T) in
/-- `_log_transition`, once `parse_policy` has put the table into its holder: the line goes to
    stderr, an exception goes to the table. -/
def logTransition (hostTag : String) : TransitionCb T := fun s tenant e old new =>
  match T.transitionLine hostTag s tenant e old new with
  | .ok _ => none
  | .error err => some err

/-- The callback never gets as far as writing a line. -/
theorem logTransition_raises (hostTag : String) (s : Store T) (tenant : String) (e : T.EV)
    (old new : EVState) : T.logTransition hostTag s tenant e old new ≠ none := by
  unfold logTransition transitionLine
  cases hc : T.checkTenant tenant with
  | some err =>
    unfold inspect
    simp [hc, bind, Except.bind]
  | none =>
    have he : T.checkEv (e.1 : Nat) (e.2 : Nat) = .ok e := checkEv_ok.mpr ⟨rfl, rfl⟩
    have hmiss : ∃ snap, T.inspect tenant (e.1 : Nat) (e.2 : Nat) s = .ok snap ∧
        getItem snap "consecutive_probe_timeouts"
          = .error (.keyError "consecutive_probe_timeouts") := by
      unfold inspect
      rw [hc, he]
      exact ⟨_, rfl, rfl⟩
    obtain ⟨snap, hsnap, hkey⟩ := hmiss
    rw [hsnap]
    simp [bind, Except.bind, hkey]

theorem notify_logTransition {hostTag : String} {s : Store T} {tenant : String} {e : T.EV}
    {old new : EVState} (h : T.notify (some (T.logTransition hostTag)) s tenant e old new = none) :
    old = new := by
  by_contra hne
  rw [notify, if_neg hne] at h
  exact logTransition_raises hostTag s tenant e old new h

/-! ## Calls that move nothing -/

variable (T) in
/-- An evaluation of this record neither changes the EV's state nor raises. -/
def Still (room : Bool) (r : EVRecord) : Prop :=
  (T.verdict r = .failing → r.state = .assumedBad ∨ room = false) ∧
  (T.verdict r = .healthy →
    T.recovers (r.noted (r.consecutiveHealthyWindows + 1)) = false
      ∧ ¬ (r.lossDemoted = true ∧ r.lossBackoffLevel < 0))

variable (T) in
/-- In this state, the call moves no EV: a tick finds every EV of its tenant still, and a loss
    window above the threshold does not fill a streak that the floor would let through. -/
def Quiet (s : Store T) : Call → Prop
  | .probeSent _ _ _ => True
  | .probeRecv _ _ _ => True
  | .tick tenant => tenant ∈ T.tenants →
    ∀ e, T.Still (T.room tenant e s) (T.rotate (s.evs tenant e))
  | .lossWindow tenant plane path seen expected => ∀ e, T.Names tenant e tenant plane path →
    0 ≤ seen → 0 < expected → T.cfg.lossThreshold < lossRatio seen expected →
    T.StreakFull (s.evs tenant e) → T.room tenant e s = false

theorem still_iff {room : Bool} (now : Nat) {r : EVRecord} :
    T.Still room r ↔ (T.judge room now r).state = r.state ∧ T.shiftError r = none := by
  unfold Still shiftError
  have hj := judged (T := T) room now r
  generalize T.judge room now r = r' at hj ⊢
  cases hj with
  | silent hv => simp [hv]
  | held hv =>
    rcases hv with hv | hv | ⟨hv, hbad⟩
    · simp [hv, EVRecord.noted]
    · simp [hv, EVRecord.noted]
    · simp [hv, hbad, EVRecord.noted]
  | demoted hv hne hroom => simp [hv, hne, hroom, demoted, Ne.symm hne]
  | suppressed hv hne hroom => simp [hv, hroom, suppressed, EVRecord.noted]
  | promoted hv hgo =>
    obtain ⟨n, -, hne, -, -⟩ := recovers_gate hgo
    have hne' : EVState.good ≠ r.state := fun h => hne h.symm
    simp [hv, hgo, promoted, hne']
  | counted hv hgo =>
    have hstate : (r.noted (r.consecutiveHealthyWindows + 1)).state = r.state := rfl
    simp [hv, hgo, hstate]

/-- A still EV's turn returns, whatever the callback, and leaves its state. -/
theorem turn_still (cb : Option (TransitionCb T)) {tenant : String} {e : T.EV} {s : Store T}
    (h : T.Still (T.room tenant e s) (T.rotate (s.evs tenant e))) :
    (T.turn cb tenant e s).raised = none ∧
      ((T.turn cb tenant e s).state.evs tenant e).state = (s.evs tenant e).state := by
  obtain ⟨hstate, hshift⟩ := (still_iff (s.ticks tenant)).mp h
  rw [turn_eq]
  dsimp only
  rw [hshift, hstate, notify_self, Store.write_same]
  exact ⟨rfl, hstate⟩

/-- With the log on, a turn that returns was a still EV's. -/
theorem still_of_turn {hostTag : String} {tenant : String} {e : T.EV} {s : Store T}
    (h : (T.turn (some (T.logTransition hostTag)) tenant e s).raised = none) :
    T.Still (T.room tenant e s) (T.rotate (s.evs tenant e)) := by
  rw [turn_eq] at h
  obtain ⟨hshift, hnotify⟩ := Option.or_eq_none_iff.mp h
  exact (still_iff (s.ticks tenant)).mpr ⟨(notify_logTransition hnotify).symm, hshift⟩

/-! ## Ticks -/

/-- In the middle of a tick that moved nothing so far, an EV whose turn is to come finds what it
    would have found at the start. -/
theorem still_midway (cb : Option (TransitionCb T)) {tenant : String} {e : T.EV} {cs : List T.EV}
    (he : e ∉ cs) {s : Store T}
    (hsame : ∀ c, ((Outcome.forEach (T.turn cb tenant) cs (s.bumpTick tenant)).state.evs tenant
      c).state = (s.evs tenant c).state) :
    let s₁ := (Outcome.forEach (T.turn cb tenant) cs (s.bumpTick tenant)).state
    T.Still (T.room tenant e s₁) (T.rotate (s₁.evs tenant e))
      ↔ T.Still (T.room tenant e s) (T.rotate (s.evs tenant e)) := by
  intro s₁
  have hroom : T.room tenant e s₁ = T.room tenant e s := by
    unfold room
    rw [usableAfter_congr fun c _ => hsame c]
  have hrec : s₁.evs tenant e = s.evs tenant e := turns_other cb (Or.inr he) (s.bumpTick tenant)
  rw [hroom, hrec]

/-- A tick over still EVs: every prefix of the loop returns, and no state has changed. -/
theorem turns_still (cb : Option (TransitionCb T)) {tenant : String} {s : Store T}
    (h : ∀ e, T.Still (T.room tenant e s) (T.rotate (s.evs tenant e))) :
    ∀ cs rest, cs ++ rest = T.cells →
      (Outcome.forEach (T.turn cb tenant) cs (s.bumpTick tenant)).raised = none ∧
      ∀ c, ((Outcome.forEach (T.turn cb tenant) cs (s.bumpTick tenant)).state.evs tenant c).state
        = (s.evs tenant c).state := by
  intro cs
  induction cs using List.reverseRecOn with
  | nil => exact fun rest _ => ⟨rfl, fun c => rfl⟩
  | append_singleton cs e ih =>
    intro rest hcells
    obtain ⟨hret, hsame⟩ := ih (e :: rest) (by rw [← hcells, List.append_assoc]; rfl)
    have he : e ∉ cs := not_mem_of_cells hcells
    have hstill := (still_midway cb he hsame).mpr (h e)
    obtain ⟨hraised, hstate⟩ := turn_still cb hstill
    rw [Outcome.forEach_concat hret]
    refine ⟨hraised, fun c => ?_⟩
    by_cases hc : c = e
    · subst hc
      rw [hstate, hsame]
    · rw [turn_other cb _ (Or.inr hc), hsame]

/-- With the log on, a tick that returns was over still EVs. -/
theorem still_of_tick {hostTag : String} {tenant : String} {s : Store T}
    (h : (Outcome.forEach (T.turn (some (T.logTransition hostTag)) tenant) T.cells
      (s.bumpTick tenant)).raised = none) :
    ∀ e, T.Still (T.room tenant e s) (T.rotate (s.evs tenant e)) := by
  set cb := some (T.logTransition hostTag) with hcb
  have hturns : ∀ cs rest, cs ++ rest = T.cells →
      (∀ c, ((Outcome.forEach (T.turn cb tenant) cs (s.bumpTick tenant)).state.evs tenant c).state
        = (s.evs tenant c).state) ∧
      ∀ e ∈ cs, T.Still (T.room tenant e s) (T.rotate (s.evs tenant e)) := by
    intro cs
    induction cs using List.reverseRecOn with
    | nil => exact fun rest _ => ⟨fun c => rfl, fun e he => absurd he List.not_mem_nil⟩
    | append_singleton cs e ih =>
      intro rest hcells
      obtain ⟨hsame, hstill⟩ := ih (e :: rest) (by rw [← hcells, List.append_assoc]; rfl)
      have he : e ∉ cs := not_mem_of_cells hcells
      -- the loop returned, so it got past `e`
      have hall : (Outcome.forEach (T.turn cb tenant) (cs ++ [e]) (s.bumpTick tenant)).raised
          = none := Outcome.raised_prefix (hcells ▸ h)
      have hret := Outcome.raised_prefix hall
      rw [Outcome.forEach_concat hret] at hall ⊢
      have hmid := still_of_turn hall
      refine ⟨fun c => ?_, fun e' he' => ?_⟩
      · by_cases hc : c = e
        · subst hc
          rw [(turn_still cb hmid).2, hsame]
        · rw [turn_other cb _ (Or.inr hc), hsame]
      · rcases List.mem_append.mp he' with he' | he'
        · exact hstill e' he'
        · rw [List.mem_singleton.mp he']
          exact (still_midway cb he hsame).mp hmid
  exact fun e => (hturns T.cells [] (List.append_nil _)).2 e (mem_cells e)

/-- The state a loop of turns leaves does not depend on the callback, if neither raises. -/
theorem turns_state_eq {cb cb' : Option (TransitionCb T)} {tenant : String} {cs : List T.EV}
    {s : Store T} (h : (Outcome.forEach (T.turn cb tenant) cs s).raised = none)
    (h' : (Outcome.forEach (T.turn cb' tenant) cs s).raised = none) :
    (Outcome.forEach (T.turn cb tenant) cs s).state
      = (Outcome.forEach (T.turn cb' tenant) cs s).state := by
  rw [Outcome.forEach_state h, Outcome.forEach_state h']
  simp only [turn_state]

/-! ## Runs -/

variable (T) in
/-- After the run `calls`, the call `c` goes the same way with the log on as without: both return
    or both raise, they leave the same table, and a tick returns after closing one bucket of every
    EV. -/
structure Unaffected (hostTag : String) (calls : List Call) (c : Call) : Prop where
  returns : (T.step (some (T.logTransition hostTag))
      (T.after (some (T.logTransition hostTag)) calls) c).raised = none
    ↔ (T.step none (T.after none calls) c).raised = none
  state : T.after (some (T.logTransition hostTag)) (calls ++ [c]) = T.after none (calls ++ [c])
  closes : ∀ tenant ∈ T.tenants, c = .tick tenant →
    (T.step (some (T.logTransition hostTag))
      (T.after (some (T.logTransition hostTag)) calls) c).raised = none ∧
    ∀ e, ((T.after (some (T.logTransition hostTag)) (calls ++ [c])).evs tenant e).buckets
      = appendMax T.win ((T.after (some (T.logTransition hostTag)) calls).evs tenant e).buckets
          ((T.after (some (T.logTransition hostTag)) calls).evs tenant e).bucket

/-- A quiet tick goes the same way whatever the callback, and returns. -/
theorem tick_quiet {t : String} {s : Store T} (hmem : t ∈ T.tenants)
    (h : T.Quiet s (.tick t)) (cb cb' : Option (TransitionCb T)) :
    (T.tick cb t s).raised = none ∧ (T.tick cb t s).state = (T.tick cb' t s).state := by
  have hall := fun cb => turns_still cb (h hmem) T.cells [] (List.append_nil _)
  rw [tick_eq cb hmem, tick_eq cb' hmem]
  exact ⟨(hall cb).1, turns_state_eq (hall cb).1 (hall cb').1⟩

/-- A quiet tick closes one bucket of every EV. -/
theorem buckets_tick_quiet {t : String} {s : Store T} (hmem : t ∈ T.tenants)
    (h : T.Quiet s (.tick t)) (cb : Option (TransitionCb T)) (e : T.EV) :
    ((T.tick cb t s).state.evs t e).buckets
      = appendMax T.win (s.evs t e).buckets (s.evs t e).bucket := by
  have hup : (T.upTo cb t e s).raised = none :=
    (turns_still cb (h hmem) (T.before e) (e :: T.behind e) (cells_eq e).symm).1
  rw [tick_evs cb hmem, if_pos hup, (judge_window ..).2]
  rfl

/-- A quiet loss window goes the same way whatever the callback. -/
theorem lossWindow_quiet {t : String} {plane path seen expected : Int} {s : Store T}
    (h : T.Quiet s (.lossWindow t plane path seen expected)) (cb cb' : Option (TransitionCb T)) :
    T.recordLossWindow cb t plane path seen expected s
      = T.recordLossWindow cb' t plane path seen expected s := by
  rcases recordLossWindow_cases t plane path seen expected s with
    ⟨e, hN, hseen, hexp, heq⟩ | ⟨-, raised, heq⟩
  · rw [heq, heq]
    have hstate : (T.lossJudge (T.room t e s) (s.ticks t) (lossRatio seen expected)
        (s.evs t e)).state = (s.evs t e).state := by
      have hj := lossJudged (T := T) (T.room t e s) (s.ticks t) (lossRatio seen expected)
        (s.evs t e)
      generalize T.lossJudge _ _ _ _ = r' at hj ⊢
      cases hj with
      | demoted habove hfull hroom =>
        -- the one way that moves the EV is the one a quiet window excludes
        rw [h e hN hseen hexp habove hfull] at hroom
        cases hroom
      | suppressed _ _ _ => rfl
      | counted _ _ => rfl
      | cleared _ _ => rfl
      | kept _ _ => rfl
    dsimp only
    rw [hstate, notify_self, notify_self]
  · rw [heq, heq]

theorem unaffected_of_quiet {hostTag : String} {calls : List Call} {c : Call}
    (hsame : T.after (some (T.logTransition hostTag)) calls = T.after none calls)
    (h : T.Quiet (T.after none calls) c) : T.Unaffected hostTag calls c := by
  set log := some (T.logTransition hostTag) with hlog
  have hsnoc := after_snoc log calls c
  have hsnoc' := after_snoc (none : Option (TransitionCb T)) calls c
  rw [hsame] at hsnoc
  cases c with
  | probeSent t plane path =>
    exact ⟨by rw [hsame]; rfl, hsnoc.trans hsnoc'.symm, fun _ _ hc => by cases hc⟩
  | probeRecv t plane path =>
    exact ⟨by rw [hsame]; rfl, hsnoc.trans hsnoc'.symm, fun _ _ hc => by cases hc⟩
  | tick t =>
    by_cases hmem : t ∈ T.tenants
    · obtain ⟨hret, hstate⟩ := tick_quiet hmem h log none
      have hret' := (tick_quiet hmem h none none).1
      refine ⟨?_, ?_, ?_⟩
      · rw [hsame]
        exact iff_of_true hret hret'
      · rw [hsnoc, hsnoc']
        exact hstate
      · intro t' _ hc
        obtain rfl : t = t' := Call.tick.inj hc
        rw [hsame, hsnoc]
        exact ⟨hret, buckets_tick_quiet hmem h log⟩
    · have hraise : ∀ cb, T.step cb (T.after none calls) (.tick t)
          = .raise (.unknownTenant t T.tenants) (T.after none calls) := by
        intro cb
        show T.tick cb t _ = _
        unfold tick checkTenant
        rw [if_neg hmem]
      refine ⟨by rw [hsame, hraise, hraise], ?_, ?_⟩
      · rw [hsnoc, hsnoc', hraise, hraise]
      · intro t' hmem' hc
        exact absurd (Call.tick.inj hc ▸ hmem') hmem
  | lossWindow t plane path seen expected =>
    have hstep : T.step log (T.after none calls) (.lossWindow t plane path seen expected)
        = T.step none (T.after none calls) (.lossWindow t plane path seen expected) :=
      lossWindow_quiet h log none
    exact ⟨by rw [hsame, hstep], by rw [hsnoc, hsnoc', hstep], fun _ _ hc => by cases hc⟩

theorem quiet_of_unaffected {hostTag : String} {calls : List Call} {c : Call}
    (hsame : T.after (some (T.logTransition hostTag)) calls = T.after none calls)
    (h : T.Unaffected hostTag calls c) : T.Quiet (T.after none calls) c := by
  cases c with
  | probeSent t plane path => trivial
  | probeRecv t plane path => trivial
  | tick t =>
    intro hmem
    have hret := (h.closes t hmem rfl).1
    rw [hsame] at hret
    have hret' : (T.tick (some (T.logTransition hostTag)) t (T.after none calls)).raised = none :=
      hret
    rw [tick_eq _ hmem] at hret'
    exact still_of_tick hret'
  | lossWindow t plane path seen expected =>
    intro e hN hseen hexp habove hfull
    rcases recordLossWindow_cases t plane path seen expected (T.after none calls) with
      ⟨e', hN', -, -, heq⟩ | ⟨hno, -, -⟩
    · obtain ⟨-, rfl⟩ := hN.unique hN'
      have hplain : (T.step none (T.after none calls)
          (.lossWindow t plane path seen expected)).raised = none := by
        show (T.recordLossWindow none t plane path seen expected _).raised = none
        rw [heq]
        dsimp only
        rw [notify_none]
      have hlogged := h.returns.mpr hplain
      rw [hsame] at hlogged
      have hlogged' : (T.recordLossWindow (some (T.logTransition hostTag)) t plane path seen
          expected (T.after none calls)).raised = none := hlogged
      rw [heq] at hlogged'
      have hstate := notify_logTransition hlogged'
      -- with room the window would demote, and the log raise
      cases hroom : T.room t e (T.after none calls) with
      | false => rfl
      | true =>
        rw [lossJudge, if_pos habove, if_pos hfull, hroom] at hstate
        exact absurd hstate hfull.1
    · exact absurd ⟨hN, hseen, hexp⟩ (hno t e)

/-- Turning on the transition log leaves a run as it was exactly if no call of the run moves an EV
    (or raises in its evaluation). -/
theorem unaffected_iff_quiet (T : EVStateTable) (hostTag : String) (calls : List Call) :
    (∀ p c, p ++ [c] <+: calls → T.Unaffected hostTag p c)
      ↔ ∀ p c, p ++ [c] <+: calls → T.Quiet (T.after none p) c := by
  constructor
  · intro h p c hp
    -- the call before `c` was unaffected, so both runs meet `c` in the same table
    refine quiet_of_unaffected ?_ (h p c hp)
    rcases List.eq_nil_or_concat p with rfl | ⟨q, d, rfl⟩
    · rfl
    · rw [List.concat_eq_append] at hp ⊢
      exact (h q d ((List.prefix_append _ _).trans hp)).state
  · intro h p
    induction p using List.reverseRecOn with
    | nil => exact fun c hp => unaffected_of_quiet rfl (h [] c hp)
    | append_singleton q d ih =>
      intro c hp
      have hq := ih d ((List.prefix_append _ _).trans hp)
      exact unaffected_of_quiet hq.state (h _ c hp)

/-- Three lost probes and a tick, with the log on: the tick that demotes (0, 0) raises, and the
    buckets of the EVs after it are not closed. -/
theorem log_breaks_tick :
    let T := threePaths {} (by decide)
    let log : Option (TransitionCb T) := some (T.logTransition "green-host00")
    let calls : List Call :=
      [.probeSent "green" 0 0, .probeSent "green" 0 0, .probeSent "green" 0 0]
    ¬ T.Unaffected "green-host00" calls (.tick "green") ∧
    (T.step log (T.after log calls) (.tick "green")).raised
      = some (.keyError "consecutive_probe_timeouts") ∧
    (T.step none (T.after none calls) (.tick "green")).raised = none ∧
    ((T.after log (calls ++ [.tick "green"])).evs "green" (onPath 1)).buckets = [] ∧
    ((T.after none (calls ++ [.tick "green"])).evs "green" (onPath 1)).buckets = [(0, 0)] := by
  intro T log calls
  have hraised : (T.step log (T.after log calls) (.tick "green")).raised
      = some (.keyError "consecutive_probe_timeouts") := by decide +kernel
  refine ⟨?_, hraised, by decide +kernel, by decide +kernel, by decide +kernel⟩
  intro h
  have hret := (h.closes "green" (List.mem_singleton_self _) rfl).1
  rw [hraised] at hret
  nomatch hret

end Srv6Mrc.EVStateTable
