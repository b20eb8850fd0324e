/-
  A dead path is always detected.

  From any reachable state, once a path has been silent for a whole window of intervals with enough
  probes sent, every tick finds it failing.  The window is exact from then on — earlier returns
  have fallen off — and so each tick either finds the EV in ASSUMED_BAD, puts it there, or is
  stopped by the floor and counts that.
-/
import Srv6Mrc.EvState.Demotion

namespace Srv6Mrc.EVStateTable

open SlidingWindow

variable {T : EVStateTable}

/-- An ASSUMED_BAD EV is not among the usable ones: the others are all there are. -/
theorem usable_of_bad {tenant : String} {e : T.EV} {s : Store T}
    (h : (s.evs tenant e).state = .assumedBad) :
    T.usable tenant s = T.usableAfter tenant e s := by
  unfold usable usableAfter
  refine List.countP_congr fun c _ => ?_
  by_cases hc : c = e
  · subst hc
    simp [h]
  · simp [hc]

/-- When `e`'s turn comes, the floor holds for the grid it sees. -/
theorem floor_upTo (cb : Option (TransitionCb T)) (calls : List Call) (tenant : String) (e : T.EV) :
    Floor (T.upTo cb tenant e (T.after cb calls)).state :=
  (floor_writeInv tenant).turns cb (T.before e)
    ((floor_writeInv tenant).bump _ (floor_after cb calls))

/-- An EV without room to be demoted is still usable. -/
theorem not_bad_of_no_room (cb : Option (TransitionCb T)) {calls : List Call} {tenant : String}
    {e : T.EV}
    (h : T.usableAfter tenant e (T.upTo cb tenant e (T.after cb calls)).state < T.minActive) :
    ((T.after cb calls).evs tenant e).state ≠ .assumedBad := by
  intro hbad
  rw [← upTo_evs cb] at hbad
  have hfloor := floor_upTo cb calls tenant e tenant
  rw [usable_of_bad hbad] at hfloor
  omega

variable (T) in
/-- The tick after the run `calls` deals with the EV: it leaves it ASSUMED_BAD if, at its turn,
    `min_active` other EVs are usable, else it counts one more suppressed demotion. -/
def DealtWith (cb : Option (TransitionCb T)) (tenant : String) (e : T.EV) (calls : List Call) :
    Prop :=
  let atTurn := (T.upTo cb tenant e (T.after cb calls)).state
  let r := (T.after cb calls).evs tenant e
  let r' := (T.after cb (calls ++ [.tick tenant])).evs tenant e
  (T.minActive ≤ T.usableAfter tenant e atTurn → r'.state = .assumedBad) ∧
  (T.usableAfter tenant e atTurn < T.minActive →
    r'.demotesSuppressedByFloor = r.demotesSuppressedByFloor + 1)

/-- A failing evaluation deals with the EV. -/
theorem dealtWith_of_failing {cb : Option (TransitionCb T)} (hcb : Returns cb)
    (hmax : 0 ≤ T.cfg.lossBackoffMaxLevel) {tenant : String} (hmem : tenant ∈ T.tenants) {e : T.EV}
    {calls : List Call} (h : T.verdict (T.rotate ((T.after cb calls).evs tenant e)) = .failing) :
    T.DealtWith cb tenant e calls := by
  unfold DealtWith
  dsimp only
  rw [after_tick hcb hmax calls hmem e]
  have hj := judged (T := T) (T.room tenant e (T.upTo cb tenant e (T.after cb calls)).state)
    ((T.after cb calls).ticks tenant + 1) (T.rotate ((T.after cb calls).evs tenant e))
  generalize T.judge _ _ _ = r' at hj ⊢
  cases hj with
  | silent hv => rw [hv] at h; nomatch h
  | held hv =>
    rcases hv with hv | hv | ⟨-, hbad⟩
    · rw [hv] at h; nomatch h
    · rw [hv] at h; nomatch h
    · -- the floor cannot stop what is done already
      exact ⟨fun _ => hbad, fun hno => absurd hbad (not_bad_of_no_room cb hno)⟩
  | demoted _ _ hroom =>
    exact ⟨fun _ => rfl, fun hno => absurd (of_decide_eq_true hroom) (not_le.mpr hno)⟩
  | suppressed _ _ hroom =>
    exact ⟨fun hyes => absurd hyes (of_decide_eq_false hroom), fun _ => rfl⟩
  | promoted hv _ => rw [hv] at h; nomatch h
  | counted hv _ => rw [hv] at h; nomatch h

/-- Over a stretch of intervals that begins at a tick (or with the run), the window of each tick
    that closes `probe_window_ticks` of them lies in the stretch. -/
theorem rotate_stretch {cb : Option (TransitionCb T)} (hcb : Returns cb)
    (hmax : 0 ≤ T.cfg.lossBackoffMaxLevel) {tenant : String} (hmem : tenant ∈ T.tenants) (e : T.EV)
    {pre q : List Call} (hpre : pre = [] ∨ ∃ p, pre = p ++ [.tick tenant])
    (hq : T.win ≤ tickCount tenant q + 1) :
    let r := T.rotate ((T.after cb (pre ++ q)).evs tenant e)
    r.windowSent = (recent T.win (T.probeLog tenant e q)).1
      ∧ r.windowRecv = (recent T.win (T.probeLog tenant e q)).2 := by
  have hlog : recent T.win (T.probeLog tenant e (pre ++ q))
      = recent T.win (T.probeLog tenant e q) := by
    rw [probeLog_append]
    refine recent_append (by rw [closings_probeLog hmem]; exact hq) ?_
    rcases hpre with rfl | ⟨p, rfl⟩
    · exact Or.inl rfl
    · exact Or.inr ⟨_, probeLog_tick hmem e p⟩
  have hwin := rotate_window (tracks_after hcb hmax tenant e (pre ++ q))
  rwa [hlog] at hwin

/-- Without returns in the run, none are in the window. -/
theorem recent_recv_zero {tenant : String} {e : T.EV} {q : List Call}
    (h : T.recvCount tenant e q = 0) (n : Nat) : (recent n (T.probeLog tenant e q)).2 = 0 := by
  refine map_recent_eq_zero (AddMonoidHom.snd Nat Nat) ?_ n
  intro m hm
  rw [probeLog, List.mem_reverse, List.mem_map] at hm
  obtain ⟨c, hc, hamount⟩ := hm
  have hne : ¬ T.signal tenant e c = .recv := by
    have hall := List.countP_eq_zero.mp h c hc
    simpa using hall
  cases hsig : T.signal tenant e c with
  | recv => exact absurd hsig hne
  | sent => rw [hsig] at hamount; cases hamount; rfl
  | close => rw [hsig] at hamount; cases hamount
  | loss ratio => rw [hsig] at hamount; cases hamount; rfl
  | quiet => rw [hsig] at hamount; cases hamount; rfl

/-- A dead path is always detected.  From any reachable state, over a stretch of intervals in which
    nothing comes back on the EV while enough probes are sent in every `probe_window_ticks` of
    them, each tick that closes at least that many deals with the EV. -/
theorem dead_path_detected (T : EVStateTable) (cb : Option (TransitionCb T)) (hcb : Returns cb)
    (hfail : 0 < T.cfg.probeFailRatio) (hmax : 0 ≤ T.cfg.lossBackoffMaxLevel) (tenant : String)
    (hmem : tenant ∈ T.tenants) (e : T.EV) (pre stretch : List Call)
    (hpre : pre = [] ∨ ∃ p, pre = p ++ [.tick tenant]) (hrecv : T.recvCount tenant e stretch = 0)
    (hsent : ∀ q, q ++ [.tick tenant] <+: stretch → T.win ≤ tickCount tenant q + 1 →
      max 1 T.cfg.probeMinSamples ≤ (recent T.win (T.probeLog tenant e q)).1) :
    ∀ q, q ++ [.tick tenant] <+: stretch → T.win ≤ tickCount tenant q + 1 →
      T.DealtWith cb tenant e (pre ++ q) := by
  intro q hq hticks
  obtain ⟨hS, hR⟩ := rotate_stretch hcb hmax hmem e hpre hticks
  have henough := hsent q hq hticks
  have hnone : T.recvCount tenant e q = 0 := by
    obtain ⟨rest, rfl⟩ := hq
    rw [recvCount, List.append_assoc, List.countP_append] at hrecv
    exact Nat.eq_zero_of_add_eq_zero_right hrecv
  refine dealtWith_of_failing hcb hmax hmem (verdict_failing.mpr ⟨?_, ?_, ?_⟩)
  · rw [hS]; omega
  · rw [hS]; omega
  · rw [EVRecord.windowRatio, hR, recent_recv_zero hnone, Nat.zero_min, Nat.cast_zero, zero_div]
    exact hfail

/-- At work with a window of one interval, after an interval that went well. -/
theorem dead_path_detected_threePaths :
    (threePaths { probeWindowTicks := 1 } (by decide)).DealtWith none "green" (onPath 1)
      ([.probeSent "green" 0 1, .probeRecv "green" 0 1, .tick "green"]
        ++ [.probeSent "green" 0 1, .probeSent "green" 0 1, .probeSent "green" 0 1]) :=
  dead_path_detected (threePaths { probeWindowTicks := 1 } (by decide)) none returns_none
    (by decide +kernel) (by decide) "green" (List.mem_singleton_self _) (onPath 1)
    [.probeSent "green" 0 1, .probeRecv "green" 0 1, .tick "green"]
    [.probeSent "green" 0 1, .probeSent "green" 0 1, .probeSent "green" 0 1, .tick "green"]
    (Or.inr ⟨[.probeSent "green" 0 1, .probeRecv "green" 0 1], rfl⟩) (by decide)
    (of_prefix_concat (by decide)) _ (List.prefix_refl _) (by decide)

/-- Without returning ticks a dead path can be missed.  In both runs the tick closes an interval in
    which one probe was sent on (0, 1) and none came back, with windows of one interval and one
    sample enough; the turn of (0, 0) raises — for a negative backoff level, or in a callback — and
    (0, 1) is neither demoted nor counted as suppressed, with another EV usable throughout. -/
theorem dead_path_missed :
    (negativeLevelRun.take 4 = negativeLevelRun.take 3 ++ [.tick "green"] ∧
      negativeLevel.recvCount "green" (onPath 1)
        (negativeLevelRun.drop 4 ++ [.probeSent "green" 0 1, .tick "green"]) = 0 ∧
      recent negativeLevel.win (negativeLevel.probeLog "green" (onPath 1)
        (negativeLevelRun.drop 4 ++ [.probeSent "green" 0 1])) = (1, 0) ∧
      ¬ negativeLevel.DealtWith none "green" (onPath 1)
        (negativeLevelRun ++ [.probeSent "green" 0 1])) ∧
    (let T := threePaths { probeWindowTicks := 1, probeMinSamples := 1 } (by decide)
     let cb : Option (TransitionCb T) := some fun _ _ _ _ _ => some (.keyError "")
     T.recvCount "green" (onPath 1)
        [.probeSent "green" 0 0, .probeSent "green" 0 1, .tick "green"] = 0 ∧
      recent T.win (T.probeLog "green" (onPath 1)
        [.probeSent "green" 0 0, .probeSent "green" 0 1]) = (1, 0) ∧
      ¬ T.DealtWith cb "green" (onPath 1) [.probeSent "green" 0 0, .probeSent "green" 0 1]) := by
  refine ⟨⟨by decide, by decide, by decide, ?_⟩,
    ⟨by decide, by decide, ?_⟩⟩
  · unfold DealtWith
    decide +kernel
  · unfold DealtWith
    decide +kernel

end Srv6Mrc.EVStateTable
