/-
  A repaired path comes back.

  Three mechanisms meet here.  The recovery gate waits for a loss streak of zero, a quarantined EV
  carries no data whose clean arrival could clear that streak, and a report still says something
  about every EV its paired window has packets on.  While the paired windows have none on the EV,
  no report reaches it (`report_unsent`), so a streak of zero stays zero; and once the probe window
  has no bucket left from before, every tick is one step towards the end of the hold
  (`Recovering`).
-/
import Srv6Mrc.EvState.Recovery
import Srv6Mrc.Loss.Run

namespace Srv6Mrc.EVStateTable

open SlidingWindow

variable {T : EVStateTable}

variable (T) in
/-- The longest hold a recovery can ask for; a single healthy window is needed in any case. -/
def longestHold : Int :=
  max 1 (T.cfg.probeRecoverTicks * 2 ^ T.cfg.lossBackoffMaxLevel.toNat)

variable (T) in
/-- What a sender does about an EV it does not spray: no call is a loss window of the EV, and no
    report pairs with a window that has packets on it. -/
def Unsprayed (tenant : String) (e : T.EV) : T.Op → Prop
  | .call c => ∀ ratio, T.signal tenant e c ≠ .loss ratio
  | .report t _ sentRing receivedAtNs maxWindowSkewNs => t = tenant →
    ∀ w, sentRing.findClosest receivedAtNs maxWindowSkewNs = some w → w.sentOn e.1 e.2 = 0

variable (T) in
/-- How far the EV has come `k` ticks after its path was repaired.  The window takes
    `probe_window_ticks` of them to become clean; from then on the EV is GOOD, or its healthy
    windows count the ticks and the hold is not over. -/
def Recovering (k : Nat) (r : EVRecord) : Prop :=
  r.consecutiveLossDemoteWindows = 0 ∧
  (T.win < k → r.state = .good ∨
    k ≤ T.win + r.consecutiveHealthyWindows ∧ (r.consecutiveHealthyWindows : Int) < T.longestHold)

/-! ## Clean windows -/

/-- A window in which enough was sent and all of it came back is healthy. -/
theorem verdict_of_returned (hmin : 1 ≤ T.cfg.probeMinSamples) (hfail : T.cfg.probeFailRatio ≤ 1)
    (hrec : T.cfg.probeRecoverRatio ≤ 1) {r : EVRecord}
    (hsent : T.cfg.probeMinSamples ≤ r.windowSent) (hrecv : r.windowSent ≤ r.windowRecv) :
    T.verdict r = .healthy := by
  have hpos : r.windowSent ≠ 0 := by omega
  have hratio : r.windowRatio = 1 := by
    rw [EVRecord.windowRatio, Nat.min_eq_right hrecv, div_self (by exact_mod_cast hpos)]
  rw [verdict, if_neg hpos, if_neg (not_lt.mpr hsent), hratio, if_neg (not_lt.mpr hfail),
    if_pos hrec]

/-- The probe counts of intervals in which at least as much came back as went out. -/
def allBack : AddSubmonoid (Nat × Nat) where
  carrier := {x | x.1 ≤ x.2}
  zero_mem' := Nat.le_refl 0
  add_mem' := fun ha hb => Nat.add_le_add ha hb

/-- Once `probe_window_ticks` ticks have passed, the window has seen only what came after. -/
theorem window_clean {tenant : String} (hmem : tenant ∈ T.tenants) (hwin : 0 < T.win) {e : T.EV}
    (before : List Call) {since : List Call} (hticks : T.win ≤ tickCount tenant since)
    (hback : ∀ p, p ++ [.tick tenant] <+: since ++ [.tick tenant] →
      (recent 1 (T.probeLog tenant e p)).1 ≤ (recent 1 (T.probeLog tenant e p)).2) :
    let now := recent 1 (T.probeLog tenant e since)
    let window := recent T.win (T.probeLog tenant e (before ++ since))
    now.1 ≤ window.1 ∧ window.1 ≤ window.2 := by
  intro now window
  have hclosed : ∀ rest, none :: rest <:+ T.probeLog tenant e since → recent 1 rest ∈ allBack := by
    intro rest hrest
    obtain ⟨p, hp, rfl⟩ := closed_of_probeLog hrest
    exact hback p (hp.trans (List.prefix_append _ _))
  -- the interval in progress, and closed ones in which everything came back
  obtain ⟨x, hx, hsum⟩ := recent_succ_mem allBack hclosed (T.win - 1)
  rw [Nat.sub_add_cancel hwin] at hsum
  have hwindow : window = now + x := by
    show recent T.win (T.probeLog tenant e (before ++ since)) = _
    rw [probeLog_append, recent_append_of_le (by rw [closings_probeLog hmem]; exact hticks), hsum]
  have hnow : now.1 ≤ now.2 := hback since (List.prefix_refl _)
  have hx' : x.1 ≤ x.2 := hx
  rw [hwindow, Prod.fst_add, Prod.snd_add]
  omega

/-! ## One evaluation -/

/-- No hold is longer than the longest. -/
theorem hold_le (hmax : 0 ≤ T.cfg.lossBackoffMaxLevel) {r : EVRecord}
    (hlevel : 0 ≤ r.lossBackoffLevel ∧ r.lossBackoffLevel ≤ T.cfg.lossBackoffMaxLevel) :
    ∃ n, T.hold r = .ok n ∧ n ≤ T.longestHold := by
  cases hh : T.hold r with
  | error err => exact absurd (hold_error hh).2.1 (not_lt.mpr hlevel.1)
  | ok n =>
    refine ⟨n, rfl, ?_⟩
    obtain ⟨hprobe, hloss⟩ := hold_value hh
    have hpow : ∀ l : Nat, l ≤ T.cfg.lossBackoffMaxLevel.toNat →
        T.cfg.probeRecoverTicks * 2 ^ l ≤ T.longestHold := by
      intro l hl
      rcases le_total 0 T.cfg.probeRecoverTicks with hpos | hneg
      · refine le_max_of_le_right (Int.mul_le_mul_of_nonneg_left ?_ hpos)
        exact_mod_cast Nat.pow_le_pow_right Nat.zero_lt_two hl
      · refine le_max_of_le_left ((Int.mul_nonpos_of_nonpos_of_nonneg hneg ?_).trans Int.one_nonneg)
        positivity
    cases hl : r.lossDemoted with
    | false =>
      rw [hprobe hl]
      simpa using hpow 0 (Nat.zero_le _)
    | true =>
      rw [(hloss hl).2]
      refine hpow _ ?_
      omega

/-- A healthy evaluation brings the EV one tick further. -/
theorem Recovering.healthy (hmax : 0 ≤ T.cfg.lossBackoffMaxLevel) {k : Nat} {r : EVRecord}
    (hr : T.Recovering k r) (hk : T.win ≤ k) (hv : T.verdict r = .healthy)
    (hlevel : 0 ≤ r.lossBackoffLevel ∧ r.lossBackoffLevel ≤ T.cfg.lossBackoffMaxLevel)
    (room : Bool) (now : Nat) : T.Recovering (k + 1) (T.judge room now r) := by
  obtain ⟨hstreak, hway⟩ := hr
  have hj := judged (T := T) room now r
  generalize T.judge room now r = r' at hj ⊢
  cases hj with
  | silent h => rw [hv] at h; nomatch h
  | held h =>
    rcases h with h | h | ⟨h, -⟩
    · rw [hv] at h; nomatch h
    · rw [hv] at h; nomatch h
    · rw [hv] at h; nomatch h
  | demoted h _ _ => rw [hv] at h; nomatch h
  | suppressed h _ _ => rw [hv] at h; nomatch h
  | promoted _ _ => exact ⟨hstreak, fun _ => Or.inl rfl⟩
  | counted _ hgo =>
    refine ⟨hstreak, fun _ => ?_⟩
    by_cases hgood : r.state = .good
    · exact Or.inl hgood
    · -- the gate is shut only because the hold is not over
      obtain ⟨n, hhold, hn⟩ := hold_le hmax hlevel
      have hgate : ¬ (r.state ≠ .good ∧ r.consecutiveLossDemoteWindows = 0
          ∧ n ≤ (r.consecutiveHealthyWindows + 1 : Nat)) := by
        have hhold' : T.hold (r.noted (r.consecutiveHealthyWindows + 1)) = .ok n := hhold
        rw [recovers, hhold'] at hgo
        exact of_decide_eq_false hgo
      have hshort : ((r.consecutiveHealthyWindows + 1 : Nat) : Int) < n :=
        not_le.mp fun h => hgate ⟨hgood, hstreak, h⟩
      refine Or.inr ⟨?_, lt_of_lt_of_le hshort hn⟩
      show k + 1 ≤ T.win + (r.consecutiveHealthyWindows + 1)
      -- the first clean tick starts the count
      rcases Nat.lt_or_eq_of_le hk with hlt | heq
      · rcases hway hlt with h | ⟨h, -⟩
        · exact absurd h hgood
        · omega
      · omega

/-- Any evaluation leaves a streak of zero alone. -/
theorem Recovering.waiting {k : Nat} {r : EVRecord} (hr : T.Recovering k r) (hk : k < T.win)
    (room : Bool) (now : Nat) : T.Recovering (k + 1) (T.judge room now r) := by
  refine ⟨?_, fun h => absurd h (by omega)⟩
  rw [judge_streak]
  split
  · rfl
  · exact hr.1

/-! ## The whole wait -/

/-- An operation on the way that is not a tick of the tenant. -/
theorem recovering_other (cb : Option (TransitionCb T)) {tenant : String} {e : T.EV}
    {op : T.Op} (hop : T.Unsprayed tenant e op)
    (htick : ∀ c, op = .call c → T.signal tenant e c ≠ .close) {k : Nat} {f : Fused T}
    (hr : T.Recovering k (f.table.evs tenant e)) :
    T.Recovering k ((T.opStep cb f op).table.evs tenant e) := by
  cases op with
  | call c =>
    show T.Recovering k ((T.step cb f.table c).state.evs tenant e)
    rw [step_evs]
    cases hsig : T.signal tenant e c with
    | sent => exact hr
    | recv => exact hr
    | quiet => exact hr
    | close => exact absurd hsig (htick c rfl)
    | loss ratio => exact absurd hsig (hop ratio)
  | report t report sentRing receivedAtNs maxWindowSkewNs =>
    by_cases ht : t = tenant
    · subst ht
      rwa [report_unsent cb report (hop rfl)]
    · rwa [report_other cb (Ne.symm ht)]

section Run

variable {cb : Option (TransitionCb T)} (hcb : Returns cb) (hmin : 1 ≤ T.cfg.probeMinSamples)
  (hfail : T.cfg.probeFailRatio ≤ 1) (hrec : T.cfg.probeRecoverRatio ≤ 1)
  (hmax : 0 ≤ T.cfg.lossBackoffMaxLevel)

include hcb hmin hfail hrec hmax

/-- A tick on the way. -/
theorem recovering_tick (hwin : 0 < T.win) {tenant : String} (hmem : tenant ∈ T.tenants)
    {e : T.EV} {stats : LossFusionStats} {before since : List T.Op}
    (hr : T.Recovering (tickCount tenant (ownCalls since))
      ((T.opsFrom cb ⟨T.fresh, stats⟩ (before ++ since)).table.evs tenant e))
    (hprobes : ∀ p, p ++ [.tick tenant] <+: ownCalls since ++ [.tick tenant] →
      T.cfg.probeMinSamples ≤ (recent 1 (T.probeLog tenant e p)).1 ∧
      (recent 1 (T.probeLog tenant e p)).1 ≤ (recent 1 (T.probeLog tenant e p)).2) :
    T.Recovering (tickCount tenant (ownCalls since) + 1)
      ((T.opsFrom cb ⟨T.fresh, stats⟩
        (before ++ since ++ [.call (.tick tenant)])).table.evs tenant e) := by
  set s := (T.opsFrom cb ⟨T.fresh, stats⟩ (before ++ since)).table with hs
  have hlevels := (level_recordInv hmax).afterOps cb stats (before ++ since)
  have hret : (T.upTo cb tenant e s).raised = none :=
    turns_return hcb hmax _ (hlevels tenant)
  have hr' : T.Recovering (tickCount tenant (ownCalls since)) (T.rotate (s.evs tenant e)) := hr
  rw [opsFrom_snoc]
  show T.Recovering _ ((T.step cb s (.tick tenant)).state.evs tenant e)
  rw [step_evs, signal_close.mpr ⟨rfl, hmem⟩, afterSignal, if_pos hret]
  rcases Nat.lt_or_ge (tickCount tenant (ownCalls since)) T.win with hk | hk
  · exact hr'.waiting hk _ _
  · refine hr'.healthy hmax hk ?_ (hlevels tenant e) _ _
    have hback := fun p hp => (hprobes p hp).2
    obtain ⟨hnow, hall⟩ := window_clean hmem hwin (ownCalls before) hk hback
    have htracks := tracks_afterOps hcb hmax tenant e stats (before ++ since)
    obtain ⟨hsent, hrecv⟩ := rotate_window htracks
    rw [ownCalls_append] at hsent hrecv
    have henough := (hprobes (ownCalls since) (List.prefix_refl _)).1
    refine verdict_of_returned hmin hfail hrec ?_ ?_
    · rw [hsent]
      omega
    · rw [hsent, hrecv]
      exact hall

/-- The wait, tick by tick. -/
theorem recovering_run (hwin : 0 < T.win) {tenant : String} (hmem : tenant ∈ T.tenants) {e : T.EV}
    {stats : LossFusionStats} {before since : List T.Op}
    (hstreak : ((T.opsFrom cb ⟨T.fresh, stats⟩ before).table.evs tenant
      e).consecutiveLossDemoteWindows = 0)
    (hloss : ∀ op ∈ since, T.Unsprayed tenant e op)
    (hprobes : ∀ p, p ++ [.tick tenant] <+: ownCalls since →
      T.cfg.probeMinSamples ≤ (recent 1 (T.probeLog tenant e p)).1 ∧
      (recent 1 (T.probeLog tenant e p)).1 ≤ (recent 1 (T.probeLog tenant e p)).2) :
    T.Recovering (tickCount tenant (ownCalls since))
      ((T.opsFrom cb ⟨T.fresh, stats⟩ (before ++ since)).table.evs tenant e) := by
  induction since using List.reverseRecOn with
  | nil =>
    rw [List.append_nil]
    exact ⟨hstreak, fun h => absurd h (Nat.not_lt_zero _)⟩
  | append_singleton since op ih =>
    have hop := hloss op (List.mem_append_right _ (List.mem_singleton_self op))
    have hr := ih (fun op' hop' => hloss op' (List.mem_append_left _ hop')) fun p hp =>
      hprobes p (by rw [ownCalls_append]; exact hp.trans (List.prefix_append _ _))
    rw [← List.append_assoc]
    by_cases htick : op = .call (.tick tenant)
    · subst htick
      rw [ownCalls_call] at hprobes ⊢
      rw [tickCount_append, show tickCount tenant [.tick tenant] = 1 by simp [tickCount]]
      exact recovering_tick hcb hmin hfail hrec hmax hwin hmem hr hprobes
    · have hcount : tickCount tenant (ownCalls (since ++ [op]))
          = tickCount tenant (ownCalls since) := by
        cases op with
        | call c =>
          have hne : c ≠ .tick tenant := fun h => htick (h ▸ rfl)
          rw [ownCalls_call, tickCount_append]
          simp [tickCount, hne]
        | report => rw [ownCalls_report]
      rw [hcount, opsFrom_snoc]
      refine recovering_other cb hop (fun c hc hsig => htick ?_) hr
      rw [hc, (signal_close.mp hsig).1]

end Run

/-- A repaired path comes back.  From any reachable state in which the loss streak of an EV is
    zero, if from then on no loss signal reaches the EV and the probes of every interval are enough
    and all come back in it, the EV is GOOD after `probe_window_ticks` ticks and the longest hold,
    and at every later point. -/
theorem repaired_recovers (T : EVStateTable) (cb : Option (TransitionCb T)) (hcb : Returns cb)
    (hwin : 1 ≤ T.cfg.probeWindowTicks) (hmin : 1 ≤ T.cfg.probeMinSamples)
    (hfail : T.cfg.probeFailRatio ≤ 1) (hrec : T.cfg.probeRecoverRatio ≤ 1)
    (hmax : 0 ≤ T.cfg.lossBackoffMaxLevel) (tenant : String) (hmem : tenant ∈ T.tenants) (e : T.EV)
    (stats : LossFusionStats) (before since : List T.Op)
    (hstreak : ((T.opsFrom cb ⟨T.fresh, stats⟩ before).table.evs tenant
      e).consecutiveLossDemoteWindows = 0)
    (hloss : ∀ op ∈ since, T.Unsprayed tenant e op)
    (hprobes : ∀ p, p ++ [.tick tenant] <+: ownCalls since →
      T.cfg.probeMinSamples ≤ (recent 1 (T.probeLog tenant e p)).1 ∧
      (recent 1 (T.probeLog tenant e p)).1 ≤ (recent 1 (T.probeLog tenant e p)).2)
    (hticks : T.cfg.probeWindowTicks
        + max 1 (T.cfg.probeRecoverTicks * 2 ^ T.cfg.lossBackoffMaxLevel.toNat)
      ≤ tickCount tenant (ownCalls since)) :
    ((T.opsFrom cb ⟨T.fresh, stats⟩ (before ++ since)).table.evs tenant e).state = .good := by
  have hwidth : (T.win : Int) = T.cfg.probeWindowTicks := Int.toNat_of_nonneg (by omega)
  obtain ⟨-, hway⟩ := recovering_run hcb hmin hfail hrec hmax (by omega) hmem hstreak hloss hprobes
  have hhold : T.longestHold
      = max 1 (T.cfg.probeRecoverTicks * 2 ^ T.cfg.lossBackoffMaxLevel.toNat) := rfl
  have hone : 1 ≤ T.longestHold := le_max_left _ _
  rw [← hhold] at hticks
  rcases hway (by omega) with hgood | ⟨hk, hshort⟩
  · exact hgood
  · omega

/-- Windows of one interval, single-sample decisions, and no backoff. -/
def quick : EVStateConfig :=
  { probeWindowTicks := 1, probeMinSamples := 1, probeRecoverTicks := 1, lossDemoteConsecutive := 1,
    lossBackoffMaxLevel := 0 }

/-- A report of one packet from (0, 1) and four from each of the other two. -/
def oneFromMiddle (T : EVStateTable) (sentRing : SentWindowRing T.numPlanes T.numPaths) : T.Op :=
  .report "green" ⟨0, [⟨0, 0, 4, 4, 0, 0⟩, ⟨0, 1, 1, 4, 0, 0⟩, ⟨0, 2, 4, 4, 0, 0⟩]⟩ sentRing 5 0

/-- A probe on (0, 1) that returns, and a tick. -/
def roundTrip : List Call := [.probeSent "green" 0 1, .probeRecv "green" 0 1, .tick "green"]

/-- At work: a loss-driven demotion of (0, 1), and a straggler whose paired window has nothing on
    it; two ticks later it is back. -/
theorem repaired_recovers_threePaths :
    let T := threePaths quick (by decide)
    let before := [oneFromMiddle T (oneWindow [4, 4, 4] rfl)]
    let since := oneFromMiddle T (oneWindow [4, 0, 4] rfl) :: (roundTrip ++ roundTrip).map .call
    ((T.opsFrom none ⟨T.fresh, {}⟩ (before ++ since)).table.evs "green" (onPath 1)).state
      = .good := by
  intro T before since
  refine repaired_recovers T none returns_none (by decide) (by decide) (by decide +kernel)
    (by decide +kernel) (by decide) "green" (List.mem_singleton_self _) (onPath 1) {} _ _
    (by decide +kernel) ?_ (of_prefix_concat (by decide +kernel)) (by decide +kernel)
  intro op hop
  rcases List.mem_cons.mp hop with rfl | hcall
  · intro _ w hw
    have hpaired : (oneWindow [4, 0, 4] rfl).findClosest 5 0 = some ⟨0, 10, [[4, 0, 4]], 0⟩ := by
      decide
    obtain rfl := Option.some.inj (hpaired.symm.trans hw)
    decide
  · obtain ⟨c, hc, rfl⟩ := List.mem_map.mp hcall
    intro ratio hsig
    obtain ⟨t, plane, path, seen, expected, rfl⟩ := signal_loss hsig
    simp [roundTrip] at hc

/-- Where (0, 1) stays ASSUMED_BAD past the bound.  A straggler counted after the demotion keeps
    the gate shut; no window is healthy if even a perfect one is failing; the first window, with a
    probe from before in it, is one too many for a wait of zero; and a callback that raises, at
    (0, 0), keeps ticks from reaching (0, 1). -/
theorem repaired_stays_bad :
    (let T := threePaths quick (by decide)
     let report := oneFromMiddle T (oneWindow [4, 4, 4] rfl)
     let state := fun ops => ((T.opsFrom none ⟨T.fresh, {}⟩ ops).table.evs "green" (onPath 1)).state
     state [report, report] = .assumedBad ∧
       state ([report, report] ++ (roundTrip ++ roundTrip).map .call) = .assumedBad) ∧
    (let T := threePaths { quick with probeFailRatio := 2 } (by decide)
     let report := oneFromMiddle T (oneWindow [4, 4, 4] rfl)
     let state := fun ops => ((T.opsFrom none ⟨T.fresh, {}⟩ ops).table.evs "green" (onPath 1)).state
     state [report] = .assumedBad ∧
       state ([report] ++ (roundTrip ++ roundTrip).map .call) = .assumedBad) ∧
    (let T := threePaths { quick with probeRecoverTicks := 0 } (by decide)
     let report := oneFromMiddle T (oneWindow [4, 4, 4] rfl)
     let state := fun ops => ((T.opsFrom none ⟨T.fresh, {}⟩ ops).table.evs "green" (onPath 1)).state
     state [report, .call (.probeSent "green" 0 1)] = .assumedBad ∧
       state ([report, .call (.probeSent "green" 0 1)] ++ roundTrip.map .call) = .assumedBad) ∧
    (let T := threePaths quick (by decide)
     let cb : Option (TransitionCb T) :=
       some fun _ _ _ _ _ => some (.keyError "consecutive_probe_timeouts")
     let report := oneFromMiddle T (oneWindow [4, 4, 4] rfl)
     let state := fun ops => ((T.opsFrom cb ⟨T.fresh, {}⟩ ops).table.evs "green" (onPath 1)).state
     state [report] = .assumedBad ∧
       state ([report] ++ (Call.probeSent "green" 0 0 :: roundTrip
         ++ Call.probeSent "green" 0 0 :: .probeRecv "green" 0 0 :: roundTrip).map .call)
        = .assumedBad) := by
  decide +kernel

end Srv6Mrc.EVStateTable
