/-
  How many EVs can be ASSUMED_BAD at once, and which.

  The floor is about how many EVs are left on the whole grid, not about which ones.  So if the config
  lets a signal demote at all, any EVs can be ASSUMED_BAD together that leave the floor
  (`demote_all`): by loss windows one EV after the other, or by probes on all of them and one tick.
  If it does not, no EV ever is (`never_bad`).
-/
import Srv6Mrc.EvState.Demotion
import Srv6Mrc.EvState.WeightGrid

namespace Srv6Mrc

/-- A signal can demote: a loss ratio can be above the threshold, or a probe ratio below its own. -/
def EVStateConfig.Demotes (cfg : EVStateConfig) : Prop :=
  cfg.lossThreshold < 1 ∨ 0 < cfg.probeFailRatio ∧ 1 ≤ cfg.probeWindowTicks

namespace EVStateTable

variable {T : EVStateTable}

/-! ## No demotion -/

/-- A loss ratio is at most one. -/
theorem signal_loss_le_one {tenant : String} {e : T.EV} {c : Call} {ratio : ℚ}
    (h : T.signal tenant e c = .loss ratio) : ratio ≤ 1 := by
  obtain ⟨t, plane, path, seen, expected, rfl⟩ := signal_loss h
  rw [signal] at h
  split at h
  · rename_i hN
    obtain ⟨-, hseen, hexp⟩ := hN
    have hnum : expected - min seen expected ≤ expected := by omega
    rw [← Signal.loss.inj h, lossRatio, div_le_one (by exact_mod_cast hexp)]
    exact_mod_cast hnum
  · cases h

variable (T) in
/-- Not ASSUMED_BAD, and no more buckets than the window holds. -/
def Spared (r : EVRecord) : Prop := r.state ≠ .assumedBad ∧ r.buckets.length ≤ T.win

/-- A window fails only if it holds a bucket and the ratio can be missed. -/
theorem demotes_of_failing {r : EVRecord} (hlen : r.buckets.length ≤ T.win)
    (h : T.verdict r = .failing) : T.cfg.Demotes := by
  obtain ⟨hsent, -, hratio⟩ := verdict_failing.mp h
  have hnonneg : 0 ≤ r.windowRatio := div_nonneg (Nat.cast_nonneg _) (Nat.cast_nonneg _)
  refine Or.inr ⟨hnonneg.trans_lt hratio, ?_⟩
  have hne : r.buckets ≠ [] := by
    intro hnil
    unfold EVRecord.windowSent at hsent
    rw [hnil] at hsent
    exact absurd hsent (lt_irrefl 0)
  have hpos := List.length_pos_iff.mpr hne
  unfold win at hlen
  omega

/-- Where no signal demotes, a turn spares the EV. -/
theorem spared_turn (hno : ¬ T.cfg.Demotes) {room : Bool} {now : Nat} {r : EVRecord}
    (h : T.Spared r) : T.Spared (T.judge room now (T.rotate r)) := by
  have hlen : (T.rotate r).buckets.length ≤ T.win := length_appendMax_le _ _ _
  refine ⟨fun hbad => ?_, ?_⟩
  · have hstate : (T.rotate r).state ≠ .assumedBad := h.1
    exact hno (demotes_of_failing hlen (judge_bad hstate hbad).1)
  · rw [(judge_window room now _).2]
    exact hlen

/-- So does a loss window, whose ratio is 1 at most. -/
theorem spared_loss (hno : ¬ T.cfg.Demotes) {room : Bool} {now : Nat} {ratio : ℚ} {r : EVRecord}
    (hratio : ratio ≤ 1) (h : T.Spared r) : T.Spared (T.lossJudge room now ratio r) := by
  refine ⟨fun hbad => ?_, ?_⟩
  · exact hno (Or.inl ((lossJudge_bad h.1 hbad).1.trans_le hratio))
  · rw [(lossJudge_window room now ratio r).2]
    exact h.2

theorem spared_step (hno : ¬ T.cfg.Demotes) (cb : Option (TransitionCb T)) {s : Store T}
    (hs : ∀ tenant e, T.Spared (s.evs tenant e)) (c : Call) (tenant : String) (e : T.EV) :
    T.Spared ((T.step cb s c).state.evs tenant e) := by
  rw [step_evs]
  have hr := hs tenant e
  cases hsig : T.signal tenant e c with
  | sent | recv | quiet => exact hr
  | close =>
    show T.Spared (if _ then _ else _)
    split
    · exact spared_turn hno hr
    · exact hr
  | loss ratio => exact spared_loss hno (signal_loss_le_one hsig) hr

theorem spared_turns (hno : ¬ T.cfg.Demotes) (cb : Option (TransitionCb T)) (ticked : String)
    (cs : List T.EV) {s : Store T} (hs : ∀ tenant e, T.Spared (s.evs tenant e)) :
    ∀ tenant e, T.Spared ((Outcome.forEach (T.turn cb ticked) cs s).state.evs tenant e) := by
  refine Outcome.forEach_inv (I := fun s : Store T => ∀ tenant e, T.Spared (s.evs tenant e)) ?_ hs
  intro c _ s' hs' tenant e
  by_cases hec : tenant = ticked ∧ e = c
  · obtain ⟨rfl, rfl⟩ := hec
    rw [turn_state, Store.write_same]
    exact spared_turn hno (hs' tenant e)
  · rw [turn_other cb s' (by by_contra hsame; push Not at hsame; exact hec hsame)]
    exact hs' tenant e

/-- Under a config that never demotes, no EV is ASSUMED_BAD at any point of any run. -/
theorem never_bad (hno : ¬ T.cfg.Demotes) {cb : Option (TransitionCb T)} {calls : List Call}
    {s : Store T} (hs : T.AtPoint cb calls s) (tenant : String) (e : T.EV) :
    (s.evs tenant e).state ≠ .assumedBad := by
  have hafter : ∀ tenant e, T.Spared ((T.after cb calls).evs tenant e) := by
    refine after_inv (I := fun s => ∀ tenant e, T.Spared (s.evs tenant e)) cb (fun tenant e => ?_)
      (fun s c hs => spared_step hno cb hs c) calls
    rw [fresh_evs]
    exact ⟨fun h => (by cases h), Nat.zero_le _⟩
  rcases hs with rfl | ⟨ticked, n, rfl⟩
  · exact (hafter tenant e).1
  · exact (spared_turns hno cb ticked _ (s := (T.after cb calls).bumpTick ticked) hafter tenant e).1

/-! ## One EV after the other -/

theorem after_append (cb : Option (TransitionCb T)) (calls calls' : List Call) :
    T.after cb (calls ++ calls') = T.runFrom cb (T.after cb calls) calls' :=
  List.foldl_append

theorem runFrom_snoc (cb : Option (TransitionCb T)) (s : Store T) (calls : List Call) (c : Call) :
    T.runFrom cb s (calls ++ [c]) = (T.step cb (T.runFrom cb s calls) c).state := by
  unfold runFrom
  rw [List.foldl_concat]

theorem names_self {tenant : String} {e c : T.EV} :
    T.Names tenant c tenant e.1 e.2 ↔ tenant ∈ T.tenants ∧ c = e := by
  constructor
  · rintro ⟨-, hmem, hp, hq⟩
    refine ⟨hmem, Prod.ext (Fin.ext ?_) (Fin.ext ?_)⟩
    · omega
    · omega
  · rintro ⟨hmem, rfl⟩
    exact ⟨rfl, hmem, rfl, rfl⟩

/-- Where the EVs outside are usable, and no fewer than the floor, each one inside has room. -/
theorem room_of_outside {tenant : String} {es : List T.EV} {s : Store T}
    (hroom : T.minActive ≤ (T.cells.countP fun c => c ∉ es : Nat))
    (hout : ∀ c ∉ es, (s.evs tenant c).state ≠ .assumedBad) {e : T.EV} (he : e ∈ es) :
    T.room tenant e s = true := by
  refine decide_eq_true (hroom.trans ?_)
  have hle : T.cells.countP (fun c => c ∉ es) ≤ T.usableAfter tenant e s := by
    refine List.countP_mono_left fun c _ hc => ?_
    have hc : c ∉ es := of_decide_eq_true hc
    exact decide_eq_true ⟨fun heq => hc (heq ▸ he), hout c hc⟩
  exact_mod_cast hle

/-- Room is about the other EVs. -/
theorem room_congr {tenant : String} {e : T.EV} {s s' : Store T}
    (h : ∀ c, c ≠ e → s'.evs tenant c = s.evs tenant c) :
    T.room tenant e s' = T.room tenant e s := by
  have hcount : T.usableAfter tenant e s' = T.usableAfter tenant e s :=
    usableAfter_congr fun c hc => by rw [h c hc]
  unfold room
  rw [hcount]

/-- Calls that reach one fresh EV each, one EV after the other. -/
theorem in_turn {tenant : String} {P : EVRecord → Prop} {f : T.EV → List Call}
    {es : List T.EV} (hnd : es.Nodup)
    (hone : ∀ e ∈ es, ∀ s : Store T, s.evs tenant e = {} → (∀ c ∉ es, s.evs tenant c = {}) →
      P ((T.runFrom none s (f e)).evs tenant e) ∧
        ∀ c ≠ e, (T.runFrom none s (f e)).evs tenant c = s.evs tenant c) :
    (∀ e ∈ es, P ((T.after none (es.flatMap f)).evs tenant e)) ∧
      ∀ c ∉ es, (T.after none (es.flatMap f)).evs tenant c = {} := by
  suffices h : ∀ done : List T.EV, done.Nodup → (∀ e ∈ done, e ∈ es) →
      (∀ e ∈ done, P ((T.after none (done.flatMap f)).evs tenant e)) ∧
        ∀ c ∉ done, (T.after none (done.flatMap f)).evs tenant c = {} from
    h es hnd fun _ he => he
  intro done
  induction done using List.reverseRecOn with
  | nil =>
    intro _ _
    refine ⟨fun e he => absurd he List.not_mem_nil, fun c _ => ?_⟩
    exact congrFun (congrFun fresh_evs tenant) c
  | append_singleton done e ih =>
    intro hnd hsub
    obtain ⟨hdone, -, hdisj⟩ := List.nodup_append.mp hnd
    have hnot : e ∉ done := fun he => hdisj e he e (List.mem_singleton_self e) rfl
    obtain ⟨hP, hfresh⟩ := ih hdone fun c hc => hsub c (List.mem_append_left _ hc)
    have hf : (done ++ [e]).flatMap f = done.flatMap f ++ f e := by
      rw [List.flatMap_append, List.flatMap_singleton]
    rw [hf, after_append]
    have hout : ∀ c ∉ es, (T.after none (done.flatMap f)).evs tenant c = {} :=
      fun c hc => hfresh c fun h => hc (hsub c (List.mem_append_left _ h))
    obtain ⟨hPe, hother⟩ := hone e (hsub e (by simp)) _ (hfresh e hnot) hout
    refine ⟨fun c hc => ?_, fun c hc => ?_⟩
    · rcases List.mem_append.mp hc with hc | hc
      · rw [hother c fun h => hnot (h ▸ hc)]
        exact hP c hc
      · rw [List.mem_singleton.mp hc]
        exact hPe
    · rw [List.mem_append, not_or] at hc
      rw [hother c fun h => hc.2 (List.mem_singleton.mpr h)]
      exact hfresh c hc.1

/-! ## By loss windows -/

/-- A loss window with nothing seen, above the threshold and given room: ASSUMED_BAD, or one more
    in a streak that is too short. -/
theorem lossJudge_one (hthr : T.cfg.lossThreshold < 1) (now : Nat) (r : EVRecord) :
    (T.lossJudge true now 1 r).state = .assumedBad ∨
      r.state ≠ .assumedBad ∧ (T.lossJudge true now 1 r).consecutiveLossDemoteWindows
        = r.consecutiveLossDemoteWindows + 1 ∧
      ((r.consecutiveLossDemoteWindows + 1 : Nat) : Int) < T.cfg.lossDemoteConsecutive := by
  have hj := lossJudged (T := T) true now 1 r
  generalize T.lossJudge true now 1 r = r' at hj ⊢
  cases hj with
  | demoted _ _ _ => exact Or.inl rfl
  | suppressed _ _ hroom => cases hroom
  | counted _ hfull =>
    by_cases hbad : r.state = .assumedBad
    · exact Or.inl hbad
    · exact Or.inr ⟨hbad, rfl, not_le.mp fun hle => hfull ⟨hbad, hle⟩⟩
  | cleared hle _ => exact absurd hthr hle
  | kept hle _ => exact absurd hthr hle

/-- Windows in which nothing arrives, counted. -/
theorem losses {tenant : String} (hmem : tenant ∈ T.tenants) (hthr : T.cfg.lossThreshold < 1)
    {e : T.EV} {s : Store T} (hfresh : s.evs tenant e = {}) (hroom : T.room tenant e s = true)
    (n : Nat) :
    let s' := T.runFrom none s (List.replicate n (.lossWindow tenant e.1 e.2 0 (1 : Nat)))
    (∀ c ≠ e, s'.evs tenant c = s.evs tenant c) ∧
      ((s'.evs tenant e).state = .assumedBad ∨
        (s'.evs tenant e).consecutiveLossDemoteWindows = n ∧
          (n = 0 ∨ (n : Int) < T.cfg.lossDemoteConsecutive)) := by
  induction n with
  | zero =>
    refine ⟨fun c _ => rfl, Or.inr ⟨?_, Or.inl rfl⟩⟩
    show (s.evs tenant e).consecutiveLossDemoteWindows = 0
    rw [hfresh]
  | succ n ih =>
    rw [List.replicate_succ', runFrom_snoc]
    generalize T.runFrom none s (List.replicate n (.lossWindow tenant e.1 e.2 0 (1 : Nat))) = s₁
      at ih ⊢
    obtain ⟨hother, hstreak⟩ := ih
    refine ⟨fun c hc => ?_, ?_⟩
    · have hquiet : T.signal tenant c (.lossWindow tenant e.1 e.2 0 (1 : Nat)) = .quiet :=
        if_neg fun h => hc (names_self.mp h.1).2
      rw [step_evs, hquiet]
      exact hother c hc
    · have hjudge : T.afterSignal none s₁ tenant e (.loss 1)
          = T.lossJudge true (s₁.ticks tenant) 1 (s₁.evs tenant e) := by
        show T.lossJudge (T.room tenant e s₁) _ _ _ = _
        rw [room_congr hother, hroom]
      rw [step_evs, signal_lost hmem e Nat.one_pos, hjudge]
      rcases lossJudge_one hthr (s₁.ticks tenant) (s₁.evs tenant e) with hbad | ⟨hne, heq, hlt⟩
      · exact Or.inl hbad
      · obtain ⟨hn, -⟩ := hstreak.resolve_left hne
        rw [hn] at heq hlt
        exact Or.inr ⟨heq, Or.inr hlt⟩

/-- EVs for which there is room are demoted together by losses. -/
theorem demote_by_loss {tenant : String} (hmem : tenant ∈ T.tenants)
    (hthr : T.cfg.lossThreshold < 1) {es : List T.EV} (hnd : es.Nodup)
    (hroom : T.minActive ≤ (T.cells.countP fun c => c ∉ es : Nat)) :
    ∃ calls, ∀ e ∈ es, ((T.after none calls).evs tenant e).state = .assumedBad := by
  let n := max 1 T.cfg.lossDemoteConsecutive.toNat
  refine ⟨_, (in_turn (P := fun r => r.state = .assumedBad)
    (f := fun e => List.replicate n (.lossWindow tenant e.1 e.2 0 (1 : Nat))) hnd ?_).1⟩
  intro e he s hfresh hout
  have hroom : T.room tenant e s = true :=
    room_of_outside hroom (fun c hc => by rw [hout c hc]; decide) he
  obtain ⟨hother, hstreak⟩ := losses hmem hthr hfresh hroom n
  refine ⟨?_, hother⟩
  rcases hstreak with hbad | ⟨-, hshort⟩
  · exact hbad
  · exact absurd hshort (by omega)

/-! ## By probes -/

/-- The record of an EV with `n` probes sent in the open interval and nothing else. -/
def probed (n : Nat) : EVRecord := { currentSent := n, totalSent := n }

/-- Probes that do not come back, counted. -/
theorem probes {tenant : String} (hmem : tenant ∈ T.tenants) {e : T.EV} {s : Store T}
    (hfresh : s.evs tenant e = {}) (n : Nat) :
    let s' := T.runFrom none s (List.replicate n (.probeSent tenant e.1 e.2))
    s'.evs tenant e = probed n ∧ ∀ c ≠ e, s'.evs tenant c = s.evs tenant c := by
  induction n with
  | zero => exact ⟨hfresh, fun c _ => rfl⟩
  | succ n ih =>
    rw [List.replicate_succ', runFrom_snoc]
    generalize T.runFrom none s (List.replicate n (.probeSent tenant e.1 e.2)) = s₁ at ih ⊢
    obtain ⟨hself, hother⟩ := ih
    refine ⟨?_, fun c hc => ?_⟩
    · have hsent : T.signal tenant e (.probeSent tenant e.1 e.2) = .sent :=
        if_pos (names_self.mpr ⟨hmem, rfl⟩)
      rw [step_evs, hsent]
      show countSent (s₁.evs tenant e) = _
      rw [hself]
      rfl
    · have hquiet : T.signal tenant c (.probeSent tenant e.1 e.2) = .quiet :=
        if_neg fun h => hc (names_self.mp h).2
      rw [step_evs, hquiet]
      exact hother c hc

/-- An EV that no probe was ever sent on, and that is not ASSUMED_BAD. -/
structure Unprobed (r : EVRecord) : Prop where
  state : r.state ≠ .assumedBad
  sent : r.currentSent = 0
  buckets : ∀ b ∈ r.buckets, b.1 = 0

/-- After a turn an EV without probes is still one. -/
theorem Unprobed.turn {r : EVRecord} (h : Unprobed r) (room : Bool) (now : Nat) :
    Unprobed (T.judge room now (T.rotate r)) := by
  have hbuckets : ∀ b ∈ (T.rotate r).buckets, b.1 = 0 := by
    intro b hb
    rcases mem_appendMax hb with hb | rfl
    · exact h.buckets b hb
    · exact h.sent
  have hsilent : T.verdict (T.rotate r) = .silent := by
    refine if_pos (List.sum_eq_zero fun n hn => ?_)
    obtain ⟨b, hb, rfl⟩ := List.mem_map.mp hn
    exact hbuckets b hb
  unfold judge
  rw [hsilent]
  exact ⟨h.state, rfl, hbuckets⟩

/-- An evaluation attributes no demotion to loss. -/
theorem judge_lossDemoted {room : Bool} {now : Nat} {r : EVRecord} (h : r.lossDemoted = false) :
    (T.judge room now r).lossDemoted = false := by
  have hj := judged (T := T) room now r
  generalize T.judge room now r = r' at hj ⊢
  cases hj with
  | demoted | promoted => rfl
  | silent | held | suppressed | counted => exact h

/-- A tick before any demotion by loss: all turns return, and unprobed EVs stay so. -/
theorem turns_unprobed {tenant : String} {es : List T.EV} (cs : List T.EV) {s : Store T}
    (hloss : ∀ c, (s.evs tenant c).lossDemoted = false)
    (hout : ∀ c ∉ es, Unprobed (s.evs tenant c)) :
    (Outcome.forEach (T.turn none tenant) cs s).raised = none ∧
      ∀ c ∉ es, Unprobed ((Outcome.forEach (T.turn none tenant) cs s).state.evs tenant c) := by
  constructor
  · refine Outcome.forEach_ok (I := fun s : Store T => ∀ c, (s.evs tenant c).lossDemoted = false)
      (fun c _ s' hs' => ⟨fun c' => ?_, ?_⟩) hloss
    · by_cases hc : c' = c
      · subst hc
        rw [turn_state, Store.write_same]
        exact judge_lossDemoted (hs' c')
      · rw [turn_other none s' (Or.inr hc)]
        exact hs' c'
    · have hshift : T.shiftError (T.rotate (s'.evs tenant c)) = none := by
        refine if_neg fun h => ?_
        have hyes : (s'.evs tenant c).lossDemoted = true := h.2.1
        rw [hs' c] at hyes
        cases hyes
      rw [turn_eq]
      simp only [hshift, notify_none, Option.none_or]
  · refine Outcome.forEach_inv (I := fun s : Store T => ∀ c ∉ es, Unprobed (s.evs tenant c))
      (fun c _ s' hs' c' hc' => ?_) hout
    by_cases hc : c' = c
    · subst hc
      rw [turn_state, Store.write_same]
      exact (hs' c' hc').turn _ _
    · rw [turn_other none s' (Or.inr hc)]
      exact hs' c' hc'

/-- An evaluation of enough probes without a reply, given room. -/
theorem judge_probed (hfail : 0 < T.cfg.probeFailRatio) (hwin : 1 ≤ T.cfg.probeWindowTicks)
    {n : Nat} (hpos : 0 < n) (hmin : T.cfg.probeMinSamples ≤ n) (now : Nat) :
    (T.judge true now (T.rotate (probed n))).state = .assumedBad := by
  have hbuckets : (T.rotate (probed n)).buckets = [(n, 0)] := by
    refine rtake_of_length_le ?_
    show 1 ≤ T.win
    unfold win
    omega
  have hsent : (T.rotate (probed n)).windowSent = n := by
    unfold EVRecord.windowSent
    rw [hbuckets]
    exact Nat.add_zero n
  have hrecv : (T.rotate (probed n)).windowRecv = 0 := by
    unfold EVRecord.windowRecv
    rw [hbuckets]
    rfl
  have hverdict : T.verdict (T.rotate (probed n)) = .failing := by
    refine verdict_failing.mpr ⟨by rw [hsent]; exact hpos, by rw [hsent]; exact hmin, ?_⟩
    unfold EVRecord.windowRatio
    rw [hrecv, Nat.zero_min, Nat.cast_zero, zero_div]
    exact hfail
  unfold judge
  rw [hverdict]
  rfl

/-- EVs for which there is room are demoted together by probes. -/
theorem demote_by_probes {tenant : String} (hmem : tenant ∈ T.tenants)
    (hfail : 0 < T.cfg.probeFailRatio) (hwin : 1 ≤ T.cfg.probeWindowTicks) {es : List T.EV}
    (hnd : es.Nodup) (hroom : T.minActive ≤ (T.cells.countP fun c => c ∉ es : Nat)) :
    ∃ calls, ∀ e ∈ es, ((T.after none calls).evs tenant e).state = .assumedBad := by
  let n := max 1 T.cfg.probeMinSamples.toNat
  obtain ⟨hprobed, hfresh⟩ := in_turn (P := fun r => r = probed n)
    (f := fun e => List.replicate n (.probeSent tenant e.1 e.2)) hnd
    fun e _ s hs _ => probes hmem hs n
  refine ⟨es.flatMap (fun e => List.replicate n (.probeSent tenant e.1 e.2)) ++ [.tick tenant],
    fun e he => ?_⟩
  have hclose : T.signal tenant e (.tick tenant) = .close := signal_close.mpr ⟨rfl, hmem⟩
  rw [after_snoc, step_evs, hclose]
  generalize T.after none (es.flatMap fun e => List.replicate n (.probeSent tenant e.1 e.2)) = s
    at hprobed hfresh ⊢
  have hloss : ∀ c, (s.evs tenant c).lossDemoted = false := by
    intro c
    by_cases hc : c ∈ es
    · rw [hprobed c hc]
      rfl
    · rw [hfresh c hc]
  have hout : ∀ c ∉ es, Unprobed (s.evs tenant c) := by
    intro c hc
    rw [hfresh c hc]
    exact ⟨fun h => (by cases h), rfl, fun b hb => absurd hb List.not_mem_nil⟩
  obtain ⟨hret, hrest⟩ := turns_unprobed (T.before e) (s := s.bumpTick tenant) hloss hout
  have hup : (T.upTo none tenant e s).raised = none := hret
  have hgiven : T.room tenant e (T.upTo none tenant e s).state = true :=
    room_of_outside hroom (fun c hc => (hrest c hc).state) he
  show (if _ then _ else _ : EVRecord).state = _
  rw [if_pos hup, hgiven, hprobed e he]
  exact judge_probed hfail hwin (by omega) (by omega) _

/-- Any EVs that leave the floor can be ASSUMED_BAD at the same time. -/
theorem demote_all (hdem : T.cfg.Demotes) {tenant : String} (hmem : tenant ∈ T.tenants)
    {es : List T.EV} (hnd : es.Nodup)
    (hroom : T.minActive ≤ (T.cells.countP fun c => c ∉ es : Nat)) :
    ∃ calls, ∀ e ∈ es, ((T.after none calls).evs tenant e).state = .assumedBad := by
  rcases hdem with hthr | ⟨hfail, hwin⟩
  · exact demote_by_loss hmem hthr hnd hroom
  · exact demote_by_probes hmem hfail hwin hnd hroom

end EVStateTable

end Srv6Mrc
