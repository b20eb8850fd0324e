/-
  The history of one EV over a run of calls.

  Two things connect a record to the calls that made it.  The probe log lists, newest first, what
  each call added to the EV's probe counts and where the ticks closed an interval; the record's
  buckets are a sliding window over it (`Tracks`, or `Covers` and `Since` if a tick can miss the
  EV).  A tick misses an EV only when the turn of an earlier one raises: a callback that raises, or
  a negative backoff level shifting the recovery hold.  With a callback that returns and a
  non-negative `loss_backoff_max_level` no turn of a tick raises (`upTo_returns`), and then a tick is one
  equation about each record (`after_tick`).
-/
import Mathlib.Algebra.Group.Prod
import Mathlib.Algebra.Order.Group.Nat
import Mathlib.Algebra.Order.Monoid.Prod
import Srv6Mrc.EvState.Floor

namespace Srv6Mrc

/-- The in-progress bucket, as the pair it will be closed as. -/
def EVRecord.bucket (r : EVRecord) : Nat × Nat := (r.currentSent, r.currentRecv)

namespace EVStateTable

open SlidingWindow

variable {T : EVStateTable}

/-! ## Invariants of every record -/

variable (T) in
/-- A fact about a single record that a fresh one has and every signal keeps. -/
structure RecordInv (P : EVRecord → Prop) : Prop where
  fresh : P {}
  sent : ∀ r, P r → P (countSent r)
  recv : ∀ r, P r → P (countRecv r)
  turn : ∀ room now r, P r → P (T.judge room now (T.rotate r))
  loss : ∀ room now ratio r, P r → P (T.lossJudge room now ratio r)

namespace RecordInv

variable {P : EVRecord → Prop}

/-- A call keeps what every write to a record keeps. -/
theorem step (h : T.RecordInv P) (cb : Option (TransitionCb T)) {s : Store T}
    (hs : ∀ tenant e, P (s.evs tenant e)) (c : Call) (tenant : String) (e : T.EV) :
    P ((T.step cb s c).state.evs tenant e) := by
  rw [step_evs]
  have hr := hs tenant e
  cases T.signal tenant e c with
  | sent => exact h.sent _ hr
  | recv => exact h.recv _ hr
  | close =>
    show P (if _ then _ else _)
    split
    · exact h.turn _ _ _ hr
    · exact hr
  | loss ratio => exact h.loss _ _ _ _ hr
  | quiet => exact hr

theorem after (h : T.RecordInv P) (cb : Option (TransitionCb T)) (calls : List Call) :
    ∀ tenant e, P ((T.after cb calls).evs tenant e) := by
  refine after_inv (I := fun s => ∀ tenant e, P (s.evs tenant e)) cb ?_ ?_ calls
  · intro tenant e
    rw [fresh_evs]
    exact h.fresh
  · intro s c hs tenant e
    exact h.step cb hs c tenant e

theorem turn_evs (h : T.RecordInv P) (cb : Option (TransitionCb T)) {tenant : String} {s : Store T}
    (hs : ∀ e, P (s.evs tenant e)) (c e : T.EV) :
    P ((T.turn cb tenant c s).state.evs tenant e) := by
  by_cases hec : e = c
  · subst hec
    rw [turn_state, Store.write_same]
    exact h.turn _ _ _ (hs e)
  · rw [turn_other cb s (Or.inr hec)]
    exact hs e

end RecordInv

/-! ## Ticks that return -/

/-- The callback, if there is one, never raises. -/
def Returns (cb : Option (TransitionCb T)) : Prop :=
  ∀ f, cb = some f → ∀ s tenant e old new, f s tenant e old new = none

theorem returns_none : Returns (none : Option (TransitionCb T)) := by
  intro f hf
  nomatch hf

/-- A callback that returns raises nothing. -/
theorem Returns.notify {cb : Option (TransitionCb T)} (h : Returns cb) (s : Store T)
    (tenant : String) (e : T.EV) (old new : EVState) : T.notify cb s tenant e old new = none := by
  unfold EVStateTable.notify
  split
  · rfl
  · cases cb with
    | none => rfl
    | some f => exact h f rfl s tenant e old new

/-- The judgement of a tick leaves the backoff level. -/
theorem judge_level (room : Bool) (now : Nat) (r : EVRecord) :
    (T.judge room now r).lossBackoffLevel = r.lossBackoffLevel := by
  have hj := judged (T := T) room now r
  generalize T.judge room now r = r' at hj ⊢
  cases hj <;> rfl

/-- That of a loss window leaves it, or takes the next one. -/
theorem lossJudge_level (room : Bool) (now : Nat) (ratio : ℚ) (r : EVRecord) :
    (T.lossJudge room now ratio r).lossBackoffLevel = r.lossBackoffLevel
      ∨ (T.lossJudge room now ratio r).lossBackoffLevel = T.nextLevel now r := by
  have hj := lossJudged (T := T) room now ratio r
  generalize T.lossJudge room now ratio r = r' at hj ⊢
  cases hj with
  | demoted _ _ _ => exact Or.inr rfl
  | suppressed _ _ _ => exact Or.inl rfl
  | counted _ _ => exact Or.inl rfl
  | cleared _ _ => exact Or.inl rfl
  | kept _ _ => exact Or.inl rfl

/-- With a non-negative `loss_backoff_max_level`, every level lies between zero and it. -/
theorem level_recordInv (hmax : 0 ≤ T.cfg.lossBackoffMaxLevel) :
    T.RecordInv fun r => 0 ≤ r.lossBackoffLevel ∧ r.lossBackoffLevel ≤ T.cfg.lossBackoffMaxLevel
    where
  fresh := ⟨le_refl 0, hmax⟩
  sent := fun _ h => h
  recv := fun _ h => h
  turn := by
    intro room now r h
    rw [judge_level]
    exact h
  loss := by
    intro room now ratio r h
    have hnext : 0 ≤ T.nextLevel now r ∧ T.nextLevel now r ≤ T.cfg.lossBackoffMaxLevel := by
      unfold nextLevel
      split
      · exact ⟨le_refl 0, hmax⟩
      · split
        · omega
        · exact ⟨le_refl 0, hmax⟩
    rcases lossJudge_level (T := T) room now ratio r with heq | heq
    · rw [heq]; exact h
    · rw [heq]; exact hnext

section Returning

variable {cb : Option (TransitionCb T)} (hcb : Returns cb) (hmax : 0 ≤ T.cfg.lossBackoffMaxLevel)

include hcb hmax

/-- No turn of a tick raises, whichever EVs have had theirs. -/
theorem turns_return {tenant : String} {s : Store T} (cs : List T.EV)
    (hs : ∀ e, 0 ≤ (s.evs tenant e).lossBackoffLevel
      ∧ (s.evs tenant e).lossBackoffLevel ≤ T.cfg.lossBackoffMaxLevel) :
    (Outcome.forEach (T.turn cb tenant) cs s).raised = none := by
  refine Outcome.forEach_ok (I := fun s : Store T => ∀ e,
    0 ≤ (s.evs tenant e).lossBackoffLevel
      ∧ (s.evs tenant e).lossBackoffLevel ≤ T.cfg.lossBackoffMaxLevel) ?_ hs
  intro c _ s' hs'
  refine ⟨fun e => (level_recordInv hmax).turn_evs cb hs' c e, ?_⟩
  -- a level that is not negative can be shifted by
  have hlevel : 0 ≤ (T.rotate (s'.evs tenant c)).lossBackoffLevel := (hs' c).1
  have hshift : T.shiftError (T.rotate (s'.evs tenant c)) = none := by
    rw [shiftError, if_neg fun h => absurd h.2.2 (not_lt.mpr hlevel)]
  rw [turn_eq]
  simp only [hshift, Option.none_or]
  exact hcb.notify ..

theorem upTo_returns (calls : List Call) (tenant : String) (e : T.EV) :
    (T.upTo cb tenant e (T.after cb calls)).raised = none :=
  turns_return hcb hmax _ ((level_recordInv hmax).after cb calls tenant)

/-- A tick that returns gives every EV of the tenant its turn. -/
theorem after_tick (calls : List Call) {tenant : String} (h : tenant ∈ T.tenants) (e : T.EV) :
    (T.after cb (calls ++ [.tick tenant])).evs tenant e
      = T.judge (T.room tenant e (T.upTo cb tenant e (T.after cb calls)).state)
          ((T.after cb calls).ticks tenant + 1) (T.rotate ((T.after cb calls).evs tenant e)) := by
  rw [after_snoc]
  show (T.tick cb tenant _).state.evs tenant e = _
  rw [tick_evs cb h, if_pos (upTo_returns hcb hmax calls tenant e)]

end Returning

/-! ## The probe log -/

/-- What a signal adds to an EV's probe counts; `none` closes an interval. -/
def Signal.amount : Signal → Option (Nat × Nat)
  | .sent => some (1, 0)
  | .recv => some (0, 1)
  | .close => none
  | .loss _ => some (0, 0)
  | .quiet => some (0, 0)

variable (T) in
/-- The probe log of an EV over a run of calls, newest first: the `(sent, recv)` each call counts,
    and `none` for each tick of the tenant. -/
def probeLog (tenant : String) (e : T.EV) (calls : List Call) : List (Option (Nat × Nat)) :=
  (calls.map fun c => (T.signal tenant e c).amount).reverse

theorem probeLog_append (tenant : String) (e : T.EV) (calls calls' : List Call) :
    T.probeLog tenant e (calls ++ calls')
      = T.probeLog tenant e calls' ++ T.probeLog tenant e calls := by
  simp [probeLog]

theorem probeLog_snoc (tenant : String) (e : T.EV) (calls : List Call) (c : Call) :
    T.probeLog tenant e (calls ++ [c])
      = (T.signal tenant e c).amount :: T.probeLog tenant e calls := by
  simp [probeLog]

theorem probeLog_tick {tenant : String} (h : tenant ∈ T.tenants) (e : T.EV) (calls : List Call) :
    T.probeLog tenant e (calls ++ [.tick tenant]) = none :: T.probeLog tenant e calls := by
  rw [probeLog_snoc, signal_close.mpr ⟨rfl, h⟩]
  rfl

variable (T) in
/-- How many probes the run sends on the EV. -/
def sentCount (tenant : String) (e : T.EV) (calls : List Call) : Nat :=
  calls.countP fun c => T.signal tenant e c = .sent

variable (T) in
/-- How many probes the run gets back on the EV. -/
def recvCount (tenant : String) (e : T.EV) (calls : List Call) : Nat :=
  calls.countP fun c => T.signal tenant e c = .recv

/-- The log adds up to what was sent and received. -/
theorem total_probeLog (tenant : String) (e : T.EV) (calls : List Call) :
    total (T.probeLog tenant e calls)
      = (T.sentCount tenant e calls, T.recvCount tenant e calls) := by
  induction calls using List.reverseRecOn with
  | nil => rfl
  | append_singleton calls c ih =>
    have hcons : ∀ m, total (some m :: T.probeLog tenant e calls)
        = m + total (T.probeLog tenant e calls) := fun m => List.sum_cons
    rw [probeLog_snoc, sentCount, recvCount, List.countP_append, List.countP_append,
      List.countP_singleton, List.countP_singleton, ← sentCount, ← recvCount]
    cases T.signal tenant e c with
    | sent => rw [Signal.amount, hcons, ih]; simp [Nat.add_comm]
    | recv => rw [Signal.amount, hcons, ih]; simp [Nat.add_comm]
    | close => exact ih
    | loss ratio => rw [Signal.amount, hcons, ih]; simp
    | quiet => rw [Signal.amount, hcons, ih]; simp

/-- How many ticks of a tenant a run makes. -/
def tickCount (tenant : String) (calls : List Call) : Nat := calls.countP (· = .tick tenant)

theorem tickCount_append (tenant : String) (calls calls' : List Call) :
    tickCount tenant (calls ++ calls') = tickCount tenant calls + tickCount tenant calls' :=
  List.countP_append

theorem closings_probeLog {tenant : String} (h : tenant ∈ T.tenants) (e : T.EV)
    (calls : List Call) : closings (T.probeLog tenant e calls) = tickCount tenant calls := by
  rw [closings, probeLog, List.countP_reverse, List.countP_map, tickCount]
  refine List.countP_congr fun c _ => ?_
  have hclose : (T.signal tenant e c).amount.isNone = true ↔ T.signal tenant e c = .close := by
    cases T.signal tenant e c <;> simp [Signal.amount]
  simp only [Function.comp_apply, hclose, signal_close, decide_eq_true_eq]
  exact and_iff_left h

/-- A stretch of the log is the log of a stretch of the run. -/
theorem probeLog_split {tenant : String} {e : T.EV} {calls : List Call}
    {newest older : List (Option (Nat × Nat))}
    (h : T.probeLog tenant e calls = newest ++ older) :
    ∃ before since, calls = before ++ since ∧ T.probeLog tenant e since = newest := by
  unfold probeLog at h
  rw [List.reverse_eq_iff, List.reverse_append, List.map_eq_append_iff] at h
  obtain ⟨before, since, hcalls, -, hsince⟩ := h
  refine ⟨before, since, hcalls, ?_⟩
  rw [probeLog, hsince, List.reverse_reverse]

/-- An interval closed in the log was closed by a tick of the run. -/
theorem closed_of_probeLog {tenant : String} {e : T.EV} {calls : List Call}
    {rest : List (Option (Nat × Nat))} (h : none :: rest <:+ T.probeLog tenant e calls) :
    ∃ p, p ++ [.tick tenant] <+: calls ∧ rest = T.probeLog tenant e p := by
  induction calls using List.reverseRecOn with
  | nil => exact absurd (List.suffix_nil.mp h) (List.cons_ne_nil _ _)
  | append_singleton calls c ih =>
    rw [probeLog_snoc, List.suffix_cons_iff] at h
    rcases h with heq | hsuffix
    · obtain ⟨hamount, rfl⟩ := List.cons.inj heq
      have hclose : T.signal tenant e c = .close := by
        cases hsig : T.signal tenant e c with
        | close => rfl
        | sent => rw [hsig] at hamount; nomatch hamount
        | recv => rw [hsig] at hamount; nomatch hamount
        | loss ratio => rw [hsig] at hamount; nomatch hamount
        | quiet => rw [hsig] at hamount; nomatch hamount
      obtain rfl := (signal_close.mp hclose).1
      exact ⟨calls, List.prefix_refl _, rfl⟩
    · obtain ⟨p, hp, hrest⟩ := ih hsuffix
      exact ⟨p, hp.trans (List.prefix_append _ _), hrest⟩

/-! ## Buckets and the log -/

/-- The probes sent in the window are those of its buckets. -/
theorem windowSent_eq (r : EVRecord) : r.windowSent = r.buckets.sum.1 :=
  (map_list_sum (AddMonoidHom.fst Nat Nat) r.buckets).symm

theorem windowRecv_eq (r : EVRecord) : r.windowRecv = r.buckets.sum.2 :=
  (map_list_sum (AddMonoidHom.snd Nat Nat) r.buckets).symm

/-- The judgement of a tick leaves the window. -/
theorem judge_window (room : Bool) (now : Nat) (r : EVRecord) :
    (T.judge room now r).bucket = r.bucket ∧ (T.judge room now r).buckets = r.buckets := by
  have hj := judged (T := T) room now r
  generalize T.judge room now r = r' at hj ⊢
  cases hj <;> exact ⟨rfl, rfl⟩

theorem lossJudge_window (room : Bool) (now : Nat) (ratio : ℚ) (r : EVRecord) :
    (T.lossJudge room now ratio r).bucket = r.bucket
      ∧ (T.lossJudge room now ratio r).buckets = r.buckets := by
  have hj := lossJudged (T := T) room now ratio r
  generalize T.lossJudge room now ratio r = r' at hj ⊢
  cases hj <;> exact ⟨rfl, rfl⟩

/-- The window rule for one call: a relation between window and log that survives an amount, a
    closing, and — where a tick can miss the EV — a missed closing, survives the call. -/
theorem window_step {R : Nat × Nat → List (Nat × Nat) → List (Option (Nat × Nat)) → Prop}
    (cb : Option (TransitionCb T)) {tenant : String} {e : T.EV} {s : Store T}
    (hadd : ∀ m current buckets log, R current buckets log →
      R (m + current) buckets (some m :: log))
    (hclose : ∀ current buckets log, R current buckets log →
      R 0 (appendMax T.win buckets current) (none :: log))
    (hmiss : (T.upTo cb tenant e s).raised ≠ none →
      ∀ current buckets log, R current buckets log → R current buckets (none :: log))
    {log : List (Option (Nat × Nat))} (h : R (s.evs tenant e).bucket (s.evs tenant e).buckets log)
    (c : Call) :
    R ((T.step cb s c).state.evs tenant e).bucket ((T.step cb s c).state.evs tenant e).buckets
      ((T.signal tenant e c).amount :: log) := by
  rw [step_evs]
  set r := s.evs tenant e with hr
  -- a call that counts nothing adds zero
  have hzero : R r.bucket r.buckets (some (0, 0) :: log) := by
    have h0 := hadd (0, 0) _ _ _ h
    rwa [show ((0, 0) : Nat × Nat) = 0 from rfl, zero_add] at h0
  cases T.signal tenant e c with
  | sent =>
    have hadd' := hadd (1, 0) _ _ _ h
    rwa [show ((1, 0) : Nat × Nat) + r.bucket = (countSent r).bucket from
      Prod.ext (Nat.add_comm ..) (Nat.zero_add _)] at hadd'
  | recv =>
    have hadd' := hadd (0, 1) _ _ _ h
    rwa [show ((0, 1) : Nat × Nat) + r.bucket = (countRecv r).bucket from
      Prod.ext (Nat.zero_add _) (Nat.add_comm ..)] at hadd'
  | close =>
    rw [afterSignal]
    split
    · rw [(judge_window ..).1, (judge_window ..).2]
      exact hclose _ _ _ h
    · rename_i hraised
      exact hmiss hraised _ _ _ h
  | loss ratio =>
    rw [afterSignal, (lossJudge_window ..).1, (lossJudge_window ..).2]
    exact hzero
  | quiet => exact hzero

/-- The window rule for a run. -/
theorem window_after {R : Nat × Nat → List (Nat × Nat) → List (Option (Nat × Nat)) → Prop}
    (cb : Option (TransitionCb T)) (tenant : String) (e : T.EV) (hempty : R 0 [] [])
    (hadd : ∀ m current buckets log, R current buckets log →
      R (m + current) buckets (some m :: log))
    (hclose : ∀ current buckets log, R current buckets log →
      R 0 (appendMax T.win buckets current) (none :: log))
    (hmiss : ∀ calls, (T.upTo cb tenant e (T.after cb calls)).raised ≠ none →
      ∀ current buckets log, R current buckets log → R current buckets (none :: log))
    (calls : List Call) :
    R ((T.after cb calls).evs tenant e).bucket ((T.after cb calls).evs tenant e).buckets
      (T.probeLog tenant e calls) := by
  induction calls using List.reverseRecOn with
  | nil =>
    rw [after_nil, fresh_evs]
    exact hempty
  | append_singleton calls c ih =>
    rw [probeLog_snoc, after_snoc]
    exact window_step cb hadd hclose (hmiss calls) ih c

/-- Ticks that return: the window is exactly the last `probe_window_ticks` intervals. -/
theorem tracks_after {cb : Option (TransitionCb T)} (hcb : Returns cb)
    (hmax : 0 ≤ T.cfg.lossBackoffMaxLevel) (tenant : String) (e : T.EV) (calls : List Call) :
    Tracks T.win ((T.after cb calls).evs tenant e).bucket
      ((T.after cb calls).evs tenant e).buckets (T.probeLog tenant e calls) := by
  refine window_after (R := Tracks T.win) cb tenant e (tracks_empty _) (fun m _ _ _ h => h.add m)
    (fun _ _ _ h => h.close) ?_ calls
  intro calls hraised
  exact absurd (upTo_returns hcb hmax calls tenant e) hraised

/-- In any case the window holds at least the last `probe_window_ticks` intervals … -/
theorem covers_after (cb : Option (TransitionCb T)) (tenant : String) (e : T.EV)
    (calls : List Call) :
    Covers T.win ((T.after cb calls).evs tenant e).bucket
      ((T.after cb calls).evs tenant e).buckets (T.probeLog tenant e calls) :=
  window_after (R := Covers T.win) cb tenant e (covers_empty _) (fun m _ _ _ h => h.add m)
    (fun _ _ _ h => h.close) (fun _ _ _ _ _ h => h.miss) calls

/-- … and what it holds is all that happened since some moment of the run. -/
theorem since_after (cb : Option (TransitionCb T)) (tenant : String) (e : T.EV)
    (calls : List Call) :
    Since T.win ((T.after cb calls).evs tenant e).bucket
      ((T.after cb calls).evs tenant e).buckets (T.probeLog tenant e calls) :=
  window_after (R := Since T.win) cb tenant e (since_empty _) (fun m _ _ _ h => h.add m)
    (fun _ _ _ h => h.close) (fun _ _ _ _ _ h => h.miss) calls

/-- What an evaluation sees in a window that tracks the log. -/
theorem rotate_window {tenant : String} {e : T.EV} {calls : List Call} {r : EVRecord}
    (h : Tracks T.win r.bucket r.buckets (T.probeLog tenant e calls)) :
    (T.rotate r).windowSent = (recent T.win (T.probeLog tenant e calls)).1
      ∧ (T.rotate r).windowRecv = (recent T.win (T.probeLog tenant e calls)).2 := by
  rw [windowSent_eq, windowRecv_eq, ← h.sum_close]
  exact ⟨rfl, rfl⟩

end EVStateTable
end Srv6Mrc
