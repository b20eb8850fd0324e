/-
  Threads on one table.

  The emit thread counts probes while the dispatch thread counts answers and loss windows, and the
  lock decides who comes first.  Calls for different tenants touch different parts of the table
  (`step_local`), and a probe only counts what nothing but a tick reads (`probe_comm`); so the order
  makes no difference between two ticks, neither to the table nor to what anybody is told
  (`swaps_agree`).

  A callback that reads the table could tell the orders apart; here it answers to what it is told.
-/
import Srv6Mrc.Lib.Interleave
import Srv6Mrc.EvState.Outage

namespace Srv6Mrc.EVStateTable

open Interleave

variable {T : EVStateTable}

/-! ## Independent calls -/

namespace Call

/-- `record_probe_sent`, `record_probe_recv` -/
def IsProbe : Call → Bool
  | .probeSent .. | .probeRecv .. => true
  | _ => false

def IsTick : Call → Bool
  | .tick _ => true
  | _ => false

/-- Calls for different tenants, and a probe and anything but a tick. -/
def Indep (a b : Call) : Prop :=
  a.tenant ≠ b.tenant ∨ a.IsProbe = true ∧ b.IsTick = false ∨ a.IsTick = false ∧ b.IsProbe = true

end Call

/-! ## What is told -/

/-- An `on_transition` that answers to what it is told, and does not read the table. -/
abbrev Told (T : EVStateTable) : Type := Option (String → T.EV → EVState → EVState → Option PyError)

/-- It, as a callback. -/
def Told.cb (told : Told T) : Option (TransitionCb T) := told.map fun f _ => f

/-- The transitions between two states of a tenant's EVs, in the order in which a tick makes them. -/
def moves (tenant : String) (s s' : Store T) : List (T.EV × EVState × EVState) :=
  T.cells.flatMap fun e =>
    if (s.evs tenant e).state = (s'.evs tenant e).state then []
    else [(e, (s.evs tenant e).state, (s'.evs tenant e).state)]

/-- A call that was made, the exception that it raised, and its transitions. -/
structure Event (T : EVStateTable) where
  call : Call
  raised : Option PyError
  moves : List (T.EV × EVState × EVState)

/-- What a tenant sees of a call: ticks and loss windows of its own, and every transition. -/
def events (told : Told T) (tenant : String) (s : Store T) (c : Call) : List (Event T) :=
  let o := T.step told.cb s c
  if c.tenant = tenant ∧ c.IsProbe = false ∨ moves tenant s o.state ≠ [] then
    [⟨c, o.raised, moves tenant s o.state⟩]
  else []

variable (T) in
/-- What a tenant sees of a run on a fresh table. -/
def history (told : Told T) (tenant : String) (calls : List Call) : List (Event T) :=
  logFrom (fun s c => (T.step told.cb s c).state) (events told tenant) T.fresh calls

/-- Where the records stay, nothing moves. -/
theorem moves_of_evs {tenant : String} {s s' : Store T} (h : s'.evs tenant = s.evs tenant) :
    moves tenant s s' = [] := by
  unfold moves
  simp [h]

/-! ## The part of one tenant -/

/-- Two stores that are the same for a tenant. -/
structure SameFor (tenant : String) (s s' : Store T) : Prop where
  evs : s'.evs tenant = s.evs tenant
  weightsCache : s'.weightsCache tenant = s.weightsCache tenant
  ticks : s'.ticks tenant = s.ticks tenant

namespace SameFor

variable {tenant : String} {s s' : Store T}

theorem setEv (h : SameFor tenant s s') (e : T.EV) (r : EVRecord) :
    SameFor tenant (s.setEv tenant e r) (s'.setEv tenant e r) where
  evs := by simp only [Store.setEv, Function.update_self, h.evs]
  weightsCache := h.weightsCache
  ticks := h.ticks

/-- The same record is written in both. -/
theorem write (h : SameFor tenant s s') (e : T.EV) (r : EVRecord) :
    SameFor tenant (s.write tenant e r) (s'.write tenant e r) := by
  have hset := h.setEv e r
  unfold Store.write
  rw [h.evs]
  split
  · exact hset
  · exact ⟨hset.evs, by simp only [rebuildWeightsLocked, Function.update_self, hset.evs], hset.ticks⟩

theorem room (h : SameFor tenant s s') (e : T.EV) : T.room tenant e s' = T.room tenant e s := by
  have husable : T.usableAfter tenant e s' = T.usableAfter tenant e s :=
    usableAfter_congr fun c _ => congrArg EVRecord.state (congrFun h.evs c)
  unfold EVStateTable.room
  rw [husable]

/-- What a blind callback answers. -/
theorem notify (told : Told T) (s s' : Store T) (tenant : String) (e : T.EV) (old new : EVState) :
    T.notify told.cb s' tenant e old new = T.notify told.cb s tenant e old new := by
  unfold EVStateTable.notify Told.cb
  cases told <;> rfl

theorem turn (told : Told T) (h : SameFor tenant s s') (e : T.EV) :
    SameFor tenant (T.turn told.cb tenant e s).state (T.turn told.cb tenant e s').state ∧
      (T.turn told.cb tenant e s').raised = (T.turn told.cb tenant e s).raised := by
  rw [turn_eq, turn_eq, h.evs, h.room, h.ticks]
  exact ⟨h.write e _, by dsimp only; rw [notify told (s.write tenant e _)]⟩

theorem turns (told : Told T) (cs : List T.EV) (h : SameFor tenant s s') :
    SameFor tenant (Outcome.forEach (T.turn told.cb tenant) cs s).state
        (Outcome.forEach (T.turn told.cb tenant) cs s').state ∧
      (Outcome.forEach (T.turn told.cb tenant) cs s').raised
        = (Outcome.forEach (T.turn told.cb tenant) cs s).raised := by
  induction cs generalizing s s' with
  | nil => exact ⟨h, rfl⟩
  | cons e cs ih =>
    obtain ⟨hstate, hraised⟩ := h.turn told e
    rw [Outcome.forEach_cons, Outcome.forEach_cons]
    by_cases hr : (T.turn told.cb tenant e s).raised = none
    · rw [Outcome.andThen_none hr, Outcome.andThen_none (hraised.trans hr)]
      exact ih hstate
    · rw [Outcome.andThen_some hr, Outcome.andThen_some (hraised ▸ hr)]
      exact ⟨hstate, hraised⟩

end SameFor

/-- A loss window goes one way from every store. -/
theorem loss_cases (told : Told T) (t : String) (plane path seen expected : Int) :
    (∃ e : T.EV, ∀ s, T.recordLossWindow told.cb t plane path seen expected s
      = (let r' := T.lossJudge (T.room t e s) (s.ticks t) (lossRatio seen expected) (s.evs t e)
         let s' := s.write t e r'
         ⟨s', T.notify told.cb s' t e (s.evs t e).state r'.state⟩)) ∨
    ∃ raised, ∀ s, T.recordLossWindow told.cb t plane path seen expected s = ⟨s, raised⟩ := by
  by_cases hN : ∃ e : T.EV, T.Names t e t plane path
  · obtain ⟨e, hN⟩ := hN
    by_cases hneg : seen < 0 ∨ expected < 0
    · refine Or.inr ⟨some (.negativeCount seen expected), fun s => ?_⟩
      unfold recordLossWindow
      rw [withEv_of_names hN, if_pos hneg]
      rfl
    · by_cases h0 : expected = 0
      · refine Or.inr ⟨none, fun s => ?_⟩
        unfold recordLossWindow
        simp only [withEv_of_names hN, if_neg hneg, if_pos h0]
        rfl
      · exact Or.inl ⟨e, recordLossWindow_eq told.cb (checkTenant_none.mpr hN.2.1)
          (checkEv_ok.mpr hN.2.2) hneg h0⟩
  · obtain ⟨err, herr⟩ := withEv_error fun tenant e (hN' : T.Names tenant e t plane path) =>
      hN ⟨e, hN'.1 ▸ hN'⟩
    exact Or.inr ⟨some err, fun s => herr _ s⟩

/-- What is the same for every tenant is the same. -/
theorem Store.ext_sameFor {s s' : Store T} (h : ∀ tenant, SameFor tenant s s') : s' = s := by
  obtain ⟨evs, weightsCache, ticks⟩ := s
  obtain ⟨evs', weightsCache', ticks'⟩ := s'
  congr
  · exact funext fun tenant => (h tenant).evs
  · exact funext fun tenant => (h tenant).weightsCache
  · exact funext fun tenant => (h tenant).ticks

/-- A call reads and writes the part of its tenant. -/
theorem step_local (told : Told T) (c : Call) {s s' : Store T} (h : SameFor c.tenant s s') :
    SameFor c.tenant (T.step told.cb s c).state (T.step told.cb s' c).state ∧
      (T.step told.cb s' c).raised = (T.step told.cb s c).raised := by
  have hprobe : ∀ (t : String) (plane path : Int) (f : EVRecord → EVRecord), SameFor t s s' →
      SameFor t (T.withEv t plane path (fun e s => .ok (s.setEv t e (f (s.evs t e)))) s).state
          (T.withEv t plane path (fun e s => .ok (s.setEv t e (f (s.evs t e)))) s').state ∧
        (T.withEv t plane path (fun e s => .ok (s.setEv t e (f (s.evs t e)))) s').raised
          = (T.withEv t plane path (fun e s => .ok (s.setEv t e (f (s.evs t e)))) s).raised := by
    intro t plane path f h
    by_cases hN : ∃ e : T.EV, T.Names t e t plane path
    · obtain ⟨e, hN⟩ := hN
      rw [withEv_of_names hN, withEv_of_names hN, h.evs]
      exact ⟨h.setEv e _, rfl⟩
    · obtain ⟨err, herr⟩ := withEv_error fun tenant e (hN' : T.Names tenant e t plane path) =>
        hN ⟨e, hN'.1 ▸ hN'⟩
      rw [herr, herr]
      exact ⟨h, rfl⟩
  cases c with
  | probeSent t plane path => exact hprobe t plane path countSent h
  | probeRecv t plane path => exact hprobe t plane path countRecv h
  | tick t =>
    show SameFor t (T.tick told.cb t s).state (T.tick told.cb t s').state ∧ _
    by_cases hmem : t ∈ T.tenants
    · have hbump : SameFor t (s.bumpTick t) (s'.bumpTick t) :=
        ⟨h.evs, h.weightsCache, by rw [bumpTick_ticks, bumpTick_ticks]; exact congrArg (· + 1) h.ticks⟩
      have hturns := hbump.turns told T.cells
      rw [← tick_eq told.cb hmem, ← tick_eq told.cb hmem] at hturns
      exact hturns
    · unfold step tick checkTenant
      dsimp only
      rw [if_neg hmem]
      exact ⟨h, rfl⟩
  | lossWindow t plane path seen expected =>
    have h : SameFor t s s' := h
    show SameFor t (T.recordLossWindow told.cb t plane path seen expected s).state
        (T.recordLossWindow told.cb t plane path seen expected s').state ∧
      (T.recordLossWindow told.cb t plane path seen expected s').raised
        = (T.recordLossWindow told.cb t plane path seen expected s).raised
    rcases loss_cases told t plane path seen expected with ⟨e, heq⟩ | ⟨raised, heq⟩
    · rw [heq, heq, h.evs, h.room, h.ticks]
      exact ⟨h.write e _, by dsimp only; rw [SameFor.notify told (s.write t e _)]⟩
    · rw [heq, heq]
      exact ⟨h, rfl⟩

/-- And leaves the other tenants alone. -/
theorem step_others (told : Told T) (c : Call) (s : Store T) {tenant : String}
    (h : c.tenant ≠ tenant) : SameFor tenant s (T.step told.cb s c).state := by
  refine step_inv (I := SameFor tenant s) told.cb s c ⟨fun s' hs => ?_, fun s' e r hs _ => ?_⟩
    ⟨rfl, rfl, rfl⟩
  · exact ⟨hs.evs, hs.weightsCache, (Function.update_of_ne h.symm _ _).trans hs.ticks⟩
  · refine ⟨?_, ?_, ?_⟩
    · rw [← hs.evs]
      exact funext fun e' => s'.write_other r (Or.inl h.symm)
    · rw [← hs.weightsCache]
      unfold Store.write
      split
      · rfl
      · exact Function.update_of_ne h.symm _ _
    · rw [s'.write_ticks]
      exact hs.ticks

/-! ## A probe counts what nothing but a tick reads -/

/-- `record_probe_sent` or `record_probe_recv` on one record. -/
def Counts (f : EVRecord → EVRecord) : Prop := f = countSent ∨ f = countRecv

theorem Counts.state {f : EVRecord → EVRecord} (hf : Counts f) (r : EVRecord) :
    (f r).state = r.state := by
  rcases hf with rfl | rfl <;> rfl

theorem Counts.comm {f g : EVRecord → EVRecord} (hf : Counts f) (hg : Counts g) (r : EVRecord) :
    f (g r) = g (f r) := by
  rcases hf with rfl | rfl <;> rcases hg with rfl | rfl <;> rfl

/-- A count and a judgement can change places. -/
theorem Counts.lossJudge {f : EVRecord → EVRecord} (hf : Counts f) (room : Bool) (now : Nat)
    (ratio : ℚ) (r : EVRecord) :
    T.lossJudge room now ratio (f r) = f (T.lossJudge room now ratio r) := by
  have hfull : T.StreakFull (f r) ↔ T.StreakFull r := by
    rcases hf with rfl | rfl <;> exact Iff.rfl
  unfold EVStateTable.lossJudge
  by_cases habove : T.cfg.lossThreshold < ratio
  · rw [if_pos habove, if_pos habove]
    by_cases hs : T.StreakFull r
    · rw [if_pos hs, if_pos (hfull.mpr hs)]
      unfold attempt
      rcases hf with rfl | rfl <;> cases room <;> rfl
    · rw [if_neg hs, if_neg fun h => hs (hfull.mp h)]
      rcases hf with rfl | rfl <;> rfl
  · rw [if_neg habove, if_neg habove]
    by_cases hlow : ratio ≤ T.cfg.lossThreshold / 2
    · rw [if_pos hlow, if_pos hlow]
      rcases hf with rfl | rfl <;> rfl
    · rw [if_neg hlow, if_neg hlow]
      rcases hf with rfl | rfl <;> rfl

/-- A count on one record of a store. -/
def Store.count (s : Store T) (f : EVRecord → EVRecord) (tenant : String) (e : T.EV) : Store T :=
  s.setEv tenant e (f (s.evs tenant e))

/-- A probe counts on one record, whatever the store, or is refused. -/
theorem probe_cases (told : Told T) {c : Call} (h : c.IsProbe = true) :
    (∃ e f, Counts f ∧ ∀ s, T.step told.cb s c = ⟨s.count f c.tenant e, none⟩) ∨
      ∃ raised, ∀ s, T.step told.cb s c = ⟨s, raised⟩ := by
  have hprobe : ∀ (t : String) (plane path : Int) (f : EVRecord → EVRecord),
      (∃ e, ∀ s, T.withEv t plane path (fun e s => .ok (s.count f t e)) s
        = ⟨s.count f t e, none⟩) ∨
      ∃ raised, ∀ s, T.withEv t plane path (fun e s => .ok (s.count f t e)) s = ⟨s, raised⟩ := by
    intro t plane path f
    by_cases hN : ∃ e : T.EV, T.Names t e t plane path
    · obtain ⟨e, hN⟩ := hN
      exact Or.inl ⟨e, fun s => withEv_of_names hN _ s⟩
    · obtain ⟨err, herr⟩ := withEv_error fun tenant e (hN' : T.Names tenant e t plane path) =>
        hN ⟨e, hN'.1 ▸ hN'⟩
      exact Or.inr ⟨some err, fun s => herr _ s⟩
  cases c with
  | probeSent t plane path =>
    rcases hprobe t plane path countSent with ⟨e, heq⟩ | hraised
    · exact Or.inl ⟨e, countSent, Or.inl rfl, heq⟩
    · exact Or.inr hraised
  | probeRecv t plane path =>
    rcases hprobe t plane path countRecv with ⟨e, heq⟩ | hraised
    · exact Or.inl ⟨e, countRecv, Or.inr rfl, heq⟩
    · exact Or.inr hraised
  | tick => cases h
  | lossWindow => cases h

theorem count_evs (s : Store T) {f : EVRecord → EVRecord} (hf : Counts f) (tenant : String)
    (e : T.EV) (t : String) (e' : T.EV) :
    ((s.count f tenant e).evs t e').state = (s.evs t e').state := by
  by_cases h : t = tenant ∧ e' = e
  · obtain ⟨rfl, rfl⟩ := h
    rw [Store.count, Store.setEv_same]
    exact hf.state _
  · rw [Store.count, s.setEv_other]
    by_cases ht : t = tenant
    · exact Or.inr fun he => h ⟨ht, he⟩
    · exact Or.inl ht

/-- Counts of a tenant can change places. -/
theorem count_comm (s : Store T) {f g : EVRecord → EVRecord} (hf : Counts f) (hg : Counts g)
    (tenant : String) (e : T.EV) (e' : T.EV) :
    (s.count f tenant e).count g tenant e' = (s.count g tenant e').count f tenant e := by
  by_cases h : e' = e
  · subst h
    unfold Store.count
    rw [Store.setEv_same, Store.setEv_same, Store.setEv_setEv, Store.setEv_setEv, hf.comm hg]
  · unfold Store.count
    rw [s.setEv_other _ (Or.inr h), s.setEv_other _ (Or.inr (Ne.symm h))]
    unfold Store.setEv
    simp only [Function.update_idem, Function.update_self]
    rw [Function.update_comm h]

/-- Counting and writing, where the count does not matter to what is written. -/
theorem count_write (s : Store T) {f : EVRecord → EVRecord} (hf : Counts f) (tenant : String)
    (e e' : T.EV) {J : EVRecord → EVRecord} (hJ : ∀ r, J (f r) = f (J r)) :
    (s.count f tenant e).write tenant e' (J ((s.count f tenant e).evs tenant e'))
      = (s.write tenant e' (J (s.evs tenant e'))).count f tenant e := by
  -- the records, then the weights, which follow the states
  have hevs : ((s.count f tenant e).setEv tenant e' (J ((s.count f tenant e).evs tenant e')))
      = (s.setEv tenant e' (J (s.evs tenant e'))).count f tenant e := by
    by_cases h : e' = e
    · subst h
      unfold Store.count
      rw [Store.setEv_same, Store.setEv_same, Store.setEv_setEv, Store.setEv_setEv, hJ]
    · unfold Store.count
      rw [s.setEv_other _ (Or.inr h), s.setEv_other _ (Or.inr (Ne.symm h))]
      unfold Store.setEv
      simp only [Function.update_idem, Function.update_self]
      rw [Function.update_comm h]
  have hstate : (J ((s.count f tenant e).evs tenant e')).state = (J (s.evs tenant e')).state := by
    by_cases h : e' = e
    · subst h
      rw [Store.count, Store.setEv_same, hJ, hf.state]
    · rw [Store.count, s.setEv_other _ (Or.inr h)]
  unfold Store.write
  rw [hstate, count_evs s hf, hevs]
  split
  · rfl
  · -- the counted record has the same state, so the weights are those without it
    have hgrid := gridWeights_congr (T := T) fun c =>
      count_evs (s.setEv tenant e' (J (s.evs tenant e'))) hf tenant e tenant c
    unfold rebuildWeightsLocked
    rw [hgrid]
    rfl

theorem count_room (s : Store T) {f : EVRecord → EVRecord} (hf : Counts f) (tenant : String)
    (e e' : T.EV) : T.room tenant e' (s.count f tenant e) = T.room tenant e' s := by
  have husable : T.usableAfter tenant e' (s.count f tenant e) = T.usableAfter tenant e' s :=
    usableAfter_congr fun c _ => count_evs s hf tenant e tenant c
  unfold EVStateTable.room
  rw [husable]

/-- What moves depends on the states only. -/
theorem moves_congr {tenant : String} {s s' u u' : Store T}
    (h : ∀ e, (u.evs tenant e).state = (s.evs tenant e).state)
    (h' : ∀ e, (u'.evs tenant e).state = (s'.evs tenant e).state) :
    moves tenant u u' = moves tenant s s' := by
  unfold moves
  simp only [h, h']

/-- A probe and a call of the same tenant, not a tick. -/
theorem probe_comm (told : Told T) (s : Store T) {a b : Call} (ha : a.IsProbe = true)
    (hb : b.IsTick = false) (ht : a.tenant = b.tenant) :
    let after := fun s c => (T.step told.cb s c).state
    after (after s a) b = after (after s b) a ∧
      (T.step told.cb (after s a) b).raised = (T.step told.cb s b).raised := by
  intro after
  rcases probe_cases told ha with ⟨e, f, hf, heq⟩ | ⟨raised, heq⟩
  · -- the probe counts one on its EV, and nothing reads the count but a tick
    have hafter : ∀ s, after s a = s.count f b.tenant e := fun s => by
      show (T.step told.cb s a).state = _
      rw [heq, ht]
    rw [hafter, hafter]
    cases hb' : b.IsProbe with
    | true =>
      rcases probe_cases told hb' with ⟨e', g, hg, heq'⟩ | ⟨raised, heq'⟩
      · show (T.step told.cb _ b).state = ((T.step told.cb s b).state).count f b.tenant e ∧ _
        rw [heq', heq']
        exact ⟨count_comm s hf hg _ e e', rfl⟩
      · show (T.step told.cb _ b).state = ((T.step told.cb s b).state).count f b.tenant e ∧ _
        rw [heq', heq']
        exact ⟨rfl, rfl⟩
    | false =>
      cases b with
      | probeSent => cases hb'
      | probeRecv => cases hb'
      | tick => cases hb
      | lossWindow t plane path seen expected =>
        show (T.recordLossWindow told.cb t plane path seen expected (s.count f t e)).state
            = (T.recordLossWindow told.cb t plane path seen expected s).state.count f t e ∧
          (T.recordLossWindow told.cb t plane path seen expected (s.count f t e)).raised
            = (T.recordLossWindow told.cb t plane path seen expected s).raised
        rcases loss_cases told t plane path seen expected with ⟨e', heq'⟩ | ⟨raised, heq'⟩
        · rw [heq', heq', count_room s hf]
          have hJ := fun r => hf.lossJudge (T := T) (T.room t e' s) (s.ticks t)
            (lossRatio seen expected) r
          refine ⟨count_write s hf t e e' hJ, ?_⟩
          have hstate : (T.lossJudge (T.room t e' s) (s.ticks t) (lossRatio seen expected)
              ((s.count f t e).evs t e')).state
              = (T.lossJudge (T.room t e' s) (s.ticks t) (lossRatio seen expected)
                (s.evs t e')).state := by
            -- the judgement is of the same EV, or of another
            by_cases h : e' = e
            · subst h
              rw [Store.count, Store.setEv_same, hJ, hf.state]
            · rw [Store.count, s.setEv_other _ (Or.inr h)]
          dsimp only
          rw [SameFor.notify told s, SameFor.notify told s (s.write t e' _), count_evs s hf]
          exact congrArg _ hstate
        · rw [heq', heq']
          exact ⟨rfl, rfl⟩
  · have hafter : ∀ s, after s a = s := fun s => by
      -- a probe that raises changes nothing
      show (T.step told.cb s a).state = _
      rw [heq]
    rw [hafter, hafter]
    exact ⟨rfl, rfl⟩

/-! ## Independent calls commute -/

/-- Calls that do not meet can change places. -/
theorem indep_comm (told : Told T) (s : Store T) (a b : Call) (h : a.Indep b) :
    (T.step told.cb (T.step told.cb s a).state b).state
      = (T.step told.cb (T.step told.cb s b).state a).state := by
  by_cases ht : a.tenant = b.tenant
  · rcases h with h | ⟨ha, hb⟩ | ⟨ha, hb⟩
    · exact absurd ht h
    · exact (probe_comm told s ha hb ht).1
    · exact (probe_comm told s hb ha ht.symm).1.symm
  · -- each call does to its own tenant what it does without the other
    refine Store.ext_sameFor fun tenant => ?_
    by_cases hta : a.tenant = tenant
    · have hne : b.tenant ≠ tenant := fun h => ht (hta.trans h.symm)
      have hlocal := (step_local told a (hta ▸ step_others told b s hne)).1
      rw [hta] at hlocal
      have hother := step_others told b (T.step told.cb s a).state hne
      exact ⟨hother.evs.trans hlocal.evs.symm, hother.weightsCache.trans hlocal.weightsCache.symm,
        hother.ticks.trans hlocal.ticks.symm⟩
    · have hother := step_others told a (T.step told.cb s b).state hta
      by_cases htb : b.tenant = tenant
      · have hlocal := (step_local told b (htb ▸ step_others told a s hta)).1
        rw [htb] at hlocal
        exact ⟨hlocal.evs.trans hother.evs.symm, hlocal.weightsCache.trans hother.weightsCache.symm,
          hlocal.ticks.trans hother.ticks.symm⟩
      · have ha := step_others told a s hta
        have hb := step_others told b s htb
        have hb' := step_others told b (T.step told.cb s a).state htb
        exact ⟨(hb'.evs.trans ha.evs).trans (hother.evs.trans hb.evs).symm,
          (hb'.weightsCache.trans ha.weightsCache).trans
            (hother.weightsCache.trans hb.weightsCache).symm,
          (hb'.ticks.trans ha.ticks).trans (hother.ticks.trans hb.ticks).symm⟩

/-- A tenant sees nothing of a call for another one. -/
theorem events_other (told : Told T) {tenant : String} (s : Store T) {c : Call}
    (h : c.tenant ≠ tenant) : events told tenant s c = [] := by
  unfold events
  dsimp only
  rw [moves_of_evs (step_others told c s h).evs]
  exact if_neg fun hc => hc.elim (fun hc => h hc.1) (fun hc => hc rfl)

/-- The events of a call are those of its tenant's part. -/
theorem events_local (told : Told T) {s s' : Store T} (c : Call) (h : SameFor c.tenant s s') :
    events told c.tenant s' c = events told c.tenant s c := by
  obtain ⟨hstate, hraised⟩ := step_local told c h
  unfold events
  dsimp only
  rw [hraised, moves_congr (fun e => congrArg EVRecord.state (congrFun h.evs e))
    fun e => congrArg EVRecord.state (congrFun hstate.evs e)]

/-- A probe changes no state. -/
theorem probe_states (told : Told T) (s : Store T) {c : Call} (h : c.IsProbe = true)
    (tenant : String) (e : T.EV) :
    ((T.step told.cb s c).state.evs tenant e).state = (s.evs tenant e).state := by
  rcases probe_cases told h with ⟨e', f, hf, heq⟩ | ⟨raised, heq⟩
  · rw [heq]
    exact count_evs s hf c.tenant e' tenant e
  · rw [heq]

theorem events_probe (told : Told T) (tenant : String) (s : Store T) {c : Call}
    (h : c.IsProbe = true) : events told tenant s c = [] := by
  have hmoves : moves tenant s (T.step told.cb s c).state = [] := by
    unfold moves
    simp [probe_states told s h]
  unfold events
  dsimp only
  rw [hmoves, h]
  exact if_neg fun hc => hc.elim (fun hc => Bool.false_ne_true hc.2.symm) (fun hc => hc rfl)

/-- What is seen of a call of the same tenant, with a probe before it. -/
theorem events_after_probe (told : Told T) (tenant : String) (s : Store T) {a b : Call}
    (ha : a.IsProbe = true) (hb : b.IsTick = false) (ht : a.tenant = b.tenant) :
    events told tenant (T.step told.cb s a).state b = events told tenant s b := by
  obtain ⟨hstate, hraised⟩ := probe_comm told s ha hb ht
  dsimp only at hstate hraised
  have hmoves := moves_congr (fun e => probe_states told s ha tenant e)
    (fun e => probe_states told (T.step told.cb s b).state ha tenant e)
  unfold events
  dsimp only
  rw [hraised, hstate, hmoves]

/-- Calls that do not meet have the same events in both orders. -/
theorem indep_events (told : Told T) (tenant : String) (s : Store T) (a b : Call)
    (h : a.Indep b) :
    events told tenant s a ++ events told tenant (T.step told.cb s a).state b
      = events told tenant s b ++ events told tenant (T.step told.cb s b).state a := by
  by_cases ht : a.tenant = b.tenant
  · rcases h with h | ⟨ha, hb⟩ | ⟨ha, hb⟩
    · exact absurd ht h
    · rw [events_probe told tenant s ha, events_probe told tenant _ ha,
        events_after_probe told tenant s ha hb ht, List.nil_append, List.append_nil]
    · rw [events_probe told tenant s hb, events_probe told tenant _ hb,
        events_after_probe told tenant s hb ha ht.symm, List.nil_append, List.append_nil]
  · by_cases hta : a.tenant = tenant
    · have htb : b.tenant ≠ tenant := fun h => ht (hta.trans h.symm)
      subst hta
      rw [events_other told _ htb, events_other told _ htb, List.append_nil, List.nil_append]
      exact (events_local told a (step_others told b s htb)).symm
    · rw [events_other told _ hta, events_other told _ hta, List.append_nil, List.nil_append]
      by_cases htb : b.tenant = tenant
      · subst htb
        exact events_local told b (step_others told a s hta)
      · rw [events_other told _ htb, events_other told _ htb]

/-- After every run, whatever the callback answers: swapping neighbours that are independent, any
    number of times, leaves the table as it is, and what each tenant sees. -/
theorem swaps_agree (T : EVStateTable) (told : Told T) (calls : List Call) {l l' : List Call}
    (h : Swaps Call.Indep l l') :
    T.after told.cb (calls ++ l) = T.after told.cb (calls ++ l') ∧
      ∀ tenant, history T told tenant (calls ++ l) = history T told tenant (calls ++ l') := by
  constructor
  · rw [after_append, after_append]
    exact foldl_swaps (indep_comm told) h _
  · intro tenant
    unfold history
    rw [logFrom_append, logFrom_append]
    congr 1
    exact logFrom_swaps (indep_comm told) (indep_events told tenant) h _

/-- A probe goes past a loss window that demotes. -/
theorem swaps_agree_threePaths :
    let T := threePaths {} (by decide)
    let told : Told T := some fun _ _ _ _ => none
    let lost := Call.lossWindow "green" 0 1 0 10
    T.after told.cb ([lost, lost] ++ [.probeSent "green" 0 1, lost])
        = T.after told.cb ([lost, lost] ++ [lost, .probeSent "green" 0 1]) ∧
      ∀ tenant, history T told tenant ([lost, lost] ++ [.probeSent "green" 0 1, lost])
        = history T told tenant ([lost, lost] ++ [lost, .probeSent "green" 0 1]) :=
  have hindep : Call.Indep (.probeSent "green" 0 1) (.lossWindow "green" 0 1 0 10) :=
    Or.inr (Or.inl ⟨rfl, rfl⟩)
  swaps_agree _ _ _ (Relation.ReflTransGen.single (Swap.swap [] hindep []))

/-- Between two ticks, the emit thread with its probes and the dispatch thread with answers and loss
    windows: every interleaving is as good as one thread after the other. -/
theorem threads_agree (T : EVStateTable) (told : Told T) (calls : List Call)
    {emits dispatches merged : List Call} (hemits : ∀ c ∈ emits, c.IsProbe = true)
    (hdispatches : ∀ c ∈ dispatches, c.IsTick = false) (h : Shuffle emits dispatches merged) :
    T.after told.cb (calls ++ merged) = T.after told.cb (calls ++ (emits ++ dispatches)) := by
  rw [after_append, after_append]
  exact (foldl_swaps (indep_comm told)
    (h.swaps fun a ha b hb => Or.inr (Or.inl ⟨hemits a ha, hdispatches b hb⟩)) _).symm

end Srv6Mrc.EVStateTable
