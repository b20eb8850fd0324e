/-
  What one call can do, said once.

  `step_evs` is the projection of the whole table onto one EV: a call reaches EV `e` of a tenant as
  one `Signal` (or none), and the record after the call is a function of the record before it, the
  clock, and — where a demotion is possible — whether the other EVs leave room for it.  Everything
  about a single EV's history is an induction over it.

  `step_inv` is the matching rule for invariants of the whole table: all writes of the state
  machine are `Store.write`s, and one that demotes was given room.  The rule also reaches the
  stores inside a tick, between the turn of one EV and the turn of the next (`WriteInv.turns`).
-/
import Mathlib.Data.List.Nodup
import Mathlib.Data.List.TakeWhile
import Mathlib.Data.List.Infix
import Srv6Mrc.EvState.Record

namespace Srv6Mrc.EVStateTable

variable {T : EVStateTable}

/-! ## Construction -/

/-- Every table is what `__init__` makes of its own parameters. -/
theorem new_self (T : EVStateTable) :
    new T.tenants T.numPlanes T.numPaths (some T.cfg) = .ok T := by
  have hP := T.numPlanes_pos
  have hQ := T.numPaths_pos
  have hW := T.window_nonneg
  unfold new
  rw [dif_neg T.tenants_ne, dif_neg (by omega), dif_neg (by omega),
    dif_neg (by rw [Option.getD_some]; omega)]
  simp

@[simp] theorem fresh_evs : T.fresh.evs = fun _ _ => {} := by
  have hfold : ∀ (ts : List String) (s : Store T),
      (ts.foldl (fun s tenant => T.rebuildWeightsLocked tenant s) s).evs = s.evs := by
    intro ts
    induction ts with
    | nil => intro s; rfl
    | cons t ts ih => intro s; rw [List.foldl_cons, ih]; rfl
  exact hfold T.tenants _

@[simp] theorem fresh_ticks : T.fresh.ticks = fun _ => 0 := by
  have hfold : ∀ (ts : List String) (s : Store T),
      (ts.foldl (fun s tenant => T.rebuildWeightsLocked tenant s) s).ticks = s.ticks := by
    intro ts
    induction ts with
    | nil => intro s; rfl
    | cons t ts ih => intro s; rw [List.foldl_cons, ih]; rfl
  exact hfold T.tenants _

/-! ## The grid -/

variable (T) in
/-- The EVs whose turn comes before `e`'s. -/
def before (e : T.EV) : List T.EV := T.cells.takeWhile fun c => c ≠ e

variable (T) in
/-- The EVs whose turn comes after `e`'s. -/
def behind (e : T.EV) : List T.EV := (T.cells.dropWhile fun c => c ≠ e).tail

theorem mem_cells (e : T.EV) : e ∈ T.cells := by
  unfold cells
  rw [List.mem_flatMap]
  exact ⟨e.1, List.mem_finRange _, List.mem_map.mpr ⟨e.2, List.mem_finRange _, rfl⟩⟩

theorem nodup_cells : T.cells.Nodup := by
  have hprod : T.cells = (List.finRange T.numPlanes) ×ˢ (List.finRange T.numPaths) := rfl
  rw [hprod]
  exact (List.nodup_finRange _).product (List.nodup_finRange _)

theorem not_mem_before (e : T.EV) : e ∉ T.before e := by
  intro h
  have hne := List.mem_takeWhile_imp h
  simp at hne

/-- The turns before an EV, its own, and those after it. -/
theorem cells_eq (e : T.EV) : T.cells = T.before e ++ e :: T.behind e := by
  have hsplit : T.before e ++ T.cells.dropWhile (fun c => c ≠ e) = T.cells :=
    List.takeWhile_append_dropWhile
  -- the walk stops, as `e` is a cell, and it stops at `e`
  have hne : T.cells.dropWhile (fun c => decide (c ≠ e)) ≠ [] := by
    intro hd
    rw [hd, List.append_nil] at hsplit
    exact not_mem_before e (hsplit ▸ mem_cells e)
  have hhead : (T.cells.dropWhile fun c => decide (c ≠ e)).head hne = e := by
    simpa using List.head_dropWhile_not (fun c => decide (c ≠ e)) hne
  have hcons := List.cons_head_tail hne
  rw [hhead] at hcons
  rw [behind, hcons, hsplit]

theorem not_mem_behind (e : T.EV) : e ∉ T.behind e := by
  have hnd : (T.before e ++ e :: T.behind e).Nodup := cells_eq e ▸ nodup_cells
  exact (List.nodup_cons.mp (List.nodup_append.mp hnd).2.1).1

/-- An EV whose turn is yet to come has not had it. -/
theorem not_mem_of_cells {cs rest : List T.EV} {e : T.EV} (h : cs ++ [e] ++ rest = T.cells) :
    e ∉ cs := by
  intro he
  have hnd : (cs ++ [e]).Nodup := by
    have hall := h ▸ nodup_cells (T := T)
    exact (List.nodup_append.mp hall).1
  exact (List.nodup_append.mp hnd).2.2 e he e (List.mem_singleton_self e) rfl

/-! ## The checks -/

variable (T) in
/-- The call's (tenant, plane, path) names EV `e` of `tenant`, and the table knows the tenant. -/
def Names (tenant : String) (e : T.EV) (t : String) (plane path : Int) : Prop :=
  t = tenant ∧ tenant ∈ T.tenants ∧ plane = e.1 ∧ path = e.2

instance (tenant : String) (e : T.EV) (t : String) (plane path : Int) :
    Decidable (T.Names tenant e t plane path) := by
  unfold Names; exact inferInstance

/-- The check passes the tenants of the table. -/
theorem checkTenant_none {tenant : String} : T.checkTenant tenant = none ↔ tenant ∈ T.tenants := by
  unfold checkTenant
  split
  · rename_i h; exact ⟨fun _ => h, fun _ => rfl⟩
  · rename_i h; exact ⟨fun hn => (nomatch hn), fun hm => absurd hm h⟩

/-- The check passes the EVs of the grid. -/
theorem checkEv_ok {plane path : Int} {e : T.EV} :
    T.checkEv plane path = .ok e ↔ plane = e.1 ∧ path = e.2 := by
  obtain ⟨p, q⟩ := e
  unfold checkEv
  constructor
  · intro h
    split at h
    · split at h
      · rename_i hp hq
        simp only [Except.ok.injEq, Prod.mk.injEq, Fin.ext_iff] at h
        simp only
        omega
      · nomatch h
    · nomatch h
  · rintro ⟨rfl, rfl⟩
    have hp : (p : Nat) < T.numPlanes := p.isLt
    have hq : (q : Nat) < T.numPaths := q.isLt
    have hp' : (0 : Int) ≤ (p : Nat) ∧ ((p : Nat) : Int) < T.numPlanes := by omega
    have hq' : (0 : Int) ≤ (q : Nat) ∧ ((q : Nat) : Int) < T.numPaths := by omega
    rw [dif_pos hp', dif_pos hq']
    simp

/-- A per-EV method either runs its body on the EV the call names, or raises and writes nothing. -/
theorem withEv_cases (t : String) (plane path : Int)
    (body : T.EV → Store T → Outcome PyError (Store T)) (s : Store T) :
    (∃ e : T.EV, T.Names t e t plane path ∧ T.withEv t plane path body s = body e s) ∨
    (∃ err, (∀ tenant (e : T.EV), ¬ T.Names tenant e t plane path) ∧
      T.withEv t plane path body s = .raise err s) := by
  unfold withEv
  cases ht : T.checkTenant t with
  | some err =>
    refine Or.inr ⟨err, ?_, rfl⟩
    rintro tenant e ⟨rfl, hmem, -⟩
    rw [checkTenant_none.mpr hmem] at ht
    nomatch ht
  | none =>
    have hmem := checkTenant_none.mp ht
    cases he : T.checkEv plane path with
    | ok e => exact Or.inl ⟨e, ⟨rfl, hmem, checkEv_ok.mp he⟩, rfl⟩
    | error err =>
      refine Or.inr ⟨err, ?_, rfl⟩
      rintro tenant e ⟨-, -, hpq⟩
      rw [checkEv_ok.mpr hpq] at he
      nomatch he

/-- What a per-EV method's body makes true, and what was true already, holds after the method. -/
theorem withEv_inv {I : Store T → Prop} {t : String} {plane path : Int}
    (body : T.EV → Store T → Outcome PyError (Store T)) {s : Store T}
    (hbody : ∀ e, I (body e s).state) (hs : I s) : I (T.withEv t plane path body s).state := by
  rcases withEv_cases t plane path body s with ⟨e, -, heq⟩ | ⟨err, -, heq⟩
  · rw [heq]
    exact hbody e
  · rw [heq]
    exact hs

/-- A call that names no EV raises, whatever the method. -/
theorem withEv_error {t : String} {plane path : Int}
    (h : ∀ tenant (e : T.EV), ¬ T.Names tenant e t plane path) :
    ∃ err, ∀ (body : T.EV → Store T → Outcome PyError (Store T)) (s : Store T),
      T.withEv t plane path body s = .raise err s := by
  unfold withEv
  cases ht : T.checkTenant t with
  | some err => exact ⟨err, fun _ _ => rfl⟩
  | none =>
    cases he : T.checkEv plane path with
    | ok e => exact absurd ⟨rfl, checkTenant_none.mp ht, checkEv_ok.mp he⟩ (h t e)
    | error err => exact ⟨err, fun _ _ => rfl⟩

/-- A call that names an EV is one on its record. -/
theorem withEv_of_names {tenant : String} {e : T.EV} {t : String} {plane path : Int}
    (h : T.Names tenant e t plane path) (body : T.EV → Store T → Outcome PyError (Store T))
    (s : Store T) : T.withEv t plane path body s = body e s := by
  obtain ⟨rfl, hmem, hpq⟩ := h
  unfold withEv
  rw [checkTenant_none.mpr hmem, checkEv_ok.mpr hpq]

/-- A per-EV method whose body writes only its EV, seen by one EV. -/
theorem withEv_evs {t : String} {plane path : Int}
    (body : T.EV → Store T → Outcome PyError (Store T)) {s : Store T}
    (hbody : ∀ e₀ tenant' e', tenant' ≠ t ∨ e' ≠ e₀ →
      (body e₀ s).state.evs tenant' e' = s.evs tenant' e') (tenant : String) (e : T.EV) :
    (T.withEv t plane path body s).state.evs tenant e
      = if T.Names tenant e t plane path then (body e s).state.evs tenant e
        else s.evs tenant e := by
  by_cases hN : T.Names tenant e t plane path
  · rw [if_pos hN, withEv_of_names hN]
  · rw [if_neg hN]
    rcases withEv_cases t plane path body s with ⟨e₀, hN₀, heq⟩ | ⟨err, -, heq⟩
    · rw [heq]
      refine hbody e₀ tenant e ?_
      by_contra hsame
      push Not at hsame
      obtain ⟨rfl, rfl⟩ := hsame
      exact hN hN₀
    · rw [heq]
      rfl

/-- Two EVs a call names are the same EV. -/
theorem Names.unique {tenant tenant' : String} {e e' : T.EV} {t : String} {plane path : Int}
    (h : T.Names tenant e t plane path) (h' : T.Names tenant' e' t plane path) :
    tenant = tenant' ∧ e = e' := by
  obtain ⟨rfl, -, hp, hq⟩ := h
  obtain ⟨rfl, -, hp', hq'⟩ := h'
  refine ⟨rfl, Prod.ext (Fin.ext ?_) (Fin.ext ?_)⟩
  · omega
  · omega

/-! ## Signals -/

/-- How a call reaches one EV. -/
inductive Signal where
  | sent
  | recv
  | close
  | loss (ratio : ℚ)
  | quiet
  deriving DecidableEq

variable (T) in
/-- The signal a call is for EV `e` of `tenant`; a rejected call, a call for another EV and a
    loss window with nothing expected are none. -/
def signal (tenant : String) (e : T.EV) : Call → Signal
  | .probeSent t plane path => if T.Names tenant e t plane path then .sent else .quiet
  | .probeRecv t plane path => if T.Names tenant e t plane path then .recv else .quiet
  | .tick t => if t = tenant ∧ tenant ∈ T.tenants then .close else .quiet
  | .lossWindow t plane path seen expected =>
    if T.Names tenant e t plane path ∧ 0 ≤ seen ∧ 0 < expected then
      .loss (lossRatio seen expected)
    else .quiet

/-- An interval is closed by a tick of the tenant. -/
theorem signal_close {tenant : String} {e : T.EV} {c : Call} :
    T.signal tenant e c = .close ↔ c = .tick tenant ∧ tenant ∈ T.tenants := by
  cases c with
  | tick t =>
    simp only [signal, Call.tick.injEq]
    split
    · rename_i h; exact ⟨fun _ => h, fun _ => rfl⟩
    · rename_i h; exact ⟨fun hn => (nomatch hn), fun h' => absurd h' h⟩
  | probeSent => simp only [signal]; split <;> simp
  | probeRecv => simp only [signal]; split <;> simp
  | lossWindow => simp only [signal]; split <;> simp

/-- Only a loss window is a loss signal. -/
theorem signal_loss {tenant : String} {e : T.EV} {c : Call} {ratio : ℚ}
    (h : T.signal tenant e c = .loss ratio) :
    ∃ t plane path seen expected, c = .lossWindow t plane path seen expected := by
  cases c with
  | lossWindow t plane path seen expected => exact ⟨t, plane, path, seen, expected, rfl⟩
  | probeSent => simp only [signal] at h; split at h <;> simp at h
  | probeRecv => simp only [signal] at h; split at h <;> simp at h
  | tick => simp only [signal] at h; split at h <;> simp at h

/-- A tick closes an interval, or is nothing to the tenant. -/
theorem signal_tick (tenant : String) (e : T.EV) :
    T.signal tenant e (.tick tenant) = .close ∨ T.signal tenant e (.tick tenant) = .quiet := by
  by_cases h : tenant ∈ T.tenants
  · exact Or.inl (signal_close.mpr ⟨rfl, h⟩)
  · exact Or.inr (if_neg fun h' => h h'.2)

/-- A window in which nothing arrives is a loss of all. -/
theorem signal_lost {tenant : String} (hmem : tenant ∈ T.tenants) (e : T.EV) {n : Nat}
    (h : 0 < n) : T.signal tenant e (.lossWindow tenant e.1 e.2 0 n) = .loss 1 := by
  rw [← lossRatio_zero h]
  exact if_pos ⟨⟨rfl, hmem, rfl, rfl⟩, le_refl 0, by exact_mod_cast h⟩

/-- `record_probe_sent` on one record. -/
def countSent (r : EVRecord) : EVRecord :=
  { r with currentSent := r.currentSent + 1, totalSent := r.totalSent + 1 }

/-- `record_probe_recv` on one record. -/
def countRecv (r : EVRecord) : EVRecord :=
  { r with currentRecv := r.currentRecv + 1, totalRecv := r.totalRecv + 1 }

variable (T) in
/-- The part of a tick before `e`'s turn. -/
def upTo (cb : Option (TransitionCb T)) (tenant : String) (e : T.EV) (s : Store T) :
    Outcome PyError (Store T) :=
  Outcome.forEach (T.turn cb tenant) (T.before e) (s.bumpTick tenant)

/-- What a turn leaves: the record, rotated and judged. -/
theorem turn_state (cb : Option (TransitionCb T)) (tenant : String) (e : T.EV) (s : Store T) :
    (T.turn cb tenant e s).state = s.write tenant e
      (T.judge (T.room tenant e s) (s.ticks tenant) (T.rotate (s.evs tenant e))) := by
  rw [turn_eq]

theorem turn_other (cb : Option (TransitionCb T)) {tenant tenant' : String} {e c : T.EV}
    (s : Store T) (h : tenant' ≠ tenant ∨ e ≠ c) :
    (T.turn cb tenant c s).state.evs tenant' e = s.evs tenant' e := by
  rw [turn_state, Store.write_other s _ h]

theorem turn_ticks (cb : Option (TransitionCb T)) (tenant : String) (c : T.EV) (s : Store T) :
    (T.turn cb tenant c s).state.ticks = s.ticks := by
  rw [turn_state, Store.write_ticks]

/-- Turns of other EVs leave `e` alone. -/
theorem turns_other (cb : Option (TransitionCb T)) {tenant tenant' : String} {e : T.EV}
    {cs : List T.EV} (h : tenant' ≠ tenant ∨ e ∉ cs) (s : Store T) :
    (Outcome.forEach (T.turn cb tenant) cs s).state.evs tenant' e = s.evs tenant' e := by
  refine Outcome.forEach_inv (I := fun s' : Store T => s'.evs tenant' e = s.evs tenant' e) ?_ rfl
  intro c hc s' hs'
  rw [turn_other cb s', hs']
  rcases h with h | h
  · exact Or.inl h
  · exact Or.inr fun hec => h (hec ▸ hc)

theorem turns_ticks (cb : Option (TransitionCb T)) (tenant : String) (cs : List T.EV)
    (s : Store T) :
    (Outcome.forEach (T.turn cb tenant) cs s).state.ticks = s.ticks :=
  Outcome.forEach_inv (I := fun s' : Store T => s'.ticks = s.ticks)
    (fun c _ s' hs' => by rw [turn_ticks, hs']) rfl

/-- A tick is one step of the clock and the turns of all EVs. -/
theorem tick_eq (cb : Option (TransitionCb T)) {tenant : String} (h : tenant ∈ T.tenants)
    (s : Store T) :
    T.tick cb tenant s = Outcome.forEach (T.turn cb tenant) T.cells (s.bumpTick tenant) := by
  unfold tick; rw [checkTenant_none.mpr h]

/-- A tick of an unknown tenant changes nothing. -/
theorem tick_unknown (cb : Option (TransitionCb T)) {tenant : String} (h : tenant ∉ T.tenants)
    (s : Store T) : (T.tick cb tenant s).state = s := by
  unfold tick checkTenant; rw [if_neg h]; rfl

@[simp] theorem bumpTick_ticks (s : Store T) (tenant : String) :
    (s.bumpTick tenant).ticks tenant = s.ticks tenant + 1 := by
  simp [Store.bumpTick]

/-- When an EV has its turn, the clock has made its step. -/
theorem upTo_ticks (cb : Option (TransitionCb T)) (tenant : String) (e : T.EV) (s : Store T) :
    (T.upTo cb tenant e s).state.ticks tenant = s.ticks tenant + 1 := by
  rw [upTo, turns_ticks, bumpTick_ticks]

/-- When an EV has its turn, its record is still as it was. -/
theorem upTo_evs (cb : Option (TransitionCb T)) (tenant : String) (e : T.EV) (s : Store T) :
    (T.upTo cb tenant e s).state.evs tenant e = s.evs tenant e := by
  rw [upTo, turns_other cb (Or.inr (not_mem_before e)), Store.bumpTick_evs]

/-- A tick, seen by one EV: its own turn if the turns before it all returned, else nothing. -/
theorem tick_evs (cb : Option (TransitionCb T)) {tenant : String} (h : tenant ∈ T.tenants)
    (e : T.EV) (s : Store T) :
    (T.tick cb tenant s).state.evs tenant e
      = if (T.upTo cb tenant e s).raised = none then
          T.judge (T.room tenant e (T.upTo cb tenant e s).state) (s.ticks tenant + 1)
            (T.rotate (s.evs tenant e))
        else s.evs tenant e := by
  have hsplit := Outcome.forEach_split (T.turn cb tenant) (T.before e) e (T.behind e)
    (s.bumpTick tenant)
  rw [← cells_eq e] at hsplit
  have hup : Outcome.forEach (T.turn cb tenant) (T.before e) (s.bumpTick tenant)
      = T.upTo cb tenant e s := rfl
  rw [tick_eq cb h, hsplit, hup]
  by_cases hr : (T.upTo cb tenant e s).raised = none
  · rw [Outcome.andThen_none hr, if_pos hr]
    have hturn : (T.turn cb tenant e (T.upTo cb tenant e s).state).state.evs tenant e
        = T.judge (T.room tenant e (T.upTo cb tenant e s).state) (s.ticks tenant + 1)
            (T.rotate (s.evs tenant e)) := by
      rw [turn_state, Store.write_same, upTo_ticks, upTo_evs]
    -- the turns after `e`'s leave it alone, whether they come or not
    by_cases ht : (T.turn cb tenant e (T.upTo cb tenant e s).state).raised = none
    · rw [Outcome.andThen_none ht, turns_other cb (Or.inr (not_mem_behind e)), hturn]
    · rw [Outcome.andThen_some ht, hturn]
  · rw [Outcome.andThen_some hr, if_neg hr, upTo_evs]

/-- A loss window either counts for the EV it names, or writes nothing and goes the same way
    whatever the callback. -/
theorem recordLossWindow_cases (t : String) (plane path : Int) (seen expected : Int)
    (s : Store T) :
    (∃ e : T.EV, T.Names t e t plane path ∧ 0 ≤ seen ∧ 0 < expected ∧
      ∀ cb, T.recordLossWindow cb t plane path seen expected s
        = (let r := s.evs t e
           let r' := T.lossJudge (T.room t e s) (s.ticks t) (lossRatio seen expected) r
           let s' := s.write t e r'
           ⟨s', T.notify cb s' t e r.state r'.state⟩)) ∨
    ((∀ tenant (e : T.EV), ¬ (T.Names tenant e t plane path ∧ 0 ≤ seen ∧ 0 < expected)) ∧
      ∃ raised, ∀ cb, T.recordLossWindow cb t plane path seen expected s = ⟨s, raised⟩) := by
  by_cases hN : ∃ e : T.EV, T.Names t e t plane path
  · obtain ⟨e, hN⟩ := hN
    by_cases hneg : seen < 0 ∨ expected < 0
    · refine Or.inr ⟨fun tenant e' h => by omega, some (.negativeCount seen expected), fun cb => ?_⟩
      unfold recordLossWindow
      rw [withEv_of_names hN, if_pos hneg]
      rfl
    · by_cases h0 : expected = 0
      · refine Or.inr ⟨fun tenant e' h => by omega, none, fun cb => ?_⟩
        unfold recordLossWindow
        simp only [withEv_of_names hN, if_neg hneg, if_pos h0]
        rfl
      · refine Or.inl ⟨e, hN, by omega, by omega, fun cb => ?_⟩
        exact recordLossWindow_eq cb (checkTenant_none.mpr hN.2.1) (checkEv_ok.mpr hN.2.2) hneg h0 s
  · have hno : ∀ tenant (e : T.EV), ¬ T.Names tenant e t plane path := by
      intro tenant e hN'
      exact hN ⟨e, by rw [hN'.1]; exact hN'.1 ▸ hN'⟩
    obtain ⟨err, herr⟩ := withEv_error hno
    exact Or.inr ⟨fun tenant e h => hno tenant e h.1, some err, fun cb => herr _ s⟩

/-! ## The projection onto one EV -/

variable (T) in
/-- The record of EV `e` after a call that reached it as the given signal. -/
def afterSignal (cb : Option (TransitionCb T)) (s : Store T) (tenant : String) (e : T.EV) :
    Signal → EVRecord
  | .sent => countSent (s.evs tenant e)
  | .recv => countRecv (s.evs tenant e)
  | .close =>
    if (T.upTo cb tenant e s).raised = none then
      T.judge (T.room tenant e (T.upTo cb tenant e s).state) (s.ticks tenant + 1)
        (T.rotate (s.evs tenant e))
    else s.evs tenant e
  | .loss ratio => T.lossJudge (T.room tenant e s) (s.ticks tenant) ratio (s.evs tenant e)
  | .quiet => s.evs tenant e

/-- One call, seen by one EV. -/
theorem step_evs (cb : Option (TransitionCb T)) (s : Store T) (c : Call) (tenant : String)
    (e : T.EV) :
    (T.step cb s c).state.evs tenant e = T.afterSignal cb s tenant e (T.signal tenant e c) := by
  cases c with
  | probeSent t plane path =>
    refine (withEv_evs (fun e s => .ok (s.setEv t e (countSent (s.evs t e))))
      (fun e₀ tenant' e' hne => s.setEv_other _ hne) tenant e).trans ?_
    by_cases hN : T.Names tenant e t plane path
    · have hsig : T.signal tenant e (.probeSent t plane path) = .sent := if_pos hN
      rw [if_pos hN, hsig, ← hN.1]
      exact s.setEv_same t e _
    · have hsig : T.signal tenant e (.probeSent t plane path) = .quiet := if_neg hN
      rw [if_neg hN, hsig, afterSignal]
  | probeRecv t plane path =>
    refine (withEv_evs (fun e s => .ok (s.setEv t e (countRecv (s.evs t e))))
      (fun e₀ tenant' e' hne => s.setEv_other _ hne) tenant e).trans ?_
    by_cases hN : T.Names tenant e t plane path
    · have hsig : T.signal tenant e (.probeRecv t plane path) = .recv := if_pos hN
      rw [if_pos hN, hsig, ← hN.1]
      exact s.setEv_same t e _
    · have hsig : T.signal tenant e (.probeRecv t plane path) = .quiet := if_neg hN
      rw [if_neg hN, hsig, afterSignal]
  | tick t =>
    show (T.tick cb t s).state.evs tenant e = _
    by_cases hsame : t = tenant ∧ tenant ∈ T.tenants
    · have hsig : T.signal tenant e (.tick t) = .close := if_pos hsame
      obtain ⟨rfl, hmem⟩ := hsame
      rw [hsig, tick_evs cb hmem, afterSignal]
    · have hsig : T.signal tenant e (.tick t) = .quiet := if_neg hsame
      rw [hsig, afterSignal]
      -- a tick of another tenant, or of none
      by_cases hmem : t ∈ T.tenants
      · have hne : tenant ≠ t := fun h => hsame ⟨h.symm, h ▸ hmem⟩
        rw [tick_eq cb hmem, turns_other cb (Or.inl hne), Store.bumpTick_evs]
      · rw [tick_unknown cb hmem]
  | lossWindow t plane path seen expected =>
    show (T.recordLossWindow cb t plane path seen expected s).state.evs tenant e = _
    rcases recordLossWindow_cases t plane path seen expected s with
      ⟨e₀, hN₀, hseen, hexp, heq⟩ | ⟨hno, raised, heq⟩
    · rw [heq]
      by_cases hN : T.Names tenant e t plane path
      · obtain ⟨rfl, rfl⟩ := hN₀.unique hN
        have hsig : T.signal t e₀ (.lossWindow t plane path seen expected)
            = .loss (lossRatio seen expected) := if_pos ⟨hN, hseen, hexp⟩
        rw [hsig, afterSignal]
        exact s.write_same t e₀ _
      · have hsig : T.signal tenant e (.lossWindow t plane path seen expected) = .quiet :=
          if_neg fun h => hN h.1
        rw [hsig, afterSignal]
        refine s.write_other _ ?_
        by_contra hsame
        push Not at hsame
        obtain ⟨rfl, rfl⟩ := hsame
        exact hN hN₀
    · have hsig : T.signal tenant e (.lossWindow t plane path seen expected) = .quiet :=
        if_neg (hno tenant e)
      rw [heq, hsig, afterSignal]

/-- The clock of a tenant counts its ticks. -/
theorem step_ticks (cb : Option (TransitionCb T)) (s : Store T) (c : Call) (tenant : String)
    (e : T.EV) :
    (T.step cb s c).state.ticks tenant
      = s.ticks tenant + if T.signal tenant e c = .close then 1 else 0 := by
  have hkeep : ∀ c, c ≠ .tick tenant → (if T.signal tenant e c = .close then 1 else 0) = 0 := by
    intro c hc
    rw [if_neg fun h => hc (signal_close.mp h).1]
  cases c with
  | probeSent t plane path =>
    rw [hkeep _ (by simp), Nat.add_zero]
    exact withEv_inv (I := fun s' : Store T => s'.ticks tenant = s.ticks tenant)
      (fun e s => .ok (s.setEv t e (countSent (s.evs t e)))) (fun _ => rfl) rfl
  | probeRecv t plane path =>
    rw [hkeep _ (by simp), Nat.add_zero]
    exact withEv_inv (I := fun s' : Store T => s'.ticks tenant = s.ticks tenant)
      (fun e s => .ok (s.setEv t e (countRecv (s.evs t e)))) (fun _ => rfl) rfl
  | tick t =>
    show (T.tick cb t s).state.ticks tenant = _
    by_cases hmem : t ∈ T.tenants
    · rw [tick_eq cb hmem, turns_ticks]
      by_cases hsame : t = tenant
      · subst hsame
        rw [bumpTick_ticks, if_pos (signal_close.mpr ⟨rfl, hmem⟩)]
      · rw [hkeep _ (by simpa using hsame), Nat.add_zero]
        exact Function.update_of_ne (fun h => hsame h.symm) _ _
    · have hno : ¬ T.signal tenant e (.tick t) = .close := by
        intro h
        obtain ⟨heq, hmem'⟩ := signal_close.mp h
        exact hmem (Call.tick.inj heq ▸ hmem')
      rw [tick_unknown cb hmem, if_neg hno, Nat.add_zero]
  | lossWindow t plane path seen expected =>
    rw [hkeep _ (by simp), Nat.add_zero]
    show (T.recordLossWindow cb t plane path seen expected s).state.ticks tenant = _
    rcases recordLossWindow_cases t plane path seen expected s with
      ⟨e₀, -, -, -, heq⟩ | ⟨-, raised, heq⟩
    · rw [heq]
      exact congrFun (s.write_ticks t e₀ _) tenant
    · rw [heq]

/-! ## Invariants of the whole table -/

/-- The tenant a call is made for. -/
def Call.tenant : Call → String
  | .probeSent t _ _ => t
  | .probeRecv t _ _ => t
  | .tick t => t
  | .lossWindow t _ _ _ _ => t

/-- What an invariant has to stand for calls of one tenant: the tenant's clock, and record writes
    of the tenant that demote only when given room. -/
structure WriteInv (tenant : String) (I : Store T → Prop) : Prop where
  bump : ∀ s, I s → I (s.bumpTick tenant)
  write : ∀ s e r, I s →
    (r.state = .assumedBad → (s.evs tenant e).state ≠ .assumedBad → T.room tenant e s = true) →
    I (s.write tenant e r)

namespace WriteInv

variable {tenant : String} {I : Store T → Prop}

/-- A record with the same state keeps what depends on states. -/
theorem setEv (h : WriteInv tenant I) {s : Store T} (hs : I s) {e : T.EV} {r : EVRecord}
    (hr : r.state = (s.evs tenant e).state) : I (s.setEv tenant e r) := by
  have hw : I (s.write tenant e r) := h.write s e r hs fun hb hne => absurd (hr ▸ hb) hne
  rwa [Store.write_of_state_eq hr] at hw

theorem turn (h : WriteInv tenant I) (cb : Option (TransitionCb T)) (e : T.EV) {s : Store T}
    (hs : I s) : I (T.turn cb tenant e s).state := by
  rw [turn_state]
  exact h.write s e _ hs fun hb hne =>
    (judge_bad (r := T.rotate (s.evs tenant e)) hne hb).2

/-- The invariant between any two turns of a tick. -/
theorem turns (h : WriteInv tenant I) (cb : Option (TransitionCb T)) (cs : List T.EV)
    {s : Store T} (hs : I s) : I (Outcome.forEach (T.turn cb tenant) cs s).state :=
  Outcome.forEach_inv (fun c _ _ hs' => h.turn cb c hs') hs

end WriteInv

/-- One call keeps every such invariant. -/
theorem step_inv {I : Store T → Prop} (cb : Option (TransitionCb T)) (s : Store T) (c : Call)
    (h : WriteInv c.tenant I) (hs : I s) : I (T.step cb s c).state := by
  cases c with
  | probeSent t plane path =>
    exact withEv_inv (fun e s => .ok (s.setEv t e (countSent (s.evs t e))))
      (fun e => h.setEv hs rfl) hs
  | probeRecv t plane path =>
    exact withEv_inv (fun e s => .ok (s.setEv t e (countRecv (s.evs t e))))
      (fun e => h.setEv hs rfl) hs
  | tick t =>
    show I (T.tick cb t s).state
    by_cases hmem : t ∈ T.tenants
    · rw [tick_eq cb hmem]
      exact h.turns cb T.cells (h.bump s hs)
    · rwa [tick_unknown cb hmem]
  | lossWindow t plane path seen expected =>
    show I (T.recordLossWindow cb t plane path seen expected s).state
    rcases recordLossWindow_cases t plane path seen expected s with
      ⟨e, -, -, -, heq⟩ | ⟨-, raised, heq⟩
    · rw [heq]
      exact h.write s e _ hs fun hb hne => (lossJudge_bad hne hb).2.2
    · rwa [heq]

/-! ## Runs -/

theorem after_nil (cb : Option (TransitionCb T)) : T.after cb [] = T.fresh := rfl

theorem after_snoc (cb : Option (TransitionCb T)) (calls : List Call) (c : Call) :
    T.after cb (calls ++ [c]) = (T.step cb (T.after cb calls) c).state := by
  simp [after, runFrom, List.foldl_append]

/-- The run rule: what holds of the fresh table and is kept by every call holds after every run. -/
theorem after_inv {I : Store T → Prop} (cb : Option (TransitionCb T)) (hfresh : I T.fresh)
    (hstep : ∀ s c, I s → I (T.step cb s c).state) (calls : List Call) : I (T.after cb calls) := by
  induction calls using List.reverseRecOn with
  | nil => exact hfresh
  | append_singleton calls c ih =>
    rw [after_snoc]
    exact hstep _ c ih

variable (T) in
/-- The store in the middle of a tick made after the run `calls`: `n` EVs have had their turn. -/
def midTick (cb : Option (TransitionCb T)) (calls : List Call) (tenant : String) (n : Nat) :
    Store T :=
  (Outcome.forEach (T.turn cb tenant) (T.cells.take n)
    ((T.after cb calls).bumpTick tenant)).state

/-! ## A small table -/

/-- One plane of three paths and one tenant, for concrete runs. -/
def threePaths (cfg : EVStateConfig) (h : 0 ≤ cfg.probeWindowTicks) : EVStateTable where
  tenants := ["green"]
  numPlanes := 1
  numPaths := 3
  cfg := cfg
  tenants_ne := by simp
  numPlanes_pos := by omega
  numPaths_pos := by omega
  window_nonneg := h

/-- Path `q` of that plane. -/
def onPath {cfg : EVStateConfig} {h : 0 ≤ cfg.probeWindowTicks} (q : Fin 3) :
    (threePaths cfg h).EV :=
  ((0 : Fin 1), q)

/-- What holds before each occurrence of `c` in a concrete run can be checked prefix by prefix. -/
theorem of_prefix_concat {P : List Call → Prop} {calls : List Call} {c : Call}
    (h : ∀ p ∈ calls.inits, p.getLast? = some c → P p.dropLast) :
    ∀ q, q ++ [c] <+: calls → P q := by
  intro q hq
  have hP := h _ ((List.mem_inits _ _).mpr hq) List.getLast?_concat
  rwa [List.dropLast_concat] at hP

end Srv6Mrc.EVStateTable
