/-
  `srv6_mrc/mrc/ev_state.py`: `EVStateTable`, as the source computes it.

  The object is split in two.  `EVStateTable` holds what `__init__` fixes — tenants, grid, config —
  together with the checks it made, so that a table with no tenant or an empty grid cannot be
  written down; `Store T` holds what the methods mutate.  A method is a function from the store to
  an `Outcome`: the store it leaves and the exception it raised, because a `tick` that raises half
  way keeps the EVs it had already rotated.

  Lookups `self._evs[tenant][plane][path]` are applications of a function, written with
  `Function.update`.  EVs are pairs of `Fin`s; the Python integers a caller passes become one
  through `checkEv`, as in `_check_ev`.
-/
import Mathlib.Data.List.FinRange
import Mathlib.Algebra.Order.Field.Rat
import Srv6Mrc.Lib.Outcome
import Srv6Mrc.Lib.SlidingWindow
import Srv6Mrc.EvState.Config

namespace Srv6Mrc

/-- What `EVStateTable.__init__` fixes for the life of the object. -/
structure EVStateTable where
  tenants : List String
  numPlanes : Nat
  numPaths : Nat
  cfg : EVStateConfig
  tenants_ne : tenants ≠ []
  numPlanes_pos : 1 ≤ numPlanes
  numPaths_pos : 1 ≤ numPaths
  /-- `deque(maxlen=win)` accepted the window. -/
  window_nonneg : 0 ≤ cfg.probeWindowTicks

namespace EVStateTable

/-- `EVStateTable.__init__`, the checks. -/
def new (tenants : List String) (numPlanes numPaths : Int) (cfg : Option EVStateConfig) :
    Except PyError EVStateTable :=
  if h₁ : tenants = [] then .error .tenantsEmpty
  else if h₂ : numPlanes < 1 then .error (.numPlanesTooSmall numPlanes)
  else if h₃ : numPaths < 1 then .error (.numPathsTooSmall numPaths)
  else if h₄ : (cfg.getD {}).probeWindowTicks < 0 then .error .maxlenNegative
  else .ok {
    tenants := tenants
    numPlanes := numPlanes.toNat
    numPaths := numPaths.toNat
    cfg := cfg.getD {}
    tenants_ne := h₁
    numPlanes_pos := by omega
    numPaths_pos := by omega
    window_nonneg := by omega }

variable (T : EVStateTable)

/-- An EV of the grid: a (plane, path) pair in range. -/
abbrev EV : Type := Fin T.numPlanes × Fin T.numPaths

/-- The grid in the order of the nested `for plane ... for path ...` loops. -/
def cells : List T.EV :=
  (List.finRange T.numPlanes).flatMap fun p => (List.finRange T.numPaths).map fun q => (p, q)

/-- `self._min_active` -/
def minActive : Int := T.cfg.resolveMinActive T.numPlanes T.numPaths

/-- The `maxlen` of every record's bucket deque. -/
def win : Nat := T.cfg.probeWindowTicks.toNat

/-- The mutable attributes: `_evs`, `_weights_cache`, `_ticks`. -/
structure Store where
  evs : String → T.EV → EVRecord
  weightsCache : String → List (List ℚ)
  ticks : String → Nat

variable {T}

namespace Store

/-- Write one record. -/
def setEv (s : Store T) (tenant : String) (e : T.EV) (r : EVRecord) : Store T :=
  { s with evs := Function.update s.evs tenant (Function.update (s.evs tenant) e r) }

/-- `self._ticks[tenant] += 1` -/
def bumpTick (s : Store T) (tenant : String) : Store T :=
  { s with ticks := Function.update s.ticks tenant (s.ticks tenant + 1) }

end Store

/-- An `on_transition` callback: it is told tenant, EV, old and new state, can read the table as it
    then stands, and may raise.  The repository's own writes nothing to the table. -/
abbrev TransitionCb (T : EVStateTable) : Type :=
  Store T → String → T.EV → EVState → EVState → Option PyError

variable (T)

/-! ## Internals -/

/-- `_check_tenant`: the error, if any. -/
def checkTenant (tenant : String) : Option PyError :=
  if tenant ∈ T.tenants then none else some (.unknownTenant tenant T.tenants)

/-- `_check_ev`: the EV, if both indices are in range. -/
def checkEv (plane path : Int) : Except PyError T.EV :=
  if hp : 0 ≤ plane ∧ plane < T.numPlanes then
    if hq : 0 ≤ path ∧ path < T.numPaths then
      .ok (⟨plane.toNat, by omega⟩, ⟨path.toNat, by omega⟩)
    else .error (.pathOutOfRange path T.numPaths)
  else .error (.planeOutOfRange plane T.numPlanes)

/-- The checks at the head of every per-EV method, then the method's body. -/
def withEv (tenant : String) (plane path : Int) (body : T.EV → Store T → Outcome PyError (Store T))
    (s : Store T) : Outcome PyError (Store T) :=
  match T.checkTenant tenant with
  | some err => .raise err s
  | none =>
    match T.checkEv plane path with
    | .error err => .raise err s
    | .ok e => body e s

/-- The grid of spray weights before normalisation. -/
def rawWeights (grid : T.EV → EVRecord) : List (List ℚ) :=
  (List.finRange T.numPlanes).map fun p =>
    (List.finRange T.numPaths).map fun q => stateWeight (grid (p, q)).state

/-- The grid `_rebuild_weights_locked` publishes. -/
def gridWeights (grid : T.EV → EVRecord) : List (List ℚ) :=
  let raw := T.rawWeights grid
  let total := raw.flatten.sum
  if total ≤ 0 then
    let w : ℚ := 1 / (T.numPlanes * T.numPaths : Nat)
    List.replicate T.numPlanes (List.replicate T.numPaths w)
  else raw.map fun row => row.map fun x => x / total

/-- `_rebuild_weights_locked` -/
def rebuildWeightsLocked (tenant : String) (s : Store T) : Store T :=
  { s with
    weightsCache := Function.update s.weightsCache tenant (T.gridWeights (s.evs tenant)) }

/-- The store `__init__` leaves: default records, one weight grid per tenant, clocks at zero. -/
def fresh : Store T :=
  T.tenants.foldl (fun s tenant => T.rebuildWeightsLocked tenant s)
    { evs := fun _ _ => {}, weightsCache := fun _ => [], ticks := fun _ => 0 }

/-- `_transition_locked` -/
def transitionLocked (cb : Option (TransitionCb T)) (tenant : String) (e : T.EV)
    (newState : EVState) (s : Store T) : Outcome PyError (Store T) :=
  let rec₀ := s.evs tenant e
  let old := rec₀.state
  if old = newState then .ok s
  else
    let rec₁ := { rec₀ with state := newState, transitions := rec₀.transitions + 1 }
    let rec₂ :=
      if newState = .good then
        let r := { rec₁ with consecutiveHealthyWindows := 0 }
        if r.lossDemoted then
          { r with lastLossRecoverTick := some (s.ticks tenant), lossDemoted := false }
        else r
      else rec₁
    let rec₃ :=
      if newState = .assumedBad then
        { rec₂ with consecutiveHealthyWindows := 0, consecutiveLossDemoteWindows := 0 }
      else rec₂
    let s' := T.rebuildWeightsLocked tenant (s.setEv tenant e rec₃)
    match cb with
    | none => .ok s'
    | some f => ⟨s', f s' tenant e old newState⟩

/-- The loop at the head of `_try_demote_locked`: the other EVs that are not ASSUMED_BAD. -/
def usableAfter (tenant : String) (e : T.EV) (s : Store T) : Nat :=
  T.cells.countP fun c => c ≠ e ∧ (s.evs tenant c).state ≠ .assumedBad

/-- The `if by_loss:` block of `_try_demote_locked`: a loss-driven demotion soon after a
    loss-driven recovery doubles the next hold, any other starts from the base hold. -/
def nextLevel (now : Nat) (r : EVRecord) : Int :=
  match r.lastLossRecoverTick with
  | none => 0
  | some last =>
    if (now : Int) - last < T.cfg.lossBackoffResetTicks then
      min (r.lossBackoffLevel + 1) T.cfg.lossBackoffMaxLevel
    else 0

/-- `_try_demote_locked` -/
def tryDemoteLocked (cb : Option (TransitionCb T)) (tenant : String) (e : T.EV) (byLoss : Bool)
    (s : Store T) : Outcome PyError (Store T) :=
  let rec₀ := s.evs tenant e
  if (T.usableAfter tenant e s : Int) < T.minActive then
    .ok (s.setEv tenant e
      { rec₀ with demotesSuppressedByFloor := rec₀.demotesSuppressedByFloor + 1 })
  else
    let rec₁ :=
      if byLoss then { rec₀ with lossBackoffLevel := T.nextLevel (s.ticks tenant) rec₀ } else rec₀
    let rec₂ := { rec₁ with lossDemoted := byLoss }
    T.transitionLocked cb tenant e .assumedBad (s.setEv tenant e rec₂)

/-- `hold` in `_evaluate_locked`: how many healthy windows a recovery takes. -/
def hold (r : EVRecord) : Except PyError Int :=
  if r.lossDemoted then pyShiftLeft T.cfg.probeRecoverTicks r.lossBackoffLevel
  else .ok T.cfg.probeRecoverTicks

/-- `_evaluate_locked` -/
def evaluateLocked (cb : Option (TransitionCb T)) (tenant : String) (e : T.EV) (s : Store T) :
    Outcome PyError (Store T) :=
  let rec₀ := s.evs tenant e
  let sent := rec₀.windowSent
  let recv := rec₀.windowRecv
  if sent = 0 then .ok (s.setEv tenant e { rec₀ with lastProbeRatio := 0 })
  else
    let cappedRecv := min recv sent
    let ratio : ℚ := cappedRecv / sent
    let rec₁ := { rec₀ with lastProbeRatio := ratio }
    if (sent : Int) < T.cfg.probeMinSamples then
      .ok (s.setEv tenant e { rec₁ with consecutiveHealthyWindows := 0 })
    else if ratio < T.cfg.probeFailRatio then
      let s' := s.setEv tenant e { rec₁ with consecutiveHealthyWindows := 0 }
      if rec₁.state ≠ .assumedBad then T.tryDemoteLocked cb tenant e false s' else .ok s'
    else if T.cfg.probeRecoverRatio ≤ ratio then
      let rec₂ :=
        { rec₁ with consecutiveHealthyWindows := rec₁.consecutiveHealthyWindows + 1 }
      let s' := s.setEv tenant e rec₂
      match T.hold rec₂ with
      | .error err => .raise err s'
      | .ok hold =>
        if rec₂.state ≠ .good ∧ rec₂.consecutiveLossDemoteWindows = 0
            ∧ hold ≤ rec₂.consecutiveHealthyWindows then
          T.transitionLocked cb tenant e .good s'
        else .ok s'
    else .ok (s.setEv tenant e { rec₁ with consecutiveHealthyWindows := 0 })

/-! ## Signal ingress -/

/-- `record_probe_sent` -/
def recordProbeSent (tenant : String) (plane path : Int) (s : Store T) :
    Outcome PyError (Store T) :=
  T.withEv tenant plane path (fun e s =>
    let r := s.evs tenant e
    .ok (s.setEv tenant e
      { r with currentSent := r.currentSent + 1, totalSent := r.totalSent + 1 })) s

/-- `record_probe_recv` -/
def recordProbeRecv (tenant : String) (plane path : Int) (s : Store T) :
    Outcome PyError (Store T) :=
  T.withEv tenant plane path (fun e s =>
    let r := s.evs tenant e
    .ok (s.setEv tenant e
      { r with currentRecv := r.currentRecv + 1, totalRecv := r.totalRecv + 1 })) s

/-- Rotate one record's in-progress bucket into its window. -/
def rotate (r : EVRecord) : EVRecord :=
  { r with
    buckets := appendMax T.win r.buckets (r.currentSent, r.currentRecv)
    currentSent := 0
    currentRecv := 0 }

/-- The body of `tick`'s loop: rotate one EV's bucket, then evaluate the EV. -/
def turn (cb : Option (TransitionCb T)) (tenant : String) (e : T.EV) (s : Store T) :
    Outcome PyError (Store T) :=
  T.evaluateLocked cb tenant e (s.setEv tenant e (T.rotate (s.evs tenant e)))

/-- `tick` -/
def tick (cb : Option (TransitionCb T)) (tenant : String) (s : Store T) :
    Outcome PyError (Store T) :=
  match T.checkTenant tenant with
  | some err => .raise err s
  | none => Outcome.forEach (T.turn cb tenant) T.cells (s.bumpTick tenant)

/-- `record_loss_window` -/
def recordLossWindow (cb : Option (TransitionCb T)) (tenant : String) (plane path : Int)
    (seen expected : Int) (s : Store T) : Outcome PyError (Store T) :=
  T.withEv tenant plane path (fun e s =>
    if seen < 0 ∨ expected < 0 then .raise (.negativeCount seen expected) s
    else
      let seen := if expected < seen then expected else seen
      if expected = 0 then .ok s
      else
        let ratio : ℚ := (expected - seen : Int) / expected
        let rec₀ := { s.evs tenant e with lastLossRatio := ratio }
        if T.cfg.lossThreshold < ratio then
          let rec₁ := { rec₀ with
            consecutiveLossDemoteWindows := rec₀.consecutiveLossDemoteWindows + 1 }
          let s' := s.setEv tenant e rec₁
          if rec₁.state ≠ .assumedBad
              ∧ T.cfg.lossDemoteConsecutive ≤ rec₁.consecutiveLossDemoteWindows then
            T.tryDemoteLocked cb tenant e true s'
          else .ok s'
        else if ratio ≤ T.cfg.lossThreshold / 2 then
          .ok (s.setEv tenant e { rec₀ with consecutiveLossDemoteWindows := 0 })
        else .ok (s.setEv tenant e rec₀)) s

/-! ## Reads -/

/-- `state` -/
def state (tenant : String) (plane path : Int) (s : Store T) : Except PyError EVState :=
  match T.checkTenant tenant with
  | some err => .error err
  | none => (T.checkEv plane path).map fun e => (s.evs tenant e).state

/-- `weights_ev` -/
def weightsEv (tenant : String) (s : Store T) : Except PyError (List (List ℚ)) :=
  match T.checkTenant tenant with
  | some err => .error err
  | none => .ok (s.weightsCache tenant)

/-! ## Runs -/

/-- One mutating call on the table. -/
inductive Call where
  | probeSent (tenant : String) (plane path : Int)
  | probeRecv (tenant : String) (plane path : Int)
  | tick (tenant : String)
  | lossWindow (tenant : String) (plane path : Int) (seen expected : Int)
  deriving DecidableEq, Repr

/-- Make one call. -/
def step (cb : Option (TransitionCb T)) (s : Store T) : Call → Outcome PyError (Store T)
  | .probeSent tenant plane path => T.recordProbeSent tenant plane path s
  | .probeRecv tenant plane path => T.recordProbeRecv tenant plane path s
  | .tick tenant => T.tick cb tenant s
  | .lossWindow tenant plane path seen expected =>
    T.recordLossWindow cb tenant plane path seen expected s

/-- The store after a run of calls from `s`, calls that raise included. -/
def runFrom (cb : Option (TransitionCb T)) (s : Store T) (calls : List Call) : Store T :=
  calls.foldl (fun s c => (T.step cb s c).state) s

/-- The store after a run of calls on a fresh table. -/
def after (cb : Option (TransitionCb T)) (calls : List Call) : Store T :=
  T.runFrom cb T.fresh calls

end EVStateTable
end Srv6Mrc
