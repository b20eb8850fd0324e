/-
  `srv6_mrc/mrc/ev_state.py`: the EV states, the tunables, the per-EV record and the exceptions.

  Python's `int` tunables are `Int`: the dataclass checks nothing, so a negative window or a
  negative backoff level is a value it can hold, and what the code does with one is part of the
  model.  Ratios are exact rationals where the source has floats.  Counters that only ever start at
  zero and go up are `Nat`.
-/
import Mathlib.Algebra.Group.Int.Defs
import Mathlib.Algebra.GroupWithZero.Nat
import Mathlib.Data.Rat.Defs

namespace Srv6Mrc

/-- The OCP `enum mrc_ctl_ev_state`, minus DENIED. -/
inductive EVState where
  | unknown
  | good
  | assumedBad
  deriving DecidableEq, Repr

/-- The enum member's `.value`. -/
def EVState.value : EVState → String
  | unknown => "unknown"
  | good => "good"
  | assumedBad => "assumed_bad"

/-- Spray weight per state (`_STATE_WEIGHT`). -/
def stateWeight : EVState → ℚ
  | .good => 1
  | .unknown => 1 / 2
  | .assumedBad => 0

/-- Tunables for the state machine; the defaults are the source's. -/
structure EVStateConfig where
  probeWindowTicks : Int := 5
  probeMinSamples : Int := 3
  probeFailRatio : ℚ := 1 / 2
  probeRecoverRatio : ℚ := 9 / 10
  probeRecoverTicks : Int := 5
  lossThreshold : ℚ := 1 / 4
  lossDemoteConsecutive : Int := 3
  /-- `none`: half of the grid. -/
  minActiveEvs : Option Int := none
  lossBackoffMaxLevel : Int := 3
  lossBackoffResetTicks : Int := 60

/-- The number of EVs below which the state machine refuses to demote. -/
def EVStateConfig.resolveMinActive (cfg : EVStateConfig) (numPlanes numPaths : Int) : Int :=
  let total := numPlanes * numPaths
  match cfg.minActiveEvs with
  | none => max 1 (total / 2)
  | some m => max 1 (min m total)

/-- The exceptions the modelled code can raise, one constructor per `raise` (or per failing
    built-in), with the values its message is formatted from. -/
inductive PyError where
  /-- `ValueError("tenants must be non-empty")` -/
  | tenantsEmpty
  /-- `ValueError(f"num_planes must be >= 1, got {num_planes}")` -/
  | numPlanesTooSmall (numPlanes : Int)
  /-- `ValueError(f"num_paths must be >= 1, got {num_paths}")` -/
  | numPathsTooSmall (numPaths : Int)
  /-- `deque(maxlen=win)` with `win < 0`: `ValueError("maxlen must be non-negative")` -/
  | maxlenNegative
  /-- `ValueError(f"unknown tenant {tenant!r}; known: {self._tenants}")` -/
  | unknownTenant (tenant : String) (known : List String)
  /-- `ValueError(f"plane {plane} out of range [0, {self._num_planes})")` -/
  | planeOutOfRange (plane : Int) (numPlanes : Nat)
  /-- `ValueError(f"path {path} out of range [0, {self._num_paths})")` -/
  | pathOutOfRange (path : Int) (numPaths : Nat)
  /-- `ValueError(f"seen/expected must be >= 0, got seen={seen} expected={expected}")` -/
  | negativeCount (seen expected : Int)
  /-- `hold <<= level` with `level < 0`: `ValueError("negative shift count")` -/
  | negativeShiftCount
  /-- `ValueError(f"num_planes must be positive, got {num_planes}")` -/
  | ringPlanesNotPositive (numPlanes : Int)
  /-- `ValueError(f"num_paths must be positive, got {num_paths}")` -/
  | ringPathsNotPositive (numPaths : Int)
  /-- `ValueError(f"capacity must be positive, got {capacity}")` -/
  | capacityNotPositive (capacity : Int)
  /-- `ValueError(f"window.sent length {len(window.sent)} != num_planes {self._num_planes}")` -/
  | sentLength (length numPlanes : Nat)
  /-- `ValueError(f"window.sent row length {len(plane_row)} != num_paths {self._num_paths}")` -/
  | rowLength (length numPaths : Nat)
  /-- `KeyError(key)` -/
  | keyError (key : String)
  deriving DecidableEq, Repr

/-- All mutable per-(tenant, plane, path) bookkeeping in one place (`_EVRecord`). -/
structure EVRecord where
  state : EVState := .unknown
  /-- The in-progress bucket, not yet rotated into `buckets`. -/
  currentSent : Nat := 0
  currentRecv : Nat := 0
  /-- The `(sent, recv)` buckets of the sliding window, oldest first. -/
  buckets : List (Nat × Nat) := []
  totalSent : Nat := 0
  totalRecv : Nat := 0
  consecutiveHealthyWindows : Nat := 0
  consecutiveLossDemoteWindows : Nat := 0
  lastLossRatio : ℚ := 0
  lastProbeRatio : ℚ := 0
  transitions : Nat := 0
  demotesSuppressedByFloor : Nat := 0
  lossDemoted : Bool := false
  lossBackoffLevel : Int := 0
  lastLossRecoverTick : Option Nat := none
  deriving DecidableEq, Repr

/-- `sum(s for s, _ in rec.buckets)` -/
def EVRecord.windowSent (r : EVRecord) : Nat := (r.buckets.map Prod.fst).sum

/-- `sum(r for _, r in rec.buckets)` -/
def EVRecord.windowRecv (r : EVRecord) : Nat := (r.buckets.map Prod.snd).sum

/-- Python's `a << n`. -/
def pyShiftLeft (a n : Int) : Except PyError Int :=
  if n < 0 then .error .negativeShiftCount else .ok (a * 2 ^ n.toNat)

end Srv6Mrc
