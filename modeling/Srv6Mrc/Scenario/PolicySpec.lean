/-
  `srv6_mrc/policy.py`: `policy_from_spec`, from a scenario's `policy:` value to a policy.

  The scenario validator calls it to see whether a value is one, and keeps the value; the sender
  calls it again for the policy itself.  A value that is none is a `ValueError`, which the validator
  turns into its own error.  But the conversions inside raise what they raise: `float(None)` is a
  `TypeError`, and `int(inf)` an `OverflowError`.
-/
import Srv6Mrc.Lib.Yaml
import Srv6Mrc.Topo.Plan

namespace Srv6Mrc

open Py

/-! ## Errors -/

/-- The exceptions of `policy_from_spec`, with the values of their messages. -/
inductive SpecError where
  /-- `ValueError(f"unknown policy: {spec!r}")` -/
  | unknownPolicy (spec : String)
  /-- `ValueError(f"unknown policy kind: {kind!r}")` -/
  | unknownKind (kind : Key)
  /-- `ValueError(f"bad policy spec: {spec!r}")` -/
  | badSpec (spec : Yaml)
  /-- `ValueError(f"weights must have {n_planes} entries, got {len(self.weights)}")` -/
  | weightsLength (numPlanes got : Nat)
  /-- `ValueError(f"weights must be >= 0, got {self.weights}")` -/
  | weightsNegative (weights : List Binary64)
  /-- `ValueError("weights sum to zero")` -/
  | weightsZero
  /-- `ValueError(f"paths_per_plane must be 1..{n_spines}, got {self.paths_per_plane}")` -/
  | pathsPerPlane (numSpines : Nat) (got : Int)
  /-- What a built-in raised. -/
  | builtin (err : Exc)

/-- `except ValueError` takes it. -/
def SpecError.isValueError : SpecError → Bool
  | builtin err => err.caught [.valueError]
  | _ => true

/-- Raise an error whose message prints something: printing an integer that is too long raises
    first. -/
def raiseSpec {α : Type} (printable : Bool) (err : SpecError) : Except SpecError α :=
  if printable then .error err else .error (.builtin .valueError)

/-! ## Policies -/

/-- What `Weighted.__post_init__` accepts. -/
structure Weighted where
  weights : List Binary64
  nonneg : weights.any (·.lt .zero) = false
  sum_pos : (Binary64.sum weights).le .zero = false

/-- What `EvSpray.__post_init__` accepts. -/
structure EvSpray where
  pathsPerPlane : Int
  numSpines : Nat
  in_range : 1 ≤ pathsPerPlane ∧ pathsPerPlane ≤ numSpines

/-- `HealthAwareMrcFactory`: nothing is checked before it is bound. -/
structure HealthAwareMrcFactory where
  pathsPerPlane : Int

/-- What `policy_from_spec` returns. -/
inductive SpecPolicy where
  | roundRobin
  | hash5Tuple
  | weighted (policy : Weighted)
  | evSpray (policy : EvSpray)
  | healthAwareMrc (factory : HealthAwareMrcFactory)

/-- `_DEFAULT_PATHS` -/
def defaultPaths : Int := -1

/-- The sentinel stands for all spines. -/
def resolvePaths (numSpines : Nat) (pathsPerPlane : Int) : Int :=
  if pathsPerPlane = defaultPaths then numSpines else pathsPerPlane

/-- `Weighted(weights=...)` -/
def Weighted.new (numPlanes : Nat) (weights : List Binary64) : Except SpecError Weighted :=
  if weights.length ≠ numPlanes then .error (.weightsLength numPlanes weights.length)
  else if hneg : weights.any (·.lt .zero) = false then
    if hsum : (Binary64.sum weights).le .zero = false then .ok ⟨weights, hneg, hsum⟩
    else .error .weightsZero
  else .error (.weightsNegative weights)

/-- `EvSpray(paths_per_plane=...)` -/
def EvSpray.new (numSpines : Nat) (pathsPerPlane : Int) : Except SpecError EvSpray :=
  if h : 1 ≤ resolvePaths numSpines pathsPerPlane ∧ resolvePaths numSpines pathsPerPlane ≤ numSpines
  then .ok ⟨resolvePaths numSpines pathsPerPlane, numSpines, h⟩
  else raiseSpec (printableInt (resolvePaths numSpines pathsPerPlane))
    (.pathsPerPlane numSpines (resolvePaths numSpines pathsPerPlane))

/-- `HealthAwareMrcFactory(paths_per_plane=...)` -/
def HealthAwareMrcFactory.new (numSpines : Nat) (pathsPerPlane : Int) : HealthAwareMrcFactory :=
  ⟨resolvePaths numSpines pathsPerPlane⟩

/-- What a conversion raises goes through. -/
def builtin {α : Type} (x : Except Exc α) : Except SpecError α := x.mapError .builtin

variable (T : Topo)

/-- `tuple(float(x) for x in value)` -/
def weightsOf (value : Yaml) : Except SpecError (List Binary64) := do
  let items ← builtin value.iterate
  items.mapM fun x => builtin x.toFloat

/-- `policy_from_spec`, for the topology with the module's numbers. -/
def policyFromSpec : Yaml → Except SpecError SpecPolicy
  | .str spec =>
    if spec = "round_robin" then .ok .roundRobin
    else if spec = "hash5tuple" then .ok .hash5Tuple
    else if spec = "ev_spray" then (EvSpray.new T.numSpines defaultPaths).map .evSpray
    else if spec = "health_aware_mrc" then
      .ok (.healthAwareMrc (HealthAwareMrcFactory.new T.numSpines defaultPaths))
    else .error (.unknownPolicy spec)
  | .dict [(kind, value)] =>
    if kind = .str "weighted" then do
      let weights ← weightsOf value
      (Weighted.new T.numPlanes weights).map .weighted
    else if kind = .str "ev_spray" then do
      let n ← builtin value.toInt
      (EvSpray.new T.numSpines n).map .evSpray
    else if kind = .str "health_aware_mrc" then do
      let n ← builtin value.toInt
      return .healthAwareMrc (HealthAwareMrcFactory.new T.numSpines n)
    else raiseSpec kind.printable (.unknownKind kind)
  | spec => raiseSpec spec.printable (.badSpec spec)

/-! ## Labels -/

/-- What a report calls a policy. -/
inductive PolicyLabel where
  | text (s : String)
  /-- `f"{key}({inner})"` -/
  | call (key : Key) (inner : PolicyLabel)
  /-- `repr(v)` -/
  | repr (v : Yaml)

/-- `_policy_label`, of `scenario.py`. -/
def policyLabel : Yaml → Except Exc PolicyLabel
  | .str s => .ok (.text s)
  | .dict [(key, v)] =>
    if key.printable then
      match v with
      | .list _ => .ok (.call key (.text "weights"))
      | v => (policyLabel v).map (.call key)
    else .error .valueError
  | v => if v.printable then .ok (.repr v) else .error .valueError

end Srv6Mrc
