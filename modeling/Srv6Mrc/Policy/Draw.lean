/-
  `srv6_mrc/policy.py`: the weighted draw, and `HealthAwareMrc`, which draws from the live table.

  The draw is written over any type of floats, so that two policies that draw alike do so whatever
  the rounding.  On `ℚ` the weights are exact; the one rounding kept there is that of a 64-bit
  integer to a double, because it decides what the last draws are.
-/
import Srv6Mrc.EvState.Table
import Srv6Mrc.Policy.Spines

namespace Srv6Mrc

/-- The float arithmetic of a draw. -/
class Floats (F : Type) where
  zero : F
  one : F
  add : F → F → F
  div : F → F → F
  /-- `sum(xs)` -/
  sum : List F → F
  lt : F → F → Bool
  le : F → F → Bool
  /-- `x / float(1 << 64)` -/
  unit : Nat → F
  /-- A number of the table. -/
  ofRat : ℚ → F
  /-- Weights add up to a number: it is zero or less, or it is above zero. -/
  sum_weights : ∀ ws : List ℚ, (∀ w ∈ ws, 0 ≤ w) →
    le (sum (ws.map ofRat)) zero = !lt zero (sum (ws.map ofRat))

/-- `float(n)`: the nearest number with 53 significant bits, the even one of two. -/
def roundDouble (n : Nat) : Nat :=
  let ulp := 2 ^ (n.log2 + 1 - 53)
  if ulp < 2 * (n % ulp) ∨ 2 * (n % ulp) = ulp ∧ n / ulp % 2 = 1 then (n / ulp + 1) * ulp
  else n / ulp * ulp

instance : Floats ℚ where
  zero := 0
  one := 1
  add := (· + ·)
  div := (· / ·)
  sum := List.sum
  lt x y := x < y
  le x y := x ≤ y
  unit x := roundDouble x / 2 ^ 64
  ofRat := id
  sum_weights ws _ := by
    rw [List.map_id, ← decide_not]
    exact decide_eq_decide.mpr not_lt.symm

/-! ## The draw -/

section Draw

variable {F : Type} [Floats F]

/-- The running sum of `_build_cdf`. -/
def cumulate (total : F) : F → List F → List F
  | _, [] => []
  | cum, w :: ws =>
    let cum := Floats.add cum (Floats.div w total)
    cum :: cumulate total cum ws

/-- `_build_cdf` -/
def buildCdf (weights : List F) : List F :=
  let cdf := cumulate (Floats.sum weights) Floats.zero weights
  cdf.set (cdf.length - 1) Floats.one

/-- `(flow.hash5() + seq * _GOLDEN_RATIO_64) & 0xFFFFFFFFFFFFFFFF` -/
def drawBits (seq : Int) (flow : FlowKey) : Nat :=
  ((flow.hash5 + seq * goldenGamma) % 2 ^ 64).toNat

/-- `_weighted_pick` -/
def weightedPick (seq : Int) (flow : FlowKey) (cdf : List F) : Nat :=
  match cdf.findIdx? fun threshold => Floats.lt (Floats.unit (drawBits seq flow)) threshold with
  | some p => p
  | none => cdf.length - 1

/-- The weights of the flow's EVs, plane by plane. -/
def flatWeights (wgrid : List (List F)) (numPlanes : Nat) (spines : List Nat) :
    Except PolicyError (List F) :=
  ((List.range numPlanes).mapM fun plane =>
    (index wgrid plane).bind fun row => spines.mapM (index row)).map List.flatten

/-- `seq % n`, over all EVs of the flow. -/
def fallback (numPlanes : Nat) (spines : List Nat) (seq : Int) : Except PolicyError Nat :=
  if numPlanes * spines.length = 0 then .error .zeroDivision
  else .ok (seq % (numPlanes * spines.length : Nat)).toNat

/-- Back from an index among the flow's EVs to plane and spine. -/
def decodeEv (spines : List Nat) (evIdx : Nat) : Except PolicyError (Nat × Nat) :=
  (index spines (evIdx % spines.length)).map fun spine => (evIdx / spines.length, spine)

end Draw

/-! ## The spines of a flow, cached -/

/-- `_spine_subsets` -/
abbrev SpineSubsets : Type := List (FlowKey × List Nat)

/-- `dict.get` -/
def cached {α β : Type} [DecidableEq α] (cache : List (α × β)) (key : α) : Option β :=
  (cache.find? fun entry => entry.1 = key).map Prod.snd

/-- `_spines_for_flow` -/
def spinesForFlow (numSpines pathsPerPlane : Nat) (cache : SpineSubsets) (flow : FlowKey) :
    Except PolicyError (List Nat) × SpineSubsets :=
  match cached cache flow with
  | some subset => (.ok subset, cache)
  | none =>
    match selectSpinesForAddrs numSpines flow.srcAddr flow.dstAddr pathsPerPlane with
    | .error err => (.error err, cache)
    | .ok subset => (.ok subset, (flow, subset) :: cache)

/-- What is cached for a flow is what would be selected. -/
def SpinesCoherent (numSpines pathsPerPlane : Nat) (cache : SpineSubsets) : Prop :=
  ∀ entry ∈ cache,
    selectSpinesForAddrs numSpines entry.1.srcAddr entry.1.dstAddr pathsPerPlane = .ok entry.2

theorem cached_some {α β : Type} [DecidableEq α] {cache : List (α × β)} {key : α} {value : β}
    (h : cached cache key = some value) : (key, value) ∈ cache := by
  obtain ⟨entry, hfind, rfl⟩ := Option.map_eq_some_iff.mp h
  obtain rfl : entry.1 = key := by simpa using List.find?_some hfind
  exact List.mem_of_find?_eq_some hfind

/-- The cache is not observable. -/
theorem spinesForFlow_eq {numSpines pathsPerPlane : Nat} {cache : SpineSubsets}
    (h : SpinesCoherent numSpines pathsPerPlane cache) (flow : FlowKey) :
    (spinesForFlow numSpines pathsPerPlane cache flow).1
        = selectSpinesForAddrs numSpines flow.srcAddr flow.dstAddr pathsPerPlane ∧
      SpinesCoherent numSpines pathsPerPlane
        (spinesForFlow numSpines pathsPerPlane cache flow).2 := by
  unfold spinesForFlow
  cases hc : cached cache flow with
  | some subset => exact ⟨(h _ (cached_some hc)).symm, h⟩
  | none =>
    dsimp only
    cases hs : selectSpinesForAddrs numSpines flow.srcAddr flow.dstAddr pathsPerPlane with
    | error err => exact ⟨rfl, h⟩
    | ok subset =>
      refine ⟨rfl, fun entry he => ?_⟩
      rcases List.mem_cons.mp he with rfl | he
      · exact hs
      · exact h entry he

/-! ## The live policy -/

/-- What `HealthAwareMrc.__post_init__` accepts. -/
structure HealthAwareMrc where
  table : EVStateTable
  tenant : String
  pathsPerPlane : Nat
  tenant_mem : tenant ∈ table.tenants
  paths_pos : 1 ≤ pathsPerPlane
  paths_le : pathsPerPlane ≤ table.numPaths

namespace HealthAwareMrc

/-- `__post_init__`, for a topology of `planes` planes with `spines` spines each. -/
def new (table : EVStateTable) (tenant : String) (pathsPerPlane : Int) (planes spines : Nat) :
    Except PolicyError HealthAwareMrc :=
  let paths : Int := if pathsPerPlane = -1 then spines else pathsPerPlane
  if hmem : tenant ∈ table.tenants then
    if table.numPlanes ≠ planes then .error (.planesMismatch table.numPlanes planes)
    else if hpaths : table.numPaths ≠ spines then .error (.pathsMismatch table.numPaths spines)
    else if hrange : 1 ≤ paths ∧ paths ≤ spines then
      .ok {
        table := table
        tenant := tenant
        pathsPerPlane := paths.toNat
        tenant_mem := hmem
        paths_pos := by omega
        paths_le := by omega }
    else .error (.pathsPerPlane spines paths)
  else .error (.tenantNotConfigured tenant table.tenants)

variable {F : Type} [Floats F]

/-- `pick_ev` from the grid and the flow's spines on. -/
def draw (wgrid : List (List F)) (numPlanes : Nat) (spines : List Nat) (seq : Int)
    (flow : FlowKey) : Except PolicyError (Nat × Nat) :=
  (flatWeights wgrid numPlanes spines).bind fun flat =>
    let evIdx :=
      if Floats.le (Floats.sum flat) (Floats.zero : F) then fallback numPlanes spines seq
      else .ok (weightedPick seq flow (buildCdf flat))
    evIdx.bind (decodeEv spines)

/-- The table's grid in floats. -/
def wgrid (F : Type) [Floats F] (p : HealthAwareMrc) (s : p.table.Store) :
    Except PolicyError (List (List F)) :=
  match p.table.weightsEv p.tenant s with
  | .error err => .error (.table err)
  | .ok weights => .ok (weights.map fun row => row.map Floats.ofRat)

/-- `pick_ev`: the EV, and the cache it leaves. -/
def pickEv (F : Type) [Floats F] (p : HealthAwareMrc) (s : p.table.Store) (cache : SpineSubsets)
    (seq : Int) (flow : FlowKey) : Except PolicyError (Nat × Nat) × SpineSubsets :=
  let (spines, cache) := spinesForFlow p.table.numPaths p.pathsPerPlane cache flow
  (spines.bind fun spines => (p.wgrid F s).bind fun wgrid =>
    draw wgrid p.table.numPlanes spines seq flow, cache)

end HealthAwareMrc

end Srv6Mrc
