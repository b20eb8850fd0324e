/-
  `srv6_mrc/mrc/scenario.py`: `validate`, from a parsed YAML document to a `Scenario`.

  The document is read top down and left to right, and the first value that is not accepted ends
  the run.  Pairs may be given by the name of a set.  The sets are made when the module is loaded:
  some have fixed host ids, some go over all hosts of the topology.
-/
import Srv6Mrc.Scenario.Fields

namespace Srv6Mrc

open Py

/-! ## Data -/

/-- `FlowPair`; a host id that was given as a boolean is the integer it equals. -/
structure FlowPair where
  tenant : String
  src : Int
  dst : Int
  deriving DecidableEq, Repr

/-- `FlowSpec` -/
structure FlowSpec where
  pairs : List FlowPair
  policySpec : Yaml
  ratePps : Int
  durationS : Binary64
  policyLabel : PolicyLabel

/-- `FaultSpec` -/
structure FaultSpec where
  kind : String
  target : String
  spec : String
  deriving DecidableEq, Repr

/-- `ReportSpec` -/
structure ReportSpec where
  out : Option String := none
  deriving DecidableEq, Repr

/-- `MrcSpec(**kwargs)`: the fields that are given, by name; the others are `None`. -/
structure MrcSpec where
  ints : List (String × Int) := []
  ratios : List (String × Binary64) := []
  deriving DecidableEq, Repr

/-- `TRIM_MODES` -/
def trimModes : List String := ["trim", "drop"]

/-- `0.0 <= x <= 1.0` -/
def isRatio (x : Binary64) : Bool := Binary64.zero.le x && x.le .one

/-- What `TrimSpec.__post_init__` accepts. -/
structure TrimSpec where
  rate : Binary64
  mode : String
  planes : List Int
  evs : List (Int × Int)
  seed : Int
  maxRetransmits : Int
  rate_range : isRatio rate
  mode_mem : mode ∈ trimModes
  max_nonneg : 0 ≤ maxRetransmits

/-- `Scenario` -/
structure Scenario where
  name : String
  description : String
  flows : List FlowSpec
  faults : List FaultSpec
  report : ReportSpec
  mrc : Option MrcSpec
  pathsPerPlane : Option Int
  sid : Option String
  transport : Option String
  trim : Option TrimSpec

variable (T : Topo)

/-! ## Named pair sets -/

/-- `_REFERENCE_PAIRS` -/
def referencePairs8 : List (Int × Int) :=
  [(0, 15), (1, 14), (2, 13), (3, 12), (4, 11), (5, 10), (6, 9), (7, 8)]

/-- `_REFERENCE_PAIRS_4` -/
def referencePairs4 : List (Int × Int) := [(0, 7), (1, 6), (2, 5), (3, 4)]

/-- `[FlowPair(tenant, a, b) for a, b in pairs]` -/
def flowPairs (tenant : String) (pairs : List (Int × Int)) : List FlowPair :=
  pairs.map fun (a, b) => ⟨tenant, a, b⟩

/-- `_all_to_all_pairs` -/
def allToAllPairs (tenant : String) : List FlowPair :=
  (List.range T.numLeaves).flatMap fun i : Nat =>
    ((List.range T.numLeaves).filter fun j => i ≠ j).map fun j : Nat => ⟨tenant, i, j⟩

/-- `_ring_pairs` -/
def ringPairs (tenant : String) : List FlowPair :=
  (List.range T.numLeaves).map fun i : Nat => ⟨tenant, i, ((i : Int) + 1) % T.numLeaves⟩

/-- `_reference_pairs` -/
def mirrorPairs (tenant : String) : List FlowPair :=
  (List.range (T.numLeaves / 2)).map fun i : Nat => ⟨tenant, i, (T.numLeaves : Int) - 1 - i⟩

/-- `NAMED_PAIR_SETS`, the entries in the order they are set. -/
def namedPairSets : List (String × List FlowPair) :=
  [("green-pairs-8", flowPairs "green" referencePairs8),
   ("yellow-pairs-8", flowPairs "yellow" referencePairs8),
   ("green-pairs-4", flowPairs "green" referencePairs4),
   ("yellow-pairs-4", flowPairs "yellow" referencePairs4),
   ("green-00-15", flowPairs "green" [(0, 15)]),
   ("yellow-00-15", flowPairs "yellow" [(0, 15)])] ++
  T.tenants.flatMap fun tenant =>
    [(tenant ++ "-all-to-all", allToAllPairs T tenant),
     (tenant ++ "-ring", ringPairs T tenant),
     (tenant ++ "-pairs", mirrorPairs T tenant)]

/-- `NAMED_PAIR_SETS.get(name)`: what the name was last set to. -/
def namedPairs (name : String) : Option (List FlowPair) :=
  ((namedPairSets T).reverse.find? fun entry => entry.1 = name).map Prod.snd

/-! ## Flows -/

/-- A pair of `_resolve_pairs`. -/
def validatePair (entry : Yaml) (path : String) : Except Raised FlowPair :=
  match entry with
  | .dict d => do
    requireKeys d path ["tenant", "src", "dst"] []
    let tenant ← requireChoice d path "tenant" T.tenants
    let src ← requireHostId T d path "src"
    let dst ← requireHostId T d path "dst"
    require (src ≠ dst) path (.text "src and dst must differ")
    return ⟨tenant, src, dst⟩
  | _ => complain path (.text "pair entry must be a mapping")

/-- `_resolve_pairs` -/
def resolvePairs (value : Yaml) (path : String) : Except Raised (List FlowPair) :=
  match value with
  | .str name =>
    match namedPairs T name with
    | some named => .ok named
    | none => complain path (.unknownPairSet name ((namedPairSets T).map Prod.fst))
  | .list entries => do
    require (!entries.isEmpty) path (.text "pair list is empty")
    entries.zipIdx.mapM fun entry => validatePair T entry.1 (indexed path entry.2)
  | _ => complain path (.text "must be a named set string or list of {tenant,src,dst}")

/-- The policy check of `_validate_flow`. -/
def checkPolicy (spec : Yaml) (path : String) : Except Raised Unit :=
  match policyFromSpec T spec with
  | .ok _ => .ok ()
  | .error err =>
    if err.isValueError then complain path (.policy err)
    else
      match err with
      | .builtin err => .error (.builtin err)
      | err => complain path (.policy err)

/-- `_validate_flow` -/
def validateFlow (v : Yaml) (path : String) : Except Raised FlowSpec :=
  match v with
  | .dict d => do
    requireKeys d path ["pairs", "policy", "rate", "duration"] []
    let pairs ← resolvePairs T (← item d "pairs") (dotted path "pairs")
    let policyRaw ← item d "policy"
    checkPolicy T policyRaw (dotted path "policy")
    let ratePps ← parseRate (← item d "rate") (dotted path "rate")
    let durationS ← parseDuration (← item d "duration") (dotted path "duration")
    let label ← (policyLabel policyRaw).mapError .builtin
    return ⟨pairs, policyRaw, ratePps, durationS, label⟩
  | _ => complain path (.text "must be a mapping")

/-! ## Faults and report -/

/-- What `netem.py` makes of a text, with the validator's path. -/
def parsed {α : Type} (x : Except NetemError α) (path : String) : Except Raised α :=
  x.mapError fun err => .scenarioError path (.netem err)

/-- `_validate_fault` -/
def validateFault (v : Yaml) (path : String) : Except Raised FaultSpec :=
  match v with
  | .dict d => do
    requireKeys d path ["kind", "target", "spec"] []
    let kind ← requireStr d path "kind"
    require (kind = "netem") (dotted path "kind") (.faultKind kind)
    let target ← requireStr d path "target"
    let spec ← requireStr d path "spec"
    let _ ← parsed (parseTarget T target) (dotted path "target")
    let _ ← parsed (normalizeSpec spec) (dotted path "spec")
    return ⟨kind, target, spec⟩
  | _ => complain path (.text "must be a mapping")

/-- `_validate_report` -/
def validateReport (value : Option Yaml) (path : String) : Except Raised ReportSpec :=
  match value.getD .null with
  | .null => .ok {}
  | .dict d => do
    requireKeys d path [] ["out"]
    match (Yaml.get "out" d).getD .null with
    | .null => .ok {}
    | .str out => .ok ⟨some out⟩
    | _ => complain (dotted path "out") (.text "must be a string path")
  | _ => complain path (.text "must be a mapping if present")

/-! ## Single values -/

/-- `_validate_paths_per_plane` -/
def validatePathsPerPlane (value : Option Yaml) (path : String) : Except Raised (Option Int) :=
  match value.getD .null with
  | .null => .ok none
  | .int n => do
    requireOf (1 ≤ n ∧ n ≤ T.numSpines) (.int n) path
      (.got ("must be 1.." ++ toString T.numSpines ++ " (NUM_SPINES on this topology)") (.int n))
    return some n
  | _ => complain path (.text "must be an integer")

/-- `_validate_sid_mode` and `_validate_transport`, with their choices. -/
def validateChoice (choices : List String) (value : Option Yaml) (path : String) :
    Except Raised (Option String) :=
  match value.getD .null with
  | .null => .ok none
  | .str s => do
    requireOf (s ∈ choices) (.str s) path (.choice choices (.str s))
    return some s
  | v => complainOf v path (.choice choices v)

/-- `SID_MODES` -/
def sidModes : List String := ["uA", "uN"]

/-- `TRANSPORTS` -/
def transports : List String := ["udp", "rdma"]

/-- `_validate_sid_mode` -/
def validateSidMode : Option Yaml → String → Except Raised (Option String) := validateChoice sidModes

/-- `_validate_transport` -/
def validateTransport : Option Yaml → String → Except Raised (Option String) :=
  validateChoice transports

/-! ## The mrc block -/

/-- `_MRC_POSITIVE_INT_FIELDS` -/
def mrcPositiveIntFields : List String :=
  ["probe_interval_ms", "probe_timeout_ms", "loss_window_ms", "max_window_skew_ms",
   "probe_window_ticks", "probe_min_samples", "probe_recover_ticks", "loss_demote_consecutive",
   "min_active_evs", "loss_backoff_reset_ticks"]

/-- `_MRC_NON_NEGATIVE_INT_FIELDS` -/
def mrcNonNegativeIntFields : List String := ["loss_backoff_max_level"]

/-- `_MRC_RATIO_FIELDS` -/
def mrcRatioFields : List String := ["probe_fail_ratio", "probe_recover_ratio", "loss_threshold"]

/-- `_MRC_OPTIONAL` -/
def mrcOptional : List String := mrcPositiveIntFields ++ mrcNonNegativeIntFields ++ mrcRatioFields

/-- The fields that are there, in the order of the names. -/
def given (d : Entries) (names : List String) : List (String × Yaml) :=
  names.filterMap fun name => (Yaml.get name d).map (name, ·)

/-- An integer from `least` on. -/
def mrcInt (path : String) (least : Int) (expected : String) (field : String × Yaml) :
    Except Raised (String × Int) :=
  match field.2.strictInt with
  | some n => do
    requireOf (least ≤ n) field.2 (dotted path field.1) (.got expected field.2)
    return (field.1, n)
  | none => complainOf field.2 (dotted path field.1) (.got expected field.2)

/-- A number in `[0.0, 1.0]`. -/
def ratio (v : Yaml) (path expected : String) : Except Raised Binary64 :=
  match v with
  | .int _ | .float _ => do
    let x ← v.toFloat.mapError .builtin
    requireOf (isRatio x) v path (.got "must be in [0.0, 1.0]" v)
    return x
  | v => complainOf v path (.got expected v)

/-- A ratio of the block. -/
def mrcRatio (path : String) (field : String × Yaml) : Except Raised (String × Binary64) := do
  let x ← ratio field.2 (dotted path field.1) "must be a number in [0.0, 1.0]"
  return (field.1, x)

/-- `_validate_mrc` -/
def validateMrc (value : Yaml) (path : String) : Except Raised MrcSpec :=
  match value with
  | .null => .ok {}
  | .dict d => do
    requireKeys d path [] mrcOptional
    let positive ← (given d mrcPositiveIntFields).mapM (mrcInt path 1 "must be a positive int")
    let nonNegative ←
      (given d mrcNonNegativeIntFields).mapM (mrcInt path 0 "must be a non-negative int")
    let ratios ← (given d mrcRatioFields).mapM (mrcRatio path)
    return ⟨positive ++ nonNegative, ratios⟩
  | _ => complain path (.text "must be a mapping if present")

/-! ## The trim block -/

/-- `mode not in TRIM_MODES` raises. -/
def trimMode (v : Yaml) (path : String) : Except Raised String :=
  match v with
  | .str s => do
    require (s ∈ trimModes) path (.text "must be one of ('trim', 'drop')")
    return s
  | _ => complain path (.text "must be one of ('trim', 'drop')")

/-- `isinstance(x, int) and not isinstance(x, bool) and x >= 0` -/
def isNatural (v : Yaml) : Bool := v.strictInt.any fun n => 0 ≤ n

/-- `ints` -/
def ints (v : Yaml) (path : String) : Except Raised (List Int) :=
  match v with
  | .list items => do
    require (items.all isNatural) path (.text "must be a list of non-negative ints")
    return items.filterMap Yaml.strictInt
  | _ => complain path (.text "must be a list of non-negative ints")

/-- An entry of `evs`. -/
def trimEv (v : Yaml) (path : String) : Except Raised (Int × Int) := do
  match ← ints v path with
  | [plane, spine] => .ok (plane, spine)
  | _ => complain path (.text "must be [plane, path]")

/-- `seed` and `max_retransmits` -/
def trimNatural (d : Entries) (path key : String) (default : Int) : Except Raised Int :=
  match ((Yaml.get key d).getD (.int default)).strictInt with
  | some n => do
    require (0 ≤ n) (dotted path key) (.text "must be a non-negative int")
    return n
  | none => complain (dotted path key) (.text "must be a non-negative int")

/-- `TrimSpec(...)` -/
def TrimSpec.new (rate : Binary64) (mode : String) (planes : List Int) (evs : List (Int × Int))
    (seed maxRetransmits : Int) : Except Raised TrimSpec :=
  if hrate : isRatio rate then
    if hmode : mode ∈ trimModes then
      if hmax : 0 ≤ maxRetransmits then
        .ok ⟨rate, mode, planes, evs, seed, maxRetransmits, hrate, hmode, hmax⟩
      else .error (.builtin .valueError)
    else .error (.builtin .valueError)
  else .error (.builtin .valueError)

/-- `_validate_trim` -/
def validateTrim (value : Yaml) (path : String) : Except Raised TrimSpec :=
  match value with
  | .dict d => do
    requireKeys d path ["rate"] ["mode", "planes", "evs", "seed", "max_retransmits"]
    let rate ← ratio (← item d "rate") (dotted path "rate") "must be in [0.0, 1.0]"
    let mode ← trimMode ((Yaml.get "mode" d).getD (.str "trim")) (dotted path "mode")
    let planes ← ints ((Yaml.get "planes" d).getD (.list [])) (dotted path "planes")
    match (Yaml.get "evs" d).getD (.list []) with
    | .list evsRaw => do
      let evs ← evsRaw.zipIdx.mapM fun ev => trimEv ev.1 (indexed (dotted path "evs") ev.2)
      let seed ← trimNatural d path "seed" 0
      let maxRetransmits ← trimNatural d path "max_retransmits" 3
      TrimSpec.new rate mode planes evs seed maxRetransmits
    | _ => complain (dotted path "evs") (.text "must be a list of [plane, path]")
  | _ => complain path (.text "must be a mapping")

/-! ## The whole document -/

/-- `doc["flows"]` -/
def flowItems (v : Yaml) : Except Raised (List Yaml) :=
  match v with
  | .list items => do
    require (!items.isEmpty) "$.flows" (.text "must be a non-empty list")
    return items
  | _ => complain "$.flows" (.text "must be a non-empty list")

/-- `doc.get("faults") or []` -/
def faultItems (value : Option Yaml) : Except Raised (List Yaml) :=
  match value with
  | none => .ok []
  | some v =>
    if v.truthy then
      match v with
      | .list items => .ok items
      | _ => complain "$.faults" (.text "must be a list if present")
    else .ok []

/-- A block that is validated if its key is there. -/
def optionally {α : Type} (value : Option Yaml) (f : Yaml → Except Raised α) :
    Except Raised (Option α) :=
  match value with
  | none => .ok none
  | some v => do
    let a ← f v
    return some a

/-- `validate` -/
def validate (doc : Yaml) : Except Raised Scenario :=
  match doc with
  | .dict d => do
    requireKeys d "$" ["name", "flows"]
      ["description", "faults", "report", "mrc", "paths_per_plane", "sid", "transport", "trim"]
    let name ← requireStr d "$" "name"
    let description ← optStr d "$" "description" ""
    let flowsRaw ← flowItems (← item d "flows")
    let flows ← flowsRaw.zipIdx.mapM fun flow => validateFlow T flow.1 (indexed "$.flows" flow.2)
    let faultsRaw ← faultItems (Yaml.get "faults" d)
    let faults ← faultsRaw.zipIdx.mapM fun fault =>
      validateFault T fault.1 (indexed "$.faults" fault.2)
    let report ← validateReport (Yaml.get "report" d) "$.report"
    let mrc ← optionally (Yaml.get "mrc" d) fun v => validateMrc v "$.mrc"
    let pathsPerPlane ← validatePathsPerPlane T (Yaml.get "paths_per_plane" d) "$.paths_per_plane"
    let sid ← validateSidMode (Yaml.get "sid" d) "$.sid"
    let transport ← validateTransport (Yaml.get "transport" d) "$.transport"
    let trim ← optionally (Yaml.get "trim" d) fun v => validateTrim v "$.trim"
    require (trim.isNone || mrc.isSome) "$.trim"
      (.text "needs an `mrc:` block (receivers NACK via the MRC agent)")
    return ⟨name, description, flows, faults, report, mrc, pathsPerPlane, sid, transport, trim⟩
  | _ => complain "$" (.text "scenario must be a mapping at top level")

end Srv6Mrc
