/-
  What `validate` reads, and in which order.

  A document is laid out as the list of its values, each in the way the validator looks at it.  A
  way of looking (`Look`) has the values it accepts and the values that make it fall over: those
  that cannot be converted, sorted or printed.  `validate` follows the list (`validate_follows`): it
  comes to what the first value that is not accepted comes to.
-/
import Srv6Mrc.Scenario.Validate

namespace Srv6Mrc

open Py

/-! ## Ways of looking at a value -/

/-- A value, and how it is looked at. -/
inductive Look where
  /-- A check whose error prints no value. -/
  | plain (ok : Bool)
  /-- A check whose error prints the value. -/
  | shown (ok : Bool) (v : Yaml)
  /-- The keys of a mapping. -/
  | keys (d : Entries) (required optional : List String)
  /-- `float(v)` -/
  | number (v : Yaml)
  /-- `int(v)` -/
  | integer (v : Yaml)
  /-- `for x in v` -/
  | iterable (v : Yaml)
  /-- The `rate` of a flow. -/
  | rate (v : Yaml)
  /-- The `duration` of a flow. -/
  | duration (v : Yaml)
  /-- The label of a policy. -/
  | label (spec : Yaml)

/-- The label of a policy prints no integer that is too long: a list is not printed. -/
def labelPrints : Yaml → Bool
  | .str _ => true
  | .dict [(key, v)] =>
    key.printable &&
      match v with
      | .list _ => true
      | v => labelPrints v
  | v => v.printable

namespace Look

/-- The value passes. -/
def accepted : Look → Bool
  | plain ok => ok
  | shown ok _ => ok
  | keys d required optional =>
    (missingKeys d required).isEmpty && (extraKeys d (required ++ optional)).isEmpty
  | number v =>
    match v with
    | .bool _ | .float _ => true
    | .int n => n.natAbs < floatRange
    | .str s => (floatOfText s).isSome
    | _ => false
  | integer v =>
    match v with
    | .bool _ | .int _ | .float (.finite _) => true
    | .str s => (intOfText s).isSome
    | _ => false
  | iterable v =>
    match v with
    | .str _ | .list _ | .dict _ => true
    | _ => false
  | rate v =>
    match v with
    | .str s => (rateMatch s).any fun digits => digits.length ≤ maxStrDigits
    | v => v.intValue.any fun n => 0 < n
  | duration v =>
    match v with
    | .str s => (durationMatch s).isSome
    | .float x => Binary64.zero.lt x
    | v => v.intValue.any fun n => 0 < n ∧ n.natAbs < floatRange
  | label spec => labelPrints spec

/-- The value, if it does not pass, makes the validator fall over. -/
def upsets : Look → Bool
  | plain _ => false
  -- an integer that is too long to print
  | shown _ v => !v.printable
  -- keys without an order, or too long to print
  | keys d required optional =>
    (missingKeys d required).isEmpty &&
      (!Key.sortable (extraKeys d (required ++ optional)) ||
        !(extraKeys d (required ++ optional)).all Key.printable)
  -- no number at all, or one out of range
  | number v =>
    match v with
    | .null | .list _ | .dict _ | .int _ => true
    | _ => false
  | integer v =>
    match v with
    | .null | .list _ | .dict _ | .float (.infinity _) => true
    | _ => false
  | iterable _ => true
  -- too many digits, or an integer that is too long to print
  | rate v =>
    match v with
    | .str s => (rateMatch s).isSome
    | v => !v.printable
  -- an integer out of range, or too long to print
  | duration v => v.intValue.any (0 < ·) || !v.printable
  | label _ => true

end Look

instance : Judged Look where
  verdict r := if r.accepted then .accept else if r.upsets then .escape else .refuse

/-! ## The values of a document, in order -/

/-- The value at a key, as far as there is one. -/
def field (key : String) (d : Entries) : Yaml := (Yaml.get key d).getD .null

/-- A text, and not the empty one. -/
def isText (v : Yaml) : Bool :=
  match v with
  | .str s => s ≠ ""
  | _ => false

/-- One of these texts. -/
def isOneOf (choices : List String) (v : Yaml) : Bool :=
  match v with
  | .str s => s ∈ choices
  | _ => false

/-- A text that has this property. -/
def isTextWith (ok : String → Bool) (v : Yaml) : Bool :=
  match v with
  | .str s => ok s
  | _ => false

variable (T : Topo)

/-- The id of a host. -/
def isHostId (v : Yaml) : Bool := v.intValue.any fun n : Int => 0 ≤ n ∧ n < T.numLeaves

def pairLooks (v : Yaml) : List Look :=
  match v with
  | .dict d =>
    [.keys d ["tenant", "src", "dst"] [],
     .shown (isOneOf T.tenants (field "tenant" d)) (field "tenant" d),
     .shown (isHostId T (field "src" d)) (field "src" d),
     .shown (isHostId T (field "dst" d)) (field "dst" d),
     .plain ((field "src" d).intValue ≠ (field "dst" d).intValue)]
  | _ => [.plain false]

def pairsLooks (v : Yaml) : List Look :=
  match v with
  | .str name => [.plain (namedPairs T name).isSome]
  | .list entries => .plain (!entries.isEmpty) :: entries.flatMap (pairLooks T)
  | _ => [.plain false]

/-- The items that `for x in v` goes over. -/
def elements (v : Yaml) : List Yaml := v.iterate.toOption.getD []

/-- `Weighted` takes these weights. -/
def isWeights (numPlanes : Nat) (weights : List Binary64) : Bool :=
  weights.length = numPlanes && !weights.any (·.lt .zero) && !(Binary64.sum weights).le .zero

/-- `EvSpray` takes this number of paths. -/
def isFanOut (numSpines : Nat) (n : Int) : Bool :=
  1 ≤ resolvePaths numSpines n && resolvePaths numSpines n ≤ numSpines

def policyLooks (spec : Yaml) : List Look :=
  match spec with
  | .str s =>
    [.plain (s ∈ ["round_robin", "hash5tuple", "health_aware_mrc"] ||
      s = "ev_spray" && isFanOut T.numSpines defaultPaths)]
  | .dict [(kind, value)] =>
    if kind = .str "weighted" then
      [.iterable value] ++ ((elements value).flatMap (fun x => [.number x]) ++
        [.plain (isWeights T.numPlanes ((elements value).filterMap fun x => x.toFloat.toOption))])
    else if kind = .str "ev_spray" then
      [.integer value] ++ [.plain (value.toInt.toOption.any (isFanOut T.numSpines))]
    else if kind = .str "health_aware_mrc" then [.integer value]
    else [.plain false]
  | _ => [.plain false]

def flowLooks (v : Yaml) : List Look :=
  match v with
  | .dict d =>
    .keys d ["pairs", "policy", "rate", "duration"] [] ::
      (pairsLooks T (field "pairs" d) ++ (policyLooks T (field "policy" d) ++
        [.rate (field "rate" d), .duration (field "duration" d), .label (field "policy" d)]))
  | _ => [.plain false]

/-- `parse_target` returns. -/
def isTarget (target : String) : Bool := (parseTarget T target).toOption.isSome

/-- `normalize_spec` returns. -/
def isNetemSpec (spec : String) : Bool := (normalizeSpec spec).toOption.isSome

def faultLooks (v : Yaml) : List Look :=
  match v with
  | .dict d =>
    [.keys d ["kind", "target", "spec"] [], .plain (isText (field "kind" d)),
     .plain (isOneOf ["netem"] (field "kind" d)), .plain (isText (field "target" d)),
     .plain (isText (field "spec" d)), .plain (isTextWith (isTarget T) (field "target" d)),
     .plain (isTextWith isNetemSpec (field "spec" d))]
  | _ => [.plain false]

def reportLooks (value : Option Yaml) : List Look :=
  match value.getD .null with
  | .null => []
  | .dict d =>
    [.keys d [] ["out"],
     .plain (match field "out" d with
       | .null | .str _ => true
       | _ => false)]
  | _ => [.plain false]

def pathsPerPlaneLooks (value : Option Yaml) : List Look :=
  match value.getD .null with
  | .null => []
  | .int n => [.shown (1 ≤ n ∧ n ≤ T.numSpines) (.int n)]
  | _ => [.plain false]

def choiceLooks (choices : List String) (value : Option Yaml) : List Look :=
  match value.getD .null with
  | .null => []
  | v => [.shown (isOneOf choices v) v]

def ratioLooks (v : Yaml) : List Look :=
  match v with
  | .int _ | .float _ => [.number v, .shown (v.toFloat.toOption.any isRatio) v]
  | v => [.shown false v]

def mrcIntLooks (least : Int) (v : Yaml) : List Look :=
  [.shown (v.strictInt.any fun n => least ≤ n) v]

def mrcLooks (value : Yaml) : List Look :=
  match value with
  | .null => []
  | .dict d =>
    .keys d [] mrcOptional ::
      ((given d mrcPositiveIntFields).flatMap (fun entry => mrcIntLooks 1 entry.2) ++
        ((given d mrcNonNegativeIntFields).flatMap (fun entry => mrcIntLooks 0 entry.2) ++
          (given d mrcRatioFields).flatMap fun entry => ratioLooks entry.2))
  | _ => [.plain false]

def isNaturals (v : Yaml) : Bool :=
  match v with
  | .list items => items.all isNatural
  | _ => false

def isEv (v : Yaml) : Bool :=
  match v with
  | .list items => items.all isNatural && items.length = 2
  | _ => false

def trimLooks (value : Yaml) : List Look :=
  match value with
  | .dict d =>
    .keys d ["rate"] ["mode", "planes", "evs", "seed", "max_retransmits"] ::
      (ratioLooks (field "rate" d) ++
        ([.plain (isOneOf trimModes ((Yaml.get "mode" d).getD (.str "trim"))),
          .plain (isNaturals ((Yaml.get "planes" d).getD (.list [])))] ++
        match (Yaml.get "evs" d).getD (.list []) with
        | .list evs =>
          evs.flatMap (fun ev => [.plain (isEv ev)]) ++
            [.plain (isNatural ((Yaml.get "seed" d).getD (.int 0))),
             .plain (isNatural ((Yaml.get "max_retransmits" d).getD (.int 3)))]
        | _ => [.plain false]))
  | _ => [.plain false]

/-- A block that is looked at if it is there. -/
def blockLooks (f : Yaml → List Look) (value : Option Yaml) : List Look := (value.map f).getD []

/-- The items of a list. -/
def items (v : Yaml) : List Yaml :=
  match v with
  | .list items => items
  | _ => []

/-- `doc.get("faults") or []` -/
def faultsOf (d : Entries) : Yaml :=
  match Yaml.get "faults" d with
  | some v => if v.truthy then v else .list []
  | none => .list []

def isList (v : Yaml) : Bool :=
  match v with
  | .list _ => true
  | _ => false

/-- What `validate` reads of a document, in the order in which it does. -/
def looks (doc : Yaml) : List Look :=
  match doc with
  | .dict d =>
    .keys d ["name", "flows"]
        ["description", "faults", "report", "mrc", "paths_per_plane", "sid", "transport", "trim"] ::
      ([.plain (isText (field "name" d)),
        .plain (isTextWith (fun _ => true) ((Yaml.get "description" d).getD (.str ""))),
        .plain (!(items (field "flows" d)).isEmpty)] ++
      ((items (field "flows" d)).flatMap (flowLooks T) ++
      ([.plain (isList (faultsOf d))] ++
      ((items (faultsOf d)).flatMap (faultLooks T) ++
      (reportLooks (Yaml.get "report" d) ++
      (blockLooks mrcLooks (Yaml.get "mrc" d) ++
      (pathsPerPlaneLooks T (Yaml.get "paths_per_plane" d) ++
      (choiceLooks sidModes (Yaml.get "sid" d) ++
      (choiceLooks transports (Yaml.get "transport" d) ++
      (blockLooks trimLooks (Yaml.get "trim" d) ++
      [.plain ((Yaml.get "trim" d).isNone || (Yaml.get "mrc" d).isSome)]))))))))))
  | _ => [.plain false]

end Srv6Mrc
