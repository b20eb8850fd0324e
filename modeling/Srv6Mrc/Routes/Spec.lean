/-
  `srv6_mrc/cli/routes.py`: `expand_spec`.

  A spec names pairs of hosts, one by one or as the product of two lists, and says over which spine
  and which planes.  The expansion has one `Pair` for each two hosts that are named, in whichever
  direction and however often, with what the last entry says that names them (`expandSpec_expanded`).

  `isinstance(v, int)` takes the booleans for 0 and 1, and as indices they are that.  Where a message
  prints a node that Python cannot print, the exception is another `ValueError`.
-/
import Mathlib.Data.Prod.Lex
import Mathlib.Data.String.Basic
import Srv6Mrc.Lib.Dict
import Srv6Mrc.Lib.Yaml
import Srv6Mrc.Lib.Outcome
import Srv6Mrc.Topo.Plan

namespace Srv6Mrc

open Py

/-! ## The spec -/

/-- `APIVERSION` -/
def routesApiVersion : String := "srv6-lab/v1"

/-- `KIND` -/
def routesKind : String := "RouteSet"

/-- What `expand_spec` raises, with the values of its messages. -/
inductive RouteSpecError where
  /-- `unsupported apiVersion: {...!r} (want {APIVERSION!r})` -/
  | apiVersion (got : Yaml)
  /-- `unsupported kind: {...!r} (want {KIND!r})` -/
  | kind (got : Yaml)
  /-- `spec: must be a mapping` -/
  | spec
  /-- `{ctx}: expected mapping` -/
  | mapping (ctx : String)
  /-- `{ctx}: tenant must be 'green' or 'yellow', got {v!r}` -/
  | tenant (ctx : String) (got : Yaml)
  /-- `{ctx}: expected int 0..{NUM_LEAVES - 1}, got {v!r}` -/
  | hostId (ctx : String) (numLeaves : Nat) (got : Yaml)
  /-- `{ctx}: spine must be 'auto' or int 0..{NUM_SPINES - 1}, got {v!r}` -/
  | spine (ctx : String) (numSpines : Nat) (got : Yaml)
  /-- `{ctx}: planes must be a list of ints, got {v!r}` -/
  | planes (ctx : String) (got : Yaml)
  /-- `{ctx}: plane(s) out of range 0..{NUM_PLANES - 1}: {bad}` -/
  | planesRange (ctx : String) (numPlanes : Nat) (bad : List Int)
  /-- `{ctx}: expected int, list of ints, or "all", got {v!r}` -/
  | idList (ctx : String) (got : Yaml)
  /-- `spec contained no pairs (after self-pair removal)` -/
  | noPairs
  /-- No `ValueError`: the document is no mapping, or `pairs` or `mesh` nothing to iterate over. -/
  | raised (err : Exc)

/-- `Pair` -/
structure Pair where
  tenant : String
  a : Int
  b : Int
  spine : Int
  planes : List Nat
  deriving DecidableEq, Repr

/-- An entry of `pairs` or `mesh`, as its checks leave it: the hosts of a pair are lists of one. -/
structure SpecEntry where
  tenant : String
  srcs : List Int
  dsts : List Int
  /-- `none`: `"auto"`. -/
  spine : Option Int
  planes : List Nat

/-- A key of `canonical`: tenant and hosts, the lower one first. -/
abbrev PairKey : Type := String × Int × Int

/-- Keys are compared one part after the other. -/
def PairKey.lex (key : PairKey) : String ×ₗ (Int ×ₗ Int) := toLex (key.1, toLex key.2)

def Pair.key (p : Pair) : PairKey := (p.tenant, p.a, p.b)

/-- The integers of a list of nothing else. -/
def listedInts : Yaml → Option (List Int)
  | .list items => items.mapM Yaml.intValue
  | .null | .bool _ | .int _ | .float _ | .str _ | .dict _ => none

namespace Topo

variable (T : Topo)

/-! ## Checks -/

/-- `_validate_host_id` -/
def validateHostId (v : Yaml) (ctx : String) : Except RouteSpecError Int :=
  match v.intValue with
  | some n => if 0 ≤ n ∧ n < T.numLeaves then .ok n else .error (.hostId ctx T.numLeaves v)
  | none => .error (.hostId ctx T.numLeaves v)

/-- `_validate_planes` -/
def validatePlanes (v : Yaml) (ctx : String) : Except RouteSpecError (List Nat) :=
  match listedInts v with
  | some ints =>
    let bad := ints.filter fun p : Int => ¬ (0 ≤ p ∧ p < T.numPlanes)
    if bad ≠ [] then .error (.planesRange ctx T.numPlanes bad)
    else .ok ((ints.map Int.toNat).dedup.mergeSort)
  | none => .error (.planes ctx v)

/-- `_validate_spine` -/
def validateSpine (v : Yaml) (ctx : String) : Except RouteSpecError (Option Int) :=
  match v with
  | .str s => if s = "auto" then .ok none else .error (.spine ctx T.numSpines v)
  | _ =>
    match v.intValue with
    | some n => if 0 ≤ n ∧ n < T.numSpines then .ok (some n) else .error (.spine ctx T.numSpines v)
    | none => .error (.spine ctx T.numSpines v)

/-- `f"{ctx}[{i}]"` -/
def indexed (ctx : String) (i : Nat) : String := ctx ++ "[" ++ toString i ++ "]"

/-- `_as_id_list` -/
def asIdList (v : Yaml) (ctx : String) : Except RouteSpecError (List Int) :=
  match v with
  | .str s =>
    if s = "all" then .ok ((List.range T.numLeaves).map Int.ofNat) else .error (.idList ctx v)
  | .list items => items.zipIdx.mapM fun (x, i) => T.validateHostId x (indexed ctx i)
  | _ =>
    match v.intValue with
    | some _ => (T.validateHostId v ctx).map fun n => [n]
    | none => .error (.idList ctx v)

end Topo

/-- `_validate_tenant` -/
def validateTenant (v : Yaml) (ctx : String) : Except RouteSpecError String :=
  match v with
  | .str s => if s = "green" ∨ s = "yellow" then .ok s else .error (.tenant ctx v)
  | _ => .error (.tenant ctx v)

/-- `d.get(key)` -/
def getOrNone (key : String) (entries : List (Key × Yaml)) : Yaml := (Yaml.get key entries).getD .null

namespace Topo

variable (T : Topo)

/-! ## Entries -/

/-- `PLANES_ALL` -/
def planesAll : Yaml := .list ((List.range T.numPlanes).map fun p => .int p)

/-- An entry of a list: the hosts are read in the list's own way. -/
def parseEntry (hosts : Yaml → String → Except RouteSpecError (List Int)) (v : Yaml) (ctx : String) :
    Except RouteSpecError SpecEntry :=
  match v with
  | .dict entries => do
    let tenant ← validateTenant (getOrNone "tenant" entries) (ctx ++ ".tenant")
    let srcs ← hosts (getOrNone "src" entries) (ctx ++ ".src")
    let dsts ← hosts (getOrNone "dst" entries) (ctx ++ ".dst")
    let spine ← T.validateSpine ((Yaml.get "spine" entries).getD (.str "auto")) (ctx ++ ".spine")
    let planes ← T.validatePlanes ((Yaml.get "planes" entries).getD T.planesAll) (ctx ++ ".planes")
    return ⟨tenant, srcs, dsts, spine, planes⟩
  | _ => .error (.mapping ctx)

/-- An entry of `spec.pairs`. -/
def parsePair (v : Yaml) (ctx : String) : Except RouteSpecError SpecEntry :=
  T.parseEntry (fun v ctx => (T.validateHostId v ctx).map fun n => [n]) v ctx

/-- An entry of `spec.mesh`. -/
def parseMesh (v : Yaml) (ctx : String) : Except RouteSpecError SpecEntry := T.parseEntry T.asIdList v ctx

/-- `enumerate(spec.get(key, []) or [])` -/
def parseEntries (parse : Yaml → String → Except RouteSpecError SpecEntry) (key : String)
    (spec : List (Key × Yaml)) : Except RouteSpecError (List SpecEntry) :=
  let v := (Yaml.get key spec).getD (.list [])
  if v.truthy then
    match v.iterate with
    | .ok items => items.zipIdx.mapM fun (x, i) => parse x (indexed ("spec." ++ key) i)
    | .error err => .error (.raised err)
  else .ok []

/-- The entries of a spec, in the order in which they are read. -/
def specEntries (specDoc : Yaml) : Except RouteSpecError (List SpecEntry) :=
  match specDoc with
  | .dict doc =>
    match getOrNone "apiVersion" doc, getOrNone "kind" doc with
    | .str version, kind =>
      if version ≠ routesApiVersion then .error (.apiVersion (.str version))
      else
        match kind with
        | .str kind =>
          if kind ≠ routesKind then .error (.kind (.str kind))
          else
            let spec := getOrNone "spec" doc
            match if spec.truthy then spec else .dict [] with
            | .dict spec => do
              let pairs ← parseEntries T.parsePair "pairs" spec
              let mesh ← parseEntries T.parseMesh "mesh" spec
              return pairs ++ mesh
            | _ => .error .spec
        | kind => .error (.kind kind)
    | version, _ => .error (.apiVersion version)
  | _ => .error (.raised .attributeError)

end Topo

/-! ## Pairs -/

/-- The lower one first. -/
def canonicalKey (tenant : String) (src dst : Int) : PairKey :=
  if src < dst then (tenant, src, dst) else (tenant, dst, src)

/-- What an entry adds to `raw_pairs`, by key: no pairs of a host with itself. -/
def SpecEntry.rawPairs (e : SpecEntry) : List (PairKey × Option Int × List Nat) :=
  e.srcs.flatMap fun src =>
    (e.dsts.filter (src ≠ ·)).map fun dst => (canonicalKey e.tenant src dst, e.spine, e.planes)

namespace Topo

variable (T : Topo)

/-- A pair of `canonical`, with its spine. -/
def pairOf (key : PairKey) (value : Option Int × List Nat) : Pair :=
  ⟨key.1, key.2.1, key.2.2, value.1.getD (T.spineFor key.2.1 key.2.2), value.2⟩

/-- `expand_spec` -/
def expandSpec (specDoc : Yaml) : Except RouteSpecError (List Pair) := do
  let entries ← T.specEntries specDoc
  let rawPairs := entries.flatMap SpecEntry.rawPairs
  if rawPairs = [] then throw .noPairs
  let canonical : Dict PairKey (Option Int × List Nat) :=
    rawPairs.foldl (fun canonical raw => canonical.set raw.1 raw.2) ∅
  return (canonical.entries.mergeSort fun x y => x.1.lex ≤ y.1.lex).map fun x => T.pairOf x.1 x.2

end Topo
end Srv6Mrc
