/-
  From a scenario's policy to the sender's: `policy_to_cli` and `expand_flows` of `mrc/run.py`, which
  write it as an argument, and `parse_policy` of `cli/spray.py`, which reads it.

  How Python prints a float, a list or a mapping is a parameter; all that is asked of it is that a
  float is read back as what it was.
-/
import Srv6Mrc.Fabric.Names
import Srv6Mrc.Lib.Reprint
import Srv6Mrc.Policy.Document
import Srv6Mrc.Policy.Draw
import Srv6Mrc.Scenario.Sound

namespace Srv6Mrc

open Py

/-! ## Writing -/

section Write

variable (str : Yaml → String)

/-- `str(v)`: how a float, a list or a mapping is printed is left open. -/
def strOf (v : Yaml) : Except Exc String :=
  match v with
  | .null => .ok "None"
  | .bool b => .ok (if b then "True" else "False")
  | .int n =>
    match textOfInt n with
    | some s => .ok s
    | none => .error .valueError
  | .str s => .ok s
  | v => if v.printable then .ok (str v) else .error .valueError

/-- The exceptions of `policy_to_cli`. -/
inductive CliError where
  /-- `ValueError(f"unsupported policy spec for CLI: {spec!r}")` -/
  | unsupported (spec : Yaml)
  /-- What a built-in raised. -/
  | builtin (err : Exc)

/-- `except (ValueError, NotImplementedError)` takes it. -/
def CliError.isValueError : CliError → Bool
  | unsupported _ => true
  | builtin err => err.caught [.valueError]

/-- `policy_to_cli` -/
def policyToCli (spec : Yaml) : Except CliError String :=
  match spec with
  | .str s => .ok s
  | .dict [(key, value)] =>
    if key = .str "weighted" then do
      let items ← value.iterate.mapError .builtin
      let texts ← items.mapM fun w => (strOf str w).mapError .builtin
      return "weighted:" ++ ",".intercalate texts
    else if key = .str "ev_spray" then do
      let n ← value.toInt.mapError .builtin
      let text ← (strOf str (.int n)).mapError .builtin
      return "ev_spray:" ++ text
    else .error (.unsupported spec)
  | spec => .error (.unsupported spec)

/-- `FlowRun` -/
structure FlowRun where
  srcHost : String
  dstHost : String
  tenant : String
  srcId : Int
  dstId : Int
  policyCli : String
  ratePps : Int
  durationS : Binary64
  deriving DecidableEq

/-- `host_name(tenant, id)`, where the id is an integer. -/
def hostNameInt (tenant : String) (hostId : Int) : String :=
  if hostId < 0 then tenant ++ "-host-" ++ toString hostId.natAbs
  else hostNameOf tenant hostId.toNat

/-- Tenant and id can be told from the name. -/
theorem hostNameInt_inj {t t' : String} {i j : Int} (hi : 0 ≤ i) (hj : 0 ≤ j)
    (h : hostNameInt t i = hostNameInt t' j) : t = t' ∧ i = j := by
  unfold hostNameInt at h
  rw [if_neg (Int.not_lt.mpr hi), if_neg (Int.not_lt.mpr hj)] at h
  have hsplit : ∀ (t : String) (n : Nat), (hostNameOf t n).toList
      = t.toList ++ '-' :: ("host".toList ++ (decPad 2 n).toList) := by
    intro t n
    rw [hostNameOf, String.toList_append, String.toList_append, List.append_assoc]
    rfl
  have hno : ∀ n, '-' ∉ "host".toList ++ (decPad 2 n).toList := by
    intro n hmem
    rcases List.mem_append.mp hmem with hmem | hmem
    · exact absurd hmem (by decide)
    · exact Fabric.not_mem_decPad (by decide) 2 n hmem
  have hlist := congrArg String.toList h
  rw [hsplit, hsplit] at hlist
  obtain ⟨hhead, htail⟩ := after_sep_inj (hno _) (hno _) hlist
  have hid := Fabric.decPad_inj (String.toList_inj.mp (List.append_cancel_left htail))
  exact ⟨String.toList_inj.mp hhead, by omega⟩

/-- The run of a pair of a flow. -/
def flowRun (flow : FlowSpec) (cli : String) (pair : FlowPair) : FlowRun where
  srcHost := hostNameInt pair.tenant pair.src
  dstHost := hostNameInt pair.tenant pair.dst
  tenant := pair.tenant
  srcId := pair.src
  dstId := pair.dst
  policyCli := cli
  ratePps := flow.ratePps
  durationS := flow.durationS

/-- What `expand_flows` raises. -/
inductive ExpandError where
  /-- `SystemExit(f"mrc/run.py: cannot translate policy {fs.policy_spec!r}: {e}")` -/
  | systemExit (spec : Yaml) (err : CliError)
  /-- What a built-in raised. -/
  | builtin (err : Exc)

/-- The text of a flow's policy. -/
def flowCli (flow : FlowSpec) : Except ExpandError String :=
  match policyToCli str flow.policySpec with
  | .ok cli => .ok cli
  | .error err =>
    if err.isValueError then
      if flow.policySpec.printable then .error (.systemExit flow.policySpec err)
      else .error (.builtin .valueError)
    else
      match err with
      | .builtin err => .error (.builtin err)
      | .unsupported spec => .error (.systemExit spec err)

/-- `expand_flows` -/
def expandFlows (s : Scenario) : Except ExpandError (List FlowRun) := do
  let runs ← s.flows.mapM fun flow => do
    let cli ← flowCli str flow
    return flow.pairs.map (flowRun flow cli)
  return runs.flatten

end Write

/-! ## Reading -/

/-- What `parse_policy` returns: what `policy_from_spec` built, or a policy that is bound to its
    table or its file. -/
inductive LivePolicy where
  | spec (policy : SpecPolicy)
  | healthAwareMrc (policy : HealthAwareMrc)
  | mrcSnapshot (path : String) (policy : MrcSnapshot)

/-- What `parse_policy` raises. -/
inductive ParseError where
  | spec (err : SpecError)
  | table (err : PyError)
  | policy (err : PolicyError)
  /-- A text that is no number. -/
  | valueError

/-- `s.startswith(prefix)` -/
def startsWith (start : String) (cs : List Char) : Bool := start.toList.isPrefixOf cs

/-- `s.split(":", 1)[1]` -/
def afterColon (cs : List Char) : List Char := (cs.dropWhile (· ≠ ':')).tail

/-- `s.rsplit(":", 1)`, if there is a colon. -/
def rsplitColon (cs : List Char) : Option (List Char × List Char) :=
  if ':' ∈ cs then
    some ((cs.reverse.dropWhile (· ≠ ':')).tail.reverse, (cs.reverse.takeWhile (· ≠ ':')).reverse)
  else none

section Read

variable (T : Topo) (tenant : String) (evConfig : Option EVStateConfig)

/-- `policy_from_spec(...)`, called by `parse_policy`. -/
def fromSpec (spec : Yaml) : Except ParseError SpecPolicy := (policyFromSpec T spec).mapError .spec

/-- `policy.bind(table=table, tenant=tenant)`, with a new table. -/
def bindFactory (factory : HealthAwareMrcFactory) : Except ParseError HealthAwareMrc := do
  let table ← (EVStateTable.new [tenant] T.numPlanes T.numSpines evConfig).mapError .table
  (HealthAwareMrc.new table tenant factory.pathsPerPlane T.numPlanes T.numSpines).mapError .policy

/-- What `parse_policy` returns for a policy: a factory is bound. -/
def resolve (policy : SpecPolicy) : Except ParseError LivePolicy :=
  match policy with
  | .healthAwareMrc factory => do
    let policy ← bindFactory T tenant evConfig factory
    return .healthAwareMrc policy
  | policy => .ok (.spec policy)

/-- The `mrc_snapshot:<path>[:<paths_per_plane>]` form. -/
def parseSnapshot (rest : List Char) (pathsPerPlane : Option Int) : Except ParseError LivePolicy := do
  let default := (rest, pathsPerPlane.getD T.numSpines)
  let (path, paths) ←
    match rsplitColon rest with
    | some (path, suffix) =>
      if isDigitText suffix then
        match intOfText (String.ofList suffix) with
        | some n => .ok (path, n)
        | none => .error .valueError
      else .ok default
    | none => .ok default
  let policy ← (MrcSnapshot.new tenant paths T.numPlanes T.numSpines 200).mapError .policy
  return .mrcSnapshot (String.ofList path) policy

/-- `float(w) for w in ...split(",")` -/
def parseWeights (cs : List Char) : Except ParseError (List Binary64) :=
  (cs.splitOn ',').mapM fun w =>
    match floatOfText (String.ofList w) with
    | some x => .ok x
    | none => .error .valueError

/-- `parse_policy` -/
def parsePolicy (s : String) (pathsPerPlane : Option Int) : Except ParseError LivePolicy :=
  let cs := strip isSpace s.toList
  if startsWith "weighted:" cs then do
    let weights ← parseWeights (afterColon cs)
    let policy ← fromSpec T (.dict [(.str "weighted", .list (weights.map .float))])
    return .spec policy
  else if startsWith "ev_spray:" cs then
    match intOfText (String.ofList (afterColon cs)) with
    | some n => do
      let policy ← fromSpec T (.dict [(.str "ev_spray", .int n)])
      return .spec policy
    | none => .error .valueError
  else if startsWith "mrc_snapshot:" cs then parseSnapshot T tenant (afterColon cs) pathsPerPlane
  else
    match pathsPerPlane, decide (cs = "ev_spray".toList) with
    | some n, true => do
      let policy ← fromSpec T (.dict [(.str "ev_spray", .int n)])
      return .spec policy
    | _, _ => do
      let policy ← fromSpec T (.str (String.ofList cs))
      resolve T tenant evConfig policy

end Read

end Srv6Mrc
