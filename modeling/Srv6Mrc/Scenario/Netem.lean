/-
  `srv6_mrc/netem.py`: what a fault's target and spec are read as.

  A target names NICs by plane or by host; a spec is a row of tokens for `tc`.  The patterns of the
  source match a text exactly if its words are those of the pattern, because no group of a pattern
  can hold a space.  Every error is a `ValueError`.
-/
import Srv6Mrc.Lib.Hex
import Srv6Mrc.Lib.Text
import Srv6Mrc.Topo.Plan

namespace Srv6Mrc

open Py

/-- The errors of `netem.py`, with the values of their messages. -/
inductive NetemError where
  /-- `f"target 'plane {plane}': plane out of range 0..{NUM_PLANES - 1}"`, and the same with the
      whole of a host's target in quotes. -/
  | planeRange (quoted : String) (numPlanes : Nat)
  /-- `f"host name {host!r} must match '<green|yellow>-host<NN>'"` -/
  | hostName (host : String)
  /-- `f"host name {host!r}: id {idx} out of range 0..{NUM_LEAVES - 1}"` -/
  | hostRange (host : String) (idx numLeaves : Nat)
  /-- `f"unrecognized target {target!r}; expected ..."` -/
  | unrecognized (target : String)
  /-- `int` refused the digits of a plane. -/
  | tooManyDigits (digits : String)
  /-- `f"netem spec must be a non-empty string, got {spec!r}"` -/
  | emptySpec (spec : String)
  /-- `f"netem spec: bad token {tok!r}"` -/
  | badToken (tok : String)
  /-- `f"netem spec: leading token {first!r} not in {sorted(_NETEM_ALLOWED_KEYWORDS)}"` -/
  | leadingToken (first : String)
  deriving DecidableEq, Repr

/-- `NICTarget` -/
structure NICTarget where
  container : String
  ifname : String
  deriving DecidableEq, Repr

/-- `PLANE_NIC` -/
def planeNic (plane : Nat) : String := "eth" ++ toString (plane + 1)

/-- `host_name`, of `topo.py`. -/
def hostNameOf (tenant : String) (hostId : Nat) : String := tenant ++ "-host" ++ decPad 2 hostId

/-- `\d+`, on the whole text. -/
def digitsOnly (s : String) : Bool := s ≠ "" && s.toList.all isDigit

/-- The id in `(green|yellow)-host(\d{2})`. -/
def hostIndex (host : String) : Option Nat :=
  ["green-host", "yellow-host"].findSome? fun stem =>
    let id := host.toList.drop stem.length
    if stem.toList.isPrefixOf host.toList ∧ id.length = 2 ∧ id.all isDigit then some (digitsVal id)
    else none

variable (T : Topo)

/-- `_all_hosts` -/
def allHosts : List String :=
  T.tenants.flatMap fun tenant => (List.range T.numLeaves).map (hostNameOf tenant)

/-- `_validate_host` -/
def validateHost (host : String) : Except NetemError Unit :=
  match hostIndex host with
  | none => .error (.hostName host)
  | some idx => if idx < T.numLeaves then .ok () else .error (.hostRange host idx T.numLeaves)

/-- `int(m.group(1))` -/
def targetInt (digits : String) : Except NetemError Int :=
  match intOfText digits with
  | some plane => .ok plane
  | none => .error (.tooManyDigits digits)

/-- The plane of a target, if there is such a plane. -/
def targetPlane (quoted : String) (plane : Int) : Except NetemError Nat :=
  if 0 ≤ plane ∧ plane < T.numPlanes then .ok plane.toNat
  else .error (.planeRange quoted T.numPlanes)

/-- `parse_target` -/
def parseTarget (target : String) : Except NetemError (List NICTarget) :=
  let s := stripText target
  match words s with
  | [word, arg] =>
    if word = "plane" ∧ digitsOnly arg then do
      let n ← targetInt arg
      let plane ← targetPlane T ("plane " ++ toString n) n
      return (allHosts T).map fun host => ⟨host, planeNic plane⟩
    else if word = "host" then do
      validateHost T arg
      return (List.range T.numPlanes).map fun plane => ⟨arg, planeNic plane⟩
    else .error (.unrecognized target)
  | [word, host, word', arg] =>
    if word = "host" ∧ word' = "plane" ∧ digitsOnly arg then do
      let n ← targetInt arg
      validateHost T host
      let plane ← targetPlane T s n
      return [⟨host, planeNic plane⟩]
    else .error (.unrecognized target)
  | _ => .error (.unrecognized target)

/-- `_NETEM_ALLOWED_KEYWORDS` -/
def netemKeywords : List String :=
  ["loss", "delay", "duplicate", "corrupt", "reorder", "rate", "gap", "limit", "distribution",
   "normal", "pareto", "paretonormal", "blackhole"]

/-- `_NETEM_TOKEN_RE` -/
def netemToken (tok : String) : Bool :=
  tok ≠ "" && tok.toList.all fun c => c.isAlphanum || c = '.' || c = '%'

/-- `normalize_spec` -/
def normalizeSpec (spec : String) : Except NetemError (List String) :=
  if stripText spec = "" then .error (.emptySpec spec)
  else
    let tokens := words (stripText spec)
    if tokens = ["blackhole"] then .ok ["loss", "100%"]
    else
      match tokens.find? fun tok => !netemToken tok with
      | some tok => .error (.badToken tok)
      | none =>
        let first := tokens.headD ""
        if first ∈ netemKeywords then .ok tokens else .error (.leadingToken first)

example : normalizeSpec " delay 50ms  loss 1% " = .ok ["delay", "50ms", "loss", "1%"] := by
  decide

example : parseTarget ⟨2, 4, 8, ["green"]⟩ "host green-host03 plane 1" =
    .ok [⟨"green-host03", "eth2"⟩] := by decide

end Srv6Mrc
