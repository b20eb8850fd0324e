/-
  `srv6_mrc/mrc/scenario.py`: its error, and the checks of single fields.

  An error has the dotted path of the value and a message that may print it.  Printing is itself a
  step that can raise: Python does not write integers of more than 4300 digits.  Where a check of
  the source reads `d[leaf]` for the last part of its path, the path is given in two parts here.
-/
import Srv6Mrc.Lib.Verdict
import Srv6Mrc.Scenario.Netem
import Srv6Mrc.Scenario.PolicySpec

namespace Srv6Mrc

open Py

/-! ## Errors -/

/-- The messages, with the values printed in them. -/
inductive Complaint where
  | text (msg : String)
  /-- `f"{expected}, got {value!r}"` -/
  | got (expected : String) (value : Yaml)
  /-- `f"must be one of {choices}, got {value!r}"` -/
  | choice (choices : List String) (value : Yaml)
  /-- `f"missing required key(s): {sorted(missing)}"` -/
  | missingKeys (missing : List String)
  /-- `f"unknown key(s): {sorted(extra)}"` -/
  | unknownKeys (extra : List Key)
  /-- `f"unknown named pair set {value!r}; known: {sorted(NAMED_PAIR_SETS)}"` -/
  | unknownPairSet (name : String) (known : List String)
  /-- `f"unsupported fault kind {kind!r}; only 'netem' is implemented"` -/
  | faultKind (kind : String)
  /-- `str(e)`, of a policy's error. -/
  | policy (err : SpecError)
  /-- `str(e)`, of a target's or a spec's error. -/
  | netem (err : NetemError)

/-- What `validate` can raise. -/
inductive Raised where
  /-- `ScenarioError(path, msg)` -/
  | scenarioError (path : String) (msg : Complaint)
  /-- Anything else. -/
  | builtin (err : Exc)

instance : OwnError Raised where
  own
    | .scenarioError _ _ => true
    | .builtin _ => false

section

variable {α : Type}

/-- `raise ScenarioError(path, msg)` -/
def complain (path : String) (msg : Complaint) : Except Raised α := .error (.scenarioError path msg)

/-- `raise ScenarioError(path, msg)`, with a message that prints the value. -/
def complainOf (v : Yaml) (path : String) (msg : Complaint) : Except Raised α :=
  if v.printable then complain path msg else .error (.builtin .valueError)

/-- Raise unless the check holds. -/
def require (ok : Bool) (path : String) (msg : Complaint) : Except Raised Unit :=
  if ok then .ok () else complain path msg

/-- Raise unless the check holds, and print the value. -/
def requireOf (ok : Bool) (v : Yaml) (path : String) (msg : Complaint) : Except Raised Unit :=
  if ok then .ok () else complainOf v path msg

end

/-- `f"{path}.{leaf}"` -/
def dotted (path leaf : String) : String := path ++ "." ++ leaf

/-- `f"{path}[{i}]"` -/
def indexed (path : String) (i : Nat) : String := path ++ "[" ++ toString i ++ "]"

/-- The entries of a mapping. -/
abbrev Entries : Type := List (Key × Yaml)

/-! ## Primitive helpers -/

/-- The keys that are required and not there. -/
def missingKeys (d : Entries) (required : List String) : List String :=
  required.filter fun key => (Yaml.get key d).isNone

/-- The keys that are there and not allowed. -/
def extraKeys (d : Entries) (allowed : List String) : List Key :=
  (d.map Prod.fst).filter fun key => allowed.all fun name => key ≠ .str name

/-- `_require_keys` -/
def requireKeys (d : Entries) (path : String) (required optional : List String) :
    Except Raised Unit :=
  let missing := missingKeys d required
  let extra := extraKeys d (required ++ optional)
  if !missing.isEmpty then complain path (.missingKeys missing)
  else if !extra.isEmpty then
    if !Key.sortable extra then .error (.builtin .typeError)
    else if !extra.all Key.printable then .error (.builtin .valueError)
    else complain path (.unknownKeys extra)
  else .ok ()

/-- `d[key]` -/
def item (d : Entries) (key : String) : Except Raised Yaml :=
  match Yaml.get key d with
  | some v => .ok v
  | none => .error (.builtin .keyError)

/-- `_require_str` -/
def requireStr (d : Entries) (path leaf : String) : Except Raised String := do
  match ← item d leaf with
  | .str s =>
    require (s ≠ "") (dotted path leaf) (.text "must be a non-empty string")
    return s
  | _ => complain (dotted path leaf) (.text "must be a non-empty string")

/-- `_opt_str` -/
def optStr (d : Entries) (path leaf default : String) : Except Raised String :=
  match (Yaml.get leaf d).getD (.str default) with
  | .str s => .ok s
  | _ => complain (dotted path leaf) (.text "must be a string if present")

/-- `_require_choice` -/
def requireChoice (d : Entries) (path leaf : String) (choices : List String) :
    Except Raised String := do
  match ← item d leaf with
  | .str s =>
    requireOf (s ∈ choices) (.str s) (dotted path leaf) (.choice choices (.str s))
    return s
  | v => complainOf v (dotted path leaf) (.choice choices v)

/-- `_require_host_id` -/
def requireHostId (T : Topo) (d : Entries) (path leaf : String) : Except Raised Int := do
  let v ← item d leaf
  let msg := Complaint.got ("must be int 0.." ++ toString ((T.numLeaves : Int) - 1)) v
  match v.intValue with
  | some n =>
    requireOf (0 ≤ n ∧ n < T.numLeaves) v (dotted path leaf) msg
    return n
  | none => complainOf v (dotted path leaf) msg

/-! ## Rates and durations -/

/-- What a letter is for `re.I`: the long s is one, too. -/
def foldCase (c : Char) : Char := if c.toNat = 0x17f then 's' else c.toLower

/-- `_RATE_RE`, the digits: `^\s*(\d+)\s*(?:pps?)?\s*$`.  Spaces, digits and letters have nothing in
    common, so that a text can be taken apart in one way only. -/
def rateMatch (s : String) : Option (List Char) :=
  let text := s.toList.dropWhile isSpace
  let digits := text.takeWhile isDigit
  let unit := (strip isSpace (text.dropWhile isDigit)).map foldCase
  if digits ≠ [] ∧ unit ∈ ["".toList, "pp".toList, "pps".toList] then some digits else none

/-- `_parse_rate` -/
def parseRate (v : Yaml) (path : String) : Except Raised Int :=
  let msg := Complaint.got "must be a positive int or '<N>pps'" v
  match v with
  | .str s =>
    match rateMatch s with
    | some digits =>
      match intOfText (String.ofList digits) with
      | some n => .ok n
      | none => .error (.builtin .valueError)
    | none => complainOf v path msg
  | v =>
    match v.intValue with
    | some n => if 0 < n then .ok n else complainOf v path msg
    | none => complainOf v path msg

/-- What `_DUR_RE` finds: the digits before and after the point, and the unit. -/
structure DurationMatch where
  whole : List Char
  fraction : List Char
  unit : List Char
  deriving DecidableEq

/-- The digits after a point, if any are, and the rest. -/
def fractionOf (text : List Char) : List Char × List Char :=
  match text with
  | '.' :: rest =>
    if rest.takeWhile isDigit = [] then ([], text)
    else (rest.takeWhile isDigit, rest.dropWhile isDigit)
  | _ => ([], text)

/-- `_DUR_RE`: `^\s*(\d+(?:\.\d+)?)\s*(ms|s)?\s*$` -/
def durationMatch (s : String) : Option DurationMatch :=
  let text := s.toList.dropWhile isSpace
  let whole := text.takeWhile isDigit
  let (fraction, rest) := fractionOf (text.dropWhile isDigit)
  let unit := strip isSpace rest
  if whole ≠ [] ∧ unit.map foldCase ∈ ["".toList, "ms".toList, "s".toList] then
    some ⟨whole, fraction, unit⟩
  else none

namespace DurationMatch

/-- `m.group(1)` -/
def number (m : DurationMatch) : String :=
  if m.fraction = [] then String.ofList m.whole
  else String.ofList (m.whole ++ '.' :: m.fraction)

/-- `(m.group(2) or "").lower() == "ms"` -/
def milliseconds (m : DurationMatch) : Bool := m.unit.map Char.toLower = "ms".toList

end DurationMatch

/-- `_parse_duration` -/
def parseDuration (v : Yaml) (path : String) : Except Raised Binary64 :=
  let msg := Complaint.got "must be a duration like '30s' or '500ms'" v
  match v with
  | .str s =>
    match durationMatch s with
    | some m =>
      match floatOfText m.number with
      | some x => .ok (if m.milliseconds then x.div 1000 else x)
      | none => .error (.builtin .valueError)
    | none => complainOf v path msg
  | .float x => if Binary64.zero.lt x then .ok x else complainOf v path msg
  | v =>
    match v.intValue with
    | some n => if 0 < n then (Yaml.floatOfInt n).mapError .builtin else complainOf v path msg
    | none => complainOf v path msg

example : (rateMatch " 1000 PPS\n").map String.ofList = some "1000" := by decide

example : durationMatch "1.5 ms" = some ⟨['1'], ['5'], ['m', 's']⟩ := by decide

end Srv6Mrc
