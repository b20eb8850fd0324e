/-
  Python reading a YAML document.

  What `yaml.safe_load` returns is a tree like that of a JSON document, but a mapping may have any
  scalar for a key, numbers have no bound, and a float may be infinite or no number.  So more can go
  wrong with a node: keys that have no order cannot be sorted, and an integer of more than 4300
  digits can be compared but not printed, nor turned into a float.
-/
import Srv6Mrc.Lib.Json
import Srv6Mrc.Lib.Text

namespace Py

/-- A scalar, as a mapping can have it for a key. -/
inductive Key where
  | null
  | bool (b : Bool)
  | int (n : Int)
  | float (x : Binary64)
  | str (s : String)
  deriving DecidableEq, Repr

/-- What `yaml.safe_load` can return; a dict has one entry for each of its keys. -/
inductive Yaml where
  | null
  | bool (b : Bool)
  | int (n : Int)
  | float (x : Binary64)
  | str (s : String)
  | list (items : List Yaml)
  | dict (entries : List (Key × Yaml))

/-! ## Printing -/

/-- `str(n)` does not raise. -/
def printableInt (n : Int) : Bool := n.natAbs < 10 ^ maxStrDigits

namespace Key

/-- A key as a node, as iterating over a dict gives it. -/
def node : Key → Yaml
  | null => .null
  | bool b => .bool b
  | int n => .int n
  | float x => .float x
  | str s => .str s

/-- `repr(key)` does not raise. -/
def printable : Key → Bool
  | int n => printableInt n
  | _ => true

/-- What `<` compares a key with: numbers with numbers, texts with texts, `None` with nothing. -/
inductive Kind where
  | null
  | number
  | text
  deriving DecidableEq, Repr

/-- The kind of a key. -/
def kind : Key → Kind
  | null => .null
  | bool _ | int _ | float _ => .number
  | str _ => .text

/-- `sorted(keys)` does not raise. -/
def sortable : List Key → Bool
  | [] | [_] => true
  | key :: keys => key.kind ≠ .null ∧ keys.all (·.kind = key.kind)

end Key

namespace Yaml

mutual

/-- `repr(v)` does not raise: no integer in it is too long. -/
def printable : Yaml → Bool
  | int n => printableInt n
  | list items => printableItems items
  | dict entries => printableEntries entries
  | _ => true

def printableItems : List Yaml → Bool
  | [] => true
  | v :: items => v.printable && printableItems items

def printableEntries : List (Key × Yaml) → Bool
  | [] => true
  | (key, v) :: entries => key.printable && v.printable && printableEntries entries

end

/-! ## Looking into a node -/

/-- The value at a key of a dict. -/
def get (key : String) (entries : List (Key × Yaml)) : Option Yaml :=
  (entries.find? fun entry => entry.1 = .str key).map Prod.snd

/-- `bool(v)` -/
def truthy : Yaml → Bool
  | null => false
  | bool b => b
  | int n => n ≠ 0
  | float x => x ≠ .finite 0
  | str s => s ≠ ""
  | list items => !items.isEmpty
  | dict entries => !entries.isEmpty

/-- The integer, if `isinstance(v, int)`: the booleans are two of them. -/
def intValue : Yaml → Option Int
  | bool b => some b.toNat
  | int n => some n
  | _ => none

/-- The integer, if `isinstance(v, int) and not isinstance(v, bool)`. -/
def strictInt : Yaml → Option Int
  | int n => some n
  | _ => none

/-- `for x in v` -/
def iterate : Yaml → Except Exc (List Yaml)
  | list items => .ok items
  | dict entries => .ok (entries.map fun entry => entry.1.node)
  | str s => .ok (s.toList.map fun c => .str (String.singleton c))
  | _ => .error .typeError

/-- `float(n)` -/
def floatOfInt (n : Int) : Except Exc Binary64 :=
  match Binary64.ofInt n with
  | some x => .ok x
  | none => .error .overflowError

/-- `float(v)` -/
def toFloat : Yaml → Except Exc Binary64
  | bool b => floatOfInt b.toNat
  | int n => floatOfInt n
  | float x => .ok x
  | str s =>
    match floatOfText s with
    | some x => .ok x
    | none => .error .valueError
  | _ => .error .typeError

/-- `int(v)` -/
def toInt : Yaml → Except Exc Int
  | bool b => .ok b.toNat
  | int n => .ok n
  | float (.finite q) => .ok (if 0 ≤ q then ⌊q⌋ else ⌈q⌉)
  | float .nan => .error .valueError
  | float (.infinity _) => .error .overflowError
  | str s =>
    match intOfText s with
    | some n => .ok n
    | none => .error .valueError
  | _ => .error .typeError

end Yaml
end Py
