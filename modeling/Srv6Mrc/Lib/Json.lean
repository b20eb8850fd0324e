/-
  Python reading a JSON document.

  What `json.load` returns is a tree, and code that walks it asks of every node what only some kinds
  of node can answer: `d[key]`, `xs[i]`, `key in d`, `len(xs)`, `int(v)`, `float(v)`.  Where a node
  cannot, Python raises, and which class it raises depends on the node.  `Json` is the tree and the
  functions below are these operations, each with the exceptions it has.

  Floats are a parameter: any type with the four conversions of `Builtins`, so that nothing depends
  on how they round.  `Double` is one such type, exact up to its range.
-/
import Mathlib.Data.Rat.Floor
import Mathlib.Data.List.Infix

namespace Py

/-! ## Exceptions -/

/-- The built-in exception classes a reader of files and JSON can meet. -/
inductive Exc where
  | osError
  | fileNotFoundError
  | valueError
  | jsonDecodeError
  | unicodeDecodeError
  | typeError
  | keyError
  | indexError
  | attributeError
  | overflowError
  | recursionError
  | memoryError
  deriving DecidableEq, Repr

namespace Exc

/-- The class right above, among these. -/
def parent : Exc → Option Exc
  | fileNotFoundError => some osError
  | jsonDecodeError | unicodeDecodeError => some valueError
  | _ => none

/-- `except (...)`: one of the classes, or a subclass of one. -/
def caught (classes : List Exc) (err : Exc) : Bool :=
  err ∈ classes ∨ ∃ c ∈ classes, err.parent = some c

end Exc

/-! ## Numbers -/

/-- What `int(x)` finds in a float. -/
inductive Truncated where
  | whole (n : Int)
  | nan
  | infinite
  deriving DecidableEq, Repr

/-- The conversions between numbers and strings that depend on what a float is, or on a grammar. -/
class Builtins (F : Type) where
  /-- `float(n)`, `none` if it is out of range. -/
  floatOfInt : Int → Option F
  /-- `float(s)`, `none` if it is no float. -/
  floatOfStr : String → Option F
  /-- `int(x)` -/
  truncate : F → Truncated
  /-- `int(s)`, `none` if it is no integer. -/
  intOfStr : String → Option Int

/-- A float as a number: no rounding below its range, and out of it none. -/
inductive Double where
  | finite (q : ℚ)
  | infinity (negative : Bool)
  | nan
  deriving DecidableEq, Repr

/-- From here on an integer is rounded out of the range of a double. -/
def Double.limit : Int := 2 ^ 1024 - 2 ^ 970

instance : Builtins Double where
  floatOfInt n := if Double.limit ≤ |n| then none else some (.finite n)
  floatOfStr _ := none
  truncate
    | .finite q => .whole (if 0 ≤ q then ⌊q⌋ else ⌈q⌉)
    | .infinity _ => .infinite
    | .nan => .nan
  intOfStr s := s.toInt?

/-- Floats without a range. -/
instance : Builtins ℚ where
  floatOfInt n := some n
  floatOfStr _ := none
  truncate q := .whole (if 0 ≤ q then ⌊q⌋ else ⌈q⌉)
  intOfStr s := s.toInt?

/-! ## Documents -/

/-- What `json.load` can return; a dict has one entry for each of its keys. -/
inductive Json (F : Type) where
  | null
  | bool (b : Bool)
  | int (n : Int)
  | float (x : F)
  | str (s : String)
  | arr (items : List (Json F))
  | obj (fields : List (String × Json F))

namespace Json

variable {F : Type}

/-- The entry of a dict. -/
def field (key : String) (fields : List (String × Json F)) : Option (Json F) :=
  (fields.find? fun entry => entry.1 = key).map Prod.snd

/-- `d.get(key)` -/
def get (key : String) : Json F → Except Exc (Option (Json F))
  | .obj fields => .ok (field key fields)
  | _ => .error .attributeError

/-- `d[key]` -/
def item (key : String) : Json F → Except Exc (Json F)
  | .obj fields =>
    match field key fields with
    | some v => .ok v
    | none => .error .keyError
  | _ => .error .typeError

/-- `xs[i]` -/
def index (i : Nat) : Json F → Except Exc (Json F)
  | .arr items =>
    match items[i]? with
    | some v => .ok v
    | none => .error .indexError
  | .str s =>
    match s.toList[i]? with
    | some c => .ok (.str (String.singleton c))
    | none => .error .indexError
  | .obj _ => .error .keyError
  | _ => .error .typeError

/-- The value is this string. -/
def isStr (key : String) : Json F → Bool
  | .str s => s = key
  | _ => false

/-- `key in d` -/
def contains (key : String) : Json F → Except Exc Bool
  | .obj fields => .ok (field key fields).isSome
  | .arr items => .ok (items.any (isStr key))
  | .str s => .ok (key.toList <:+: s.toList)
  | _ => .error .typeError

/-- `d.keys()` -/
def keys : Json F → Except Exc (List String)
  | .obj fields => .ok (fields.map Prod.fst)
  | _ => .error .attributeError

/-- `len(xs)` -/
def len : Json F → Except Exc Nat
  | .arr items => .ok items.length
  | .obj fields => .ok fields.length
  | .str s => .ok s.length
  | _ => .error .typeError

variable [Builtins F]

/-- `int(v)` -/
def toInt : Json F → Except Exc Int
  | .bool b => .ok b.toNat
  | .int n => .ok n
  | .float x =>
    match Builtins.truncate x with
    | .whole n => .ok n
    | .nan => .error .valueError
    | .infinite => .error .overflowError
  | .str s =>
    match Builtins.intOfStr F s with
    | some n => .ok n
    | none => .error .valueError
  | _ => .error .typeError

/-- `float(n)` -/
def floatInt (n : Int) : Except Exc F :=
  match Builtins.floatOfInt n with
  | some x => .ok x
  | none => .error .overflowError

/-- `float(v)` -/
def toFloat : Json F → Except Exc F
  | .bool b => floatInt b.toNat
  | .int n => floatInt n
  | .float x => .ok x
  | .str s =>
    match Builtins.floatOfStr s with
    | some x => .ok x
    | none => .error .valueError
  | _ => .error .typeError

end Json
end Py
