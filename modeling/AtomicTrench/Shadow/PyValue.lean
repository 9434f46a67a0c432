/-
# Shadow.PyValue -- parsed JSON in the hands of a Python program

What the program's own expressions do with a value of whatever type: `value[key]`,
`value.get(key, default)`, `for item in value`, `if value`, with the exceptions they
raise.  What `str`, `int` and `float` make of a value is a parameter (`Builtins`).
-/
import AtomicTrench.Lib.Json
import AtomicTrench.Shadow.DirectRoute
import Mathlib.Data.Rat.Defs

namespace AtomicTrench.Shadow

open AtomicTrench.Lib.Json

set_option autoImplicit false

/-- `type(value).__name__` -/
def typeName : Value → String
  | .null => "NoneType"
  | .bool _ => "bool"
  | .int _ => "int"
  | .float _ => "float"
  | .str _ => "str"
  | .arr _ => "list"
  | .obj _ => "dict"

/-- `value == text` -/
def isText (text : String) : Value → Bool
  | .str codes => codes = textOf text
  | _ => false

/-- `value.get(key, default)` -/
def getMember (value : Value) (key : String) (default : Value) : Except PyError Value :=
  match value with
  | .obj entries => .ok (((Value.obj entries).get? (textOf key)).getD default)
  | other => .error ⟨"AttributeError", "'" ++ typeName other ++ "' object has no attribute 'get'"⟩

/-- `value[key]` -/
def subscript (value : Value) (key : String) : Except PyError Value :=
  match value with
  | .obj entries =>
      match (Value.obj entries).get? (textOf key) with
      | some member => .ok member
      | none => .error ⟨"KeyError", "'" ++ key ++ "'"⟩
  | .arr _ => .error ⟨"TypeError", "list indices must be integers or slices, not str"⟩
  | .str _ => .error ⟨"TypeError", "string indices must be integers, not 'str'"⟩
  | other => .error ⟨"TypeError", "'" ++ typeName other ++ "' object is not subscriptable"⟩

/-- The values of a `for` loop. -/
def iterate : Value → Except PyError (List Value)
  | .arr items => .ok items
  | .str text => .ok (text.map fun code => .str [code])
  | .obj entries => .ok (entries.map fun entry => .str entry.1)
  | other => .error ⟨"TypeError", "'" ++ typeName other ++ "' object is not iterable"⟩

/-- `float` answers a finite number or raises: the texts and numbers that Python reads as
NaN or as an infinity are left out. -/
structure Builtins where
  str : Value → Text
  int : Value → Except PyError Int
  float : Value → Except PyError ℚ

/-- What the interpreter documents of `str` and `int`. -/
structure Builtins.Lawful (py : Builtins) : Prop where
  str : ∀ text, py.str (.str text) = text
  int : ∀ n, py.int (.int n) = .ok n

/-- `bool(value)` -/
def truthy (py : Builtins) : Value → Bool
  | .null => false
  | .bool b => b
  | .int n => n ≠ 0
  | .float token =>
      match py.float (.float token) with
      | .ok number => number ≠ 0
      | .error _ => true
  | .str text => !text.isEmpty
  | .arr items => !items.isEmpty
  | .obj entries => !entries.isEmpty

/-- `value or default` -/
def orElse (py : Builtins) (value default : Value) : Value := if truthy py value then value else default

end AtomicTrench.Shadow
