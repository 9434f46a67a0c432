/-
# Config.Values -- what a YAML file holds, and Python's conversions of it

The values `yaml.safe_load` builds, as finite trees, and `bool`, `int`, `float`,
`str`, `Path` and iteration on them, with the exceptions they raise.

`int` reads text the way Python does: blanks around it, one sign, decimal digits of
any script with single underscores between them, and no more than 4300 of them.
What Python prints for other values, and how it reads a float from text, are the
parameters `Texts`.
-/
import AtomicTrench.Lib.Binary64
import AtomicTrench.Lib.Outcome
import AtomicTrench.Shadow.DirectRoute

namespace AtomicTrench.ConfigFile

open AtomicTrench.Lib
open AtomicTrench.Lib.Outcome
open AtomicTrench.Shadow (PyError valueError)

set_option autoImplicit false

/-- A Python float; the two zeros are one value. -/
inductive PyFloat where
  | finite (value : ℚ)
  | infinite (negative : Bool)
  | nan
  deriving DecidableEq

inductive Yaml where
  | null
  | bool (value : Bool)
  | int (value : Int)
  | float (value : PyFloat)
  | str (text : String)
  | bytes (data : List UInt8)
  | date (text : String)
  | datetime (text : String)
  | list (items : List Yaml)
  /-- an entry of `!!omap` or `!!pairs` -/
  | pair (key value : Yaml)
  | set (members : List Yaml)
  | mapping (entries : List (Yaml × Yaml))

namespace Yaml

/-- `type(value).__name__`, as messages have it -/
def typeName : Yaml → String
  | null => "NoneType"
  | bool _ => "bool"
  | int _ => "int"
  | float _ => "float"
  | str _ => "str"
  | bytes _ => "bytes"
  | date _ => "datetime.date"
  | datetime _ => "datetime.datetime"
  | list _ => "list"
  | pair _ _ => "tuple"
  | set _ => "set"
  | mapping _ => "dict"

/-- `bool(value)` -/
def truthy : Yaml → Bool
  | null => false
  | bool value => value
  | int value => decide (value ≠ 0)
  | float (.finite value) => decide (value ≠ 0)
  | float _ => true
  | str text => decide (text ≠ "")
  | bytes data => !data.isEmpty
  | date _ => true
  | datetime _ => true
  | list items => !items.isEmpty
  | pair _ _ => true
  | set members => !members.isEmpty
  | mapping entries => !entries.isEmpty

end Yaml

/-- What the model does not compute itself. -/
structure Texts where
  /-- `str(value)`, of a value that is no text, integer, boolean or `None` -/
  str : Yaml → Except PyError String
  /-- `repr(value)` of a text or of bytes -/
  repr : Yaml → String
  /-- `float(value)` of a text or of bytes; none where it is malformed -/
  float : Yaml → Option PyFloat

def typeError (message : String) : PyError := ⟨"TypeError", message⟩

def overflowError (message : String) : PyError := ⟨"OverflowError", message⟩

/-! ## Integers -/

/-- The characters that are blank around a number. -/
def blanks : List Nat :=
  [9, 10, 11, 12, 13, 32, 0x85, 0xa0, 0x1680, 0x2000, 0x2001, 0x2002, 0x2003, 0x2004, 0x2005, 0x2006,
    0x2007, 0x2008, 0x2009, 0x200a, 0x2028, 0x2029, 0x202f, 0x205f, 0x3000]

/-- The zeros of the scripts with decimal digits, as of Unicode 14. -/
def zeros : List Nat :=
  [0x30, 0x660, 0x6f0, 0x7c0, 0x966, 0x9e6, 0xa66, 0xae6, 0xb66, 0xbe6, 0xc66, 0xce6, 0xd66, 0xde6,
    0xe50, 0xed0, 0xf20, 0x1040, 0x1090, 0x17e0, 0x1810, 0x1946, 0x19d0, 0x1a80, 0x1a90, 0x1b50,
    0x1bb0, 0x1c40, 0x1c50, 0xa620, 0xa8d0, 0xa900, 0xa9d0, 0xa9f0, 0xaa50, 0xabf0, 0xff10, 0x104a0,
    0x10d30, 0x11066, 0x110f0, 0x11136, 0x111d0, 0x112f0, 0x11450, 0x114d0, 0x11650, 0x116c0,
    0x11730, 0x118e0, 0x11950, 0x11c50, 0x11d50, 0x11da0, 0x16a60, 0x16ac0, 0x16b50, 0x1d7ce,
    0x1d7d8, 0x1d7e2, 0x1d7ec, 0x1d7f6, 0x1e140, 0x1e2f0, 0x1e950, 0x1fbf0]

/-- Ten digits follow each zero. -/
def digit? (code : Nat) : Option Nat :=
  (zeros.find? fun first => first ≤ code ∧ code < first + 10).map (code - ·)

/-- The digits of a run that may go on only after a digit, and not end after an
underscore. -/
def digitRun (digit? : Nat → Option Nat) (afterDigit : Bool) : List Nat → Option (List Nat)
  | [] => if afterDigit then some [] else none
  | code :: rest =>
      match digit? code with
      | some digit => (digitRun digit? true rest).map (digit :: ·)
      | none => if afterDigit && code == 95 then digitRun digit? false rest else none

def trim (blank : Nat → Bool) (codes : List Nat) : List Nat :=
  ((codes.dropWhile blank).reverse.dropWhile blank).reverse

/-- The sign and the digits of a decimal text. -/
def decimal (blank : Nat → Bool) (digit? : Nat → Option Nat) (codes : List Nat) :
    Option (Bool × List Nat) :=
  match trim blank codes with
  | 43 :: digits => (digitRun digit? false digits).map fun digits => (false, digits)
  | 45 :: digits => (digitRun digit? false digits).map fun digits => (true, digits)
  | digits => (digitRun digit? false digits).map fun digits => (false, digits)

/-- The number a decimal text stands for. -/
def ofDecimal (repr : String) : Option (Bool × List Nat) → Except PyError Int
  | none => .error (valueError ("invalid literal for int() with base 10: " ++ repr))
  | some (negative, digits) => do
      throwIf (4300 < digits.length) (valueError (
        "Exceeds the limit (4300 digits) for integer string conversion: value has " ++
        toString digits.length ++ " digits; use sys.set_int_max_str_digits() to increase the limit"))
      let value : Int := digits.foldl (fun value digit => 10 * value + digit) 0
      return if negative then -value else value

/-- `int(value)` -/
def pyInt (texts : Texts) : Yaml → Except PyError Int
  | .bool value => .ok value.toInt
  | .int value => .ok value
  | .float (.finite value) => .ok (truncate value)
  | .float (.infinite _) => .error (overflowError "cannot convert float infinity to integer")
  | .float .nan => .error (valueError "cannot convert float NaN to integer")
  | .str text => ofDecimal (texts.repr (.str text))
      (decimal blanks.contains digit? (text.toList.map Char.toNat))
  -- bytes are read as ASCII
  | .bytes data => ofDecimal (texts.repr (.bytes data))
      (decimal (fun code => decide (code < 128) && blanks.contains code)
        (fun code => if code < 128 then digit? code else none) (data.map UInt8.toNat))
  | value => .error (typeError (
      "int() argument must be a string, a bytes-like object or a real number, not '" ++
      value.typeName ++ "'"))

/-! ## The other conversions -/

/-- `float(value)` of a text or of bytes -/
def floatOfText (texts : Texts) (value : Yaml) : Except PyError PyFloat :=
  match texts.float value with
  | some read => .ok read
  | none => .error (valueError ("could not convert string to float: " ++ texts.repr value))

/-- `float(value)` -/
def pyFloat (texts : Texts) : Yaml → Except PyError PyFloat
  | .bool value => .ok (.finite value.toInt)
  | .int value => do
      throwIf (Binary64.overflow ≤ value.natAbs) (overflowError "int too large to convert to float")
      return .finite (Binary64.nearest value)
  | .float value => .ok value
  | .str text => floatOfText texts (.str text)
  | .bytes data => floatOfText texts (.bytes data)
  | value => .error (typeError (
      "float() argument must be a string or a real number, not '" ++ value.typeName ++ "'"))

theorem pyFloat_int {texts : Texts} {value : Int} (small : value.natAbs < 2 ^ 53) :
    pyFloat texts (.int value) = .ok (.finite value) := by
  have fits : ¬ Binary64.overflow ≤ value.natAbs := by
    have wide : 2 ^ 53 ≤ Binary64.overflow := by decide +kernel
    omega
  rw [pyFloat, Binary64.nearest_of_lt small, throwIf, if_neg fits]
  rfl

/-- `str(value)` -/
def pyStr (texts : Texts) : Yaml → Except PyError String
  | .str text => .ok text
  | .null => .ok "None"
  | .bool value => .ok (if value then "True" else "False")
  | .int value => do
      throwIf (4300 < (toString value.natAbs).length) (valueError (
        "Exceeds the limit (4300 digits) for integer string conversion; " ++
        "use sys.set_int_max_str_digits() to increase the limit"))
      return toString value
  | value => texts.str value

/-- `Path(value)`, by the text it is made of -/
def pyPath : Yaml → Except PyError String
  | .str text => .ok text
  | .bytes _ => .error (typeError
      "argument should be a str object or an os.PathLike object returning str, not <class 'bytes'>")
  | value => .error (typeError ("expected str, bytes or os.PathLike object, not " ++ value.typeName))

/-- What `for item in value` goes through. -/
def pyIter : Yaml → Except PyError (List Yaml)
  | .str text => .ok (text.toList.map fun c => .str (String.singleton c))
  | .bytes data => .ok (data.map fun byte => .int byte.toNat)
  | .list items => .ok items
  | .pair key value => .ok [key, value]
  | .set members => .ok members
  | .mapping entries => .ok (entries.map Prod.fst)
  | value => .error (typeError ("'" ++ value.typeName ++ "' object is not iterable"))

/-! ## Lookups -/

/-- The entries of a dictionary; of several entries with one key, which Python does
not have, the first. -/
abbrev Mapping := List (Yaml × Yaml)

def isKey (key : String) : Yaml → Bool
  | .str text => text == key
  | _ => false

namespace Mapping

def get? (raw : Mapping) (key : String) : Option Yaml :=
  (raw.find? fun entry => isKey key entry.1).map Prod.snd

/-- `raw.get(key, default)` -/
def getD (raw : Mapping) (key : String) (default : Yaml) : Yaml := (raw.get? key).getD default

end Mapping

end AtomicTrench.ConfigFile
