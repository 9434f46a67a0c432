/-
# Lib.Json -- JSON text as Python's `json` writes and reads it

`dumps` is `json.dumps` with `sort_keys`, on one line or indented; non-ASCII
characters are escaped.  `loads` is `json.loads` on text that is already decoded.
The reader takes one character at a time (`feed`), so that one can also speak of
what it makes of the beginning of a text.

A string is its code points, which may be surrogates.  A float is kept as the text
of its token, which Python's `repr` and `float` carry to the number and back.  What
the interpreter limits (the nesting, integers past 4300 digits) is not limited here.
-/
import AtomicTrench.Lib.Dict
import Mathlib.Data.List.Sort

namespace AtomicTrench.Lib.Json

set_option autoImplicit false

/-! ## Values -/

/-- The code points of a string. -/
abbrev Text := List Nat

inductive Value where
  | null
  | bool (b : Bool)
  | int (n : Int)
  | float (token : List Char)
  | str (text : Text)
  | arr (items : List Value)
  | obj (entries : List (Text × Value))

def textOf (s : String) : Text := s.toList.map Char.toNat

/-- A dictionary with these members. -/
def objOf (members : List (String × Value)) : Value :=
  .obj (members.map fun member => (textOf member.1, member.2))

/-- `d[key] = value` for each of the members in turn. -/
def dictOf (entries : List (Text × Value)) : List (Text × Value) :=
  (entries.foldl (fun d entry => d.set entry.1 entry.2) ({} : Dict Text Value)).entries

/-- `payload.get(key)` -/
def Value.get? : Value → Text → Option Value
  | .obj entries, key => (entries.find? fun entry => entry.1 = key).map Prod.snd
  | _, _ => none

/-- `payload[key] = member` of a dictionary. -/
def Value.set : Value → Text → Value → Value
  | .obj entries, key, member => .obj (dictOf (entries ++ [(key, member)]))
  | value, _, _ => value

/-! ## Writing -/

def quoteMark : Char := Char.ofNat 34

def backslash : Char := Char.ofNat 92

def hexChar (d : Nat) : Char := if d < 10 then Char.ofNat (48 + d) else Char.ofNat (87 + d)

/-- `\uXXXX` -/
def writeUnit (unit : Nat) : List Char :=
  [backslash, 'u', hexChar (unit / 4096 % 16), hexChar (unit / 256 % 16), hexChar (unit / 16 % 16),
    hexChar (unit % 16)]

def writeCode (code : Nat) : List Char :=
  if code = 34 then [backslash, quoteMark]
  else if code = 92 then [backslash, backslash]
  else if code = 10 then [backslash, 'n']
  else if code = 13 then [backslash, 'r']
  else if code = 9 then [backslash, 't']
  else if code = 12 then [backslash, 'f']
  else if code = 8 then [backslash, 'b']
  else if 32 ≤ code ∧ code ≤ 126 then [Char.ofNat code]
  else if code < 65536 then writeUnit code
  else writeUnit (55296 + (code - 65536) / 1024) ++ writeUnit (56320 + (code - 65536) % 1024)

def quote (text : Text) : List Char := quoteMark :: (text.flatMap writeCode ++ [quoteMark])

def writeInt : Int → List Char
  | .ofNat n => Nat.toDigits 10 n
  | .negSucc n => '-' :: Nat.toDigits 10 (n + 1)

def isSpace (c : Char) : Bool := c = ' ' || c = '\t' || c = '\n' || c = '\r'

/-- What stands before the first member, after a comma and after the last one, by
how deep the members are. -/
structure Layout where
  first : Nat → List Char
  next : Nat → List Char
  last : Nat → List Char
  blank : ∀ depth, (∀ c ∈ first depth, isSpace c) ∧ (∀ c ∈ next depth, isSpace c) ∧
    ∀ c ∈ last depth, isSpace c

/-- `indent=None` -/
def oneLine : Layout where
  first _ := []
  next _ := [' ']
  last _ := []
  blank _ := by simp [isSpace]

/-- `indent=width` -/
def indented (width : Nat) : Layout where
  first depth := '\n' :: List.replicate (width * depth) ' '
  next depth := '\n' :: List.replicate (width * depth) ' '
  last depth := '\n' :: List.replicate (width * depth) ' '
  blank depth := by simp +contextual [isSpace]

section Write

variable (layout : Layout)

mutual

def write (depth : Nat) : Value → List Char
  | .null => ['n', 'u', 'l', 'l']
  | .bool true => ['t', 'r', 'u', 'e']
  | .bool false => ['f', 'a', 'l', 's', 'e']
  | .int n => writeInt n
  | .float token => token
  | .str text => quote text
  | .arr [] => ['[', ']']
  | .arr (item :: items) =>
      '[' :: (layout.first (depth + 1) ++ write (depth + 1) item ++ writeItems (depth + 1) items
        ++ layout.last depth ++ [']'])
  | .obj [] => ['{', '}']
  | .obj ((key, value) :: entries) =>
      '{' :: (layout.first (depth + 1) ++ quote key ++ [':', ' '] ++ write (depth + 1) value
        ++ writeEntries (depth + 1) entries ++ layout.last depth ++ ['}'])

def writeItems (depth : Nat) : List Value → List Char
  | [] => []
  | item :: items => ',' :: (layout.next depth ++ write depth item ++ writeItems depth items)

def writeEntries (depth : Nat) : List (Text × Value) → List Char
  | [] => []
  | (key, value) :: entries =>
      ',' :: (layout.next depth ++ quote key ++ [':', ' '] ++ write depth value
        ++ writeEntries depth entries)

end

end Write

/-- Strings are compared by code points. -/
def leText : Text → Text → Bool
  | [], _ => true
  | _ :: _, [] => false
  | a :: as, b :: bs => a < b || (a == b && leText as bs)

def sortEntries (entries : List (Text × Value)) : List (Text × Value) :=
  entries.insertionSort fun a b => leText a.1 b.1

mutual

/-- `sort_keys`, at every depth. -/
def sortKeys : Value → Value
  | .arr items => .arr (sortItems items)
  | .obj entries => .obj (sortEntries (sortMembers entries))
  | value => value

def sortItems : List Value → List Value
  | [] => []
  | item :: items => sortKeys item :: sortItems items

def sortMembers : List (Text × Value) → List (Text × Value)
  | [] => []
  | (key, value) :: entries => (key, sortKeys value) :: sortMembers entries

end

def dumps (layout : Layout) (value : Value) : List Char := write layout 0 (sortKeys value)

/-! ## Reading -/

/-- How far a number is read. -/
inductive Scan where
  | minus
  | zero
  | digits
  | point
  | fraction
  | exponent
  | sign
  | power
  deriving DecidableEq, Repr

def isNonzero (c : Char) : Bool := c.isDigit && c ≠ '0'

def Scan.first (c : Char) : Option Scan :=
  if c = '-' then some .minus
  else if c = '0' then some .zero
  else if isNonzero c then some .digits
  else none

/-- After the integer part. -/
def Scan.beyond (c : Char) : Option Scan :=
  if c = '.' then some .point
  else if c = 'e' ∨ c = 'E' then some .exponent
  else none

def Scan.next : Scan → Char → Option Scan
  | .minus, c => if c = '0' then some .zero else if isNonzero c then some .digits else none
  | .zero, c => Scan.beyond c
  | .digits, c => if c.isDigit then some .digits else Scan.beyond c
  | .point, c => if c.isDigit then some .fraction else none
  | .fraction, c =>
      if c.isDigit then some .fraction else if c = 'e' ∨ c = 'E' then some .exponent else none
  | .exponent, c =>
      if c = '+' ∨ c = '-' then some .sign else if c.isDigit then some .power else none
  | .sign, c => if c.isDigit then some .power else none
  | .power, c => if c.isDigit then some .power else none

def intOf : List Char → Int
  | '-' :: digits => -(Nat.ofDigitChars 10 digits 0 : Int)
  | digits => Nat.ofDigitChars 10 digits 0

/-- The number, where the token may end. -/
def Scan.result (token : List Char) : Scan → Option Value
  | .zero | .digits => some (.int (intOf token))
  | .fraction | .power => some (.float token)
  | _ => none

/-- What a string is read for: a value, or the key after these members. -/
inductive Role where
  | value
  | key (done : List (Text × Value))

/-- What is open around a value. -/
inductive Frame where
  | arr (done : List Value)
  | obj (done : List (Text × Value)) (key : Text)

/-- What is read of strings and numbers is kept last character first. -/
inductive Mode where
  | value
  | firstItem
  | firstKey
  | key (done : List (Text × Value))
  | colon (done : List (Text × Value)) (key : Text)
  | text (role : Role) (read : Text)
  | escape (role : Role) (read : Text)
  | hex (role : Role) (read : Text) (count unit : Nat)
  | literal (left : List Char) (value : Value)
  | number (scan : Scan) (read : List Char)
  | after (value : Value)

structure State where
  frames : List Frame := []
  mode : Mode := .value

def isHigh (unit : Nat) : Prop := 55296 ≤ unit ∧ unit < 56320

def isLow (unit : Nat) : Prop := 56320 ≤ unit ∧ unit < 57344

instance (unit : Nat) : Decidable (isHigh unit) := inferInstanceAs (Decidable (_ ∧ _))

instance (unit : Nat) : Decidable (isLow unit) := inferInstanceAs (Decidable (_ ∧ _))

/-- An escaped unit; two surrogates of a pair are one character. -/
def pushUnit : Text → Nat → Text
  | high :: read, low =>
      if isHigh high ∧ isLow low then (65536 + (high - 55296) * 1024 + (low - 56320)) :: read
      else low :: high :: read
  | [], unit => [unit]

def hexDigit? (c : Char) : Option Nat :=
  if c.isDigit then some (c.toNat - 48)
  else if 'a' ≤ c ∧ c ≤ 'f' then some (c.toNat - 87)
  else if 'A' ≤ c ∧ c ≤ 'F' then some (c.toNat - 55)
  else none

def unescape (c : Char) : Option Nat :=
  if c = quoteMark ∨ c = backslash ∨ c = '/' then some c.toNat
  else if c = 'b' then some 8
  else if c = 'f' then some 12
  else if c = 'n' then some 10
  else if c = 'r' then some 13
  else if c = 't' then some 9
  else none

/-- The first character of a value. -/
def begin (frames : List Frame) (c : Char) : Option State :=
  if c = quoteMark then some ⟨frames, .text .value []⟩
  else if c = '{' then some ⟨frames, .firstKey⟩
  else if c = '[' then some ⟨frames, .firstItem⟩
  else if c = 'n' then some ⟨frames, .literal ['u', 'l', 'l'] .null⟩
  else if c = 't' then some ⟨frames, .literal ['r', 'u', 'e'] (.bool true)⟩
  else if c = 'f' then some ⟨frames, .literal ['a', 'l', 's', 'e'] (.bool false)⟩
  else if c = 'N' then some ⟨frames, .literal ['a', 'N'] (.float ['N', 'a', 'N'])⟩
  else if c = 'I' then
    some ⟨frames, .literal ['n', 'f', 'i', 'n', 'i', 't', 'y']
      (.float ['I', 'n', 'f', 'i', 'n', 'i', 't', 'y'])⟩
  else (Scan.first c).map fun scan => ⟨frames, .number scan [c]⟩

/-- After a value. -/
def close (frames : List Frame) (value : Value) (c : Char) : Option State :=
  if isSpace c then some ⟨frames, .after value⟩
  else match frames with
    | [] => none
    | .arr done :: frames =>
        if c = ',' then some ⟨.arr (done ++ [value]) :: frames, .value⟩
        else if c = ']' then some ⟨frames, .after (.arr (done ++ [value]))⟩
        else none
    | .obj done key :: frames =>
        if c = ',' then some ⟨frames, .key (done ++ [(key, value)])⟩
        else if c = '}' then some ⟨frames, .after (.obj (dictOf (done ++ [(key, value)])))⟩
        else none

/-- The end of a string. -/
def endText (frames : List Frame) (text : Text) : Role → State
  | .value => ⟨frames, .after (.str text)⟩
  | .key done => ⟨frames, .colon done text⟩

def feed (s : State) (c : Char) : Option State :=
  match s.mode with
  | .value => if isSpace c then some s else begin s.frames c
  | .firstItem =>
      if isSpace c then some s
      else if c = ']' then some ⟨s.frames, .after (.arr [])⟩
      else begin (.arr [] :: s.frames) c
  | .firstKey =>
      if isSpace c then some s
      else if c = quoteMark then some ⟨s.frames, .text (.key []) []⟩
      else if c = '}' then some ⟨s.frames, .after (.obj [])⟩
      else none
  | .key done =>
      if isSpace c then some s
      else if c = quoteMark then some ⟨s.frames, .text (.key done) []⟩
      else none
  | .colon done key =>
      if isSpace c then some s
      else if c = ':' then some ⟨.obj done key :: s.frames, .value⟩
      else none
  | .text role read =>
      if c = quoteMark then some (endText s.frames read.reverse role)
      else if c = backslash then some ⟨s.frames, .escape role read⟩
      else if c.toNat < 32 then none
      else some ⟨s.frames, .text role (c.toNat :: read)⟩
  | .escape role read =>
      if c = 'u' then some ⟨s.frames, .hex role read 0 0⟩
      else (unescape c).map fun code => ⟨s.frames, .text role (code :: read)⟩
  | .hex role read count unit =>
      (hexDigit? c).map fun d =>
        if count = 3 then ⟨s.frames, .text role (pushUnit read (16 * unit + d))⟩
        else ⟨s.frames, .hex role read (count + 1) (16 * unit + d)⟩
  | .literal left value =>
      match left with
      | [] => close s.frames value c
      | next :: left => if c = next then some ⟨s.frames, .literal left value⟩ else none
  | .number scan read =>
      match scan.next c with
      | some scan => some ⟨s.frames, .number scan (c :: read)⟩
      | none =>
          if scan = .minus ∧ c = 'I' then
            some ⟨s.frames, .literal ['n', 'f', 'i', 'n', 'i', 't', 'y']
              (.float ['-', 'I', 'n', 'f', 'i', 'n', 'i', 't', 'y'])⟩
          else (scan.result read.reverse).bind fun value => close s.frames value c
  | .after value => close s.frames value c

def run (s : State) (text : List Char) : Option State := text.foldlM feed s

/-- The value that is read, if one is and nothing is open around it. -/
def State.result (s : State) : Option Value :=
  match s.frames, s.mode with
  | [], .after value => some value
  | [], .literal [] value => some value
  | [], .number scan read => scan.result read.reverse
  | _, _ => none

/-- None is a `JSONDecodeError`. -/
def loads (text : List Char) : Option Value := (run {} text).bind State.result

end AtomicTrench.Lib.Json
