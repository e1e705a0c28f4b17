import Adocify.Number.Shortest
import Adocify.Text.Case
import Adocify.Text.Quoted
import Adocify.Value.Calendar

/-! The values that attributes, options and metadata take, with the two texts of a value: as it
stands in running text, and as it stands inside a compound value or a message. -/

namespace Adocify

inductive Value where
  | null
  | bool (flag : Bool)
  | int (number : Int)
  | float (number : Binary64)
  | text (content : Text)
  | list (items : List Value)
  | mapping (entries : List (Value × Value))
  | set (items : List Value)
  /-- Two values that belong together. -/
  | pair (first second : Value)
  /-- A list or a mapping inside itself; its items are not told again. -/
  | enclosing (isList : Bool)
  | bytes (content : List UInt8)
  | date (day : Date)
  | time (clock : TimeOfDay)
  | moment (instant : Moment)
  deriving Repr, Inhabited

namespace Value

/-- The name under which messages report the kind of a value. -/
def kindName : Value → Text
  | .null => "NoneType".toList
  | .bool _ => "bool".toList
  | .int _ => "int".toList
  | .float _ => "float".toList
  | .text _ => "str".toList
  | .list _ => "list".toList
  | .mapping _ => "dict".toList
  | .set _ => "set".toList
  | .pair .. => "tuple".toList
  | .enclosing isList => (if isList then "list" else "dict").toList
  | .bytes _ => "bytes".toList
  | .date _ => "date".toList
  | .time _ => "time".toList
  | .moment _ => "datetime".toList

/-- Whether a condition on the value holds: nothing, zero and what is empty count as false. -/
def isTruthy : Value → Bool
  | .null => false
  | .bool flag => flag
  | .int number => number != 0
  | .float number => !number.isZero
  | .text content => !content.isEmpty
  | .list items => !items.isEmpty
  | .mapping entries => !entries.isEmpty
  | .set items => !items.isEmpty
  | .bytes content => !content.isEmpty
  | .pair .. | .enclosing _ | .date _ | .time _ | .moment _ => true

def bytesText (content : List UInt8) : Text :=
  let quote := Text.quoteFor (content.map fun b => Char.ofNat b.toNat)
  let escaped := content.flatMap fun b =>
    if b < 0x80 then Text.escapeFor quote (Char.ofNat b.toNat) else "\\x".toList ++ Text.hex 2 b.toNat
  'b' :: quote :: escaped ++ [quote]

mutual

/-- The text of a value inside a compound value, texts being quoted. -/
def inner : Value → Text
  | .null => "None".toList
  | .bool flag => (if flag then "True" else "False").toList
  | .int number => Text.ofInt number
  | .float number => number.toText
  | .text content => Text.quoted content
  | .list items => '[' :: Text.join ", ".toList (innerItems items) ++ [']']
  | .mapping entries => '\x7b' :: Text.join ", ".toList (innerEntries entries) ++ ['\x7d']
  | .set [] => "set()".toList
  | .set items => '\x7b' :: Text.join ", ".toList (innerItems items) ++ ['\x7d']
  | .pair first second => '(' :: inner first ++ ", ".toList ++ inner second ++ [')']
  | .enclosing isList => (if isList then "[...]" else "\x7b...\x7d").toList
  | .bytes content => bytesText content
  | .date day => day.inner
  | .time clock => clock.inner
  | .moment instant => instant.inner

def innerItems : List Value → List Text
  | [] => []
  | item :: rest => inner item :: innerItems rest

def innerEntries : List (Value × Value) → List Text
  | [] => []
  | (key, value) :: rest => (inner key ++ ": ".toList ++ inner value) :: innerEntries rest

end

/-- The text of a value in running text. -/
def display : Value → Text
  | .text content => content
  | .date day => day.toText
  | .time clock => clock.toText
  | .moment instant => instant.toText
  | other => other.inner

mutual

/-- The value holds itself somewhere. -/
def isEndless : Value → Bool
  | .list items => areEndless items
  | .mapping entries => entriesEndless entries
  | .pair first second => isEndless first || isEndless second
  | .enclosing _ => true
  | _ => false

def areEndless : List Value → Bool
  | [] => false
  | item :: rest => isEndless item || areEndless rest

def entriesEndless : List (Value × Value) → Bool
  | [] => false
  | (_, value) :: rest => isEndless value || entriesEndless rest

end

/-- The whole number a value stands for where numbers and truth values are equal by value. -/
def wholeNumber? : Value → Option Int
  | .bool flag => some (if flag then 1 else 0)
  | .int number => some number
  | .float number => number.toInt?
  | _ => none

/-- Equality as mapping keys. Lists, mappings and sets never serve as keys. -/
def sameKey (x y : Value) : Bool :=
  match wholeNumber? x, wholeNumber? y with
  | some a, some b => a == b
  | none, none =>
    match x, y with
    | .null, .null => true
    | .float a, .float b => a.same b
    | .text a, .text b => a == b
    | .bytes a, .bytes b => a == b
    | .date a, .date b => a == b
    | .time a, .time b => a == b
    | .moment a, .moment b => a.same b
    | _, _ => false
  | _, _ => false

end Value

/-- A whole number, or a truth value that stands for one. -/
inductive Whole where
  | number (n : Int)
  | flag (b : Bool)
  deriving Repr, DecidableEq

namespace Whole

def toInt : Whole → Int
  | .number n => n
  | .flag b => if b then 1 else 0

def toValue : Whole → Value
  | .number n => .int n
  | .flag b => .bool b

def ofValue? : Value → Option Whole
  | .int n => some (.number n)
  | .bool b => some (.flag b)
  | _ => none

end Whole

end Adocify
