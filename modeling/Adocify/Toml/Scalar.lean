import Adocify.Failure
import Adocify.Text.Numeral

/-! Scalars of TOML: strings, numbers, dates and times. A reader takes a scalar from the front of a text
and gives what follows it. -/

namespace Adocify.Toml

/-- None where a text is not TOML; a failure where a number is too long to be read. -/
abbrev Reading (α : Type) := ExceptT Failure Option α

def refuse : Reading α := ExceptT.mk none

def ofOption : Option α → Reading α
  | some value => return value
  | none => refuse

def isBlank (c : Char) : Bool := c = ' ' || c = '\t'

def isBlankOrNewline (c : Char) : Bool := isBlank c || c = '\n'

/-- Control characters other than the tab. -/
def isForbidden (c : Char) : Bool := (c.toNat < 0x20 && c != '\t') || c.toNat == 0x7f

/-- In strings of several lines, newlines are permitted. -/
def isForbiddenIn (multiline : Bool) (c : Char) : Bool := isForbidden c && !(multiline && c = '\n')

/-! ### Strings -/

def escapeReplacement? : Char → Option Nat
  | 'b' => some 0x08
  | 't' => some 0x09
  | 'n' => some 0x0a
  | 'f' => some 0x0c
  | 'r' => some 0x0d
  | '"' => some 0x22
  | '\\' => some 0x5c
  | _ => none

def isScalarValue (n : Nat) : Bool := n < 0xd800 || (0xe000 ≤ n && n < 0x110000)

def hexChar (width : Nat) (text : Text) : Option (Text × Text) := do
  let digits := text.take width
  if digits.length < width then none
  let n ← Text.readDigits? 16 digits
  if isScalarValue n then some ([Char.ofNat n], text.drop width) else none

/-- An escape from behind its backslash. In strings of several lines a backslash at the end of a line
swallows the blanks and newlines that follow. -/
def escaped (multiline : Bool) (text : Text) : Option (Text × Text) :=
  match text with
  | [] => none
  | c :: rest =>
    if multiline && c = '\n' then some ([], rest.dropWhile isBlankOrNewline)
    else if multiline && isBlank c then
      match rest.dropWhile isBlank with
      | [] => some ([], [])
      | '\n' :: after => some ([], after.dropWhile isBlankOrNewline)
      | _ => none
    else if c = 'u' then hexChar 4 rest
    else if c = 'U' then hexChar 8 rest
    else (escapeReplacement? c).map fun n => ([Char.ofNat n], rest)

/-- The rest of a string in double quotes. -/
def basicString (multiline : Bool) : Nat → Text → Option (Text × Text)
  | 0, _ => none
  | _, [] => none
  | fuel + 1, c :: rest =>
    if c = '"' && (!multiline || "\"\"".toList.isPrefixOf rest) then
      some ([], if multiline then rest.drop 2 else rest)
    else if c = '\\' then do
      let (piece, after) ← escaped multiline rest
      let (content, remaining) ← basicString multiline fuel after
      some (piece ++ content, remaining)
    else if isForbiddenIn multiline c then none
    else do
      let (content, remaining) ← basicString multiline fuel rest
      some (c :: content, remaining)

/-- The rest of a string in single quotes, which knows no escapes. -/
def literalString (multiline : Bool) (text : Text) : Option (Text × Text) := do
  let (content, after) ← Text.breakOn (if multiline then "'''".toList else ['\'']) text
  if content.any (isForbiddenIn multiline) then none else some (content, after)

/-- One or two quotes directly behind the end of a string of several lines belong to it. -/
def withExtraQuotes (quote : Char) (content rest : Text) : Text × Text :=
  match rest with
  | a :: b :: after =>
    if a = quote then
      if b = quote then (content ++ [quote, quote], after) else (content ++ [quote], b :: after)
    else (content, rest)
  | [a] => if a = quote then (content ++ [quote], []) else (content, rest)
  | [] => (content, [])

/-- A newline directly behind the opening of a string of several lines does not belong to it. -/
def withoutFirstNewline : Text → Text
  | '\n' :: rest => rest
  | text => text

def singleLineString (text : Text) : Option (Text × Text) :=
  match text with
  | '"' :: rest => basicString false (rest.length + 1) rest
  | '\'' :: rest => literalString false rest
  | _ => none

def string (text : Text) : Option (Text × Text) :=
  match text with
  | '"' :: '"' :: '"' :: rest => do
    let (content, after) ← basicString true (rest.length + 1) (withoutFirstNewline rest)
    some (withExtraQuotes '"' content after)
  | '\'' :: '\'' :: '\'' :: rest => do
    let (content, after) ← literalString true (withoutFirstNewline rest)
    some (withExtraQuotes '\'' content after)
  | _ => singleLineString text

/-! ### Dates and times -/

/-- Reads exactly so many digits, whose number must lie in the range. -/
def fixedNumber (width least most : Nat) (text : Text) : Option (Nat × Text) := do
  let digits := text.take width
  if digits.length < width || !digits.all Char.isDigit then none
  let n ← Text.readNat? digits
  if least ≤ n && n ≤ most then some (n, text.drop width) else none

def expect (c : Char) : Text → Option Text
  | [] => none
  | d :: rest => if c = d then some rest else none

/-- A fraction of a second; digits beyond the sixth are passed over. -/
def fraction (text : Text) : Nat × Text :=
  match text with
  | '.' :: rest =>
    let digits := rest.takeWhile Char.isDigit
    if digits.isEmpty then (0, text)
    else ((Text.readNat? ((digits ++ "000000".toList).take 6)).getD 0, rest.drop digits.length)
  | _ => (0, text)

def timeOfDay (text : Text) : Option (TimeOfDay × Text) := do
  let (hour, rest) ← fixedNumber 2 0 23 text
  let (minute, rest) ← fixedNumber 2 0 59 (← expect ':' rest)
  let (second, rest) ← fixedNumber 2 0 59 (← expect ':' rest)
  let (microsecond, rest) := fraction rest
  some (⟨hour, minute, second, microsecond⟩, rest)

def date (text : Text) : Option (Date × Text) := do
  let (year, rest) ← fixedNumber 4 0 9999 text
  let (month, rest) ← fixedNumber 2 1 12 (← expect '-' rest)
  let (day, rest) ← fixedNumber 2 1 31 (← expect '-' rest)
  some (⟨year, month, day⟩, rest)

def numericOffset (text : Text) : Option (Int × Text) := do
  match text with
  | sign :: rest =>
    if sign != '+' && sign != '-' then none
    let (hours, rest) ← fixedNumber 2 0 23 rest
    let (minutes, rest) ← fixedNumber 2 0 59 (← expect ':' rest)
    let distance : Int := (hours * 60 + minutes : Nat)
    some (if sign = '-' then -distance else distance, rest)
  | [] => none

def offset (text : Text) : Option Int × Text :=
  match text with
  | 'Z' :: rest | 'z' :: rest => (some 0, rest)
  | _ =>
    match numericOffset text with
    | some (distance, rest) => (some distance, rest)
    | none => (none, text)

/-- The time behind a date, if there is one. -/
def timeAfterDate (text : Text) : Option (TimeOfDay × Text) :=
  match text with
  | c :: rest => if c = 'T' || c = 't' || c = ' ' then timeOfDay rest else none
  | [] => none

/-- A date, a date with a time, or a time. None if the text begins with none of them; refused if the
date does not exist. -/
def timestamp (text : Text) : Option (Reading (Value × Text)) :=
  match date text with
  | some (day, rest) =>
    some <| match timeAfterDate rest with
      | none => if day.exists then return (.date day, rest) else refuse
      | some (clock, rest) =>
        let (distance, rest) := offset rest
        let moment : Moment := ⟨day, clock, distance⟩
        if moment.exists then return (.moment moment, rest) else refuse
  | none =>
    match timeOfDay text with
    | some (clock, rest) => some (return (.time clock, rest))
    | none => none

/-! ### Numbers -/

/-- Digits with single underscores between them. -/
def digitsOf (test : Char → Bool) : Text → Text × Text
  | [] => ([], [])
  | '_' :: c :: rest =>
    if test c then
      let (digits, after) := digitsOf test rest
      (c :: digits, after)
    else ([], '_' :: c :: rest)
  | c :: rest =>
    if test c then
      let (digits, after) := digitsOf test rest
      (c :: digits, after)
    else ([], c :: rest)

/-- At least one digit, an underscore not being the first character. -/
def group (test : Char → Bool) (text : Text) : Option (Text × Text) :=
  match text with
  | c :: _ => if test c then some (digitsOf test text) else none
  | [] => none

def isHexDigit (c : Char) : Bool := c.isDigit || ('a' ≤ c && c ≤ 'f') || ('A' ≤ c && c ≤ 'F')

def prefixedNumber (text : Text) : Option (Nat × Text) := do
  let (base, digits, rest) ← match text with
    | '0' :: 'x' :: rest => (group isHexDigit rest).map fun found => (16, found)
    | '0' :: 'b' :: rest => (group (fun c => c = '0' || c = '1') rest).map fun found => (2, found)
    | '0' :: 'o' :: rest => (group (fun c => '0' ≤ c && c ≤ '7') rest).map fun found => (8, found)
    | _ => none
  let n ← Text.readDigits? base digits
  some (n, rest)

/-- A number in decimal digits does not begin with a zero unless it is zero. -/
def wholePart (text : Text) : Option (Text × Text) :=
  match text with
  | '0' :: rest => some (['0'], rest)
  | _ => group Char.isDigit text

def fractionPart (text : Text) : Text × Text :=
  match text with
  | '.' :: rest =>
    match group Char.isDigit rest with
    | some (digits, after) => ('.' :: digits, after)
    | none => ([], text)
  | _ => ([], text)

def exponentPart (text : Text) : Text × Text :=
  match text with
  | mark :: rest =>
    if mark != 'e' && mark != 'E' then ([], text)
    else
      let (sign, unsigned) : Text × Text := match rest with
        | '+' :: digits => (['+'], digits)
        | '-' :: digits => (['-'], digits)
        | digits => ([], digits)
      match group Char.isDigit unsigned with
      | some (digits, after) => ('e' :: sign ++ digits, after)
      | none => ([], text)
  | [] => ([], [])

def decimalNumber (negative : Bool) (text : Text) : Option (Reading (Value × Text)) := do
  let (whole, rest) ← wholePart text
  let (part, rest) := fractionPart rest
  let (power, rest) := exponentPart rest
  some <|
    if part.isEmpty && power.isEmpty then
      if Text.decimalLimit < whole.length then throw .unreadableScalar
      else do
        let n ← ofOption (Text.readNat? whole)
        return (.int (if negative then -(n : Int) else n), rest)
    else do
      let number ← ofOption (Binary64.ofUnsignedText? negative (whole ++ part ++ power))
      return (.float number, rest)

def number (text : Text) : Option (Reading (Value × Text)) :=
  match prefixedNumber text, text with
  | some (n, rest), _ => some (return (.int n, rest))
  | none, '-' :: rest => decimalNumber true rest
  | none, '+' :: rest => decimalNumber false rest
  | none, _ => decimalNumber false text

/-- A word that is a value. -/
def wordValues : List (String × Value) := [
  ("true", .bool true), ("false", .bool false),
  ("inf", .float (.infinite false)), ("+inf", .float (.infinite false)), ("-inf", .float (.infinite true)),
  ("nan", .float .nan), ("+nan", .float .nan), ("-nan", .float .nan)]

def word (text : Text) : Option (Value × Text) :=
  (wordValues.find? fun entry => entry.1.toList.isPrefixOf text).map fun (name, value) =>
    (value, text.drop name.length)

/-- A scalar of any kind. -/
def scalar (text : Text) : Reading (Value × Text) :=
  match text with
  | '"' :: _ | '\'' :: _ => do
    let (content, rest) ← ofOption (string text)
    return (.text content, rest)
  | _ =>
    match timestamp text, number text with
    | some found, _ => found
    | none, some found => found
    | none, none => ofOption (word text)

end Adocify.Toml
