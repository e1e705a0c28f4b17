import Adocify.Failure
import Adocify.Text.Numeral
import Adocify.Yaml.Tag

/-! The meaning of scalars: which plain texts are numbers, truth values or dates, and what they are. -/

namespace Adocify.Yaml

def isOneOf (words : List String) (text : Text) : Bool := words.any (·.toList == text)

def isNullText (text : Text) : Bool := isOneOf ["", "~", "null", "Null", "NULL"] text

def isBoolText (text : Text) : Bool :=
  isOneOf ["yes", "Yes", "YES", "no", "No", "NO", "true", "True", "TRUE", "false", "False", "FALSE",
    "on", "On", "ON", "off", "Off", "OFF"] text

/-- The text without a sign in front of it. -/
def withoutSign : Text → Text
  | '-' :: rest | '+' :: rest => rest
  | text => text

def isNonempty (test : Char → Bool) (text : Text) : Bool := !text.isEmpty && text.all test

def isBinaryDigit (c : Char) : Bool := c = '0' || c = '1'

def isOctalDigit (c : Char) : Bool := '0' ≤ c && c ≤ '7'

def isHexDigit (c : Char) : Bool := c.isDigit || ('a' ≤ c && c ≤ 'f') || ('A' ≤ c && c ≤ 'F')

def orUnderscore (test : Char → Bool) (c : Char) : Bool := test c || c = '_'

/-- A digit that the test admits, then digits and underscores. -/
def isGroup (first : Char → Bool) : Text → Bool
  | [] => false
  | c :: rest => first c && rest.all (orUnderscore Char.isDigit)

/-- A part of a number to the base sixty. -/
def isSixtieth : Text → Bool
  | [c] => c.isDigit
  | [c, d] => '0' ≤ c && c ≤ '5' && d.isDigit
  | _ => false

/-- Two parts or more with colons between them, the first of which begins with an admitted digit. -/
def isSexagesimal (first : Char → Bool) (text : Text) : Bool :=
  match Text.splitOn ':' text with
  | head :: second :: rest => isGroup first head && (second :: rest).all isSixtieth
  | _ => false

def isNonzeroDigit (c : Char) : Bool := c.isDigit && c != '0'

def isIntText (text : Text) : Bool :=
  match withoutSign text with
  | ['0'] => true
  | '0' :: 'b' :: digits => isNonempty (orUnderscore isBinaryDigit) digits
  | '0' :: 'x' :: digits => isNonempty (orUnderscore isHexDigit) digits
  | '0' :: digits => isNonempty (orUnderscore isOctalDigit) digits
  | digits => isGroup isNonzeroDigit digits || isSexagesimal isNonzeroDigit digits

/-- What may follow the point of a number: digits and underscores, then an exponent with a sign. -/
def isFraction (text : Text) : Bool :=
  match text.dropWhile (orUnderscore Char.isDigit) with
  | [] => true
  | mark :: sign :: power =>
    (mark = 'e' || mark = 'E') && (sign = '-' || sign = '+') && isNonempty Char.isDigit power
  | _ => false

def isFloatText (text : Text) : Bool :=
  let unsigned := withoutSign text
  let infinite := isOneOf [".inf", ".Inf", ".INF"] unsigned
  let undefined := isOneOf [".nan", ".NaN", ".NAN"] text
  match Text.cut '.' unsigned with
  | (_, none) => false
  | ([], some part) =>
    infinite || undefined ||
      (unsigned == text && (part.head?.map Char.isDigit).getD false && isFraction part)
  | (whole, some part) =>
    (isGroup Char.isDigit whole && isFraction part) ||
      (isSexagesimal Char.isDigit whole && part.all (orUnderscore Char.isDigit))

/-- The parts of a date with a time. -/
structure TimestampText where
  year : Nat
  month : Nat
  day : Nat
  time : Option TimeOfDay := none
  offset : Option Int := none

/-- Reads one or two digits. -/
def shortNumber (least : Nat) (text : Text) : Option (Nat × Text) :=
  let digits := (text.take 2).takeWhile Char.isDigit
  if digits.length < least then none
  else (Text.readNat? digits).map fun n => (n, text.drop digits.length)

def expect (c : Char) : Text → Option Text
  | [] => none
  | d :: rest => if c = d then some rest else none

/-- Six digits of a fraction of a second, the missing ones being zeros. -/
def microseconds (digits : Text) : Nat :=
  (Text.readNat? ((digits ++ "000000".toList).take 6)).getD 0

/-- A distance from universal time at the end of the text; a `Z` stands for none. -/
def offsetOf (text : Text) : Option (Option Int) := do
  let blanks := text.takeWhile fun c => c = ' ' || c = '\t'
  match text.drop blanks.length with
  | [] => if blanks.isEmpty then some none else none
  | ['Z'] => some (some 0)
  | sign :: rest =>
    if sign != '-' && sign != '+' then none
    let (hours, rest) ← shortNumber 1 rest
    let minutes ← match rest with
      | [] => some 0
      | _ => do
        let rest ← expect ':' rest
        let (minutes, rest) ← shortNumber 2 rest
        if rest.isEmpty then some minutes else none
    let distance : Int := (hours * 60 + minutes : Nat)
    some (some (if sign = '-' then -distance else distance))

def timestampText (text : Text) : Option TimestampText := do
  let yearDigits := text.take 4
  if yearDigits.length != 4 || !yearDigits.all Char.isDigit then none
  let year ← Text.readNat? yearDigits
  let rest ← expect '-' (text.drop 4)
  let (month, rest) ← shortNumber 1 rest
  let rest ← expect '-' rest
  let (day, rest) ← shortNumber 1 rest
  if rest.isEmpty then return { year, month, day }
  let rest ← match rest with
    | 'T' :: rest | 't' :: rest => some rest
    | c :: _ =>
      if c = ' ' || c = '\t' then some (rest.dropWhile fun c => c = ' ' || c = '\t') else none
    | [] => none
  let (hour, rest) ← shortNumber 1 rest
  let (minute, rest) ← shortNumber 2 (← expect ':' rest)
  let (second, rest) ← shortNumber 2 (← expect ':' rest)
  let (fraction, rest) := match rest with
    | '.' :: rest => (rest.takeWhile Char.isDigit, rest.dropWhile Char.isDigit)
    | rest => ([], rest)
  let offset ← offsetOf rest
  return { year, month, day, time := some ⟨hour, minute, second, microseconds fraction⟩, offset }

/-- A date alone has two digits in each of its parts but the year. -/
def isTimestampText (text : Text) : Bool :=
  match timestampText text with
  | some found => found.time.isSome || text.length == 10
  | none => false

/-- The tag of a scalar whose text decides on it. A newline at the end does not count. -/
def plainTag (text : Text) : Tag :=
  let line := Text.withoutFinalNewline text
  if isBoolText line then .bool
  else if isFloatText line then .float
  else if isIntText line then .int
  else if line == "<<".toList then .merge
  else if isNullText line && text != ['\n'] then .null
  else if isTimestampText line then .timestamp
  else if line == ['='] then .value
  else if isOneOf ["!", "&", "*"] line then .unknown
  else .text

/-! ### Values -/

def withoutUnderscores (text : Text) : Text := text.filter (· != '_')

def integerIn (base : Nat) (digits : Text) : Except Failure Int :=
  match Text.readInteger? base digits with
  | some number => .ok number
  | none => .error .unreadableScalar

/-- The parts of a number to the base sixty, the first of which counts most. -/
def sexagesimal (parts : List Int) : Int := parts.foldl (fun total part => total * 60 + part) 0

/-- A sign, and then digits of a base that their front tells. -/
def intValue (text : Text) : Except Failure Value := do
  let text := withoutUnderscores text
  let magnitude ← match withoutSign text with
    | [] => throw .emptyNumber
    | '0' :: 'b' :: digits => integerIn 2 digits
    | '0' :: 'x' :: digits => integerIn 16 digits
    | '0' :: digits => integerIn 8 ('0' :: digits)
    | digits => do
      let parts ← (Text.splitOn ':' digits).mapM (integerIn 10)
      pure (sexagesimal parts)
  return .int (if text.head? = some '-' then -magnitude else magnitude)

/-- Sums the parts from the last, each counting sixty times as much as the one behind it. -/
def sexagesimalFloat (parts : List Binary64) : Except Failure Binary64 := do
  let step := fun (total : Binary64 × Nat) part => do
    match Binary64.ofInt total.2 with
    | .infinite _ => throw .tooLarge
    | weight => pure (total.1.add (part.mul weight), total.2 * 60)
  let total ← parts.reverse.foldlM step (Binary64.zero false, 1)
  return total.1

def floatOf (text : Text) : Except Failure Binary64 :=
  match Binary64.ofText? (Text.numeral text) with
  | some number => .ok number
  | none => .error .unreadableScalar

def infinityText : Text := ".inf".toList

def nanText : Text := ".nan".toList

/-- The text is the plain form of the number that is none. -/
def isNanText (text : Text) : Bool := withoutSign (Text.lower (withoutUnderscores text)) == nanText

def floatValue (text : Text) : Except Failure Value := do
  let text := Text.lower (withoutUnderscores text)
  let digits := withoutSign text
  let magnitude ←
    if text.isEmpty then throw .emptyNumber
    else if digits == infinityText then pure (Binary64.infinite false)
    else if digits == nanText then pure Binary64.nan
    else if digits.contains ':' then do
      let parts ← (Text.splitOn ':' digits).mapM floatOf
      sexagesimalFloat parts
    else floatOf digits
  return .float (if text.head? = some '-' then magnitude.negate else magnitude)

def boolValue (text : Text) : Except Failure Value :=
  let word := Text.lower text
  if isOneOf ["yes", "true", "on"] word then .ok (.bool true)
  else if isOneOf ["no", "false", "off"] word then .ok (.bool false)
  else .error .unknownWord

/-- A date or a time that does not exist is refused. -/
def timestampValue (text : Text) : Except Failure Value := do
  let some found := timestampText (Text.withoutFinalNewline text) | throw .misplaced
  let date : Date := ⟨found.year, found.month, found.day⟩
  match found.time with
  | none => if date.exists then return .date date else throw .unreadableScalar
  | some time =>
    let moment : Moment := ⟨date, time, found.offset⟩
    if moment.exists then return .moment moment else throw .unreadableScalar

def base64Digit? (c : Char) : Option Nat :=
  if 'A' ≤ c && c ≤ 'Z' then some (c.toNat - 0x41)
  else if 'a' ≤ c && c ≤ 'z' then some (c.toNat - 0x61 + 26)
  else if c.isDigit then some (c.toNat - 0x30 + 52)
  else if c = '+' then some 62
  else if c = '/' then some 63
  else none

/-- Digits read so far of a group of four, and the padding signs behind them. -/
structure Base64Group where
  digits : List Nat := []
  padding : Nat := 0

/-- Two digits of a group make a byte, three make two, and four three. -/
def Base64Group.bytes (group : Base64Group) : List UInt8 :=
  match group.digits with
  | [a, b] => [UInt8.ofNat (a * 4 + b / 16)]
  | [a, b, c] => [UInt8.ofNat (a * 4 + b / 16), UInt8.ofNat (b % 16 * 16 + c / 4)]
  | [a, b, c, d] =>
    [UInt8.ofNat (a * 4 + b / 16), UInt8.ofNat (b % 16 * 16 + c / 4), UInt8.ofNat (c % 4 * 64 + d)]
  | _ => []

/-- Reads groups of four. Padding that fills up a group of two or three digits ends the text. Other
characters are passed over. None if a group stays open. -/
def base64From (group : Base64Group) : Text → Option (List UInt8)
  | [] => if group.digits.isEmpty then some [] else none
  | c :: rest =>
    if c = '=' then
      let padding := group.padding + 1
      if group.digits.length < 2 then base64From group rest
      else if 4 ≤ group.digits.length + padding then some group.bytes
      else base64From { group with padding } rest
    else match base64Digit? c with
      | none => base64From group rest
      | some digit =>
        let group : Base64Group := { digits := group.digits ++ [digit] }
        if group.digits.length < 4 then base64From group rest
        else (base64From {} rest).map (group.bytes ++ ·)

def bytesOfBase64 (text : Text) : Option (List UInt8) := base64From {} text

end Adocify.Yaml
