import Adocify.Text.Blank

/-! Numbers as people write them: in the decimal digits of any script and with blanks around them. -/

namespace Adocify.Text

/-- The zeros of the scripts beyond ASCII, as of Unicode 14; each begins a run of ten digits. -/
def decimalZeros : List Nat := [
  0x660, 0x6f0, 0x7c0, 0x966, 0x9e6, 0xa66, 0xae6, 0xb66, 0xbe6, 0xc66, 0xce6, 0xd66, 0xde6, 0xe50, 0xed0,
  0xf20, 0x1040, 0x1090, 0x17e0, 0x1810, 0x1946, 0x19d0, 0x1a80, 0x1a90, 0x1b50, 0x1bb0, 0x1c40, 0x1c50,
  0xa620, 0xa8d0, 0xa900, 0xa9d0, 0xa9f0, 0xaa50, 0xabf0, 0xff10, 0x104a0, 0x10d30, 0x11066, 0x110f0, 0x11136,
  0x111d0, 0x112f0, 0x11450, 0x114d0, 0x11650, 0x116c0, 0x11730, 0x118e0, 0x11950, 0x11c50, 0x11d50, 0x11da0,
  0x16a60, 0x16ac0, 0x16b50, 0x1d7ce, 0x1d7d8, 0x1d7e2, 0x1d7ec, 0x1d7f6, 0x1e140, 0x1e2f0, 0x1e950, 0x1fbf0]

/-- The ASCII digit of the same value, for a decimal digit of any script. -/
def asciiDigit (c : Char) : Char :=
  match decimalZeros.find? fun first => first ≤ c.toNat && c.toNat ≤ first + 9 with
  | some first => Char.ofNat (c.toNat - first + 0x30)
  | none => c

def isDecimalDigit (c : Char) : Bool := (asciiDigit c).isDigit

/-- Blanks that may stand around a number. The information separators are none of them. -/
def surroundsNumeral (c : Char) : Bool := isBlank c && !(0x1c ≤ c.toNat && c.toNat ≤ 0x1f)

/-- A number without the blanks around it, in ASCII digits. -/
def numeral (text : Text) : Text := (dropAround surroundsNumeral text).map asciiDigit

/-- Reads digits with single underscores between them; `digit` tells that the character before the
text is one. -/
def readGroups (base : Nat) (digit : Bool) (number : Nat) : Text → Option Nat
  | [] => if digit then some number else none
  | c :: rest =>
    if c = '_' then if digit then readGroups base false number rest else none
    else (digitValue? c).bind fun value =>
      if value < base then readGroups base true (number * base + value) rest else none

/-- The letter that may tell the base of a number behind a zero. -/
def baseLetter? : Nat → Option Char
  | 2 => some 'b'
  | 8 => some 'o'
  | 16 => some 'x'
  | _ => none

/-- The digits of a number, without a zero and a letter that tell its base in front of them; an
underscore may follow these. -/
def withoutBase (base : Nat) (digits : Text) : Text :=
  match digits with
  | '0' :: letter :: rest =>
    if some letter.toLower == baseLetter? base then (if rest.head? = some '_' then rest.drop 1 else rest)
    else digits
  | _ => digits

/-- Decimal numbers of more digits are not read, and not written either. -/
def decimalLimit : Nat := 4300

def readMagnitude? (base : Nat) (digits : Text) : Option Nat :=
  if base == 10 && decimalLimit < (digits.filter (· != '_')).length then none
  else readGroups base false 0 (withoutBase base digits)

/-- Reads a whole number with an optional sign. -/
def readInteger? (base : Nat) (text : Text) : Option Int :=
  match numeral text with
  | '-' :: digits => (readMagnitude? base digits).map fun number => -number
  | '+' :: digits => (readMagnitude? base digits).map fun number => number
  | digits => (readMagnitude? base digits).map fun number => number

end Adocify.Text
