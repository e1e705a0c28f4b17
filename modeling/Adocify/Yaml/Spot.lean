import Adocify.Text.Basic

/-! The characters of a YAML text with their places. Line breaks of every kind that read as a newline
are newlines here; the line separator and the paragraph separator break lines too and stay what they
are. -/

namespace Adocify.Yaml

structure Spot where
  char : Char
  line : Nat
  column : Nat
  index : Nat
  deriving Repr

abbrev Spots := List Spot

/-- Characters that a YAML text may hold. -/
def isPermitted (c : Char) : Bool :=
  let n := c.toNat
  n == 0x09 || n == 0x0a || n == 0x0d || (0x20 ≤ n && n ≤ 0x7e) || n == 0x85 ||
    (0xa0 ≤ n && n ≤ 0xfffd) || 0x10000 ≤ n

def isBreak (c : Char) : Bool := c = '\n' || c.toNat == 0x2028 || c.toNat == 0x2029

/-- Ends a run of text: a blank, a tab or a line break. -/
def isGap (c : Char) : Bool := c = ' ' || c = '\t' || isBreak c

def unifyBreaks : Text → Text
  | [] => []
  | '\r' :: '\n' :: rest => '\n' :: unifyBreaks rest
  | c :: rest => (if c = '\r' || c.toNat == 0x85 then '\n' else c) :: unifyBreaks rest

/-- A byte order mark takes no column. -/
def placeFrom (line column index : Nat) : Text → Spots
  | [] => []
  | c :: rest =>
    ⟨c, line, column, index⟩ ::
      if isBreak c then placeFrom (line + 1) 0 (index + 1) rest
      else placeFrom line (if c.toNat == 0xfeff then column else column + 1) (index + 1) rest

def withoutMark : Text → Text
  | c :: rest => if c.toNat == 0xfeff then rest else c :: rest
  | [] => []

/-- None if the text holds a character that YAML does not permit. -/
def spotsOf (text : Text) : Option Spots :=
  if text.all isPermitted then some (placeFrom 0 0 0 (unifyBreaks (withoutMark text))) else none

namespace Spots

/-- The next character does not belong to a word. -/
def atGap : Spots → Bool
  | [] => true
  | spot :: _ => isGap spot.char

def headIs (spots : Spots) (test : Char → Bool) : Bool := (spots.head?.map fun spot => test spot.char).getD false

def startsWith (spots : Spots) (text : String) : Bool :=
  (spots.take text.length).map (·.char) == text.toList

/-- A line of three hyphens or three dots, or one that begins with them and a gap. -/
def atDocumentMark (spots : Spots) : Bool :=
  (spots.startsWith "---" || spots.startsWith "...") && atGap (spots.drop 3)

def text (spots : Spots) : Text := spots.map (·.char)

/-- The spots up to the first that fails the test, and the rest. -/
def spanChars (test : Char → Bool) (spots : Spots) : Spots × Spots := spots.span fun spot => test spot.char

end Spots

end Adocify.Yaml
