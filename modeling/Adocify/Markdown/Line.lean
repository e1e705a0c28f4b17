import Adocify.Text.Basic

/-! Lines while their blocks are being found: what is left of a line, and the column at which that
begins. A tab reaches to the next multiple of four; a tab taken in part leaves spaces behind. -/

namespace Adocify

namespace Markdown

def isBlankLine (line : Text) : Bool := line.all isSpaceOrTab

/-- What may separate the parts of a construct that spans lines. -/
def isSpacing (c : Char) : Bool := isSpaceOrTab c || c == '\n'

structure Line where
  column : Nat
  rest : Text
  deriving Repr, DecidableEq

def tabWidth (column : Nat) : Nat := 4 - column % 4

def blankColumns (column : Nat) : Text → Nat
  | ' ' :: rest => 1 + blankColumns (column + 1) rest
  | '\t' :: rest => tabWidth column + blankColumns (column + tabWidth column) rest
  | _ => 0

def dropColumns : Nat → Nat → Text → Line
  | 0, column, text => ⟨column, text⟩
  | count + 1, column, ' ' :: rest => dropColumns count (column + 1) rest
  | count + 1, column, '\t' :: rest =>
    let width := tabWidth column
    if width ≤ count + 1 then dropColumns (count + 1 - width) (column + width) rest
    else ⟨column + count + 1, List.replicate (width - (count + 1)) ' ' ++ rest⟩
  | _, column, text => ⟨column, text⟩
termination_by structural _ _ text => text

namespace Line

def ofText (text : Text) : Line := ⟨0, text⟩

/-- The columns that the blanks at the front take. -/
def indent (line : Line) : Nat := blankColumns line.column line.rest

/-- Without so many columns of blanks, or without all that there are. -/
def dropIndent (count : Nat) (line : Line) : Line := dropColumns count line.column line.rest

def trimmed (line : Line) : Line := line.dropIndent line.indent

/-- Past so many characters, none of which is a tab. -/
def advance (count : Nat) (line : Line) : Line := ⟨line.column + count, line.rest.drop count⟩

def isBlank (line : Line) : Bool := isBlankLine line.rest

end Line

/-- A newline ends each of the lines. -/
def terminated (lines : List Text) : Text := lines.flatMap (· ++ ['\n'])

/-- The lines of a text; nothing after the last newline is no line. -/
def sourceLines (text : Text) : List Text :=
  let lines := Text.lines text
  if lines.getLast? = some [] then lines.dropLast else lines

end Markdown

end Adocify
