import Adocify.Markdown.Line
import Adocify.Markdown.PipeRow
import Adocify.Text.Lines

/-! Pipe tables. The first line tells the columns, the second their alignment; every line with a pipe
after these is a row, however many cells it has. Cells beyond the last column are dropped. -/

namespace Adocify.Markdown

structure PipeTable where
  header : List Text
  alignments : List (Option Text)
  rows : List (List Text)
  deriving Repr, DecidableEq

namespace PipeTable

def hasPipe (line : Text) : Bool := line.contains '|'

/-- A line that is indented like code heads no table. -/
def isHeader (line : Text) : Bool := hasPipe line && (Line.ofText line).indent < 4

def isHyphens (text : Text) : Bool := !text.isEmpty && text.all (· == '-')

def withoutColons (text : Text) : Text :=
  let text := if text.head? = some ':' then text.drop 1 else text
  if text.getLast? = some ':' then text.dropLast else text

def isDelimiterCell (cell : Text) : Bool := isHyphens (withoutColons (Text.dropAround (· == ' ') cell))

/-- The line under the header: cells of hyphens, with or without a pipe before the first and behind
the last. -/
def isDelimiterRow (line : Text) : Bool :=
  let text := line.dropWhile (· == ' ')
  let indent := line.length - text.length
  let (leading, text) := if text.head? = some '|' then (true, text.drop 1) else (false, text)
  let text := Text.dropEndWhile isSpaceOrTab text
  let text := if text.getLast? = some '|' then text.dropLast else text
  (!leading || indent ≤ 3) && (Text.splitOn '|' text).all isDelimiterCell

/-- The cells of a row, no more than there are columns. -/
def rowCells (columns : Nat) (line : Text) : List Text := (splitRow line).take columns

/-- A line of the source may hold further boundaries, at which it makes several rows. -/
def bodyRows (columns : Nat) (lines : List Text) : List (List Text) :=
  (Text.boundedLines (terminated lines)).map (rowCells columns)

/-- The lines begin with a header and the line under it, which may still not fit together. -/
def beginsAt : List Text → Bool
  | header :: delimiters :: _ => isHeader header && isDelimiterRow delimiters
  | _ => false

/-- A table at the front of the lines, with the lines that follow it. There is none if the header and
the line under it differ in the number of cells. -/
def ofLines? : List Text → Option (PipeTable × List Text)
  | header :: delimiters :: rest =>
    let names := splitRow header
    let alignments := (splitRow delimiters).map cellAlignment
    if beginsAt (header :: delimiters :: rest) && names.length == alignments.length then
      some (⟨names, alignments, bodyRows names.length (rest.takeWhile hasPipe)⟩, rest.dropWhile hasPipe)
    else none
  | _ => none

end PipeTable

end Adocify.Markdown
