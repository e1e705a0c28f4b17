import Adocify.Markdown.Line
import Adocify.Text.Lines

/-! Entries of definition lists: lines of terms, perhaps a blank line, and descriptions, each of which
begins with a colon and goes on in lines of text and in indented lines. -/

namespace Adocify.Markdown

structure DefinitionEntry where
  terms : List Text
  descriptions : List (List Text)
  deriving Repr, DecidableEq

namespace DefinitionEntry

def startsDescription : Text → Bool
  | ':' :: c :: _ => isSpaceOrTab c
  | _ => false

/-- A blank and something after it. -/
def isIndented : Text → Bool
  | c :: _ :: _ => isSpaceOrTab c
  | _ => false

/-- The terms, and the lines from the first description on. -/
def splitTerms : List Text → Option (List Text × List Text)
  | [] => none
  | line :: rest =>
    if line.isEmpty then none
    else
      let after := if rest.head? = some [] then rest.drop 1 else rest
      if after.head?.any startsDescription then some ([line], after)
      else (splitTerms rest).map fun (terms, after) => (line :: terms, after)

/-- The lines of the descriptions, and the lines after them. After a blank or an indented line only
such lines go on, or another description begins. -/
def takeBody (lazy : Bool) : List Text → List Text × List Text
  | [] => ([], [])
  | line :: rest =>
    let taken := fun lazy =>
      let (body, after) := takeBody lazy rest
      (line :: body, after)
    if startsDescription line then taken true
    else if lazy && !line.isEmpty then taken true
    else if isBlankLine line || isIndented line then taken false
    else ([], line :: rest)

/-- The description begins with a blank in place of its colon. -/
def withoutColon (line : Text) : Text := ' ' :: line.drop 1

/-- At most four spaces of indentation are dropped. -/
def dedented (line : Text) : Text :=
  line.drop (min 4 (line.takeWhile (· == ' ')).length)

/-- The lines before the first description, and those of each description from there on. -/
def groupDescriptions : List Text → List Text × List (List Text)
  | [] => ([], [])
  | line :: rest =>
    let (own, others) := groupDescriptions rest
    if startsDescription line then ([], (withoutColon line :: own).map dedented :: others)
    else (line :: own, others)

/-- The lines of each description, the first line being that of one. -/
def splitDescriptions (lines : List Text) : List (List Text) :=
  match groupDescriptions lines with
  | ([], descriptions) => descriptions
  | _ => []

def stripped (term : Text) : Text := Text.dropAround isSpaceOrTab term

/-- An entry at the front of the lines, with the lines that follow it. -/
def ofLines? (lines : List Text) : Option (DefinitionEntry × List Text) :=
  (splitTerms lines).map fun (terms, rest) =>
    let (body, after) := takeBody true rest
    (⟨(Text.boundedLines (terminated terms)).map stripped, splitDescriptions body⟩, after)

/-- All entries at the front of the lines, at most so many. -/
def manyOfLines : Nat → List Text → List DefinitionEntry × List Text
  | 0, lines => ([], lines)
  | count + 1, lines =>
    match ofLines? lines with
    | none => ([], lines)
    | some (entry, rest) =>
      let (entries, after) := manyOfLines count rest
      (entry :: entries, after)

end DefinitionEntry

end Adocify.Markdown
