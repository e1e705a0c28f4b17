import Adocify.Markdown.LinkTarget
import Adocify.Text.Lines

/-! Definitions of footnotes. A note goes on in lines that are indented a little deeper than its
first one, also after blank lines. -/

namespace Adocify.Markdown

structure NoteDefinition where
  key : Text
  /-- The first line without the label, and the lines after it as they are. -/
  content : Text
  deriving Repr, DecidableEq

namespace NoteDefinition

/-- The label of a footnote, given what follows the opening bracket and the caret. -/
def label? (text : Text) : Option (Text × Text) :=
  match LinkTarget.takeUnescaped (fun c => c == '[' || c == ']') text with
  | (label, ']' :: after) => if label.length ≤ 500 then some (label, after) else none
  | _ => none

def leadingSpaces (line : Text) : Nat := (line.takeWhile (· == ' ')).length

/-- The line belongs to a note whose first line is indented by `lead`. -/
def continuesNote (lead : Nat) (line : Text) : Bool :=
  line.isEmpty || (lead < leadingSpaces line && leadingSpaces line ≤ lead + 4)

/-- A definition at the front of the lines, with the lines that follow it. -/
def ofLines? : List Text → Option (NoteDefinition × List Text)
  | [] => none
  | first :: rest =>
    let lead := leadingSpaces first
    match first.drop lead with
    | '[' :: '^' :: text => do
      let (label, after) ← label? text
      match after with
      | ':' :: c :: content =>
        if isSpaceOrTab c && lead ≤ 3 then
          let lines := content :: rest.takeWhile (continuesNote lead)
          return (⟨labelKey label, terminated lines⟩, rest.dropWhile (continuesNote lead))
        else none
      | _ => none
    | _ => none

/-- Takes the spaces from the front of the lines that have at least so many. -/
def dedent (count : Nat) (text : Text) : Text :=
  Text.unlines ((Text.lines text).map fun line =>
    if count ≤ leadingSpaces line then line.dropWhile (· == ' ') else line)

/-- A note of one line is mere text; any other is a text of its own, once the indentation of its second
line is taken from all. -/
def body (note : NoteDefinition) : Text ⊕ Text :=
  match ((Text.boundedLines note.content).drop 1).find? (!·.isEmpty) with
  | none => .inl (Text.strip note.content)
  | some second =>
    let spaces := second.length - (Text.stripLeft second).length
    .inr (Text.strip (dedent spaces note.content))

end NoteDefinition

end Adocify.Markdown
