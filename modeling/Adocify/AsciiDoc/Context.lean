import Adocify.Attributes
import Adocify.Document.Footnotes
import Adocify.Log

/-! The state of one rendering, and computations over it. A failed rendering keeps the state it had
reached: attributes registered before the failure stay registered. -/

namespace Adocify.AsciiDoc

/-- A heading that has been rendered. A discrete one is outside the hierarchy of sections. -/
structure HeadingMark where
  level : Whole
  discrete : Bool
  deriving Repr, DecidableEq

structure Context where
  attributes : Attributes
  /-- The document turned out to be a book; none until a document has been looked at. -/
  book : Option Bool := none
  /-- Markers of the enclosing lists, innermost first. -/
  listStack : List Char := []
  /-- The level of the last heading that took part in the hierarchy; before the first one it is one. -/
  sectionLevel : Whole := .number 1
  /-- The headings rendered so far, latest first. -/
  headings : List HeadingMark := []
  /-- Columns of the table last begun. -/
  tableColumns : Int := 0
  footnotes : FootnoteTable := []
  /-- Footnotes whose text is written already. -/
  emitted : List Text := []
  log : List LogRecord := []
  deriving Repr

abbrev Render := ExceptT Failure (StateM Context)

namespace Render

def register (name : String) (value : Value) : Render Unit :=
  modify fun context => { context with attributes := context.attributes.register name.toList value }

def report (level : LogLevel) (message : Text) : Render Unit :=
  modify fun context => { context with log := context.log ++ [⟨level, message⟩] }

/-- Runs inside a list of the given marker. The list is left also when the computation fails. -/
def insideList (marker : Char) (content : Render α) : Render α :=
  ExceptT.mk do
    modify fun context => { context with listStack := marker :: context.listStack }
    let result ← content.run
    modify fun context => { context with listStack := context.listStack.tail }
    return result

/-- Runs all of them in order. -/
def sequence : List (Render α) → Render (List α)
  | [] => return []
  | first :: rest => do
    let value ← first
    let values ← sequence rest
    return value :: values

end Render

/-- A child of a node together with its rendering, which has yet to take place. -/
structure Child where
  node : Node
  rendered : Render Text

namespace Child

/-- Renders all, dropping those that come out empty. -/
def renderPresent (children : List Child) : Render (List Text) := do
  let texts ← Render.sequence (children.map (·.rendered))
  return texts.filter fun text => !text.isEmpty

end Child

end Adocify.AsciiDoc
