import Adocify.AsciiDoc.Block
import Adocify.Document.Structure

/-! The document as a whole: leading comments, the header with its title and attribute entries, and
the body. -/

namespace Adocify.AsciiDoc

/-- A value that is absent or false unsets the attribute; a true or empty one only sets it. -/
def attributeEntry (name : Text) (value : Value) : Text :=
  match value with
  | .null | .bool false => ':' :: name ++ "!:".toList
  | .bool true | .text [] => ':' :: name ++ [':']
  | other => ':' :: name ++ ": ".toList ++ other.display

def doctitle : Text := "doctitle".toList

def doctype : Text := "doctype".toList

/-- The title line, the document type, and the other attributes in their order. -/
def headerLines (title : Option Text) (attributes : Attributes) : List Text :=
  (match title.filter fun text => !text.isEmpty with
    | some text => ["= ".toList ++ text]
    | none => []) ++
  ((attributes.get? doctype).map (attributeEntry doctype)).toList ++
  (attributes.filter fun entry => entry.1 ≠ doctitle && entry.1 ≠ doctype).map fun entry =>
    attributeEntry entry.1 entry.2

/-- A title that the mapping supplies. -/
def suppliedTitle (attributes : Attributes) : Option Value :=
  (attributes.get? doctitle).filter (·.isTruthy)

/-- The parts of a document before they are joined. -/
structure DocumentParts where
  prologue : List Text
  header : List Text
  body : List Text
  deriving Repr

/-- The header follows the leading comments directly; all else is set apart by blank lines. -/
def DocumentParts.join (parts : DocumentParts) : Text :=
  let header := Text.unlines parts.header
  let blocks :=
    if header.isEmpty then parts.prologue ++ parts.body
    else
      let lead := Text.join blankLine parts.prologue
      (if lead.isEmpty then header else lead ++ '\n' :: header) :: parts.body
  Text.join blankLine blocks

/-- Text of the structure decision for the log. -/
def structureReport (decision : DocumentStructure) : Text :=
  "Structure: parts=".toList ++ Text.ofNat decision.partCount ++ " doctype=".toList ++
    (if decision.isBook then "book" else "article").toList

/-- Looks at a document before anything of it is rendered. -/
def decideStructure (nodes : List Node) : Render DocumentStructure := do
  modify fun context => { context with footnotes := context.footnotes.collect (.document nodes) }
  let context ← get
  let decision := DocumentStructure.ofChildren nodes (suppliedTitle context.attributes).isSome
  Render.report .debug (structureReport decision)
  modify fun context => { context with book := some decision.isBook }
  if decision.isBook then Render.register "doctype" (.text "book".toList)
  return decision

/-- Renders the parts of a document: the title first, then the leading comments and the body. The
header comes last, because rendering the body may register attributes. `opening` holds the children
of the heading behind the leading comments. -/
def documentParts (options : Options) (nodes : List Node) (opening : Option (List Child)) (children : List Child) :
    Render DocumentParts := do
  let decision ← decideStructure nodes
  let context ← get
  let title ← match decision.title.isSome, opening with
    | true, some heading => do
      let text ← inlineContent options heading
      pure (some text)
    | _, _ => pure ((suppliedTitle context.attributes).map (·.display))
  let prologue ← Child.renderPresent (children.take decision.prologue.length)
  let body ← Child.renderPresent (children.drop (children.length - decision.body.length))
  let context ← get
  return { prologue, header := headerLines title context.attributes, body }

end Adocify.AsciiDoc
