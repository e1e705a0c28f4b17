import Adocify.AsciiDoc.Header
import Adocify.AsciiDoc.Heading
import Adocify.AsciiDoc.List
import Adocify.AsciiDoc.Table
import Adocify.Text.Lines

/-! Rendering of document trees. The recursion follows the tree; the only other way down is from a
footnote reference to the text of its definition, and each such step uses up one level of depth. -/

namespace Adocify.AsciiDoc

section

variable (options : Options) (descend : Text → List Node → Render (List Text))

mutual

/-- Renders one node. The blocks of a footnote are rendered by `descend`. -/
def renderNode : Node → Render Text
  | .document nodes => do
    let parts ← documentParts options nodes (openingHeading nodes) (renderChildren nodes)
    return parts.join
  | .heading level content => heading options level content (renderChildren content)
  | .paragraph content => paragraph options (renderChildren content)
  | .codeBlock content language _ => return codeBlock options content language
  | .blockQuote (.paragraph content :: rest) =>
    let opening := renderChildren content
    blockQuote options (some opening) (some (paragraph options opening)) (renderChildren rest)
  | .blockQuote nodes => blockQuote options none none (renderChildren nodes)
  | .list ordered items start _ => list ordered start (renderItems items)
  | .listItem (.paragraph content :: rest) taskStatus =>
    listItem (paragraphText options (renderChildren content)) (renderChildren rest) taskStatus ['*']
  | .listItem nodes taskStatus => listItem (return blankFirstLine) (renderChildren nodes) taskStatus ['*']
  | .table none rows alignments caption => table none (renderChildren rows) alignments caption
  | .table (some header) rows alignments caption =>
    table (some ⟨header, renderNode header⟩) (renderChildren rows) alignments caption
  | .tableRow cells => tableRow (renderChildren cells)
  | .tableCell content span _ => tableCell options span (renderChildren content)
  | .thematicBreak => return "'''".toList
  | .htmlBlock content => htmlBlock options content
  | .comment content => return comment content
  | .footnoteDefinition .. => return []
  | .definitionList entries => do
    let texts ← Render.sequence (renderEntries entries)
    return Text.unlines texts
  | .definitionTerm content => definitionTerm options (renderChildren content)
  | .definitionDescription content => definitionDescription (renderChildren content)
  | .text content => return literalText options content
  | .emphasis content => emphasis options (renderChildren content)
  | .strong content => strong options content (renderChildren content)
  | .strikethrough content => strikethrough options (renderChildren content)
  | .code content => return code content
  | .link url content title => link options url content title (renderChildren content)
  | .image url alternative title => image options url alternative title
  | .lineBreak soft => return lineBreak options soft
  | .htmlInline content => htmlInline options content
  | .footnoteReference identifier => footnoteReference descend identifier
  | .foreign kind _ location => throw (.unsupportedNode kind (location.map (·.describe)))
  | .stray kind => throw (.unsupportedNode kind none)

def renderChildren : List Node → List Child
  | [] => []
  | node :: rest => ⟨node, renderNode node⟩ :: renderChildren rest

/-- The content of the heading behind the leading comments. -/
def openingHeading : List Node → Option (List Child)
  | .comment _ :: rest => openingHeading rest
  | .heading _ content :: _ => some (renderChildren content)
  | _ => none

/-- The items of a list, each waiting for its marker. -/
def renderItems : List Node → List (Text → Render Text)
  | [] => []
  | .listItem (.paragraph content :: rest) taskStatus :: items =>
    listItem (paragraphText options (renderChildren content)) (renderChildren rest) taskStatus :: renderItems items
  | .listItem nodes taskStatus :: items =>
    listItem (return blankFirstLine) (renderChildren nodes) taskStatus :: renderItems items
  | _ :: items => (fun _ => throw .misplaced) :: renderItems items

def renderEntries : List (Node × List Node) → List (Render Text)
  | [] => []
  | (term, descriptions) :: rest =>
    definitionEntry (renderNode term) (renderChildren descriptions) :: renderEntries rest

end

end

/-- Renders the blocks of a footnote, with as many further steps from footnote to footnote as the
depth allows. A footnote that needs more refers to itself. -/
def renderFootnote (options : Options) : Nat → Text → List Node → Render (List Text)
  | 0, identifier, _ => throw (.circularFootnote identifier)
  | depth + 1, _, content => Child.renderPresent (renderChildren options (renderFootnote options depth) content)

/-- No chain of footnotes that ends passes through more footnotes than the tree defines. -/
def renderTree (options : Options) (node : Node) : Render Text :=
  renderNode options (renderFootnote options node.footnotes.length) node

/-- The outcome of a rendering, with the state that it leaves. -/
structure Rendering where
  outcome : Except Failure Text
  context : Context

/-- Renders a tree with the given attributes; the text ends in one newline or is empty. -/
def render (options : Options) (attributes : Attributes) (node : Node) : Rendering :=
  let (outcome, context) := (renderTree options node).run.run { attributes }
  ⟨outcome.map Text.endWithNewline, context⟩

end Adocify.AsciiDoc
