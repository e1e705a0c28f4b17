import Adocify.Failure

/-! Document trees. A tree owns its children; blocks and inline elements share one type, so that a
misplaced element is a tree too. -/

namespace Adocify

/-- Where a node stood in its source. -/
structure Location where
  format : Text
  line : Option Int := none
  column : Option Int := none
  deriving Repr, DecidableEq

def Location.describe (location : Location) : Text :=
  match location.line, location.column with
  | none, _ => location.format ++ " source".toList
  | some line, none => "line ".toList ++ Text.ofInt line
  | some line, some column => "line ".toList ++ Text.ofInt line ++ ", column ".toList ++ Text.ofInt column

inductive Node where
  | document (children : List Node)
  | heading (level : Whole) (content : List Node)
  | paragraph (content : List Node)
  | codeBlock (content : Text) (language : Option Text) (remainder : Option Text)
  | blockQuote (children : List Node)
  | list (ordered : Bool) (items : List Node) (start : Whole) (tight : Bool)
  | listItem (children : List Node) (taskStatus : Option Text)
  | table (header : Option Node) (rows : List Node) (alignments : List (Option Text)) (caption : Option Text)
  | tableRow (cells : List Node)
  | tableCell (content : List Node) (span : Int) (alignment : Option Text)
  | thematicBreak
  | htmlBlock (content : Text)
  | comment (content : Text)
  | footnoteDefinition (identifier : Text) (content : List Node)
  | definitionList (entries : List (Node × List Node))
  | definitionTerm (content : List Node)
  | definitionDescription (content : List Node)
  | text (content : Text)
  | emphasis (content : List Node)
  | strong (content : List Node)
  | strikethrough (content : List Node)
  | code (content : Text)
  | link (url : Text) (content : List Node) (title : Option Text)
  | image (url : Text) (alternative : Text) (title : Option Text)
  | lineBreak (soft : Bool)
  | htmlInline (content : Text)
  | footnoteReference (identifier : Text)
  /-- A kind of node that this library does not know. -/
  | foreign (kind : Text) (content : List Node) (location : Option Location)
  /-- Something that is not a node, with the name of its kind. -/
  | stray (kind : Text)
  deriving Repr, Inhabited

namespace Node

def entryChildren : List (Node × List Node) → List Node
  | [] => []
  | (term, descriptions) :: rest => term :: descriptions ++ entryChildren rest

/-- The children in document order. -/
def children : Node → List Node
  | .document children | .blockQuote children | .listItem children _ => children
  | .heading _ content | .paragraph content | .tableCell content _ _ | .footnoteDefinition _ content
  | .definitionTerm content | .definitionDescription content | .emphasis content | .strong content
  | .strikethrough content | .link _ content _ | .foreign _ content _ => content
  | .list _ items _ _ => items
  | .table header rows _ _ => header.toList ++ rows
  | .tableRow cells => cells
  | .definitionList entries => entryChildren entries
  | _ => []

/-- The name of the kind of a node, or of whatever stands in its place. -/
def kindName : Node → Text
  | .document _ => "Document".toList
  | .heading .. => "Heading".toList
  | .paragraph _ => "Paragraph".toList
  | .codeBlock .. => "CodeBlock".toList
  | .blockQuote _ => "BlockQuote".toList
  | .list .. => "List".toList
  | .listItem .. => "ListItem".toList
  | .table .. => "Table".toList
  | .tableRow _ => "TableRow".toList
  | .tableCell .. => "TableCell".toList
  | .thematicBreak => "ThematicBreak".toList
  | .htmlBlock _ => "HTMLBlock".toList
  | .comment _ => "Comment".toList
  | .footnoteDefinition .. => "FootnoteDefinition".toList
  | .definitionList _ => "DefinitionList".toList
  | .definitionTerm _ => "DefinitionTerm".toList
  | .definitionDescription _ => "DefinitionDescription".toList
  | .text _ => "Text".toList
  | .emphasis _ => "Emphasis".toList
  | .strong _ => "Strong".toList
  | .strikethrough _ => "Strikethrough".toList
  | .code _ => "Code".toList
  | .link .. => "Link".toList
  | .image .. => "Image".toList
  | .lineBreak _ => "LineBreak".toList
  | .htmlInline _ => "HTMLInline".toList
  | .footnoteReference _ => "FootnoteReference".toList
  | .foreign kind _ _ | .stray kind => kind

/-- A heading of a level from one to six. -/
def heading? (level : Whole) (content : List Node) : Except Failure Node :=
  if 1 ≤ level.toInt ∧ level.toInt ≤ 6 then .ok (.heading level content) else .error (.headingLevel level.toInt)

end Node

end Adocify
