import Adocify.Document.Node

/-! The plain text of inline content: literal text and code as they are, an image's alternative
text, a blank for a line break, and for everything else the text of its children. -/

namespace Adocify.Node

mutual

def plainText : Node → Text
  | .text content | .code content => content
  | .image _ alternative _ => alternative
  | .lineBreak _ => [' ']
  | .document children | .blockQuote children | .listItem children _ => plainTexts children
  | .heading _ content | .paragraph content | .tableCell content _ _ | .footnoteDefinition _ content
  | .definitionTerm content | .definitionDescription content | .emphasis content | .strong content
  | .strikethrough content | .link _ content _ | .foreign _ content _ => plainTexts content
  | .list _ items _ _ => plainTexts items
  | .table none rows _ _ => plainTexts rows
  | .table (some header) rows _ _ => plainText header ++ plainTexts rows
  | .tableRow cells => plainTexts cells
  | .definitionList entries => plainTextOfEntries entries
  | .codeBlock .. | .thematicBreak | .htmlBlock _ | .comment _ | .htmlInline _ | .footnoteReference _
  | .stray _ => []

def plainTexts : List Node → Text
  | [] => []
  | node :: rest => plainText node ++ plainTexts rest

def plainTextOfEntries : List (Node × List Node) → Text
  | [] => []
  | (term, descriptions) :: rest => plainText term ++ plainTexts descriptions ++ plainTextOfEntries rest

end

end Adocify.Node
