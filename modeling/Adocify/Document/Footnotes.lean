import Adocify.Document.Node

/-! Footnote definitions of a tree. They may stand anywhere, also inside other footnotes; of
several with one identifier the first counts. -/

namespace Adocify.Node

mutual

/-- Every footnote definition of the tree, depth first and from left to right. -/
def footnotes : Node → List (Text × List Node)
  | .footnoteDefinition identifier content => (identifier, content) :: footnotesIn content
  | .document children | .blockQuote children | .listItem children _ => footnotesIn children
  | .heading _ content | .paragraph content | .tableCell content _ _
  | .definitionTerm content | .definitionDescription content | .emphasis content | .strong content
  | .strikethrough content | .link _ content _ | .foreign _ content _ => footnotesIn content
  | .list _ items _ _ => footnotesIn items
  | .table none rows _ _ => footnotesIn rows
  | .table (some header) rows _ _ => footnotes header ++ footnotesIn rows
  | .tableRow cells => footnotesIn cells
  | .definitionList entries => footnotesOfEntries entries
  | .codeBlock .. | .thematicBreak | .htmlBlock _ | .comment _ | .text _ | .code _ | .image ..
  | .lineBreak _ | .htmlInline _ | .footnoteReference _ | .stray _ => []

def footnotesIn : List Node → List (Text × List Node)
  | [] => []
  | node :: rest => footnotes node ++ footnotesIn rest

def footnotesOfEntries : List (Node × List Node) → List (Text × List Node)
  | [] => []
  | (term, descriptions) :: rest => footnotes term ++ footnotesIn descriptions ++ footnotesOfEntries rest

end

end Adocify.Node

namespace Adocify

/-- Footnote texts by identifier. -/
abbrev FootnoteTable := List (Text × List Node)

namespace FootnoteTable

def add (table : FootnoteTable) (definition : Text × List Node) : FootnoteTable :=
  if (table.lookup definition.1).isSome then table else table ++ [definition]

def collect (table : FootnoteTable) (node : Node) : FootnoteTable :=
  node.footnotes.foldl add table

end FootnoteTable

end Adocify
