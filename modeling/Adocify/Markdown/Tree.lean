import Adocify.Document.Footnotes
import Adocify.Markdown.HtmlComment
import Adocify.Markdown.Options
import Adocify.Markdown.Token

/-! The document tree that tokens describe. Tokens of unknown kinds are left out. Footnotes are
gathered from wherever they stand and come last, in the order in which they were first met. -/

namespace Adocify.Markdown

/-- Readings over the footnotes met so far. -/
abbrev TreeReader := StateT FootnoteTable (Except Failure)

/-- The last text given for an identifier counts. -/
def noteFootnote (identifier : Text) (content : List Node) : TreeReader Unit :=
  modify fun table =>
    if (table.lookup identifier).isSome then
      table.map fun entry => if entry.1 = identifier then (identifier, content) else entry
    else table ++ [(identifier, content)]

/-- Whole numbers from one to six; anything else counts as one. -/
def headingLevel (details : TokenDetails) : Whole :=
  match details.level.bind Whole.ofValue? with
  | some level => if 1 ≤ level.toInt ∧ level.toInt ≤ 6 then level else .number 1
  | none => .number 1

/-- The first word of an info string and what follows it. -/
def splitInfo (info : Text) : Option Text × Option Text :=
  match Text.strip info with
  | [] => (none, none)
  | stripped =>
    match Text.stripLeft (stripped.dropWhile (!Text.isBlank ·)) with
    | [] => (some stripped, none)
    | remainder => (some (stripped.takeWhile (!Text.isBlank ·)), some remainder)

def codeBlock (content : Text) (details : TokenDetails) : Node :=
  let (language, remainder) := splitInfo (details.info.getD [])
  .codeBlock content language remainder

def htmlBlock (content : Text) : Node :=
  if isHtmlComment content then .comment (htmlCommentText content)
  else .htmlBlock (Text.dropEndWhile (· == '\n') content)

def firstNonempty (first second : Option Text) : Text :=
  (first.filter (!·.isEmpty)).getD (second.getD [])

mutual

/-- None for tokens that are not inline content. -/
def inlineNode : Token → TreeReader (Option Node)
  | .stray => throw .misplaced
  | .element kind literal _ details children => do
    let content := literal.getD []
    match kind with
    | .text => return some (.text content)
    | .codeSpan => return some (.code content)
    | .inlineHtml => return some (.htmlInline content)
    | .lineBreak => return some (.lineBreak false)
    | .softBreak => return some (.lineBreak true)
    | .footnoteReference => return some (.footnoteReference (firstNonempty literal details.label))
    | .image =>
      return some (.image (details.url.getD []) (Token.plainTexts children) details.title)
    | .strong => return some (.strong (← inlineNodes children))
    | .emphasis => return some (.emphasis (← inlineNodes children))
    | .strikethrough => return some (.strikethrough (← inlineNodes children))
    | .link => return some (.link (details.url.getD []) (← inlineNodes children) details.title)
    | _ => return none

def inlineNodes : List Token → TreeReader (List Node)
  | [] => return []
  | token :: rest => do
    let node ← inlineNode token
    let nodes ← inlineNodes rest
    return node.toList ++ nodes

end

def tableCells : List Token → TreeReader (List Node)
  | [] => return []
  | .stray :: _ => throw .misplaced
  | .element .tableCell _ _ details children :: rest => do
    let cell := Node.tableCell (← inlineNodes children) 1 details.alignment
    return cell :: (← tableCells rest)
  | _ :: rest => tableCells rest

def tableRows : List Token → TreeReader (List Node)
  | [] => return []
  | .stray :: _ => throw .misplaced
  | .element _ _ _ _ children :: rest => do
    let row := Node.tableRow (← tableCells children)
    return row :: (← tableRows rest)

/-- The parts of a table read so far. -/
structure TableParts where
  header : Option Node := none
  alignments : List (Option Text) := []
  rows : List Node := []

def cellAlignments (cells : List Node) : List (Option Text) :=
  cells.filterMap fun
    | .tableCell _ _ alignment => some alignment
    | _ => none

/-- The last header counts; the rows of all bodies follow each other. -/
def tableParts (parts : TableParts) : List Token → TreeReader TableParts
  | [] => return parts
  | .stray :: _ => throw .misplaced
  | .element .tableHead _ _ _ children :: rest => do
    let cells ← tableCells children
    tableParts { parts with header := some (.tableRow cells), alignments := cellAlignments cells } rest
  | .element .tableBody _ _ _ children :: rest => do
    let rows ← tableRows children
    tableParts { parts with rows := parts.rows ++ rows } rest
  | _ :: rest => tableParts parts rest

/-- A term or a description of a definition list. -/
inductive DefinitionPart where
  | term (content : List Node)
  | description (content : List Node)

namespace DefinitionPart

/-- Descriptions at the beginning, up to the next term. -/
def leading : List DefinitionPart → List Node
  | .description content :: rest => .definitionDescription content :: leading rest
  | _ => []

/-- Each term with the descriptions that follow it; those before the first term are dropped. -/
def entries : List DefinitionPart → List (Node × List Node)
  | [] => []
  | .description _ :: rest => entries rest
  | .term content :: rest => (.definitionTerm content, leading rest) :: entries rest

end DefinitionPart

mutual

def blockNodes : List Token → TreeReader (List Node)
  | [] => return []
  | token :: rest => do
    let nodes ← blockNode token
    let others ← blockNodes rest
    return nodes.toList ++ others

/-- None for tokens that leave nothing in the place where they stand. -/
def blockNode : Token → TreeReader (Option Node)
  | .stray => throw .misplaced
  | .element kind literal tight details children => do
    match kind with
    | .heading => return some (.heading (headingLevel details) (← inlineNodes children))
    | .paragraph | .blockText => return some (.paragraph (← inlineNodes children))
    | .blockCode => return some (codeBlock (literal.getD []) details)
    | .blockQuote => return some (.blockQuote (← blockNodes children))
    | .list =>
      let items ← listItems children
      let ordered := (details.ordered.map (·.isTruthy)).getD false
      let start := (details.start.bind Whole.ofValue?).getD (.number 1)
      let tight := ((tight.or details.tight).map (·.isTruthy)).getD true
      return some (.list ordered items start tight)
    | .table =>
      let parts ← tableParts {} children
      return some (.table parts.header parts.rows parts.alignments none)
    | .thematicBreak => return some .thematicBreak
    | .blockHtml => return some (htmlBlock (literal.getD []))
    | .footnotes =>
      footnoteItems children
      return none
    | .definitionList => return some (.definitionList (DefinitionPart.entries (← definitionParts children)))
    | _ => return none

def listItems : List Token → TreeReader (List Node)
  | [] => return []
  | .stray :: rest => listItems rest
  | .element _ _ _ details children :: rest => do
    let content ← blockNodes children
    let status := details.checked.map fun checked => if checked.isTruthy then "checked" else "unchecked"
    let items ← listItems rest
    return .listItem content (status.map String.toList) :: items

def footnoteItems : List Token → TreeReader Unit
  | [] => return
  | .stray :: _ => throw .misplaced
  | .element _ _ _ details children :: rest => do
    let content ← blockNodes children
    noteFootnote (firstNonempty details.key details.label) content
    footnoteItems rest

def definitionParts : List Token → TreeReader (List DefinitionPart)
  | [] => return []
  | .stray :: _ => throw .misplaced
  | .element .definitionHead _ _ _ children :: rest => do
    let content ← inlineNodes children
    return .term content :: (← definitionParts rest)
  | .element .definitionItem _ _ _ children :: rest => do
    let content ← description children
    return .description content :: (← definitionParts rest)
  | _ :: rest => definitionParts rest

/-- Inline content alone makes one paragraph. -/
def description : List Token → TreeReader (List Node)
  | [] => return []
  | token :: rest => do
    if (token :: rest).any (·.kind?.isNone) then throw .misplaced
    if (token :: rest).all fun token => (token.kind?.map (·.isInline)).getD false then
      return [.paragraph (← inlineNodes (token :: rest))]
    let nodes ← blockNode token
    let others ← blockNodes rest
    return nodes.toList ++ others

end

/-- The tree of a document, with its footnotes at the end. -/
def documentOf (tokens : List Token) : Except Failure (List Node) := do
  let (children, footnotes) ← (blockNodes tokens).run []
  return children ++ footnotes.map fun (identifier, content) => .footnoteDefinition identifier content

end Adocify.Markdown
