import Adocify.Markdown.Blocks
import Adocify.Markdown.Inline
import Adocify.Markdown.Options

/-! The tokens of a Markdown text: its blocks, with the text inside them read, and behind them the
footnotes to which they refer. -/

namespace Adocify.Markdown

/-- The mark of a task at the front of an item's text: whether it is done, and the text after it. -/
def taskMark? : Text → Option (Bool × Text)
  | '[' :: mark :: ']' :: rest =>
    if (mark == ' ' || mark == 'x' || mark == 'X') && (rest.head?.map Text.isBlank).getD true then
      some (mark != ' ', Text.stripLeft rest)
    else none
  | _ => none

/-- How the blocks of a text become tokens. -/
structure Grammar where
  inline : InlineGrammar
  /-- Items may be tasks. -/
  tasks : Bool

namespace Grammar

def cellTokens (grammar : Grammar) : List Text → List (Option Text) → List Token
  | [], _ => []
  | cell :: cells, alignments =>
    let details : TokenDetails := { alignment := alignments.head?.join }
    Token.branch .tableCell (grammar.inline.tokens cell) details :: cellTokens grammar cells (alignments.drop 1)

def tableToken (grammar : Grammar) (table : PipeTable) : Token :=
  let row := fun cells => grammar.cellTokens cells table.alignments
  .branch .table [
    .branch .tableHead (row table.header),
    .branch .tableBody (table.rows.map fun cells => .branch .tableRow (row cells))]

def listDetails (kind : ListKind) (start : Nat) (tight : Bool) : TokenDetails :=
  match kind with
  | .bullet _ => { ordered := some (.bool false), tight := some (.bool tight) }
  | .numbered _ => { ordered := some (.bool true), start := some (.int start), tight := some (.bool tight) }

def paragraphToken (grammar : Grammar) (tight : Bool) (content : Text) : Token :=
  .branch (if tight then .blockText else .paragraph) (grammar.inline.tokens content)

/-- An item with these children, given their tokens. Its first paragraph may begin with the mark of a task. -/
def itemToken (grammar : Grammar) (tight : Bool) (children : List Block) (tokens : List Token) : Token :=
  match children with
  | .paragraph content :: _ =>
    match if grammar.tasks then taskMark? content else none with
    | some (done, text) =>
      .branch .taskListItem (grammar.paragraphToken tight text :: tokens.drop 1) { checked := some (.bool done) }
    | none => .branch .listItem tokens
  | _ => .branch .listItem tokens

mutual

/-- `tight` tells that the block stands in an item of a list without blank lines. -/
def blockToken (grammar : Grammar) (tight : Bool) : Block → Token
  | .paragraph content => grammar.paragraphToken tight content
  | .heading level content =>
    .branch .heading (grammar.inline.tokens content) { level := some (.int level) }
  | .code content info => .element .blockCode (some content) none { info := info } []
  | .html content => .leaf .blockHtml content
  | .thematicBreak => .branch .thematicBreak []
  | .quote children => .branch .blockQuote (blockTokens grammar false children)
  | .list kind start tight items =>
    .branch .list (blockTokens grammar tight items) (listDetails kind start tight)
  | .item children => itemToken grammar tight children (blockTokens grammar tight children)
  | .table table => grammar.tableToken table
  | .definitions parts => .branch .definitionList (blockTokens grammar false parts)
  | .term content => .branch .definitionHead (grammar.inline.tokens content)
  | .description children => .branch .definitionItem (blockTokens grammar false children)

def blockTokens (grammar : Grammar) (tight : Bool) : List Block → List Token
  | [] => []
  | block :: rest => blockToken grammar tight block :: blockTokens grammar tight rest

end

mutual

/-- The keys of the footnotes to which tokens refer, in the order of the references. -/
def noteKeys : Token → List Text
  | .element .footnoteReference (some key) .. => [key]
  | .element _ _ _ _ children => allNoteKeys children
  | .stray => []

def allNoteKeys : List Token → List Text
  | [] => []
  | token :: rest => noteKeys token ++ allNoteKeys rest

end

/-- Each element once, where it came first. -/
def distinct (keys : List Text) : List Text :=
  keys.foldl (fun found key => if found.contains key then found else found ++ [key]) []

end Grammar

namespace Options

def blockExtensions (options : Options) : BlockExtensions where
  tables := options.gfm && options.tables
  footnotes := options.footnotes
  definitionLists := options.definitionLists

def grammar (options : Options) (outline : Outline) : Grammar where
  inline := {
    definitions := outline.definitions
    notes := outline.notes.map (·.key)
    footnotes := options.footnotes
    strikethrough := options.gfm && options.strikethrough
    hardWrap := options.hardWrap }
  tasks := options.gfm && options.taskLists

/-- The content of a footnote. It refers to nothing that the document defines, and no item in it is a
task. -/
def noteTokens (options : Options) (note : NoteDefinition) : List Token :=
  let grammar := { options.grammar {} with tasks := false }
  match note.body with
  | .inl text => [.branch .paragraph (grammar.inline.tokens text)]
  | .inr text => grammar.blockTokens false (Outline.ofText options.blockExtensions text).blocks

def noteItem? (options : Options) (outline : Outline) (key : Text) : Option Token :=
  (outline.notes.find? (·.key == key)).map fun note =>
    .branch .footnoteItem (options.noteTokens note) { key := some key }

end Options

/-- Reads a text whose newlines may be of any kind. -/
def tokensOf (options : Options) (text : Text) : List Token :=
  let outline := Outline.ofText options.blockExtensions (Text.normalizeNewlines text)
  let body := (options.grammar outline).blockTokens false outline.blocks
  match (Grammar.distinct (Grammar.allNoteKeys body)).filterMap (options.noteItem? outline) with
  | [] => body
  | items => body ++ [.branch .footnotes items]

end Adocify.Markdown
