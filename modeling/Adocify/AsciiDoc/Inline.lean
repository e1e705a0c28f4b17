import Adocify.AsciiDoc.Context
import Adocify.AsciiDoc.Escape
import Adocify.AsciiDoc.Keyboard
import Adocify.AsciiDoc.Options
import Adocify.AsciiDoc.TextRun

/-! Inline content: how the elements of a line are rendered and put together. -/

namespace Adocify.AsciiDoc

def experimental : String := "experimental"

def literalText (options : Options) (content : Text) : Text :=
  let escaped := escapeFormattingMarks content
  if options.escapeReferences then escapeAttributeReferences escaped else escaped

def Child.ofText (options : Options) (content : Text) : Child := ⟨.text content, return literalText options content⟩

/-- A rendered stretch of a line; `mark` is set if it is a span that may need doubled marks. -/
structure Piece where
  mark : Option Char
  text : Text
  deriving Repr

def markOf : Node → Option Char
  | .emphasis _ => some '_'
  | .strong _ => some '*'
  | _ => none

def Piece.isMarked (piece : Piece) (mark : Char) : Bool :=
  piece.text.head? = some mark && piece.text.getLast? = some mark

/-- A span that touches a word character takes doubled marks. `before` is the character to the left. -/
def doubleMarks (before : Option Char) : List Piece → List Text
  | [] => []
  | piece :: rest =>
    let after := rest.head?.bind fun next => next.text.head?
    let text := match piece.mark with
      | some mark =>
        if piece.isMarked mark && (before.any Text.isWord || after.any Text.isWord) then mark :: piece.text ++ [mark]
        else piece.text
      | none => piece.text
    text :: doubleMarks piece.text.getLast? rest

def keyboardMacro (keys : List Text) : Text := "kbd:[".toList ++ escapeMacroText (Text.join ['+'] keys) ++ [']']

/-- Renders the children in order, a key combination becoming one piece. The next `skip` children
belong to a combination that is rendered already. -/
def piecesFrom : Nat → List Child → Render (List Piece)
  | _, [] => return []
  | skip + 1, _ :: rest => piecesFrom skip rest
  | 0, child :: rest =>
    match takeKeys (·.node) (child :: rest) with
    | ([], _) => do
      let text ← child.rendered
      let others ← piecesFrom 0 rest
      return ⟨markOf child.node, text⟩ :: others
    | (keys, after) => do
      Render.register experimental (.text [])
      let others ← piecesFrom (rest.length - after.length) rest
      return ⟨none, keyboardMacro keys⟩ :: others

def reportDroppedComments (children : List Child) : Render Unit :=
  modify fun context =>
    { context with
      log := context.log ++ List.replicate (droppedComments (·.node) children)
        ⟨.debug, "Dropping inline HTML comment".toList⟩ }

def inlineContent (options : Options) (children : List Child) : Render Text := do
  reportDroppedComments children
  let pieces ← piecesFrom 0 (mergeTexts (·.node) (Child.ofText options) children)
  return (doubleMarks none pieces).flatten

/-- A character that can begin a sentence. -/
def beginsSentence (c : Char) : Bool := c.isUpper || "\"'([_*`".toList.contains c

def endsSentence (c : Char) : Bool := c = '.' || c = '!' || c = '?'

/-- A run of blanks between two sentences becomes a line break. The next `skip` characters are blanks
of a run that one has replaced already, and `before` is the character read last. -/
def ventilateFrom : Nat → Option Char → Text → Text
  | _, _, [] => []
  | skip + 1, _, c :: rest => ventilateFrom skip (some c) rest
  | 0, before, c :: rest =>
    if before.any endsSentence && isSpaceOrTab c && (rest.dropWhile isSpaceOrTab).head?.any beginsSentence then
      '\n' :: ventilateFrom (rest.takeWhile isSpaceOrTab).length (some c) rest
    else c :: ventilateFrom 0 (some c) rest

/-- Puts each sentence on a line of its own. -/
def ventilate (text : Text) : Text := ventilateFrom 0 none text

def paragraphText (options : Options) (children : List Child) : Render Text := do
  let text ← inlineContent options children
  return if options.wrap = .ventilate then ventilate text else text

def emphasis (options : Options) (children : List Child) : Render Text := do
  let text ← inlineContent options children
  return '_' :: text ++ ['_']

def strikethrough (options : Options) (children : List Child) : Render Text := do
  let text ← inlineContent options children
  return "[.line-through]#".toList ++ text ++ ['#']

/-- The text of content that consists of nothing but texts, of at least one. -/
def onlyText : List Node → Option Text
  | [] => none
  | [.text content] => some content
  | .text content :: rest => (onlyText rest).map (content ++ ·)
  | _ => none

/-- The items of a menu path, names with arrows between them. -/
def menuPath (content : List Node) : Option (Text × List Text) :=
  match onlyText content with
  | none => none
  | some text =>
    if !Text.includes " > ".toList text then none
    else match (Text.splitOn '>' text).map Text.strip with
      | first :: second :: rest =>
        if (first :: second :: rest).any (·.isEmpty) then none else some (first, second :: rest)
      | _ => none

def strong (options : Options) (content : List Node) (children : List Child) : Render Text :=
  match menuPath content with
  | some (menu, items) => do
    Render.register experimental (.text [])
    return "menu:".toList ++ menu ++ '[' :: escapeMacroText (Text.join " > ".toList items) ++ [']']
  | none => do
    let text ← inlineContent options children
    return '*' :: text ++ ['*']

def code (content : Text) : Text :=
  if codeNeedsPassthrough content then "`+".toList ++ content ++ "+`".toList
  else '\x60' :: content ++ ['\x60']

def hardBreak : Text := " +\n".toList

def lineBreak (options : Options) (soft : Bool) : Text :=
  if !soft then hardBreak else if options.wrap = .preserve then ['\n'] else [' ']

/-- The tag of a line break, in any case, with or without a closing slash. -/
def isBreakTag (raw : Text) : Bool :=
  match raw with
  | '<' :: b :: r :: rest =>
    b.toLower = 'b' && r.toLower = 'r' &&
      (Text.stripLeft rest == ['>'] || Text.stripLeft rest == ['/', '>'])
  | _ => false

def htmlInline (options : Options) (content : Text) : Render Text := do
  let raw := Text.strip content
  if isBreakTag raw then return hardBreak
  else if isInlineComment content then
    Render.report .debug "Dropping inline HTML comment".toList
    return []
  else if options.dropHtml then
    Render.report .debug ("Dropping inline HTML: ".toList ++ raw)
    return []
  else return "+++".toList ++ content ++ "+++".toList

/-- Block text in the place of inline text: line breaks become blanks. -/
def flattened (blocks : List Text) : Text :=
  Text.join [' '] (blocks.map (Text.substitute '\n' [' ']))

/-- The first reference to a footnote carries its text, later ones only name it. `descend` renders
the blocks of a definition. -/
def footnoteReference (descend : Text → List Node → Render (List Text)) (identifier : Text) : Render Text := do
  let context ← get
  let bare := "footnote:".toList ++ identifier ++ "[]".toList
  if context.emitted.contains identifier then return bare
  match context.footnotes.lookup identifier with
  | none =>
    Render.report .warning ("Footnote reference '".toList ++ identifier ++ "' has no definition".toList)
    return bare
  | some content =>
    let blocks ← descend identifier content
    modify fun context => { context with emitted := context.emitted ++ [identifier] }
    return "footnote:".toList ++ identifier ++ '[' :: escapeMacroText (flattened blocks) ++ [']']

end Adocify.AsciiDoc
