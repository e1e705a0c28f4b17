import Adocify.Markdown.Block

/-! Blocks while they are being read: the containers that the next line may continue, innermost
first, and the block of text inside them that it may continue. -/

namespace Adocify.Markdown

/-- The link definitions of a text; the first for a label counts. -/
abbrev LinkDefinitions := List (Text × LinkTarget)

inductive ContainerKind where
  | document
  | quote
  | list (kind : ListKind) (start : Nat)
  /-- Lines belong to the item from so many columns on. -/
  | item (indent : Nat)
  deriving Repr, DecidableEq

/-- A container part way through. -/
structure Container where
  kind : ContainerKind
  children : List Block := []
  /-- A blank line came after the last child. -/
  blank : Bool := false
  /-- A blank line stands between two children. -/
  loose : Bool := false
  deriving Repr

namespace Container

def isList (container : Container) : Bool :=
  match container.kind with
  | .list .. => true
  | _ => false

/-- Another child begins. -/
def beginChild (container : Container) : Container :=
  { container with loose := container.loose || (container.blank && !container.children.isEmpty), blank := false }

def isItem (container : Container) : Bool :=
  match container.kind with
  | .item _ => true
  | _ => false

/-- A blank line separates nothing in an item that has not begun yet. -/
def meetBlank (begun : Bool) (container : Container) : Container :=
  { container with blank := begun || !container.isItem }

def add (child : Block) (container : Container) : Container :=
  { container with children := container.children ++ [child] }

/-- The finished block; none for a whole document. -/
def finished? (container : Container) : Option Block :=
  match container.kind with
  | .document => none
  | .quote => some (.quote container.children)
  | .list kind start => some (.list kind start (!container.loose) container.children)
  | .item _ => some (.item container.children)

/-- Takes in a finished container. What is loose in an item is loose in its list, and a blank line at
the end of a list or an item is one after it too. -/
def adopt (inner outer : Container) : Container :=
  match inner.finished? with
  | none => outer
  | some block =>
    let outer := outer.add block
    match inner.kind with
    | .item _ => { outer with loose := outer.loose || inner.loose, blank := inner.blank }
    | .list .. => { outer with blank := inner.blank }
    | _ => outer

end Container

/-- The block of text that is open. -/
inductive Leaf where
  | none
  | paragraph (lines : List Text)
  | fenced (fence : Fence) (lines : List Text)
  | indented (lines : List Text)
  | html (ending : Html.BlockEnd) (lines : List Text)
  deriving Repr

namespace Leaf

def isNone : Leaf → Bool
  | .none => true
  | _ => false

def paragraph? : Leaf → Option Text
  | .paragraph lines => some (Text.unlines lines)
  | _ => Option.none

/-- What a line does to the open block of text. -/
inductive Step where
  | taken (leaf : Leaf)
  /-- The line is the last of the block. -/
  | last (leaf : Leaf)
  | refused

/-- Paragraphs are not asked: a line continues them if it begins nothing else. -/
def read (line : Line) : Leaf → Step
  | .none | .paragraph _ => .refused
  | .fenced fence lines =>
    if fence.isClosedBy line then .last (.fenced fence lines)
    else .taken (.fenced fence (lines ++ [(line.dropIndent fence.indent).rest]))
  | .indented lines =>
    if line.isBlank || 4 ≤ line.indent then .taken (.indented (lines ++ [(line.dropIndent 4).rest])) else .refused
  | .html ending lines =>
    if ending = .blankLine && line.isBlank then .refused
    else
      let leaf := Leaf.html ending (lines ++ [line.rest])
      if ending.isReached line.rest then .last leaf else .taken leaf

/-- Without the blank lines at the end. -/
def withoutBlankEnd (lines : List Text) : List Text := (lines.reverse.dropWhile isBlankLine).reverse

end Leaf

structure OpenBlocks where
  innermost : Container := { kind := .document }
  /-- The containers around it, nearest first. -/
  around : List Container := []
  leaf : Leaf := .none
  definitions : LinkDefinitions := []
  deriving Repr

namespace OpenBlocks

def onInnermost (change : Container → Container) (blocks : OpenBlocks) : OpenBlocks :=
  { blocks with innermost := change blocks.innermost }

/-- The definitions at the front of a paragraph are none of its text; nothing may be left of it. -/
def closeParagraph (lines : List Text) (blocks : OpenBlocks) : OpenBlocks :=
  let (definitions, content) := splitDefinitions (Text.unlines lines)
  let blocks := { blocks with leaf := .none, definitions := blocks.definitions ++ definitions }
  if content.all isSpacing then blocks
  else blocks.onInnermost (·.add (.paragraph (Text.dropEndWhile isSpacing content)))

def closeLeaf (blocks : OpenBlocks) : OpenBlocks :=
  match blocks.leaf with
  | .none => blocks
  | .paragraph lines => blocks.closeParagraph lines
  | .fenced fence lines =>
    { blocks.onInnermost (·.add (.code (terminated lines) (some fence.info))) with leaf := .none }
  | .indented lines =>
    let content := Leaf.withoutBlankEnd lines
    let block := Block.code (Text.unlines content) none
    let blank := content.length < lines.length
    { blocks.onInnermost fun container => { container.add block with blank := blank } with leaf := .none }
  | .html _ lines => { blocks.onInnermost (·.add (.html (Text.unlines lines))) with leaf := .none }

/-- Finishes the innermost container and what is open in it. -/
def closeInnermost (blocks : OpenBlocks) : OpenBlocks :=
  let blocks := blocks.closeLeaf
  match blocks.around with
  | [] => blocks
  | outer :: around => { blocks with innermost := blocks.innermost.adopt outer, around := around }

def close : Nat → OpenBlocks → OpenBlocks
  | 0, blocks => blocks
  | count + 1, blocks => close count blocks.closeInnermost

/-- All that is left is the document. -/
def closeAll (blocks : OpenBlocks) : OpenBlocks := (close blocks.around.length blocks).closeLeaf

/-- Lists hold nothing but items. -/
def leaveList (blocks : OpenBlocks) : OpenBlocks :=
  if blocks.innermost.isList then blocks.closeInnermost else blocks

/-- Ready for another block in the innermost container. -/
def beginBlock (blocks : OpenBlocks) : OpenBlocks :=
  blocks.closeLeaf.leaveList.onInnermost Container.beginChild

def addBlock (block : Block) (blocks : OpenBlocks) : OpenBlocks := blocks.beginBlock.onInnermost (·.add block)

def openLeaf (leaf : Leaf) (blocks : OpenBlocks) : OpenBlocks := { blocks.beginBlock with leaf := leaf }

def push (container : Container) (blocks : OpenBlocks) : OpenBlocks :=
  { blocks with innermost := container, around := blocks.innermost :: blocks.around }

def openQuote (blocks : OpenBlocks) : OpenBlocks := blocks.beginBlock.push { kind := .quote }

/-- The innermost container is a list to which an item of this kind belongs. -/
def continuesList (kind : ListKind) (blocks : OpenBlocks) : Bool :=
  match blocks.innermost.kind with
  | .list here _ => here == kind
  | _ => false

def openItem (marker : ListMarker) (indent : Nat) (blocks : OpenBlocks) : OpenBlocks :=
  let blocks := blocks.closeLeaf
  let blocks :=
    if blocks.continuesList marker.kind then blocks
    else blocks.beginBlock.push { kind := .list marker.kind marker.start }
  (blocks.onInnermost Container.beginChild).push { kind := .item indent }

/-- How many of the containers, outermost first, the line continues, and what is left of it then.
`empty` tells that nothing is in the last of them yet. -/
def continued (empty : Bool) : List Container → Line → Nat × Line
  | [], line => (0, line)
  | container :: inner, line =>
    let next := fun line =>
      let (count, rest) := continued empty inner line
      (count + 1, rest)
    match container.kind with
    | .document | .list .. => next line
    | .quote =>
      match line.trimmed.rest with
      | '>' :: _ => if line.indent ≤ 3 then next ((line.trimmed.advance 1).dropIndent 1) else (0, line)
      | _ => (0, line)
    | .item indent =>
      if line.isBlank then
        if inner.isEmpty && container.children.isEmpty && empty then (0, line) else next line.trimmed
      else if indent ≤ line.indent then next (line.dropIndent indent)
      else (0, line)

def containers (blocks : OpenBlocks) : List Container := (blocks.innermost :: blocks.around).reverse

/-- How many containers the line leaves, and what is left of it in the others. -/
def enter (blocks : OpenBlocks) (line : Line) : Nat × Line :=
  let containers := blocks.containers
  let (count, rest) := continued blocks.leaf.isNone containers line
  (containers.length - count, rest)

/-- The item that a marker opens, and the rest of the line in it. -/
def itemIndent (marker : ListMarker) (line : Line) : Nat × Line :=
  let after := line.trimmed.advance marker.width
  let blanks := after.indent
  let base := line.indent + marker.width
  if after.isBlank then (base + 1, after.trimmed)
  else if 5 ≤ blanks then (base + 1, after.dropIndent 1)
  else (base + blanks, after.trimmed)

/-- A heading made of the open paragraph. -/
def underlined (level : Nat) (blocks : OpenBlocks) : OpenBlocks :=
  match blocks.leaf with
  | .paragraph lines =>
    let (definitions, content) := splitDefinitions (Text.unlines lines)
    { blocks.onInnermost (·.add (.heading level (Text.dropEndWhile isSpacing content))) with
      leaf := .none, definitions := blocks.definitions ++ definitions }
  | _ => blocks

/-- A line that begins nothing new. -/
def readText (line : Line) (blocks : OpenBlocks) : OpenBlocks :=
  if line.isBlank then
    let begun := !blocks.leaf.isNone || !blocks.innermost.children.isEmpty
    blocks.closeLeaf.onInnermost (·.meetBlank begun)
  else
    let text := line.trimmed.rest
    match blocks.leaf with
    | .paragraph lines => { blocks with leaf := .paragraph (lines ++ [text]) }
    | _ => blocks.openLeaf (.paragraph [text])

/-- The first line of a block of HTML may be its last. -/
def openHtml (ending : Html.BlockEnd) (line : Line) (blocks : OpenBlocks) : OpenBlocks :=
  let opened := blocks.openLeaf (.html ending [line.rest])
  if ending.isReached line.rest then opened.closeLeaf else opened

/-- Opens what the line begins in the innermost container. Each quote or item that it opens takes a
character of the line, so that `count` need not exceed the line's length. -/
def readStarts : Nat → Line → OpenBlocks → OpenBlocks
  | 0, line, blocks => blocks.readText line
  | count + 1, line, blocks =>
    match BlockStart.ofLine? blocks.leaf.paragraph? false line with
    | none => blocks.readText line
    | some .quote => readStarts count ((line.trimmed.advance 1).dropIndent 1) blocks.openQuote
    | some (.item marker) =>
      let (indent, rest) := itemIndent marker line
      readStarts count rest (blocks.openItem marker indent)
    | some (.heading level content) => blocks.addBlock (.heading level content)
    | some (.underline level) => blocks.underlined level
    | some .thematicBreak => blocks.addBlock .thematicBreak
    | some (.fence fence) => blocks.openLeaf (.fenced fence [])
    | some (.html ending) => blocks.openHtml ending line
    | some .indentedCode => blocks.openLeaf (.indented [(line.dropIndent 4).rest])

/-- A line without the marks of the containers continues a paragraph in them if it begins nothing. -/
def isLazy (left : Nat) (line : Line) (blocks : OpenBlocks) : Bool :=
  left != 0 && blocks.leaf.paragraph?.isSome && !line.isBlank && (BlockStart.ofLine? none true line).isNone

/-- Takes one more line. -/
def read (blocks : OpenBlocks) (source : Text) : OpenBlocks :=
  let (left, line) := blocks.enter (Line.ofText source)
  if blocks.isLazy left line then blocks.readText line
  else if left != 0 then readStarts (source.length + 1) line (close left blocks)
  else
    match blocks.leaf.read line with
    | .taken leaf => { blocks with leaf := leaf }
    | .last leaf => { blocks with leaf := leaf }.closeLeaf
    | .refused =>
      match blocks.leaf with
      | .paragraph _ | .none => readStarts (source.length + 1) line blocks
      | _ => readStarts (source.length + 1) line blocks.closeLeaf

/-- The line is mere text of the document itself, in no other container. A list whose items it leaves
holds it no more. -/
def isPlainIn (blocks : OpenBlocks) (source : Text) : Bool :=
  let (left, line) := blocks.enter (Line.ofText source)
  let entered := blocks.containers.take (blocks.around.length + 1 - left)
  let open? := if left = 0 then blocks.leaf.paragraph? else none
  let refused := left != 0 || match blocks.leaf.read line with
    | .refused => true
    | _ => false
  entered.all (fun container => container.isList || container.kind = .document) && refused &&
    !line.isBlank && !blocks.isLazy left line &&
    (BlockStart.ofLine? open? (left != 0 && blocks.leaf.paragraph?.isSome) line).isNone

end OpenBlocks

end Adocify.Markdown
