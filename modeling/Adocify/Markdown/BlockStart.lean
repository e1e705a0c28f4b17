import Adocify.Markdown.HtmlTag
import Adocify.Markdown.Line
import Adocify.Markdown.LinkTarget

/-! What a line of Markdown can begin. Each reader is given the line without its indentation. -/

namespace Adocify.Markdown

structure Fence where
  mark : Char
  length : Nat
  /-- Columns that are taken from the lines inside as far as they have them. -/
  indent : Nat
  info : Text
  deriving Repr, DecidableEq

/-- Items belong to one list as long as their markers are of one kind. -/
inductive ListKind where
  | bullet (mark : Char)
  | numbered (mark : Char)
  deriving Repr, DecidableEq

structure ListMarker where
  kind : ListKind
  start : Nat
  width : Nat
  deriving Repr, DecidableEq

inductive BlockStart where
  | quote
  | heading (level : Nat) (content : Text)
  | fence (fence : Fence)
  | html (ending : Html.BlockEnd)
  /-- Makes a heading of the paragraph above. -/
  | underline (level : Nat)
  | thematicBreak
  | item (marker : ListMarker)
  | indentedCode
  deriving Repr

/-- A list may break into a paragraph only with an item that is not empty and, if it is numbered,
has the number one. -/
def ListMarker.mayInterrupt (marker : ListMarker) (text : Text) : Bool :=
  marker.start == 1 && !(text.drop marker.width).all isSpaceOrTab

def Fence.isClosedBy (fence : Fence) (line : Line) : Bool :=
  let text := line.trimmed.rest
  let length := (text.takeWhile (· == fence.mark)).length
  line.indent < 4 && fence.length ≤ length && (text.drop length).all isSpaceOrTab

namespace BlockStart

def stripEnd (text : Text) : Text := Text.dropEndWhile isSpaceOrTab text

def stripBoth (text : Text) : Text := Text.dropAround isSpaceOrTab text

/-- A closing run of number signs is no part of a heading if a blank precedes it. -/
def withoutClosing (content : Text) : Text :=
  let body := Text.dropEndWhile (· == '#') content
  match body.getLast? with
  | none => []
  | some c => if isSpaceOrTab c then stripEnd body else content

def heading? (text : Text) : Option BlockStart :=
  let level := (text.takeWhile (· == '#')).length
  let after := text.drop level
  if 1 ≤ level && level ≤ 6 && (after.head?.map isSpaceOrTab).getD true then
    some (.heading level (withoutClosing (stripBoth after)))
  else none

def isThematicBreak (text : Text) : Bool :=
  match text with
  | c :: _ =>
    (c == '*' || c == '-' || c == '_') && text.all (fun d => d == c || isSpaceOrTab d) && 3 ≤ text.count c
  | [] => false

def underline? (text : Text) : Option Nat :=
  let marks := stripEnd text
  if marks.isEmpty then none
  else if marks.all (· == '=') then some 1
  else if marks.all (· == '-') then some 2
  else none

/-- An opening fence; the words after backticks hold no backtick. -/
def fence? (indent : Nat) (text : Text) : Option Fence := do
  let mark ← text.head?
  let length := (text.takeWhile (· == mark)).length
  let info := stripBoth (text.drop length)
  if (mark == '\x60' || mark == '~') && 3 ≤ length && !(mark == '\x60' && info.contains '\x60') then
    return ⟨mark, length, indent, unescape info⟩
  else none

def listMarker? (text : Text) : Option ListMarker := do
  let mark ← text.head?
  let marker : ListMarker ←
    if mark == '-' || mark == '+' || mark == '*' then some ⟨.bullet mark, 1, 1⟩
    else
      let digits := text.takeWhile Char.isDigit
      match text.drop digits.length with
      | c :: _ =>
        if (c == '.' || c == ')') && 1 ≤ digits.length && digits.length ≤ 9 then
          (Text.readNat? digits).map fun start => ⟨.numbered c, start, digits.length + 1⟩
        else none
      | [] => none
  if ((text.drop marker.width).head?.map isSpaceOrTab).getD true then return marker else none

/-- What the line begins, if it is no mere text. A paragraph that is open may be the one that the
line would continue (`within`) or one in a block that the line has left (`outside`). -/
def ofLine? (within : Option Text) (outside : Bool) (line : Line) : Option BlockStart :=
  let text := line.trimmed.rest
  let indent := line.indent
  let interrupting := within.isSome || outside
  if text.isEmpty then none
  else if 4 ≤ indent then if interrupting then none else some .indentedCode
  else if text.head? = some '>' then some .quote
  else
    heading? text <|>
    (fence? indent text).map .fence <|>
    (if text.head? = some '<' then (Html.blockEnd? interrupting (text.drop 1)).map .html else none) <|>
    (within.bind fun paragraph =>
      if (splitDefinitions paragraph).2.all isSpacing then none else (underline? text).map .underline) <|>
    (if isThematicBreak text then some .thematicBreak else none) <|>
    (listMarker? text).bind fun marker =>
      if within.isNone || marker.mayInterrupt text then some (.item marker) else none

end BlockStart

end Adocify.Markdown
