import Adocify.Markdown.Token
import Adocify.Text.Blank
import Adocify.Text.Punctuation

/-! Emphasis. Runs of asterisks, underscores and tildes are kept as marks until all of a text has been
scanned; then each mark that may close looks to its left for one that may open. -/

namespace Adocify.Markdown

/-- A run of marks that may open or close emphasis. -/
structure EmphasisMark where
  mark : Char
  /-- How many are left of the run. -/
  count : Nat
  /-- How many there were. -/
  length : Nat
  opens : Bool
  closes : Bool
  deriving Repr, DecidableEq

/-- A part of a line of text that has been scanned. -/
inductive Piece where
  | whole (token : Token)
  | literal (text : Text)
  | run (mark : EmphasisMark)
  deriving Repr

namespace EmphasisMark

/-- The kind of a character beside a run; beyond the ends of a text everything is blank. -/
inductive Neighbour where
  | blank
  | punctuation
  | other
  deriving Repr, DecidableEq

def Neighbour.of : Option Char → Neighbour
  | none => .blank
  | some c => if Text.isBlank c then .blank else if Text.isPunctuation c then .punctuation else .other

/-- The run leans towards what follows it. -/
def leansRight (before after : Neighbour) : Bool :=
  after == .other || (after == .punctuation && before != .other)

/-- A run of asterisks or underscores between two characters. Underscores within a word are none. -/
def ofRun (mark : Char) (length : Nat) (before after : Option Char) : EmphasisMark :=
  let left := Neighbour.of before
  let right := Neighbour.of after
  let leftFlanking := leansRight left right
  let rightFlanking := leansRight right left
  if mark = '_' then
    ⟨mark, length, length, leftFlanking && (!rightFlanking || left == .punctuation),
      rightFlanking && (!leftFlanking || right == .punctuation)⟩
  else ⟨mark, length, length, leftFlanking, rightFlanking⟩

/-- Two tildes open before and close after whatever is not blank. A longer run opens with its last two. -/
def ofTildes (length : Nat) (before after : Option Char) : EmphasisMark :=
  ⟨'~', 2, 2, Neighbour.of after != .blank, length = 2 && Neighbour.of before != .blank⟩

def text (mark : EmphasisMark) : Text := List.replicate mark.count mark.mark

/-- Where a run could as well do the opposite, lengths that add up to a multiple of three do not
match, unless both are multiples of three. -/
def matchesCloser (opener closer : EmphasisMark) : Bool :=
  opener.mark == closer.mark && opener.opens &&
    (!(opener.closes || closer.opens) || (opener.length + closer.length) % 3 != 0 ||
      (opener.length % 3 == 0 && closer.length % 3 == 0))

end EmphasisMark

namespace Piece

/-- Puts literal text before tokens; literal text next to it becomes one token with it. -/
def joinText (text : Text) : List Token → List Token
  | .element .text (some more) _ _ _ :: others => Token.leaf .text (text ++ more) :: others
  | others => Token.leaf .text text :: others

/-- The tokens of pieces in their order; marks without a partner are literal. -/
def tokens : List Piece → List Token
  | [] => []
  | .whole token :: rest => token :: tokens rest
  | .literal text :: rest => joinText text (tokens rest)
  | .run mark :: rest => joinText mark.text (tokens rest)

/-- Finds the nearest mark to the left that fits: what lies between in its order, the mark, and what
lies further left. -/
def nearestOpener (closer : EmphasisMark) (between : List Piece) :
    List Piece → Option (List Piece × EmphasisMark × List Piece)
  | [] => none
  | .run opener :: rest =>
    if opener.matchesCloser closer then some (between, opener, rest)
    else nearestOpener closer (.run opener :: between) rest
  | piece :: rest => nearestOpener closer (piece :: between) rest

/-- Like `nearestOpener`, for the mark furthest to the left. -/
def furthestOpener (closer : EmphasisMark) (between : List Piece) :
    List Piece → Option (List Piece × EmphasisMark × List Piece)
  | [] => none
  | piece :: rest =>
    match furthestOpener closer (piece :: between) rest, piece with
    | some found, _ => some found
    | none, .run opener => if opener.matchesCloser closer then some (between, opener, rest) else none
    | none, _ => none

def opener? (closer : EmphasisMark) (left : List Piece) : Option (List Piece × EmphasisMark × List Piece) :=
  if closer.mark = '~' then furthestOpener closer [] left else nearestOpener closer [] left

/-- Puts a mark behind the pieces to its left (nearest first), after it has closed what it can. Each
round uses up some of the mark, so that `count` need not exceed what there is of it. -/
def meet : Nat → EmphasisMark → List Piece → List Piece
  | 0, mark, left => if mark.count = 0 then left else .run mark :: left
  | count + 1, mark, left =>
    if mark.count = 0 then left
    else
      match if mark.closes then opener? mark left else none with
      | none => if mark.opens then .run mark :: left else .literal mark.text :: left
      | some (between, opener, rest) =>
        let width := if 2 ≤ opener.count && 2 ≤ mark.count then 2 else 1
        let kind := if mark.mark = '~' then TokenKind.strikethrough
          else if width = 2 then .strong else .emphasis
        let token := Token.branch kind (tokens between)
        let remaining := { opener with count := opener.count - width }
        let left := if remaining.count = 0 then rest else .run remaining :: rest
        meet count { mark with count := mark.count - width } (.whole token :: left)

/-- Pairs the marks among the pieces from left to right; what has been passed is given nearest first. -/
def pair (left : List Piece) : List Piece → List Piece
  | [] => left.reverse
  | .run mark :: rest => pair (meet mark.count mark left) rest
  | piece :: rest => pair (piece :: left) rest

/-- The tokens that pieces make once their marks are paired. -/
def resolve (pieces : List Piece) : List Token := tokens (pair [] pieces)

end Piece

end Adocify.Markdown
