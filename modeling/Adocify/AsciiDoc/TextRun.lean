import Adocify.Document.Node
import Adocify.Text.Blank

/-! Joining of neighbouring texts. Formatting marks that are spread over several texts are escaped
as one run only if the texts are one. Inline comments drop out on the way; blanks on both sides of
one collapse to those on its left. -/

namespace Adocify.AsciiDoc

def isInlineComment (content : Text) : Bool := "<!--".toList.isPrefixOf (Text.strip content)

def endsInBlank (text : Text) : Bool := text.getLast?.any isSpaceOrTab

/-- `view` shows the node that an item stands for and `ofText` makes an item of a joined text.
`pending` is the text read last, and `afterComment` tells that a comment followed it. -/
def mergeFrom (view : α → Node) (ofText : Text → α) (pending : Option Text) (afterComment : Bool) :
    List α → List α
  | [] => (pending.map ofText).toList
  | item :: rest =>
    match view item with
    | .text content =>
      match pending with
      | some before =>
        let added := if afterComment && endsInBlank before then content.dropWhile isSpaceOrTab else content
        mergeFrom view ofText (some (before ++ added)) false rest
      | none => mergeFrom view ofText (some content) false rest
    | .htmlInline content =>
      if isInlineComment content then mergeFrom view ofText pending true rest
      else (pending.map ofText).toList ++ item :: mergeFrom view ofText none false rest
    | _ => (pending.map ofText).toList ++ item :: mergeFrom view ofText none false rest

def mergeTexts (view : α → Node) (ofText : Text → α) (items : List α) : List α :=
  mergeFrom view ofText none false items

/-- How many inline comments merging drops. -/
def droppedComments (view : α → Node) (items : List α) : Nat :=
  items.countP fun item => match view item with
    | .htmlInline content => isInlineComment content
    | _ => false

end Adocify.AsciiDoc
