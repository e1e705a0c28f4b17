import Adocify.Text.Blank

/-! Comments among blocks of HTML. -/

namespace Adocify.Markdown

def commentOpening : Text := "<!--".toList

def commentClosing : Text := "-->".toList

/-- Apart from blanks around it, the block begins and ends like a comment. -/
def isHtmlComment (content : Text) : Bool :=
  let stripped := Text.strip content
  commentOpening.isPrefixOf stripped && commentClosing.isSuffixOf stripped

/-- What stands between the marks, without newlines around it and without blanks at its end. -/
def htmlCommentText (content : Text) : Text :=
  let stripped := Text.strip content
  let inside := (stripped.take (stripped.length - commentClosing.length)).drop commentOpening.length
  Text.stripRight (Text.dropAround (· == '\n') inside)

end Adocify.Markdown
