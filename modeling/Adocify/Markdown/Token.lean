import Adocify.Value

/-! Tokens: what the grammar of Markdown makes of a text, before it is fitted into a document tree.
Tokens may come from elsewhere too, so nothing is taken for granted about them: parts may be
missing, details may have values of any kind, and a list may hold things that are no tokens. -/

namespace Adocify.Markdown

inductive TokenKind where
  | heading
  | paragraph
  /-- A paragraph of a list item without blank lines. -/
  | blockText
  | blockCode
  | blockQuote
  | list
  | listItem
  | taskListItem
  | table
  | tableHead
  | tableBody
  | tableRow
  | tableCell
  | thematicBreak
  | blockHtml
  | footnotes
  | footnoteItem
  | definitionList
  | definitionHead
  | definitionItem
  | blankLine
  | text
  | strong
  | emphasis
  | codeSpan
  | link
  | image
  | lineBreak
  | softBreak
  | strikethrough
  | inlineHtml
  | footnoteReference
  | unknown
  deriving Repr, DecidableEq

namespace TokenKind

def isInline : TokenKind → Bool
  | .text | .strong | .emphasis | .codeSpan | .link | .image | .lineBreak | .softBreak | .strikethrough
  | .inlineHtml | .footnoteReference => true
  | _ => false

end TokenKind

structure TokenDetails where
  level : Option Value := none
  ordered : Option Value := none
  start : Option Value := none
  tight : Option Value := none
  checked : Option Value := none
  info : Option Text := none
  alignment : Option Text := none
  key : Option Text := none
  label : Option Text := none
  url : Option Text := none
  title : Option Text := none
  deriving Repr

inductive Token where
  /-- `literal` is content as it stands in the source; tightness may be told here or among the details. -/
  | element (kind : TokenKind) (literal : Option Text) (tight : Option Value) (details : TokenDetails)
      (children : List Token)
  /-- Something that is no token. -/
  | stray
  deriving Repr, Inhabited

namespace Token

def leaf (kind : TokenKind) (literal : Text) : Token := .element kind (some literal) none {} []

def branch (kind : TokenKind) (children : List Token) (details : TokenDetails := {}) : Token :=
  .element kind none none details children

def kind? : Token → Option TokenKind
  | .element kind .. => some kind
  | .stray => none

mutual

/-- The text of an image description: literal text and code, at any depth. -/
def plainText : Token → Text
  | .element .text (some literal) .. | .element .codeSpan (some literal) .. => literal
  | .element _ _ _ _ children => plainTexts children
  | .stray => []

def plainTexts : List Token → Text
  | [] => []
  | token :: rest => plainText token ++ plainTexts rest

end

end Token

end Adocify.Markdown
