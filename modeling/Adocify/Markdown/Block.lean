import Adocify.Markdown.BlockStart
import Adocify.Markdown.PipeTable

/-! Blocks: the structure of a Markdown text by lines. The text inside them is still as it is
written. -/

namespace Adocify.Markdown

inductive Block where
  | paragraph (content : Text)
  | heading (level : Nat) (content : Text)
  | code (content : Text) (info : Option Text)
  | html (content : Text)
  | thematicBreak
  | quote (children : List Block)
  /-- The members are items. -/
  | list (kind : ListKind) (start : Nat) (tight : Bool) (items : List Block)
  | item (children : List Block)
  | table (table : PipeTable)
  /-- The members are terms and descriptions. -/
  | definitions (parts : List Block)
  | term (content : Text)
  | description (children : List Block)
  deriving Repr

end Adocify.Markdown
