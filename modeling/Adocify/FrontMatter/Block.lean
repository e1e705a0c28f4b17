import Adocify.Text.Blank

/-! The block of metadata at the beginning of a text. It lies between two lines of the same delimiter,
the first line of the text being one of them, and has no blank line in it. -/

namespace Adocify.FrontMatter

inductive Style where
  | yaml
  | toml
  deriving Repr, DecidableEq

namespace Style

def delimiter : Style → Text
  | .yaml => "---".toList
  | .toml => "+++".toList

/-- Blanks at the end of a delimiter line do not count. -/
def ofLine? (line : Text) : Option Style :=
  [Style.yaml, Style.toml].find? fun style => style.delimiter == Text.stripRight line

end Style

structure Block where
  style : Style
  /-- The lines between the delimiters. -/
  content : List Text
  /-- The lines behind the closing delimiter. -/
  after : List Text
  deriving Repr

/-- The lines before the first closing delimiter and those behind it; none if a blank line comes first. -/
def splitAtClosing (style : Style) : List Text → Option (List Text × List Text)
  | [] => none
  | line :: rest =>
    if Text.stripRight line = style.delimiter then some ([], rest)
    else if Text.isBlankText line then none
    else (splitAtClosing style rest).map fun (content, after) => (line :: content, after)

namespace Block

def ofLines? : List Text → Option Block
  | [] => none
  | first :: rest => do
    let style ← Style.ofLine? first
    let (content, after) ← splitAtClosing style rest
    some { style, content, after }

def ofText? (text : Text) : Option Block := ofLines? (Text.lines text)

def source (block : Block) : Text := Text.unlines block.content

/-- The text behind the block, without the blank lines it begins with. -/
def body (block : Block) : Text := Text.unlines (block.after.dropWhile Text.isBlankText)

end Block

end Adocify.FrontMatter
