import Adocify.Text.Blank

/-! Rows of pipe tables. A pipe separates cells unless a backslash stands directly before it; pipes at
the two ends of a row are not needed. -/

namespace Adocify.Markdown

/-- Splits at the pipes that no backslash precedes; `escaped` tells that one precedes the text. -/
def splitAtPipes (escaped : Bool) : Text → List Text
  | [] => [[]]
  | c :: rest =>
    if c = '|' && !escaped then [] :: splitAtPipes false rest
    else match splitAtPipes (c = '\\') rest with
      | [] => [[c]]
      | first :: others => (c :: first) :: others

def withoutLeadingPipe : Text → Text
  | '|' :: rest => rest
  | text => text

def withoutTrailingPipe (text : Text) : Text :=
  match text.reverse with
  | ['|'] => []
  | '|' :: c :: rest => if c = '\\' then text else (c :: rest).reverse
  | _ => text

def splitRow (line : Text) : List Text :=
  (splitAtPipes false (withoutTrailingPipe (withoutLeadingPipe (Text.strip line)))).map Text.strip

/-- Colons at the ends of a cell of the delimiter row tell how its column is aligned. -/
def cellAlignment (delimiter : Text) : Option Text :=
  match delimiter.head? == some ':', delimiter.getLast? == some ':' with
  | true, true => some "center".toList
  | false, true => some "right".toList
  | true, false => some "left".toList
  | false, false => none

end Adocify.Markdown
