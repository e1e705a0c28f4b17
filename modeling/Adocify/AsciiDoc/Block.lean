import Adocify.AsciiDoc.Admonition
import Adocify.AsciiDoc.Link

/-! Delimited blocks and paragraphs. -/

namespace Adocify.AsciiDoc

/-- A paragraph that is one image becomes a block image, and one that opens with a label an
admonition. -/
def paragraph (options : Options) (children : List Child) : Render Text :=
  match blockImage? (children.map (·.node)) with
  | some found => blockImage options found
  | none =>
    match splitAdmonition (·.node) (Child.ofText options) children with
    | some (label, remainder) => do
      let text ← paragraphText options remainder
      return label ++ ": ".toList ++ text
    | none => paragraphText options children

/-- Four hyphens, or as many more as it takes not to be a line of the content. -/
def codeDelimiter (lines : List Text) : Nat → Text → Text
  | 0, delimiter => delimiter
  | tries + 1, delimiter =>
    if lines.contains delimiter then codeDelimiter lines tries (delimiter ++ ['-']) else delimiter

def codeBlock (options : Options) (content : Text) (language : Option Text) : Text :=
  let code := Text.dropEndWhile (· = '\n') content
  let lines := Text.lines code
  let delimiter := codeDelimiter lines lines.length "----".toList
  let header := match language.filter fun name => !name.isEmpty with
    | some name => ['[' :: (if options.sourceStyle then "source".toList else []) ++ ',' :: name ++ [']']]
    | none => []
  Text.unlines (header ++ [delimiter] ++ (if code.isEmpty then [] else [code]) ++ [delimiter])

def blankLine : Text := "\n\n".toList

/-- A quote; one whose first paragraph opens with a label is an admonition block instead. `opening`
holds the children of that paragraph. -/
def blockQuote (options : Options) (opening : Option (List Child)) (first : Option (Render Text))
    (others : List Child) : Render Text := do
  let labelled := opening.bind (splitAdmonition (·.node) (Child.ofText options))
  let head := match labelled with
    | some (_, remainder) => [paragraph options remainder]
    | none => first.toList
  let texts ← Render.sequence (head ++ others.map (·.rendered))
  let inner := Text.join blankLine (texts.filter fun text => !text.isEmpty)
  return match labelled with
    | some (label, _) => '[' :: label ++ "]\n====\n".toList ++ inner ++ "\n====".toList
    | none => "____\n".toList ++ inner ++ "\n____".toList

def htmlBlock (options : Options) (content : Text) : Render Text :=
  if options.dropHtml then do
    Render.report .info ("Dropping HTML block (".toList ++ Text.ofNat content.length ++ " characters)".toList)
    return []
  else return "++++\n".toList ++ Text.dropAround (· = '\n') content ++ "\n++++".toList

/-- The lines of a comment without their indentation and without empty lines at either end. -/
def commentLines (content : Text) : List Text :=
  let lines := (Text.lines content).map Text.stripLeft
  (((lines.dropWhile (·.isEmpty)).reverse).dropWhile (·.isEmpty)).reverse

def comment (content : Text) : Text :=
  match commentLines content with
  | [] => "//".toList
  | [line] => "// ".toList ++ line
  | lines => "////\n".toList ++ Text.unlines lines ++ "\n////".toList

def definitionTerm (options : Options) (children : List Child) : Render Text := do
  let text ← inlineContent options children
  return text ++ "::".toList

/-- Blocks after the first are attached to it. -/
def definitionDescription (children : List Child) : Render Text := do
  let blocks ← Child.renderPresent children
  return Text.join "\n+\n".toList blocks

/-- A term and its descriptions, those without text left out. -/
def definitionEntry (term : Render Text) (descriptions : List Child) : Render Text := do
  let first ← term
  let others ← Child.renderPresent descriptions
  return Text.unlines (first :: others)

end Adocify.AsciiDoc
