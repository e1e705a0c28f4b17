import Adocify.Markdown.Line

/-! Tags, comments and other raw HTML. Each reader is given what follows the opening bracket and
answers what follows the construct, if one stands there. -/

namespace Adocify.Markdown.Html

def isNameStart (c : Char) : Bool := c.isAlpha

def isNamePart (c : Char) : Bool := c.isAlphanum || c == '-'

/-- A tag's name and what follows it. -/
def tagName? (text : Text) : Option (Text × Text) :=
  match text with
  | c :: _ => if isNameStart c then some (text.takeWhile isNamePart, text.dropWhile isNamePart) else none
  | [] => none

def isAttributeStart (c : Char) : Bool := c.isAlpha || c == '_' || c == ':'

def isAttributePart (c : Char) : Bool := isAttributeStart c || c.isDigit || c == '.' || c == '-'

def isUnquoted (c : Char) : Bool := 0x20 < c.toNat && !"\"'=<>\x60".toList.contains c

/-- What follows the value that an equals sign announces. -/
def value? : Text → Option Text
  | '"' :: rest => (Text.cut '"' rest).2
  | '\'' :: rest => (Text.cut '\'' rest).2
  | c :: rest => if isUnquoted c then some (rest.dropWhile isUnquoted) else none
  | [] => none

/-- What follows one attribute with the space before it. -/
def attribute? (text : Text) : Option Text :=
  match text.head?.map isSpacing, text.dropWhile isSpacing with
  | some true, c :: rest =>
    if !isAttributeStart c then none
    else
      let after := rest.dropWhile isAttributePart
      match after.dropWhile isSpacing with
      | '=' :: written => value? (written.dropWhile isSpacing)
      | _ => some after
  | _, _ => none

/-- As many attributes as there are, at most so many. -/
def attributes : Nat → Text → Text
  | 0, text => text
  | count + 1, text =>
    match attribute? text with
    | some rest => attributes count rest
    | none => text

/-- The rest of an opening tag after its name. -/
def openTagEnd? (text : Text) : Option Text :=
  match (attributes text.length text).dropWhile isSpacing with
  | '/' :: '>' :: rest => some rest
  | '>' :: rest => some rest
  | _ => none

def openTag? (text : Text) : Option Text := do
  let (_, rest) ← tagName? text
  openTagEnd? rest

def closingTagEnd? (text : Text) : Option Text :=
  match text.dropWhile isSpacing with
  | '>' :: rest => some rest
  | _ => none

def closingTag? : Text → Option Text
  | '/' :: text => do
    let (_, rest) ← tagName? text
    closingTagEnd? rest
  | _ => none

def afterFirst? (mark : String) (text : Text) : Option Text := (Text.breakOn mark.toList text).map (·.2)

def withoutStart? (mark : String) (text : Text) : Option Text :=
  if mark.toList.isPrefixOf text then some (text.drop mark.length) else none

/-- A comment holds no double hyphen, ends in no hyphen of its own, and is not empty. -/
def comment? (text : Text) : Option Text := do
  let text ← withoutStart? "!--" text
  if ">".toList.isPrefixOf text || "->".toList.isPrefixOf text then none
  else
    let (inside, after) ← Text.breakOn "--".toList text
    if inside.isEmpty then none else withoutStart? ">" after

def instruction? (text : Text) : Option Text := do
  afterFirst? "?>" (← withoutStart? "?" text)

def declaration? : Text → Option Text
  | '!' :: c :: rest => if c.isUpper then afterFirst? ">" rest else none
  | _ => none

def characterData? (text : Text) : Option Text := do
  afterFirst? "]]>" (← withoutStart? "![CDATA[" text)

/-- Any raw HTML within a line of text. -/
def inline? (text : Text) : Option Text :=
  openTag? text <|> closingTag? text <|> comment? text <|> instruction? text <|> characterData? text <|>
    declaration? text

/-- What ends a block of HTML: one of some marks within a line, or a blank line. -/
inductive BlockEnd where
  | mark (marks : List Text)
  | blankLine
  deriving Repr, DecidableEq

/-- Tags whose content is not read as tags. -/
def verbatimTags : List String := ["pre", "script", "style", "textarea"]

def blockTags : List String := ["address", "article", "aside", "base", "basefont", "blockquote", "body", "caption",
  "center", "col", "colgroup", "dd", "details", "dialog", "dir", "div", "dl", "dt", "fieldset", "figcaption",
  "figure", "footer", "form", "frame", "frameset", "h1", "h2", "h3", "h4", "h5", "h6", "head", "header", "hr",
  "html", "iframe", "legend", "li", "link", "main", "menu", "menuitem", "meta", "nav", "noframes", "ol",
  "optgroup", "option", "p", "param", "search", "section", "source", "summary", "table", "tbody", "td", "tfoot",
  "th", "thead", "title", "tr", "track", "ul"]

def lowerAscii (text : Text) : Text := text.map Char.toLower

def isAmong (tags : List String) (name : Text) : Bool := tags.any fun tag => tag.toList == lowerAscii name

/-- A tag's name is over: the line ends, or a blank or the end of the tag follows. -/
def endsName : Text → Bool
  | [] => true
  | '/' :: '>' :: _ => true
  | c :: _ => c == '>' || isSpacing c

def startsVerbatim (text : Text) : Bool :=
  match tagName? text with
  | some (name, after) =>
    isAmong verbatimTags name && (after.isEmpty || after.head?.any fun c => c == '>' || isSpacing c)
  | none => false

def startsBlockTag (text : Text) : Bool :=
  match tagName? (if text.head? = some '/' then text.drop 1 else text) with
  | some (name, after) => isAmong blockTags name && endsName after
  | none => false

/-- One whole tag alone on its line. -/
def isLoneTag (text : Text) : Bool := (openTag? text <|> closingTag? text).any (·.all isSpacing)

/-- How a block of HTML that begins with this text ends, if it begins one. A lone tag of another
name begins one only where no paragraph is interrupted. -/
def blockEnd? (interrupting : Bool) (text : Text) : Option BlockEnd :=
  if startsVerbatim text then
    some (.mark (verbatimTags.map fun tag => "</".toList ++ tag.toList ++ ">".toList))
  else if (withoutStart? "!--" text).isSome then some (.mark ["-->".toList])
  else if (withoutStart? "?" text).isSome then some (.mark ["?>".toList])
  else if (withoutStart? "![CDATA[" text).isSome then some (.mark ["]]>".toList])
  else if text.head? = some '!' && (text.drop 1).head?.any Char.isAlpha then some (.mark [">".toList])
  else if startsBlockTag text then some .blankLine
  else if !interrupting && isLoneTag text then some .blankLine
  else none

/-- The line holds what ends the block. -/
def BlockEnd.isReached (ending : BlockEnd) (line : Text) : Bool :=
  match ending with
  | .mark marks => marks.any fun mark => Text.includes mark (lowerAscii line)
  | .blankLine => false

end Adocify.Markdown.Html
