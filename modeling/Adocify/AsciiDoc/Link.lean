import Adocify.AsciiDoc.Inline

/-! Links and images. -/

namespace Adocify.AsciiDoc

/-- The character is the given small letter when case does not count. A few letters beyond ASCII
fold to ASCII ones. -/
def isLetter (letter c : Char) : Bool :=
  c.toLower = letter || (letter = 's' && c.toNat == 0x17f) || (letter = 'k' && c.toNat == 0x212a) ||
    (letter = 'i' && (c.toNat == 0x130 || c.toNat == 0x131))

/-- What follows a small-letter word at the start of the text when case does not count. -/
def afterWord : Text → Text → Option Text
  | [], text => some text
  | _ :: _, [] => none
  | letter :: word, c :: rest => if isLetter letter c then afterWord word rest else none

def recognizedSchemes : List Text := ["http:", "https:", "ftp:", "irc:", "mailto:"].map String.toList

/-- AsciiDoc recognizes the target as a URL by itself. -/
def hasUrlScheme (url : Text) : Bool := recognizedSchemes.any fun scheme => (afterWord scheme url).isSome

def isSchemeLetter (c : Char) : Bool := "abcdefghijklmnopqrstuvwxyz".toList.any (isLetter · c)

def isSchemeChar (c : Char) : Bool := isSchemeLetter c || c.isDigit || c = '+' || c = '.' || c = '-'

/-- The target begins with some scheme. -/
def hasAnyScheme : Text → Bool
  | c :: rest => isSchemeLetter c && (rest.dropWhile isSchemeChar).head? = some ':'
  | [] => false

def endsInMarkdownSuffix? (path : Text) : Option Text :=
  match path.reverse with
  | d :: m :: '.' :: name :: rest => if isLetter 'd' d && isLetter 'm' m then some (name :: rest).reverse else none
  | _ => none

/-- A link to another Markdown document, as its path without the suffix and its fragment. -/
def markdownTarget? (url : Text) : Option (Text × Text) :=
  if hasAnyScheme url then none
  else
    let path := url.takeWhile fun c => c ≠ '#' && c ≠ '?'
    match url.dropWhile fun c => c ≠ '#' && c ≠ '?' with
    | [] =>
      match endsInMarkdownSuffix? path with
      | some name => some (name, [])
      | none => (endsInMarkdownSuffix? (Text.withoutFinalNewline path)).map fun name => (name, [])
    | '#' :: fragment =>
      let written := Text.withoutFinalNewline fragment
      if written.contains '\n' then none else (endsInMarkdownSuffix? path).map fun name => (name, '#' :: written)
    | _ => none

def mailto : Text := "mailto:".toList

/-- The link's text is its target; an address may leave out its scheme. -/
def isBareUrl (url plain : Text) : Bool :=
  plain == url || (mailto.isPrefixOf (Text.lower url) && plain == url.drop 7)

def isPresent (title : Option Text) : Bool := title.any fun content => !content.isEmpty

/-- The text part of a link macro; a title makes both of them named attributes. -/
def macroText (text : Text) (title : Option Text) : Text :=
  match title.filter fun content => !content.isEmpty with
  | some title =>
    '"' :: escapeAttributeValue text ++ "\",title=\"".toList ++ escapeAttributeValue title ++ ['"']
  | none => escapeMacroText text

def linkText (url text plain : Text) (title : Option Text) : Text :=
  if !isPresent title && isBareUrl url plain then plain
  else
    let bracketed := '[' :: macroText text title ++ [']']
    match url, isPresent title with
    | '#' :: fragment, false =>
      "<<".toList ++ fragment ++ (if text.isEmpty then [] else ',' :: text) ++ ">>".toList
    | _, _ =>
      match markdownTarget? url with
      | some (path, fragment) => "xref:".toList ++ path ++ ".adoc".toList ++ fragment ++ bracketed
      | none =>
        if url.contains ' ' then "link:++".toList ++ url ++ "++".toList ++ bracketed
        else if hasUrlScheme url then url ++ bracketed
        else "link:".toList ++ url ++ bracketed

def link (options : Options) (url : Text) (content : List Node) (title : Option Text) (children : List Child) :
    Render Text := do
  let text ← inlineContent options children
  return linkText url text (Node.plainTexts content) title

def trimSlashes (directory : Text) : Text := Text.dropEndWhile (· = '/') directory

/-- A target inside the images directory is written relative to it. -/
def imageTarget (options : Options) (url : Text) : Render Text :=
  match options.imagesDirectory with
  | none => return url
  | some directory => do
    let start := trimSlashes directory ++ ['/']
    if start.isPrefixOf url then
      Render.register "imagesdir" (.text (trimSlashes directory))
      return url.drop start.length
    else return url

def image (options : Options) (url alternative : Text) (title : Option Text) : Render Text := do
  let target ← imageTarget options url
  let titled := match title.filter fun content => !content.isEmpty with
    | some content => ",title=\"".toList ++ escapeAttributeValue content ++ ['"']
    | none => []
  return "image:".toList ++ target ++ '[' :: escapeMacroText alternative ++ titled ++ [']']

/-- An image that is all of a paragraph, perhaps inside a link. -/
structure BlockImage where
  url : Text
  alternative : Text
  title : Option Text
  target : Option Text

def blockImage? : List Node → Option BlockImage
  | [.image url alternative title] => some ⟨url, alternative, title, none⟩
  | [.link target [.image url alternative title] _] => some ⟨url, alternative, title, some target⟩
  | _ => none

def blockImage (options : Options) (found : BlockImage) : Render Text := do
  let target ← imageTarget options found.url
  let linked := match found.target.filter fun url => !url.isEmpty with
    | some url => ",link=".toList ++ url
    | none => []
  let written := "image::".toList ++ target ++ '[' :: escapeMacroText found.alternative ++ linked ++ [']']
  return match found.title.filter fun content => !content.isEmpty with
    | some title => '.' :: title ++ '\n' :: written
    | none => written

end Adocify.AsciiDoc
