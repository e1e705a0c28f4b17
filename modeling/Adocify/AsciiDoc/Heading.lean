import Adocify.AsciiDoc.Inline
import Adocify.Text.Case

/-! Section headings: their markers, their ids, and which of them stay outside the hierarchy. -/

namespace Adocify.AsciiDoc

/-- The longest runs of word characters. `current` is the run being read, last character first. -/
def wordsFrom (current : Text) : Text → List Text
  | [] => if current.isEmpty then [] else [current.reverse]
  | c :: rest =>
    if Text.isWord c then wordsFrom (c :: current) rest
    else if current.isEmpty then wordsFrom [] rest
    else current.reverse :: wordsFrom [] rest

def wordsOf (text : Text) : List Text := wordsFrom [] text

def titleWords (content : List Node) : List Text := wordsOf (Text.lower (Node.plainTexts content))

/-- The id that AsciiDoc generates for a title by default. -/
def defaultId (content : List Node) : Text := '_' :: Text.join ['_'] (titleWords content)

/-- A title without words has no id; any other needs texts to make it of. -/
def sectionId? (options : Options) (content : List Node) : Except Failure (Option Text) :=
  match titleWords content with
  | [] => .ok none
  | words =>
    match options.idSeparator, options.idStart with
    | none, _ => .error .misplaced
    | some _, none => .error .illTyped
    | some separator, some start => .ok (some (start ++ Text.join separator words))

/-- The line that names the section, if one is wanted. -/
def idLine (options : Options) (content : List Node) : Except Failure (List Text) :=
  if !options.autoIds then .ok []
  else (sectionId? options content).map fun
    | none => []
    | some id => if options.lazyIds && id == defaultId content then [] else ["[#".toList ++ id ++ [']']]

def maxMarkers : Int := 6

/-- A heading that skips a level. -/
def isDiscrete (sectionLevel level : Whole) : Bool := level.toInt > sectionLevel.toInt + 1

def clampMarkers (markers : Int) : Render Int :=
  if markers > maxMarkers then do
    Render.report .warning
      ("Heading level ".toList ++ Text.ofInt markers ++ " exceeds AsciiDoc's deepest section; clamping".toList)
    return maxMarkers
  else return markers

/-- Decides whether the heading takes part in the hierarchy. -/
def enterSection (level : Whole) : Render Bool := do
  let context ← get
  let discrete := isDiscrete context.sectionLevel level
  set { context with
    sectionLevel := if discrete then context.sectionLevel else level
    headings := ⟨level, discrete⟩ :: context.headings }
  return discrete

def heading (options : Options) (level : Whole) (content : List Node) (children : List Child) : Render Text := do
  let text ← inlineContent options children
  let markers ← clampMarkers (level.toInt + options.headingOffset)
  let discrete ← enterSection level
  let named ← liftM (idLine options content)
  return Text.unlines <|
    (if discrete then ["[discrete]".toList] else []) ++ named ++
      [List.replicate markers.toNat '=' ++ ' ' :: text]

end Adocify.AsciiDoc
