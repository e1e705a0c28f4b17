import Adocify.Charset.Utf8
import Adocify.Yaml.Spot

/-! Tags: what they mean, and how they are written. The name of a tag may begin with a handle that
stands for the front of the name. -/

namespace Adocify.Yaml

/-- The core tags. -/
inductive Tag where
  | null
  | bool
  | int
  | float
  | timestamp
  | binary
  | text
  | sequence
  | mapping
  | set
  | orderedMapping
  | pairs
  | merge
  | value
  | unknown
  deriving Repr, DecidableEq

/-- The front of the names of core tags. -/
def corePart : Text := "tag:yaml.org,2002:".toList

namespace Tag

def names : List (String × Tag) := [
  ("null", .null), ("bool", .bool), ("int", .int), ("float", .float), ("timestamp", .timestamp),
  ("binary", .binary), ("str", .text), ("seq", .sequence), ("map", .mapping), ("set", .set),
  ("omap", .orderedMapping), ("pairs", .pairs), ("merge", .merge), ("value", .value)]

def ofName (name : Text) : Tag :=
  if corePart.isPrefixOf name then
    ((names.find? fun entry => entry.1.toList == name.drop corePart.length).map (·.2)).getD .unknown
  else .unknown

end Tag

/-- A tag as it is written. Without a handle the suffix is the whole name. -/
structure WrittenTag where
  handle : Option Text
  suffix : Text
  deriving Repr, DecidableEq

/-- What the handles stand for that need no directive. -/
def standardHandles : List (Text × Text) := [(['!'], ['!']), (['!', '!'], corePart)]

/-- The name of a tag. None if its handle stands for nothing. -/
def WrittenTag.name? (handles : List (Text × Text)) (tag : WrittenTag) : Option Text :=
  match tag.handle with
  | none => some tag.suffix
  | some handle => (handles.lookup handle).map (· ++ tag.suffix)

def isNameChar (c : Char) : Bool := c.isAlphanum || c = '-' || c = '_'

def isUriChar (c : Char) : Bool := c.isAlphanum || "-;/?:@&=+$,_.!~*'()[]".toList.contains c

/-- The bytes of escapes that follow each other. None if one of them lacks its two digits. -/
def escapedBytes : Spots → Option (List UInt8 × Spots)
  | mark :: high :: low :: rest =>
    if mark.char = '%' then do
      let byte ← Text.readDigits? 16 [high.char, low.char]
      let (bytes, after) ← escapedBytes rest
      some (UInt8.ofNat byte :: bytes, after)
    else some ([], mark :: high :: low :: rest)
  | spots => if spots.headIs (· = '%') then none else some ([], spots)

def uriFrom : Nat → Spots → Option (Text × Spots)
  | 0, _ => none
  | _, [] => some ([], [])
  | fuel + 1, spot :: rest =>
    if spot.char = '%' then do
      let (bytes, after) ← escapedBytes (spot :: rest)
      let piece ← (Utf8.decode bytes).toOption
      let (more, remaining) ← uriFrom fuel after
      some (piece ++ more, remaining)
    else if isUriChar spot.char then do
      let (more, remaining) ← uriFrom fuel rest
      some (spot.char :: more, remaining)
    else some ([], spot :: rest)

/-- The characters of a name, which must be there; escapes stand for bytes of UTF-8. -/
def uriOf (spots : Spots) : Option (Text × Spots) := do
  let (uri, rest) ← uriFrom (spots.length + 1) spots
  if uri.isEmpty then none else some (uri, rest)

/-- A handle: one exclamation mark before a blank, or two with a word between them. -/
def handleOf (spots : Spots) : Option (Text × Spots) :=
  let rest : Spots := spots.tail
  if !spots.headIs (· = '!') then none
  else if rest.headIs (· = ' ') then some (['!'], rest)
  else
    let (word, after) := rest.spanChars isNameChar
    if after.headIs (· = '!') then some ('!' :: word.text ++ ['!'], after.tail) else none

/-- What follows the exclamation mark of a tag, up to the blank behind it. -/
def tagBody (bang : Spot) (rest : Spots) : Option (WrittenTag × Spots) :=
  match rest with
  | [] => some (⟨none, ['!']⟩, [])
  | first :: inner =>
    if first.char = '<' then do
      let (uri, after) ← uriOf inner
      if after.headIs (· = '>') then some (⟨none, uri⟩, after.tail) else none
    else if isGap first.char then some (⟨none, ['!']⟩, rest)
    else do
      let word := rest.takeWhile fun spot => spot.char != ' ' && !isBreak spot.char
      let (handle, after) ← if word.any (·.char = '!') then handleOf (bang :: rest) else some (['!'], rest)
      let (uri, after) ← uriOf after
      some (⟨some handle, uri⟩, after)

/-- A blank or a line break follows. -/
def atBlank (spots : Spots) : Bool := !spots.headIs fun c => c != ' ' && !isBreak c

def tagOf (bang : Spot) (rest : Spots) : Option (WrittenTag × Spots) := do
  let (tag, after) ← tagBody bang rest
  if atBlank after then some (tag, after) else none

end Adocify.Yaml
