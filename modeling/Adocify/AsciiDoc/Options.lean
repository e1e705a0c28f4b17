import Adocify.Settings

/-! Options of AsciiDoc rendering. -/

namespace Adocify.AsciiDoc

/-- What becomes of the line breaks within a paragraph: they stay, they become blanks, or each
sentence gets a line. -/
inductive Wrap where
  | preserve
  | none
  | ventilate
  deriving Repr, DecidableEq

structure Options where
  wrap : Wrap := .preserve
  headingOffset : Int := 0
  autoIds : Bool := false
  /-- None if what was given for it is no text. -/
  idStart : Option Text := some ['_']
  /-- None if what was given for it is no text. -/
  idSeparator : Option Text := some ['_']
  /-- Ids that AsciiDoc would generate by itself are left out. -/
  lazyIds : Bool := false
  imagesDirectory : Option Text := Option.none
  /-- Code blocks name the source style. -/
  sourceStyle : Bool := false
  dropHtml : Bool := false
  escapeReferences : Bool := true
  deriving Repr, DecidableEq

namespace Options

def component : String := "AsciiDocRendererOptions"

def defaults : Settings := [
  ("wrap".toList, .text "preserve".toList),
  ("heading_offset".toList, .int 0),
  ("auto_ids".toList, .bool false),
  ("auto_id_prefix".toList, .text ['_']),
  ("auto_id_separator".toList, .text ['_']),
  ("lazy_ids".toList, .bool false),
  ("imagesdir".toList, .null),
  ("source_style".toList, .text "bare".toList),
  ("html_passthrough_mode".toList, .text "pass-through".toList),
  ("escape_attribute_references".toList, .bool true)]

def wraps : List String := ["preserve", "none", "ventilate"]

def sourceStyles : List String := ["bare", "source"]

def checkOffset (value : Value) : Except Failure Unit :=
  let refused : Failure := .invalidOptions
    (some ("heading_offset must be a non-negative integer, got ".toList ++ value.inner))
    Option.none Option.none Option.none (some "heading_offset".toList)
  match Whole.ofValue? value with
  | some offset => if offset.toInt < 0 then .error refused else .ok ()
  | Option.none => .error refused

def checkImagesDirectory : Value → Except Failure Unit
  | .null => .ok ()
  | .text directory =>
    if directory.all (· = '/') then
      .error (.invalidOptions (some "imagesdir must name a directory".toList)
        Option.none Option.none Option.none (some "imagesdir".toList))
    else .ok ()
  | _ => .error .misplaced

def validate (settings : Settings) : Except Failure Unit := do
  settings.requireChoice "wrap" wraps
  settings.requireChoice "source_style" sourceStyles
  settings.requireChoice "html_passthrough_mode" ["pass-through", "drop"]
  checkOffset (settings.value "heading_offset")
  checkImagesDirectory (settings.value "imagesdir")

def construct (given : List (Text × Value)) : Except Failure Settings := do
  let settings ← Settings.construct defaults given
  validate settings
  return settings

def amend (settings : Settings) (changes : List (Text × Value)) : Except Failure Settings := do
  let amended ← settings.amend component changes
  validate amended
  return amended

def wrapOf (value : Value) : Wrap :=
  match value with
  | .text content =>
    if content == "none".toList then .none
    else if content == "ventilate".toList then .ventilate
    else .preserve
  | _ => .preserve

def textOf? : Value → Option Text
  | .text content => some content
  | _ => Option.none

def isText (value : Value) (content : String) : Bool := textOf? value = some content.toList

/-- The options that valid settings describe. -/
def ofSettings (settings : Settings) : Options where
  wrap := wrapOf (settings.value "wrap")
  headingOffset := ((Whole.ofValue? (settings.value "heading_offset")).map (·.toInt)).getD 0
  autoIds := settings.flag "auto_ids"
  idStart := textOf? (settings.value "auto_id_prefix")
  idSeparator := textOf? (settings.value "auto_id_separator")
  lazyIds := settings.flag "lazy_ids"
  imagesDirectory := textOf? (settings.value "imagesdir")
  sourceStyle := isText (settings.value "source_style") "source"
  dropHtml := isText (settings.value "html_passthrough_mode") "drop"
  escapeReferences := settings.flag "escape_attribute_references"

end Options

end Adocify.AsciiDoc
