import Adocify.Settings

/-! Options of reading Markdown. -/

namespace Adocify.Markdown

structure Options where
  /-- The GitHub extensions are in force. -/
  gfm : Bool := true
  tables : Bool := true
  strikethrough : Bool := true
  taskLists : Bool := true
  footnotes : Bool := true
  definitionLists : Bool := false
  /-- Every line break within a paragraph is a hard one. -/
  hardWrap : Bool := false
  deriving Repr, DecidableEq

namespace Options

def component : String := "MarkdownParserOptions"

def flavors : List String := ["GFM", "markdown"]

def flavorName (options : Options) : Text := (if options.gfm then "GFM" else "markdown").toList

def defaults : Settings := [
  ("input".toList, .text "GFM".toList),
  ("parse_tables".toList, .bool true),
  ("parse_strikethrough".toList, .bool true),
  ("parse_task_lists".toList, .bool true),
  ("parse_footnotes".toList, .bool true),
  ("parse_definition_lists".toList, .bool false),
  ("hard_wrap".toList, .bool false)]

def validate (settings : Settings) : Except Failure Unit := settings.requireChoice "input" flavors

def construct (given : List (Text × Value)) : Except Failure Settings := do
  let settings ← Settings.construct defaults given
  validate settings
  return settings

def amend (settings : Settings) (changes : List (Text × Value)) : Except Failure Settings := do
  let amended ← settings.amend component changes
  validate amended
  return amended

def isGfm (settings : Settings) : Bool :=
  match settings.value "input" with
  | .text content => content == "GFM".toList
  | _ => false

def ofSettings (settings : Settings) : Options where
  gfm := isGfm settings
  tables := settings.flag "parse_tables"
  strikethrough := settings.flag "parse_strikethrough"
  taskLists := settings.flag "parse_task_lists"
  footnotes := settings.flag "parse_footnotes"
  definitionLists := settings.flag "parse_definition_lists"
  hardWrap := settings.flag "hard_wrap"

/-- The extensions of the grammar that the options ask for, in the order in which they take effect. -/
def extensions (options : Options) : List Text :=
  let github : List String := if options.gfm then
      (if options.strikethrough then ["strikethrough"] else []) ++
      (if options.tables then ["table", "lenient_table"] else []) ++
      (if options.taskLists then ["task_lists"] else [])
    else []
  (github ++ (if options.footnotes then ["footnotes"] else []) ++
    (if options.definitionLists then ["def_list"] else [])).map String.toList

end Options

end Adocify.Markdown
