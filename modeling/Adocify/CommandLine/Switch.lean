import Adocify.Text.Numeral

/-! Switches of the command line, and how an argument is told to be one. A switch may be shortened
as long as it is unmistakable; its value follows an equals sign, or the letter of a short switch, or
is the next argument. -/

namespace Adocify.CommandLine

inductive Switch where
  | help
  | output
  | attribute
  | format
  | wrap
  | imagesDirectory
  | headingOffset
  | autoIds
  | idStart
  | idSeparator
  | lazyIds
  | sourceStyle
  | logLevel
  | logFile
  | trace
  | version
  deriving Repr, DecidableEq

namespace Switch

/-- Every spelling, in the order in which ambiguities are reported. -/
def spellings : List (Text × Switch) := [
  ("-h".toList, .help), ("--help".toList, .help), ("-o".toList, .output), ("--output".toList, .output),
  ("-a".toList, .attribute), ("--attribute".toList, .attribute), ("--format".toList, .format),
  ("--wrap".toList, .wrap), ("--imagesdir".toList, .imagesDirectory), ("--heading-offset".toList, .headingOffset),
  ("--auto-ids".toList, .autoIds), ("--auto-id-prefix".toList, .idStart),
  ("--auto-id-separator".toList, .idSeparator), ("--lazy-ids".toList, .lazyIds),
  ("--source-style".toList, .sourceStyle), ("--log-level".toList, .logLevel), ("--log-file".toList, .logFile),
  ("--trace".toList, .trace), ("--version".toList, .version)]

/-- All spellings of a switch together, as messages name it. -/
def title (switch : Switch) : Text :=
  Text.join ['/'] ((spellings.filter (·.2 == switch)).map (·.1))

def takesValue : Switch → Bool
  | .help | .autoIds | .lazyIds | .trace | .version => false
  | _ => true

end Switch

/-- What an argument turns out to be. -/
inductive Argument where
  | value (text : Text)
  /-- Everything after it is a value. -/
  | separator
  /-- It looks like a switch, but there is none of that name. -/
  | unknown (text : Text)
  | option (switch : Switch) (attached : Option Text)
  deriving Repr, DecidableEq

namespace Argument

/-- Minus, digits, and at most one point with a digit after it. -/
def isNegativeNumber (text : Text) : Bool :=
  match Text.withoutFinalNewline text with
  | '-' :: magnitude =>
    match magnitude.dropWhile Text.isDecimalDigit with
    | [] => !magnitude.isEmpty
    | '.' :: fraction => !fraction.isEmpty && fraction.all Text.isDecimalDigit
    | _ => false
  | _ => false

/-- The switches that a word may stand for, with the spelling of each and the value attached. -/
def candidates (text : Text) : List (Text × Switch × Option Text) :=
  if "--".toList.isPrefixOf text then
    let (name, attached) := Text.cut '=' text
    (Switch.spellings.filter fun (spelling, _) => name.isPrefixOf spelling).map fun (spelling, switch) =>
      (spelling, switch, attached)
  else
    Switch.spellings.filterMap fun (spelling, switch) =>
      if spelling = text.take 2 then some (spelling, switch, some (text.drop 2))
      else if text.isPrefixOf spelling then some (spelling, switch, none)
      else none

/-- A word that begins with a hyphen and is more than that. -/
def ofWord (text : Text) : Except Text Argument :=
  let (name, attached) := Text.cut '=' text
  match Switch.spellings.lookup text, attached.bind fun _ => Switch.spellings.lookup name with
  | some switch, _ => .ok (.option switch none)
  | none, some switch => .ok (.option switch attached)
  | none, none =>
    match candidates text with
    | [] => .ok (if isNegativeNumber text || text.contains ' ' then .value text else .unknown text)
    | [(_, switch, attached)] => .ok (.option switch attached)
    | several =>
      .error ("ambiguous option: ".toList ++ text ++ " could match ".toList ++
        Text.join ", ".toList (several.map (·.1)))

def ofText (text : Text) : Except Text Argument :=
  match text with
  | '-' :: _ :: _ => ofWord text
  | _ => .ok (.value text)

/-- What each of the arguments is. An ambiguous one is refused with a message. -/
def classify : List Text → Except Text (List Argument)
  | [] => .ok []
  | text :: rest =>
    if text = "--".toList then .ok (.separator :: rest.map .value)
    else do
      let first ← ofText text
      let others ← classify rest
      return first :: others

end Argument

end Adocify.CommandLine
