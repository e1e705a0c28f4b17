import Adocify.AsciiDoc.Options
import Adocify.CommandLine.AttributeArgument
import Adocify.CommandLine.Switch
import Adocify.Log
import Adocify.Markdown.Options

/-! The arguments of a command, read from left to right. -/

namespace Adocify.CommandLine

/-- What the command is asked to do. -/
structure Arguments where
  input : Text
  output : Option Text := none
  attributes : Attributes := []
  flavor : Text := "GFM".toList
  wrap : Text := "preserve".toList
  imagesDirectory : Option Text := none
  headingOffset : Int := 0
  autoIds : Bool := false
  idStart : Text := ['_']
  idSeparator : Text := ['_']
  lazyIds : Bool := false
  sourceStyle : Text := "bare".toList
  logLevel : LogLevel := .warning
  logFile : Option Text := none
  /-- Everything is logged, whatever the level. -/
  trace : Bool := false
  deriving Repr

/-- Why a command ends before it begins. -/
inductive Stop where
  | usage (message : Text)
  | help
  | version
  deriving Repr, DecidableEq

/-- Arguments that have been read in part. -/
structure ArgumentReader where
  input : Option Text := none
  /-- Arguments for which there is no place. -/
  extras : List Text := []
  /-- The values of switches; the input is still missing. -/
  values : Arguments := { input := [] }

namespace ArgumentReader

def refuse (switch : Switch) (message : Text) : Stop :=
  .usage ("argument ".toList ++ switch.title ++ ": ".toList ++ message)

def choose (switch : Switch) (choices : List Text) (value : Text) : Except Stop Text :=
  if choices.contains value then .ok value
  else
    .error (refuse switch ("invalid choice: ".toList ++ Text.quoted value ++ " (choose from ".toList ++
      Text.join ", ".toList (choices.map Text.quoted) ++ [')']))

def chooseLevel (value : Text) : Except Stop LogLevel := do
  let name ← choose .logLevel (LogLevel.all.map LogLevel.name) (Text.upper value)
  return (LogLevel.ofName? name).getD .warning

def readOffset (value : Text) : Except Stop Int :=
  match Text.readInteger? 10 value with
  | none => .error (refuse .headingOffset ("Expected an integer, got ".toList ++ Text.quoted value))
  | some number =>
    if number < 0 then
      .error (refuse .headingOffset ("Expected a non-negative integer, got ".toList ++ Text.ofInt number))
    else .ok number

def readAttribute (value : Text) : Except Stop (Text × Value) :=
  (attributeArgument value).mapError fun failure => refuse .attribute failure.message

/-- Takes a switch and its value, if it takes one. -/
def set (values : Arguments) (switch : Switch) (value : Text) : Except Stop Arguments :=
  match switch with
  | .help => .error .help
  | .version => .error .version
  | .output => return { values with output := some value }
  | .attribute => do
    let (name, content) ← readAttribute value
    return { values with attributes := values.attributes.set name content }
  | .format => return { values with flavor := ← choose .format (Markdown.Options.flavors.map (·.toList)) value }
  | .wrap => return { values with wrap := ← choose .wrap (AsciiDoc.Options.wraps.map (·.toList)) value }
  | .imagesDirectory => return { values with imagesDirectory := some value }
  | .headingOffset => return { values with headingOffset := ← readOffset value }
  | .autoIds => return { values with autoIds := true }
  | .idStart => return { values with idStart := value }
  | .idSeparator => return { values with idSeparator := value }
  | .lazyIds => return { values with lazyIds := true }
  | .sourceStyle =>
    return { values with sourceStyle := ← choose .sourceStyle (AsciiDoc.Options.sourceStyles.map (·.toList)) value }
  | .logLevel => return { values with logLevel := ← chooseLevel value }
  | .logFile => return { values with logFile := some value }
  | .trace => return { values with trace := true }

def addExtra (text : Text) (reader : ArgumentReader) : ArgumentReader :=
  { reader with extras := reader.extras ++ [text] }

/-- Reads what is left of the arguments. The first value is the input; a separator may stand beside it. -/
def read (reader : ArgumentReader) : List Argument → Except Stop ArgumentReader
  | [] => .ok reader
  | .value text :: rest =>
    match reader.input, rest with
    | some _, rest => read (reader.addExtra text) rest
    | none, .separator :: rest => read { reader with input := some text } rest
    | none, rest => read { reader with input := some text } rest
  | .separator :: rest =>
    match reader.input, rest with
    | none, .value text :: rest => read { reader with input := some text } rest
    | _, rest => read (reader.addExtra "--".toList) rest
  | .unknown text :: rest => read (reader.addExtra text) rest
  | .option switch (some attached) :: rest =>
    if switch.takesValue then do
      let values ← set reader.values switch attached
      read { reader with values } rest
    else .error (refuse switch ("ignored explicit argument ".toList ++ Text.quoted attached))
  | .option switch none :: rest =>
    if switch.takesValue then
      match rest with
      | .value text :: rest => do
        let values ← set reader.values switch text
        read { reader with values } rest
      | _ => .error (refuse switch "expected one argument".toList)
    else do
      let values ← set reader.values switch []
      read { reader with values } rest

end ArgumentReader

namespace Arguments

/-- The level from which on records are logged. -/
def threshold (arguments : Arguments) : LogLevel := if arguments.trace then .debug else arguments.logLevel

def ofTexts (texts : List Text) : Except Stop Arguments := do
  let arguments ← (Argument.classify texts).mapError Stop.usage
  let reader ← ArgumentReader.read {} arguments
  match reader.input, reader.extras with
  | none, _ => .error (.usage "the following arguments are required: FILE".toList)
  | some input, [] => .ok { reader.values with input }
  | some _, extras => .error (.usage ("unrecognized arguments: ".toList ++ Text.join [' '] extras))

end Arguments

end Adocify.CommandLine
