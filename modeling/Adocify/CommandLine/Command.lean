import Adocify.CommandLine.Arguments
import Adocify.Conversion.File

/-! The command: it converts one file or its standard input, tells on the error output what it logs,
and ends with a code that tells how it went. -/

namespace Adocify.CommandLine

def programName : Text := "md2adoc".toList

def programVersion : Text := "1.0.0".toList

namespace Stop

def exitCode : Stop → Nat
  | .usage _ => 2
  | .help | .version => 0

/-- What is written to the standard output. -/
def output : Stop → Text
  | .version => programName ++ ' ' :: programVersion ++ ['\n']
  | .usage _ | .help => []

def usageLine : Text := "usage: ".toList ++ programName ++ " [options] FILE".toList

/-- What is written to the error output. -/
def errors : Stop → Text
  | .usage message => usageLine ++ '\n' :: programName ++ ": error: ".toList ++ message ++ ['\n']
  | .help => usageLine ++ ['\n']
  | .version => []

end Stop

/-- What a command leaves. -/
structure CommandResult where
  exitCode : Nat
  output : Text := []
  errors : Text := []
  files : FileTree
  /-- The records that were logged. -/
  log : List LogRecord := []
  /-- A failure that the command has no report for. -/
  unreported : Option Failure := none

/-- The file to which a command logs beside the error output. -/
structure LogFile where
  /-- The path as the command was given it. -/
  given : Text
  path : Path
  deriving Repr

/-- The attempt to open a log file: the files then, the log file if it is open, and a complaint if
the operating system refuses it. -/
structure LogOpening where
  files : FileTree
  logFile : Option LogFile := none
  complaint : Option Text := none

namespace LogOpening

def ofText (given : Option Text) (files : FileTree) : Except Failure LogOpening :=
  match given with
  | none | some [] => .ok { files }
  | some given =>
    let path := (Path.ofText given).normalized
    match files.append path [] with
    | .ok files => .ok { files, logFile := some ⟨given, path⟩ }
    | .error obstacle =>
      match obstacle.toFailure [path.toText] with
      | .system error =>
        let complaint := "Could not create log file ".toList ++ given ++ ": ".toList ++ error.message
        .ok { files, complaint := some complaint }
      | other => .error other

/-- The first record: where the log goes, if it goes into a file. -/
def records (opening : LogOpening) : List LogRecord :=
  match opening.logFile with
  | none => []
  | some logFile => [⟨.debug, "Logging to file: ".toList ++ logFile.given⟩]

/-- A complaint is no record, but it is made under the threshold of a warning. -/
def complaintText (opening : LogOpening) (threshold : LogLevel) : Text :=
  match opening.complaint with
  | some complaint => if threshold.rank ≤ LogLevel.warning.rank then complaint ++ ['\n'] else []
  | none => []

end LogOpening

/-- A record as a line. It is the same under `--trace`, which would put the time and the name of the logger in front;
records have neither. -/
def recordLine (entry : LogRecord) : Text :=
  programName ++ ": ".toList ++ entry.level.name ++ ": ".toList ++ entry.message ++ ['\n']

def recordLines (records : List LogRecord) : Text := records.flatMap recordLine

/-- Adds records to the log file. One that cannot be written any more gets none. -/
def LogFile.add (logFile : Option LogFile) (records : List LogRecord) (files : FileTree) : FileTree :=
  match logFile with
  | none => files
  | some logFile => (files.append logFile.path (Utf8.encode (recordLines records))).toOption.getD files

namespace Arguments

def hyphen : Text := ['-']

def standardOutput : Destination := .toStream { name := "<stdout>".toList, make := .textFile }

/-- The destination asked for; none asks for the path beside the source. -/
def destination (arguments : Arguments) : Option Destination :=
  match arguments.output with
  | none => if arguments.input = hyphen then some standardOutput else none
  | some output => some (if output = hyphen then standardOutput else .toFile (Path.ofText output))

def parserSettings (arguments : Arguments) : Except Failure Settings :=
  Markdown.Options.construct [("input".toList, .text arguments.flavor)]

def rendererSettings (arguments : Arguments) : Except Failure Settings :=
  AsciiDoc.Options.construct [
    ("wrap".toList, .text arguments.wrap),
    ("heading_offset".toList, .int arguments.headingOffset),
    ("auto_ids".toList, .bool arguments.autoIds),
    ("auto_id_prefix".toList, .text arguments.idStart),
    ("auto_id_separator".toList, .text arguments.idSeparator),
    ("lazy_ids".toList, .bool arguments.lazyIds),
    ("imagesdir".toList, (arguments.imagesDirectory.map Value.text).getD .null),
    ("source_style".toList, .text arguments.sourceStyle)]

/-- The conversion of standard input. Reading it may fail. -/
def convertInput (destination : Destination) (request : ConversionRequest) (input : Except SystemError (List UInt8))
    (files : FileTree) : Conversion :=
  let source := match input with
    | .ok bytes => Source.byteStream bytes
    | .error error => .failingStream .null error
  let conversion := convert { request with source, destination } files
  { conversion with log := ⟨.debug, "Reading Markdown from stdin".toList⟩ :: conversion.log }

/-- The conversion asked for. -/
def conversion (tools : Tools) (arguments : Arguments) (input : Except SystemError (List UInt8)) (files : FileTree) :
    Conversion :=
  let settings := do return (← arguments.parserSettings, ← arguments.rendererSettings)
  match settings with
  | .error failure => ⟨.error failure, some arguments.attributes, .caller, files, []⟩
  | .ok (parserSettings, rendererSettings) =>
    let request : ConversionRequest := {
      toTools := tools
      source := .text []
      attributes := some arguments.attributes
      parserSettings
      rendererSettings }
    let destination := arguments.destination
    if arguments.input = hyphen then convertInput (destination.getD standardOutput) request input files
    else convertFile (.named (Path.ofText arguments.input)) destination request files

end Arguments

/-- The code with which the command ends after a conversion. -/
def exitCode : Except Failure (Option Text) → Nat
  | .ok _ => 0
  | .error (.system _) => 4
  | .error failure => failure.exitCode

/-- The command reports refusals by the operating system and failures of some family. -/
def isReported : Failure → Bool
  | .system _ => true
  | failure => failure.family?.isSome

/-- The report of a failure is the last record. -/
def failureRecord : Except Failure (Option Text) → List LogRecord
  | .ok _ => []
  | .error failure => if isReported failure then [⟨.error, failure.message⟩] else []

def unreported? : Except Failure (Option Text) → Option Failure
  | .ok _ => none
  | .error failure => if isReported failure then none else some failure

/-- The text that went to the standard output. -/
def writtenText : Destination → Text
  | .toStream stream => stream.chunks.flatMap fun
    | .text content => content
    | .bytes _ => []
  | _ => []

/-- The conversion put a new file in the place of the log file. -/
def replacesLog (logFile : Option LogFile) (conversion : Conversion) : Bool :=
  match logFile, conversion.outcome, conversion.destination with
  | some logFile, .ok _, .toFile path =>
    (conversion.files.resolve path).toOption == (conversion.files.resolve logFile.path).toOption
  | _, _, _ => false

/-- Runs the command once its log is set up. Records that a replaced log file would have taken are in no file. -/
def runLogged (tools : Tools) (arguments : Arguments) (input : Except SystemError (List UInt8)) (opening : LogOpening) :
    CommandResult :=
  let logged := loggedFrom arguments.threshold
  let first := logged opening.records
  let conversion := arguments.conversion tools input (LogFile.add opening.logFile first opening.files)
  let others := logged (conversion.log ++ failureRecord conversion.outcome)
  { exitCode := exitCode conversion.outcome
    output := writtenText conversion.destination
    errors := opening.complaintText arguments.threshold ++ recordLines (first ++ others)
    files :=
      if replacesLog opening.logFile conversion then conversion.files
      else LogFile.add opening.logFile others conversion.files
    log := first ++ others
    unreported := unreported? conversion.outcome }

def run (tools : Tools) (arguments : Arguments) (input : Except SystemError (List UInt8)) (files : FileTree) :
    CommandResult :=
  match LogOpening.ofText arguments.logFile files with
  | .ok opening => runLogged tools arguments input opening
  | .error failure => { exitCode := failure.exitCode, files, unreported := some failure }

end Adocify.CommandLine
