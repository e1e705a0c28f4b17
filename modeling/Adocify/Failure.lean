import Adocify.Value

/-! Causes of failure, the family each belongs to, and the words in which it is reported. -/

namespace Adocify

/-- A refusal by the operating system, with the paths that it names. -/
structure SystemError where
  code : Nat
  reason : Text
  paths : List Text := []
  deriving Repr, DecidableEq

namespace SystemError

def noSuchFile (paths : List Text) : SystemError := ⟨2, "No such file or directory".toList, paths⟩
def inputOutput : SystemError := ⟨5, "Input/output error".toList, []⟩
def fileExists (paths : List Text) : SystemError := ⟨17, "File exists".toList, paths⟩
def notADirectory (paths : List Text) : SystemError := ⟨20, "Not a directory".toList, paths⟩
def isADirectory (paths : List Text) : SystemError := ⟨21, "Is a directory".toList, paths⟩
def busy (paths : List Text) : SystemError := ⟨16, "Device or resource busy".toList, paths⟩
def nameTooLong (paths : List Text) : SystemError := ⟨36, "File name too long".toList, paths⟩
def noSpace : SystemError := ⟨28, "No space left on device".toList, []⟩

def message (error : SystemError) : Text :=
  let paths := match error.paths with
    | [] => []
    | paths => ": ".toList ++ Text.join " -> ".toList (paths.map Text.quoted)
  "[Errno ".toList ++ Text.ofNat error.code ++ "] ".toList ++ error.reason ++ paths

def withoutPaths (error : SystemError) : SystemError := { error with paths := [] }

end SystemError

inductive Failure where
  | general (message : Text)
  | validation (message : Text) (parameter : Option Text)
  | invalidOptions (message component expected received parameter : Option Text)
  | file (message : Text) (path : Option Text)
  | fileNotFound (path : Text) (message : Option Text)
  | parsing (message : Text) (stage : Option Text)
  | encoding (message : Text) (name : Option Text)
  | rendering (message : Text) (stage : Option Text)
  | unsupportedNode (kind : Text) (location : Option Text)
  | outputWrite (path : Text) (message : Option Text) (cause : Option SystemError)
  /-- A heading outside levels one to six. -/
  | headingLevel (level : Int)
  /-- A command line argument that cannot be read. -/
  | argument (message : Text)
  /-- Raised by a caller's own processor. -/
  | raised (message : Text)
  | system (error : SystemError)
  /-- A scalar that stands for nothing: a date that does not exist, a number that cannot be read. -/
  | unreadableScalar
  /-- A number beyond what its place takes. -/
  | tooLarge
  /-- A value that holds itself. -/
  | endlessValue
  /-- A number without digits. -/
  | emptyNumber
  /-- A word that is no truth value. -/
  | unknownWord
  /-- A codec that does not produce text. -/
  | notATextCodec
  /-- A codec that converts nothing. -/
  | undefinedConversion
  /-- A name that is empty, or that has a character in it that no name has. -/
  | brokenName
  /-- Calls nested deeper than there is room for. -/
  | tooDeep
  /-- A tree element that lacks the parts its place asks for. -/
  | misplaced
  /-- A value of a kind that its place does not take. -/
  | illTyped
  /-- A footnote whose text refers to itself. -/
  | circularFootnote (identifier : Text)
  deriving Repr, DecidableEq

/-- The families that callers tell apart. -/
inductive FailureFamily where
  | base
  | validation
  | invalidOptions
  | file
  | fileNotFound
  | parsing
  | encoding
  | rendering
  | unsupportedNode
  | outputWrite
  deriving Repr, DecidableEq

namespace FailureFamily

/-- The next wider family. -/
def parent : FailureFamily → Option FailureFamily
  | .base => none
  | .validation | .file | .parsing | .rendering => some .base
  | .invalidOptions => some .validation
  | .fileNotFound => some .file
  | .encoding => some .parsing
  | .unsupportedNode | .outputWrite => some .rendering

/-- The family itself and all wider ones, narrowest first. -/
def lineage (family : FailureFamily) : List FailureFamily :=
  match family, family.parent with
  | family, none => [family]
  | family, some .base => [family, .base]
  | family, some wider => [family, wider, .base]

end FailureFamily

namespace Failure

/-- Failures of the surroundings belong to no family. -/
def family? : Failure → Option FailureFamily
  | .general _ => some .base
  | .validation .. => some .validation
  | .invalidOptions .. => some .invalidOptions
  | .file .. => some .file
  | .fileNotFound .. => some .fileNotFound
  | .parsing .. => some .parsing
  | .encoding .. => some .encoding
  | .rendering .. => some .rendering
  | .unsupportedNode .. => some .unsupportedNode
  | .outputWrite .. => some .outputWrite
  | _ => none

def message : Failure → Text
  | .general message | .validation message _ | .file message _ | .parsing message _
  | .encoding message _ | .rendering message _ | .argument message | .raised message => message
  | .invalidOptions (some message) .. => message
  | .invalidOptions none component expected received _ =>
    let named := component.filter (!·.isEmpty)
    named.getD "component".toList ++ " expected options of type ".toList ++
      expected.getD "unknown".toList ++ ", got ".toList ++ received.getD "unknown".toList
  | .fileNotFound path message =>
    (message.filter (!·.isEmpty)).getD ("File not found: ".toList ++ path)
  | .unsupportedNode kind location =>
    let place := (location.filter (!·.isEmpty)).map (" at ".toList ++ ·)
    "No AsciiDoc mapping for node type '".toList ++ kind ++ '\'' :: place.getD []
  | .outputWrite path message cause =>
    message.getD <|
      "Failed to write output to ".toList ++ path ++ (cause.map (": ".toList ++ ·.message)).getD []
  | .headingLevel level => "Heading level must be 1-6, got ".toList ++ Text.ofInt level
  | .system error => error.message
  | .unreadableScalar => "scalar without a value".toList
  | .tooLarge => "number too large".toList
  | .endlessValue => "value that holds itself".toList
  | .emptyNumber => "number without digits".toList
  | .unknownWord => "unknown word".toList
  | .notATextCodec => "not a text encoding".toList
  | .undefinedConversion => "undefined encoding".toList
  | .brokenName => "broken name".toList
  | .tooDeep => "nested too deep".toList
  | .misplaced => "misplaced tree element".toList
  | .illTyped => "value of a wrong kind".toList
  | .circularFootnote identifier => "Footnote '".toList ++ identifier ++ "' refers to itself".toList

def named (name : String) (value : Option Text) : List (Text × Text) :=
  (value.map fun content => (name.toList, content)).toList

/-- What a report tells beside the message: the details that are known, by name. -/
def details : Failure → List (Text × Text)
  | .validation _ parameter => named "parameter_name" parameter
  | .invalidOptions _ component _ _ parameter =>
    named "component_name" component ++ named "parameter_name" parameter
  | .parsing _ stage => named "parsing_stage" stage
  | .encoding _ name => named "encoding" name ++ named "parsing_stage" (some "decoding".toList)
  | .rendering _ stage => named "rendering_stage" stage
  | .unsupportedNode kind location =>
    named "location" location ++ named "node_type" (some kind) ++
      named "rendering_stage" (some "node".toList)
  | .outputWrite .. => named "rendering_stage" (some "output".toList)
  | _ => []

/-- The file that a failure concerns. -/
def path? : Failure → Option Text
  | .file _ path => path
  | .fileNotFound path _ => some path
  | .outputWrite path _ _ => some path
  | _ => none

/-- The same failure with the operating system's paths left out of its message. -/
def withoutPaths : Failure → Failure
  | .outputWrite path message cause => .outputWrite path message (cause.map (·.withoutPaths))
  | other => other

def exitCode (failure : Failure) : Nat :=
  let families := (failure.family?.map (·.lineage)).getD []
  if families.contains .validation then 3
  else if families.contains .file then 4
  else if families.contains .parsing then 6
  else if families.contains .rendering then 7
  else 1

def invalidChoice (name : Text) (value : Value) (choices : List Text) : Failure :=
  .invalidOptions
    (some ("Invalid value for ".toList ++ name ++ ": ".toList ++ value.inner ++ " (expected one of ".toList ++
      Text.join ", ".toList choices ++ [')']))
    none none none (some name)

end Failure

end Adocify
