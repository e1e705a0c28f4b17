import Adocify.Conversion

/-! Conversion of files. Where no destination is chosen, the output goes beside the source, under its
name with another suffix. -/

namespace Adocify

inductive FileSource where
  | named (path : Path)
  /-- An open stream and the name that it goes by, if it has one. -/
  | stream (name : Value) (content : Source)
  /-- Neither a path nor a stream, but something of this kind. -/
  | other (kind : Text)
  deriving Repr

namespace FileSource

def outputSuffix : Text := ".adoc".toList

/-- What the source delivers, and its path if one is known. -/
def read (source : FileSource) (files : FileTree) : Except Failure (Source × Option Path) :=
  match source with
  | .named path =>
    match files.read path with
    | .ok bytes => .ok (.bytes bytes, some path)
    | .error .missing => .error (.fileNotFound path.toText none)
    | .error obstacle =>
      match obstacle.toFailure [path.toText] with
      | .system _ => .error (.file ("Could not read input file: ".toList ++ path.toText) (some path.toText))
      | failure => .error failure
  | .stream name content =>
    let path := match name with
      | .text [] => none
      | .text name => some (Path.ofText name)
      | _ => none
    match content with
    | .textStream text => .ok (.text text, path)
    | .byteStream bytes => .ok (.bytes bytes, path)
    | .oddStream value => .ok (.other value, path)
    | .failingStream _ _ =>
      let shown := match name with
        | .text name => some name
        | _ => none
      .error (.file ("Could not read input stream: ".toList ++ name.display) shown)
    | content => .ok (content, path)
  | .other kind =>
    .error (.validation ("Unsupported source type: ".toList ++ kind) (some "source".toList))

/-- The path beside a source, which must have a name. It must not be the source's own. -/
def outputPath (path : Option Path) : Except Failure Path :=
  match path with
  | none =>
    .error (.validation "Cannot derive an output path for a source without a file name; pass \x60to\x60".toList
      (some "to".toList))
  | some path =>
    let output := path.withSuffix outputSuffix
    if path.name.isEmpty then .error .brokenName
    else if output = path then
      .error (.validation ("Output path would overwrite the source: ".toList ++ path.toText) (some "to".toList))
    else .ok output

/-- The destination, and the log records on the way to it. -/
def destination (path : Option Path) : Option Destination → Except Failure (Destination × List LogRecord)
  | some chosen => .ok (chosen, [])
  | none =>
    (outputPath path).map fun output =>
      let report := "Writing ".toList ++ (path.getD []).toText ++ " to ".toList ++ output.toText
      (.toFile output, [⟨.debug, report⟩])

end FileSource

/-- Converts a file. The source and the destination of the request are not used. -/
def convertFile (source : FileSource) (chosen : Option Destination) (request : ConversionRequest) (files : FileTree) :
    Conversion :=
  let refused := fun failure => (⟨.error failure, request.attributes, chosen.getD .caller, files, []⟩ : Conversion)
  match source.read files with
  | .error failure => refused failure
  | .ok (content, path) =>
    match FileSource.destination path chosen with
    | .error failure => refused failure
    | .ok (destination, log) =>
      let conversion := convert { request with source := content, destination := destination } files
      { conversion with log := log ++ conversion.log }

end Adocify
