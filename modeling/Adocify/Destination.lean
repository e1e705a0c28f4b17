import Adocify.Files.Write
import Adocify.Log

/-! Where a converted text goes: back to the caller, into a file, or into a stream, which takes it
as text or as bytes. -/

namespace Adocify

inductive Chunk where
  | text (content : Text)
  | bytes (content : List UInt8)
  deriving Repr, DecidableEq

/-- What a stream is. Of a stream of unknown make only the mode tells whether it takes bytes. -/
inductive StreamMake where
  | textBuffer
  | byteBuffer
  | textFile
  | byteFile
  | rawFile
  | unknown (mode : Option Value)
  deriving Repr

def StreamMake.takesBytes : StreamMake → Bool
  | .textBuffer | .textFile => false
  | .byteBuffer | .byteFile | .rawFile => true
  | .unknown (some (.text mode)) => mode.contains 'b'
  | .unknown _ => false

/-- A stream, with what has been written to it so far. -/
structure OutputStream where
  name : Text
  make : StreamMake
  /-- Whatever is written is refused. -/
  full : Bool := false
  canFlush : Bool := true
  chunks : List Chunk := []
  flushes : Nat := 0
  deriving Repr

namespace OutputStream

def chunkFor (stream : OutputStream) (content : Text) : Chunk :=
  if stream.make.takesBytes then .bytes (Utf8.encode content) else .text content

def write (stream : OutputStream) (content : Text) : Except SystemError OutputStream :=
  if stream.full then .error .noSpace
  else .ok { stream with
    chunks := stream.chunks ++ [stream.chunkFor content]
    flushes := if stream.canFlush then stream.flushes + 1 else stream.flushes }

end OutputStream

inductive Destination where
  | caller
  | toFile (path : Path)
  | toStream (stream : OutputStream)
  | unsupported (value : Value)
  deriving Repr

/-- What is left after an attempt to deliver a text. -/
structure Delivery where
  outcome : Except Failure (Option Text)
  destination : Destination
  files : FileTree
  log : List LogRecord := []

/-- A refusal by the operating system is reported as a failure to write; whatever else goes wrong is left as it is. -/
def FileTree.Refusal.failure (refusal : FileTree.Refusal) (path : Path) : Failure :=
  match refusal.obstacle.toFailure [refusal.path.toText] with
  | .system cause => .outputWrite path.toText none (some cause)
  | other => other

/-- A write that was refused tells of a temporary file that stays. -/
def FileTree.Refusal.log (refusal : FileTree.Refusal) : List LogRecord :=
  (refusal.left.map fun place => ⟨.debug, "Could not remove temporary file ".toList ++ place.toText⟩).toList

namespace Destination

def takesBytes : Destination → Bool
  | .toStream stream => stream.make.takesBytes
  | _ => false

/-- Writes the text as it is. Only the caller gets it back. -/
def deliver (destination : Destination) (files : FileTree) (content : Text) : Delivery :=
  match destination with
  | .caller => { outcome := .ok (some content), destination, files }
  | .toFile path =>
    match files.write path (Utf8.encode content) with
    | (files, .ok ()) =>
      let report := "Wrote ".toList ++ Text.ofNat content.length ++ " characters to ".toList ++ path.toText
      { outcome := .ok none, destination, files, log := [⟨.debug, report⟩] }
    | (files, .error refusal) =>
      { outcome := .error (refusal.failure path), destination, files, log := refusal.log }
  | .toStream stream =>
    match stream.write content with
    | .ok written => { outcome := .ok none, destination := .toStream written, files }
    | .error cause => { outcome := .error (.outputWrite stream.name none (some cause)), destination, files }
  | .unsupported value =>
    { outcome := .error (.validation ("Unsupported output type: ".toList ++ value.kindName) (some "to".toList)),
      destination, files }

end Destination

end Adocify
