import Adocify.Charset
import Adocify.Log.Logged
import Adocify.Text.Lines

/-! Input in its many forms, and the canonical text made of it. A declared character set is
authoritative. Without one the bytes are tried as UTF-8, then in the set that a detector names if it
is confident enough, then as Windows-1252 and as Latin-1, which takes every byte. -/

namespace Adocify

/-- What a detector says about bytes. -/
structure Detection where
  encoding : Option Text
  confidence : Binary64
  deriving Repr

namespace Detection

/-- The confidence that makes a detection count. -/
def trusted : Binary64 := Binary64.ofDecimal false 7 (-1)

/-- The bytes that the detector is shown; a negative size leaves out that many at the end. -/
def sample (size : Int) (bytes : List UInt8) : List UInt8 :=
  if size < 0 then bytes.take (bytes.length - size.natAbs) else bytes.take size.toNat

/-- The set that is named, if one is, and how confidently. -/
def named (detection : Option Detection) : Option (Text × Binary64) := do
  let found ← detection
  let name ← found.encoding.filter fun name => !name.isEmpty
  return (name, found.confidence)

def accepted (threshold : Binary64) (detection : Option Detection) : Option Text :=
  match named detection with
  | none => none
  | some (name, confidence) => if confidence.less threshold then none else some name

/-- A confidence as it is told; there is no negative zero among them. -/
def shown (confidence : Binary64) : Text :=
  Binary64.toFixed 2 (if confidence.isZero then Binary64.zero false else confidence)

/-- What is told of a detection. -/
def notes (threshold : Binary64) (detection : Option Detection) : List LogRecord :=
  match named detection with
  | none => [⟨.debug, "chardet: no encoding detected".toList⟩]
  | some (name, confidence) =>
    let found := "chardet detected encoding: ".toList ++ name ++ " (confidence: ".toList ++ shown confidence ++ [')']
    let doubt := "chardet confidence ".toList ++ shown confidence ++ " below threshold ".toList ++ shown threshold
    if confidence.less threshold then [⟨.debug, found⟩, ⟨.debug, doubt⟩] else [⟨.debug, found⟩]

end Detection

inductive Source where
  | text (content : Text)
  | bytes (content : List UInt8)
  | textStream (content : Text)
  | byteStream (content : List UInt8)
  /-- A stream that delivers neither text nor bytes. -/
  | oddStream (content : Value)
  /-- A stream whose reading fails. -/
  | failingStream (name : Value) (error : SystemError)
  | other (value : Value)
  deriving Repr

namespace Source

def decodeDeclared (codecs : Codecs) (name : Text) (bytes : List UInt8) : Except Failure Text :=
  match codecs name bytes with
  | .ok decoded => .ok decoded
  | .error .unknownName => .error (.encoding ("Unknown encoding: ".toList ++ name) (some name))
  | .error .notText => .error .notATextCodec
  | .error (.undecodable problem) =>
    .error (.encoding
      ("Input cannot be decoded as ".toList ++ name ++ ": ".toList ++ problem.reason ++ " at byte ".toList ++
        Text.ofNat problem.position)
      (some name))
  | .error (.other failure) => .error failure

/-- The text in the set that a detector names. It is passed over if there is no such set of characters or the bytes are
not in it. -/
def decodeDetected (codecs : Codecs) (name : Text) (bytes : List UInt8) : Logged (Option Text) :=
  match codecs name bytes with
  | .ok decoded => return some decoded
  | .error (.other failure) => throw failure
  | .error failure => do
    Logged.debug ("Detected encoding ".toList ++ name ++ " failed: ".toList ++ failure.message name)
    return none

def decodeFallback (bytes : List UInt8) : Text × Text :=
  match Charset.decodeSingle Charset.windows1252Char? "charmap" "" 0 bytes with
  | .ok decoded => (decoded, "cp1252".toList)
  | .error _ => (bytes.map fun b => Char.ofNat b.toNat, "latin-1".toList)

def decodeUndeclared (codecs : Codecs) (detection : Option Detection) (bytes : List UInt8) : Logged Text :=
  match Utf8.decodeMarked bytes with
  | .ok decoded => return decoded
  | .error _ => do
    Logged.debug "Input is not valid UTF-8, trying detection".toList
    Logged.report (Detection.notes Detection.trusted detection)
    let detected ← match Detection.accepted Detection.trusted detection with
      | none => pure none
      | some name => decodeDetected codecs name bytes
    match detected with
    | some decoded => return decoded
    | none =>
      let (decoded, name) := decodeFallback bytes
      Logged.debug ("Decoded input using fallback encoding ".toList ++ name)
      return decoded

def decode (codecs : Codecs) (encoding : Option Text) (detection : Option Detection) (bytes : List UInt8) :
    Logged Text :=
  match encoding with
  | some name => liftM (decodeDeclared codecs name bytes)
  | none => decodeUndeclared codecs detection bytes

def withoutMark : Text → Text
  | c :: rest => if c.toNat == 0xfeff then rest else c :: rest
  | [] => []

def canonical (text : Text) : Text := Text.normalizeNewlines (withoutMark text)

/-- Reads a source where these codecs are known. -/
def readWith (codecs : Codecs) (source : Source) (encoding : Option Text) (detection : Option Detection) :
    Logged Text :=
  match source with
  | .text content | .textStream content => return canonical content
  | .bytes content | .byteStream content => do
    let decoded ← decode codecs encoding detection content
    return canonical decoded
  | .oddStream content =>
    throw (.validation ("Stream returned unsupported data type: ".toList ++ content.kindName) (some "source".toList))
  | .failingStream _ error => throw (.system error)
  | .other value =>
    throw (.validation ("Unsupported input type: ".toList ++ value.kindName) (some "source".toList))

def read : Source → Option Text → Option Detection → Logged Text := readWith Charset.codecs

end Source

end Adocify
