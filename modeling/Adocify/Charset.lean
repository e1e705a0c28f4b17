import Adocify.Charset.Utf16
import Adocify.Failure
import Adocify.Text.Word

/-! Character sets by name, and how their bytes are decoded. -/

namespace Adocify

/-- Why a codec makes no text of bytes. -/
inductive CodecFailure where
  /-- No codec has the name. -/
  | unknownName
  /-- The codec turns bytes into bytes, not into text. -/
  | notText
  /-- The bytes are not the encoding of a text. -/
  | undecodable (problem : DecodeError)
  /-- Whatever else goes wrong in a codec. -/
  | other (failure : Failure)
  deriving Repr, DecidableEq

/-- How it is told what went wrong in the codec of a name. -/
def CodecFailure.message (name : Text) : CodecFailure → Text
  | .unknownName => "unknown encoding: ".toList ++ name
  | .notText =>
    '\'' :: name ++ "' is not a text encoding; use codecs.decode() to handle arbitrary codecs".toList
  | .undecodable problem => problem.message
  | .other failure => failure.message

/-- What becomes of bytes in the codec of a name. -/
abbrev Codecs := Text → List UInt8 → Except CodecFailure Text

inductive Charset where
  | utf8
  /-- UTF-8 with a byte order mark that is not part of the text. -/
  | utf8Marked
  | latin1
  | windows1252
  | ascii
  | utf16
  | utf16LittleEndian
  | utf16BigEndian
  /-- A codec that turns bytes into bytes, not into text. -/
  | hexadecimal
  /-- A codec that refuses all bytes, whatever they are. -/
  | undefined
  deriving Repr, DecidableEq

namespace Charset

/-- The names of each character set in their canonical spelling. -/
def names : List (Charset × List String) := [
  (.utf8, ["utf_8", "u8", "utf", "utf8", "utf8_ucs2", "utf8_ucs4", "cp65001"]),
  (.utf8Marked, ["utf_8_sig"]),
  (.latin1, ["latin_1", "latin", "latin1", "l1", "8859", "cp819", "csisolatin1", "ibm819", "iso8859",
    "iso8859_1", "iso_8859_1", "iso_8859_1_1987", "iso_ir_100"]),
  (.windows1252, ["cp1252", "1252", "windows_1252"]),
  (.ascii, ["ascii", "646", "ansi_x3.4_1968", "ansi_x3_4_1968", "ansi_x3.4_1986", "cp367", "csascii",
    "ibm367", "iso646_us", "iso_646.irv_1991", "iso_ir_6", "us", "us_ascii"]),
  (.utf16, ["utf_16", "u16", "utf16"]),
  (.utf16LittleEndian, ["utf_16_le", "unicodelittleunmarked", "utf_16le"]),
  (.utf16BigEndian, ["utf_16_be", "unicodebigunmarked", "utf_16be"]),
  (.hexadecimal, ["hex_codec", "hex"]),
  (.undefined, ["undefined"])]

/-- A run of other characters between letters, digits and dots counts as one underscore, and case
does not count. `gap` tells that such a run precedes. -/
def canonicalFrom (started gap : Bool) : Text → Text
  | [] => []
  | c :: rest =>
    if (Text.isWord c && c != '_') || c = '.' then
      (if started && gap then ['_'] else []) ++ (if c.toNat < 0x80 then [c.toLower] else []) ++
        canonicalFrom true false rest
    else canonicalFrom started true rest

def ofName? (name : Text) : Option Charset :=
  let canonical := canonicalFrom false false name
  (names.find? fun entry => entry.2.any fun known => known.toList == canonical).map (·.1)

/-- The characters of the bytes 0x80 to 0x9f of Windows-1252; zero marks a byte without one. -/
def windows1252Block : List Nat := [
  0x20ac, 0, 0x201a, 0x192, 0x201e, 0x2026, 0x2020, 0x2021, 0x2c6, 0x2030, 0x160, 0x2039, 0x152, 0, 0x17d, 0,
  0, 0x2018, 0x2019, 0x201c, 0x201d, 0x2022, 0x2013, 0x2014, 0x2dc, 0x2122, 0x161, 0x203a, 0x153, 0, 0x17e, 0x178]

def windows1252Char? (b : UInt8) : Option Char :=
  if 0x80 ≤ b && b < 0xa0 then
    match windows1252Block[b.toNat - 0x80]? with
    | some 0 | none => none
    | some n => some (Char.ofNat n)
  else some (Char.ofNat b.toNat)

def asciiChar? (b : UInt8) : Option Char := if b < 0x80 then some (Char.ofNat b.toNat) else none

def latin1Char? (b : UInt8) : Option Char := some (Char.ofNat b.toNat)

/-- Decodes bytes that stand for one character each. -/
def decodeSingle (charOf : UInt8 → Option Char) (codec reason : String) (position : Nat) :
    List UInt8 → Except DecodeError Text
  | [] => .ok []
  | b :: rest =>
    match charOf b with
    | none => .error ⟨codec.toList, reason.toList, position, [b]⟩
    | some c => (decodeSingle charOf codec reason (position + 1) rest).map (c :: ·)

/-- No bytes are an empty text for every codec. -/
def decode (charset : Charset) (bytes : List UInt8) : Except CodecFailure Text :=
  match charset with
  | .utf8 => (Utf8.decode bytes).mapError .undecodable
  | .utf8Marked => (Utf8.decodeMarked bytes).mapError .undecodable
  | .latin1 => (decodeSingle latin1Char? "latin-1" "" 0 bytes).mapError .undecodable
  | .windows1252 =>
    (decodeSingle windows1252Char? "charmap" "character maps to <undefined>" 0 bytes).mapError .undecodable
  | .ascii => (decodeSingle asciiChar? "ascii" "ordinal not in range(128)" 0 bytes).mapError .undecodable
  | .utf16 => (Utf16.decodeMarked bytes).mapError .undecodable
  | .utf16LittleEndian => (Utf16.decodeFrom false 0 bytes).mapError .undecodable
  | .utf16BigEndian => (Utf16.decodeFrom true 0 bytes).mapError .undecodable
  | .hexadecimal => if bytes.isEmpty then .ok [] else .error .notText
  | .undefined => if bytes.isEmpty then .ok [] else .error (.other .undefinedConversion)

/-- The character sets by name. A name ends at a NUL and so holds none. -/
def codecs : Codecs := fun name bytes =>
  if name.contains '\x00' then .error (.other .brokenName)
  else match ofName? name with
    | none => .error .unknownName
    | some charset => charset.decode bytes

end Charset

end Adocify
