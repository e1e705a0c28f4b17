import Adocify.Text.Basic

/-! UTF-8. A sequence is refused at its first byte, with the reason for which it is none. -/

namespace Adocify

/-- Why bytes are not the encoding of a text: the bytes that a codec refuses, and their position. -/
structure DecodeError where
  codec : Text
  reason : Text
  position : Nat
  bytes : List UInt8
  deriving Repr, DecidableEq

/-- A single byte is shown itself; of several it is only told where they stand. -/
def DecodeError.message (error : DecodeError) : Text :=
  let refused := match error.bytes with
    | [b] => "byte 0x".toList ++ Text.hex 2 b.toNat ++ " in position ".toList ++ Text.ofNat error.position
    | bytes => "bytes in position ".toList ++ Text.ofNat error.position ++ '-' ::
        Text.ofNat (error.position + bytes.length - 1)
  '\'' :: error.codec ++ "' codec can't decode ".toList ++ refused ++ ": ".toList ++ error.reason

namespace Utf8

/-- A byte behind the first one of a sequence; it holds the last six bits. -/
def tailByte (n : Nat) : UInt8 := UInt8.ofNat (0x80 + n % 0x40)

def encodeChar (c : Char) : List UInt8 :=
  let n := c.toNat
  if n < 0x80 then [UInt8.ofNat n]
  else if n < 0x800 then [UInt8.ofNat (0xc0 + n / 0x40), tailByte n]
  else if n < 0x10000 then [UInt8.ofNat (0xe0 + n / 0x1000), tailByte (n / 0x40), tailByte n]
  else [UInt8.ofNat (0xf0 + n / 0x40000), tailByte (n / 0x1000), tailByte (n / 0x40), tailByte n]

def encode (text : Text) : List UInt8 := text.flatMap encodeChar

def isTail (b : UInt8) : Bool := 0x80 ≤ b && b ≤ 0xbf

/-- The second byte of a sequence of three rules out overlong forms and surrogates. -/
def isSecondOfThree (first second : UInt8) : Bool :=
  isTail second && (first != 0xe0 || 0xa0 ≤ second) && (first != 0xed || second < 0xa0)

/-- The second byte of a sequence of four rules out overlong forms and what lies beyond Unicode. -/
def isSecondOfFour (first second : UInt8) : Bool :=
  isTail second && (first != 0xf0 || 0x90 ≤ second) && (first != 0xf4 || second < 0x90)

def charOf (first : UInt8) (mask : Nat) (tails : List UInt8) : Char :=
  Char.ofNat (tails.foldl (fun n b => n * 0x40 + b.toNat % 0x40) (first.toNat % mask))

def refuse (reason : String) (position : Nat) (bytes : List UInt8) : Except DecodeError Text :=
  .error ⟨"utf-8".toList, reason.toList, position, bytes⟩

def invalidStart (position : Nat) (first : UInt8) : Except DecodeError Text :=
  refuse "invalid start byte" position [first]

/-- Refuses a sequence as far as it is one. -/
def invalidContinuation (position : Nat) (begun : List UInt8) : Except DecodeError Text :=
  refuse "invalid continuation byte" position begun

def unexpectedEnd (position : Nat) (left : List UInt8) : Except DecodeError Text :=
  refuse "unexpected end of data" position left

def decodeFrom (position : Nat) : List UInt8 → Except DecodeError Text
  | [] => .ok []
  | a :: rest =>
    if a < 0x80 then (decodeFrom (position + 1) rest).map (Char.ofNat a.toNat :: ·)
    else if a < 0xc2 then invalidStart position a
    else if a < 0xe0 then
      match rest with
      | [] => unexpectedEnd position [a]
      | b :: rest =>
        if isTail b then (decodeFrom (position + 2) rest).map (charOf a 0x20 [b] :: ·)
        else invalidContinuation position [a]
    else if a < 0xf0 then
      match rest with
      | [] => unexpectedEnd position [a]
      | [b] => if isSecondOfThree a b then unexpectedEnd position [a, b] else invalidContinuation position [a]
      | b :: c :: rest =>
        if isSecondOfThree a b && isTail c then (decodeFrom (position + 3) rest).map (charOf a 0x10 [b, c] :: ·)
        else invalidContinuation position (a :: [b].filter (isSecondOfThree a))
    else if a < 0xf5 then
      match rest with
      | [] => unexpectedEnd position [a]
      | [b] => if isSecondOfFour a b then unexpectedEnd position [a, b] else invalidContinuation position [a]
      | [b, c] =>
        if isSecondOfFour a b && isTail c then unexpectedEnd position [a, b, c]
        else invalidContinuation position (a :: [b].filter (isSecondOfFour a))
      | b :: c :: d :: rest =>
        if isSecondOfFour a b && isTail c && isTail d then
          (decodeFrom (position + 4) rest).map (charOf a 0x08 [b, c, d] :: ·)
        else invalidContinuation position (a :: if isSecondOfFour a b then b :: [c].filter isTail else [])
    else invalidStart position a

def decode (bytes : List UInt8) : Except DecodeError Text := decodeFrom 0 bytes

/-- The encoding of the byte order mark. -/
def mark : List UInt8 := [0xef, 0xbb, 0xbf]

/-- Decodes after removing a byte order mark; positions count from behind it. -/
def decodeMarked (bytes : List UInt8) : Except DecodeError Text :=
  decode (if mark.isPrefixOf bytes then bytes.drop 3 else bytes)

end Utf8

end Adocify
