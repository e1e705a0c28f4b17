import Adocify.Charset.Utf8

/-! UTF-16 in both byte orders. -/

namespace Adocify.Utf16

def unit (bigEndian : Bool) (a b : UInt8) : Nat :=
  if bigEndian then a.toNat * 0x100 + b.toNat else b.toNat * 0x100 + a.toNat

def isHigh (n : Nat) : Bool := 0xd800 ≤ n && n < 0xdc00

def isLow (n : Nat) : Bool := 0xdc00 ≤ n && n < 0xe000

def refuse (bigEndian : Bool) (reason : String) (position : Nat) (bytes : List UInt8) : Except DecodeError Text :=
  .error ⟨(if bigEndian then "utf-16-be" else "utf-16-le").toList, reason.toList, position, bytes⟩

def decodeFrom (bigEndian : Bool) (position : Nat) : List UInt8 → Except DecodeError Text
  | [] => .ok []
  | [a] => refuse bigEndian "truncated data" position [a]
  | a :: b :: rest =>
    let first := unit bigEndian a b
    if isLow first then refuse bigEndian "illegal encoding" position [a, b]
    else if isHigh first then
      match rest with
      | c :: d :: rest =>
        let second := unit bigEndian c d
        if isLow second then
          let n := 0x10000 + (first - 0xd800) * 0x400 + (second - 0xdc00)
          (decodeFrom bigEndian (position + 4) rest).map (Char.ofNat n :: ·)
        else refuse bigEndian "illegal UTF-16 surrogate" position [a, b]
      | left => refuse bigEndian "unexpected end of data" position (a :: b :: left)
    else (decodeFrom bigEndian (position + 2) rest).map (Char.ofNat first :: ·)

/-- Without a byte order mark the little-endian order is taken. -/
def decodeMarked : List UInt8 → Except DecodeError Text
  | 0xff :: 0xfe :: rest => decodeFrom false 2 rest
  | 0xfe :: 0xff :: rest => decodeFrom true 2 rest
  | bytes => decodeFrom false 0 bytes

end Adocify.Utf16
