import Adocify.Text.Basic

/-! Blanks: the characters that trimming removes. They are the white space of Unicode and the four
information separators. -/

namespace Adocify.Text

def isBlank (c : Char) : Bool :=
  let n := c.toNat
  (0x09 ≤ n && n ≤ 0x0d) || (0x1c ≤ n && n ≤ 0x20) || n == 0x85 || n == 0xa0 || n == 0x1680 ||
    (0x2000 ≤ n && n ≤ 0x200a) || n == 0x2028 || n == 0x2029 || n == 0x202f || n == 0x205f || n == 0x3000

def stripLeft (text : Text) : Text := text.dropWhile isBlank

def stripRight (text : Text) : Text := dropEndWhile isBlank text

def strip (text : Text) : Text := dropAround isBlank text

def isBlankText (text : Text) : Bool := text.all isBlank

/-- What stands between the blanks. -/
def words (text : Text) : List Text :=
  (text.splitBy fun a b => isBlank a == isBlank b).filter fun run => !isBlankText run

end Adocify.Text
