/-! Text as a list of characters, and the operations on it that do not depend on what a character
means. -/

namespace Adocify

abbrev Text := List Char

/-- The only blanks that count inside a line of markup. -/
def isSpaceOrTab (c : Char) : Bool := c == ' ' || c == '\t'

namespace Text

def join (separator : Text) (parts : List Text) : Text :=
  separator.intercalate parts

/-- The parts between the separators: one more than there are separators. -/
def splitOn (separator : Char) : Text → List Text
  | [] => [[]]
  | c :: rest =>
    if c = separator then [] :: splitOn separator rest
    else match splitOn separator rest with
      | [] => [[c]]
      | first :: others => (c :: first) :: others

def lines (text : Text) : List Text := splitOn '\n' text

def unlines (parts : List Text) : Text := join ['\n'] parts

/-- Without one newline at the end, if there is one. -/
def withoutFinalNewline (text : Text) : Text := if text.getLast? = some '\n' then text.dropLast else text

def dropEndWhile (drop : Char → Bool) (text : Text) : Text :=
  (text.reverse.dropWhile drop).reverse

def dropAround (drop : Char → Bool) (text : Text) : Text :=
  dropEndWhile drop (text.dropWhile drop)

/-- What stands before and after the first occurrence of `part`. -/
def breakOn (part : Text) : Text → Option (Text × Text)
  | [] => if part.isEmpty then some ([], []) else none
  | c :: rest =>
    if part.isPrefixOf (c :: rest) then some ([], (c :: rest).drop part.length)
    else (breakOn part rest).map fun (before, after) => (c :: before, after)

def includes (part text : Text) : Bool := (breakOn part text).isSome

/-- What stands before the first `separator`, and what stands after it if there is one. -/
def cut (separator : Char) (text : Text) : Text × Option Text :=
  match text.dropWhile (· != separator) with
  | [] => (text, none)
  | _ :: after => (text.takeWhile (· != separator), some after)

/-- The order by code points. -/
def atMost : Text → Text → Bool
  | [], _ => true
  | _ :: _, [] => false
  | a :: s, b :: t => a.toNat < b.toNat || (a.toNat == b.toNat && atMost s t)

/-- Every `old` becomes `new`. -/
def substitute (old : Char) (new : Text) (text : Text) : Text :=
  text.flatMap fun c => if c = old then new else [c]

/-- Replaces the occurrences of `old` from left to right; `skip` characters of the last one are
still to be passed over. -/
def replaceFrom (old new : Text) : Nat → Text → Text
  | _, [] => []
  | skip + 1, _ :: rest => replaceFrom old new skip rest
  | 0, c :: rest =>
    if old.isPrefixOf (c :: rest) then new ++ replaceFrom old new (old.length - 1) rest
    else c :: replaceFrom old new 0 rest

/-- Replaces every occurrence of `old`; an empty `old` occurs before each character and at the end. -/
def replaceAll (old new text : Text) : Text :=
  if old.isEmpty then new ++ text.flatMap (fun c => c :: new) else replaceFrom old new 0 text

def ofNat (n : Nat) : Text := Nat.toDigits 10 n

def ofInt : Int → Text
  | .ofNat n => ofNat n
  | .negSucc n => '-' :: ofNat (n + 1)

/-- The digit's value in any base up to thirty-six. -/
def digitValue? (c : Char) : Option Nat :=
  if c.isDigit then some (c.toNat - 0x30)
  else if 'a' ≤ c && c ≤ 'z' then some (c.toNat - 0x61 + 10)
  else if 'A' ≤ c && c ≤ 'Z' then some (c.toNat - 0x41 + 10)
  else none

/-- Reads a number in the given base; none if a character is not a digit of it. -/
def readDigits? (base : Nat) (text : Text) : Option Nat :=
  text.foldlM (fun n c => do
    let d ← digitValue? c
    if d < base then some (n * base + d) else none) 0

def readNat? (text : Text) : Option Nat :=
  if text.isEmpty then none else readDigits? 10 text

/-- The number in lower-case hexadecimal digits, with zeros in front up to the width. -/
def hex (width n : Nat) : Text :=
  let digits := Nat.toDigits 16 n
  List.replicate (width - digits.length) '0' ++ digits

/-- The number in decimal digits, with zeros in front up to the width. -/
def padded (width n : Nat) : Text :=
  let digits := ofNat n
  List.replicate (width - digits.length) '0' ++ digits

end Text

end Adocify
