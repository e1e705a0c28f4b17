import Adocify.Text.Blank

/-! Line endings. -/

namespace Adocify.Text

/-- Every carriage return, with the line feed that follows it if one does, becomes one line feed. -/
def normalizeNewlines : Text → Text
  | [] => []
  | '\r' :: '\n' :: rest => '\n' :: normalizeNewlines rest
  | c :: rest => (if c = '\r' then '\n' else c) :: normalizeNewlines rest

/-- The text ends in exactly one line feed, unless it has nothing else in it and becomes empty. -/
def endWithNewline (text : Text) : Text :=
  match dropEndWhile (· == '\n') text with
  | [] => []
  | stripped => stripped ++ ['\n']

/-- The characters that end a line of a table body. -/
def isLineBoundary (c : Char) : Bool :=
  let n := c.toNat
  (0x0a ≤ n && n ≤ 0x0d) || (0x1c ≤ n && n ≤ 0x1e) || n == 0x85 || n == 0x2028 || n == 0x2029

/-- The parts between the line boundaries, a carriage return with a line feed being one of them. -/
def boundaryParts : Text → List Text
  | [] => [[]]
  | '\r' :: '\n' :: rest => [] :: boundaryParts rest
  | c :: rest =>
    if isLineBoundary c then [] :: boundaryParts rest
    else match boundaryParts rest with
      | [] => [[c]]
      | first :: others => (c :: first) :: others

/-- Nothing after the last boundary is no line. -/
def boundedLines (text : Text) : List Text :=
  let parts := boundaryParts text
  if parts.getLast? = some [] then parts.dropLast else parts

end Adocify.Text
