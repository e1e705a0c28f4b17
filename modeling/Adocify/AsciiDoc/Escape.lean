import Adocify.Text.Blank
import Adocify.Text.Word

/-! Escapes that keep literal text literal in AsciiDoc. A formatting mark is escaped only where it
would open a span: a backslash before a mark that opens nothing would be printed. -/

namespace Adocify.AsciiDoc

def formattingMarks : List Char := ['*', '_', '\x60', '#', '+']

/-- The length of a doubled span at the start of the text: two marks, at least one character, and
the next two marks. -/
def doubledSpan? (mark : Char) : Text → Option Nat
  | a :: b :: _ :: rest =>
    if a = mark && b = mark then (Text.breakOn [mark, mark] rest).map fun (inner, _) => inner.length + 5
    else none
  | _ => none

/-- The distance from a span's first inner character to its closing mark. The mark stands behind a
character that is not blank and before one that is no word character. -/
def closingMark? (mark : Char) : Text → Option Nat
  | c :: d :: rest =>
    if !Text.isBlank c && d = mark && !(rest.head?.any Text.isWord) then some 1
    else (closingMark? mark (d :: rest)).map (· + 1)
  | _ => none

/-- The length of a single-mark span at the start of the text. -/
def singleSpan? (mark : Char) : Text → Option Nat
  | a :: c :: rest =>
    if a = mark && c ≠ mark && !Text.isBlank c then (closingMark? mark (c :: rest)).map (· + 2) else none
  | _ => none

/-- Characters behind which a single mark opens nothing. -/
def blocksOpening (c : Char) : Bool :=
  Text.isWord c || c = ';' || c = ':' || c = '\x7d' || c = '\\'

/-- A span to be escaped: whether it begins behind the next character, how many backslashes go in
front of it, and its length. -/
structure EscapedSpan where
  behindLead : Bool
  backslashes : Nat
  length : Nat

/-- The span that begins here or behind the first character, `before` being the character to the left. -/
def spanAt? (mark : Char) (before : Option Char) (text : Text) : Option EscapedSpan :=
  let doubled := if before = some '\\' then none else doubledSpan? mark text
  match doubled with
  | some length => some ⟨false, if mark = '+' then 1 else 2, length⟩
  | none =>
    let opening := if before.isNone then singleSpan? mark text else none
    match opening, text with
    | some length, _ => some ⟨false, 1, length⟩
    | none, c :: rest =>
      if blocksOpening c then none else (singleSpan? mark rest).map fun length => ⟨true, 1, length⟩
    | none, [] => none

/-- Escapes one mark from left to right. The next `skip` characters belong to a span that has its
backslashes already. -/
def escapeMarkFrom (mark : Char) : Nat → Option Char → Text → Text
  | _, _, [] => []
  | skip + 1, _, c :: rest => c :: escapeMarkFrom mark skip (some c) rest
  | 0, before, c :: rest =>
    match spanAt? mark before (c :: rest) with
    | none => c :: escapeMarkFrom mark 0 (some c) rest
    | some span =>
      let backslashes := List.replicate span.backslashes '\\'
      if span.behindLead then c :: backslashes ++ escapeMarkFrom mark span.length (some c) rest
      else backslashes ++ c :: escapeMarkFrom mark (span.length - 1) (some c) rest

/-- A mark that occurs only once opens nothing. -/
def escapeMark (text : Text) (mark : Char) : Text :=
  if text.count mark < 2 then text else escapeMarkFrom mark 0 none text

def escapeFormattingMarks (text : Text) : Text := formattingMarks.foldl escapeMark text

def startsReferenceName (c : Char) : Bool := c.isAlphanum || c = '_'

def isReferenceChar (c : Char) : Bool := c.isAlphanum || c = '_' || c = '-'

/-- The text begins with an attribute reference, a name in braces. -/
def startsReference : Text → Bool
  | '\x7b' :: c :: rest => startsReferenceName c && (rest.dropWhile isReferenceChar).head? = some '\x7d'
  | _ => false

def escapeReferencesFrom (before : Option Char) : Text → Text
  | [] => []
  | c :: rest =>
    let escaped := startsReference (c :: rest) && before ≠ some '\\'
    (if escaped then ['\\', c] else [c]) ++ escapeReferencesFrom (some c) rest

/-- A brace that opens an attribute reference gets a backslash, unless it has one. -/
def escapeAttributeReferences (text : Text) : Text := escapeReferencesFrom none text

/-- A closing bracket would end the text of a macro. -/
def escapeMacroText (text : Text) : Text := Text.substitute ']' ['\\', ']'] text

def escapeAttributeValue (text : Text) : Text := Text.substitute '"' ['\\', '"'] text

def isCodeSpecial (c : Char) : Bool := "*_#^~\x7b\x7d[]<>`+\\".toList.contains c

/-- Sequences that are replaced by a typographic character. -/
def codeSequences : List Text :=
  ["...".toList, "--".toList, "(C)".toList, "(R)".toList, "(M)".toList, "(TM)".toList]

/-- Inline code holding something that AsciiDoc would format has to be passed through. -/
def codeNeedsPassthrough (code : Text) : Bool :=
  code.any isCodeSpecial || codeSequences.any (Text.includes · code)

end Adocify.AsciiDoc
