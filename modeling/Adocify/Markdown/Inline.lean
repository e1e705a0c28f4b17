import Adocify.Markdown.Autolink
import Adocify.Markdown.Emphasis
import Adocify.Markdown.HtmlTag
import Adocify.Markdown.NoteDefinition

/-! The text inside blocks. It is scanned once from left to right; brackets wait for what closes them,
and runs of emphasis marks are paired within each bracket and at the end. -/

namespace Adocify.Markdown

/-- What the text inside blocks may refer to and how it is to be read. -/
structure InlineGrammar where
  definitions : List (Text × LinkTarget) := []
  /-- The keys of the footnotes that are defined. -/
  notes : List Text := []
  footnotes : Bool := false
  strikethrough : Bool := false
  hardWrap : Bool := false
  deriving Repr

/-- A bracket that may begin a link or an image. -/
structure OpenBracket where
  image : Bool
  /-- No link stands inside it yet, so that it may become one. -/
  active : Bool := true
  /-- The pieces before it, latest first. -/
  outside : List Piece
  /-- The source after it. -/
  source : Text

/-- A text that has been scanned in part; pieces after the last open bracket come latest first. -/
structure Scanner where
  pieces : List Piece := []
  brackets : List OpenBracket := []

namespace OpenBracket

def written (bracket : OpenBracket) : Text := if bracket.image then "![".toList else "[".toList

def block (bracket : OpenBracket) : OpenBracket := if bracket.image then bracket else { bracket with active := false }

end OpenBracket

/-- Text without anything in it is one empty token. -/
def inlineTokens (pieces : List Piece) : List Token :=
  match Piece.resolve pieces with
  | [] => [Token.leaf .text []]
  | tokens => tokens

namespace Scanner

def add (piece : Piece) (scanner : Scanner) : Scanner := { scanner with pieces := piece :: scanner.pieces }

def addText (text : Text) (scanner : Scanner) : Scanner := scanner.add (.literal text)

def addToken (token : Token) (scanner : Scanner) : Scanner := scanner.add (.whole token)

def openBracket (image : Bool) (source : Text) (scanner : Scanner) : Scanner :=
  { pieces := [], brackets := { image := image, outside := scanner.pieces, source := source } :: scanner.brackets }

/-- The last bracket is literal. -/
def giveUpBracket (scanner : Scanner) : Scanner :=
  match scanner.brackets with
  | [] => scanner
  | bracket :: outer =>
    { pieces := scanner.pieces ++ .literal bracket.written :: bracket.outside, brackets := outer }

def giveUpBrackets : Nat → Scanner → Scanner
  | 0, scanner => scanner
  | count + 1, scanner => giveUpBrackets count scanner.giveUpBracket

/-- All pieces in their order; brackets still open are literal. -/
def finish (scanner : Scanner) : List Piece := (giveUpBrackets scanner.brackets.length scanner).pieces.reverse

end Scanner

namespace InlineGrammar

/-- Where the label of a link definition leads; brackets cannot stand in one. -/
def lookup? (grammar : InlineGrammar) (label : Text) : Option LinkTarget :=
  if LinkTarget.label? (label ++ [']']) = some (label, []) && !Text.isBlankText label then
    grammar.definitions.lookup (labelKey label)
  else none

/-- The target of the text in brackets that `after` follows: in parentheses, by a label in brackets
of its own, or by the text as its own label. -/
def target? (grammar : InlineGrammar) (label after : Text) : Option (LinkTarget × Text) :=
  let shortcut := (grammar.lookup? label).map fun target => (target, after)
  match after with
  | '(' :: rest => LinkTarget.inline? rest <|> shortcut
  | '[' :: rest =>
    match LinkTarget.label? rest with
    | some ([], rest) => (grammar.lookup? label).map fun target => (target, rest)
    | some (other, rest) => (grammar.lookup? other).map fun target => (target, rest)
    | none => shortcut
  | _ => shortcut

/-- A closing bracket; answers how many of the characters after it belong to the link. -/
def closeBracket (grammar : InlineGrammar) (after : Text) (scanner : Scanner) : Scanner × Nat :=
  match scanner.brackets with
  | [] => (scanner.addText [']'], 0)
  | bracket :: outer =>
    let label := bracket.source.take (bracket.source.length - after.length - 1)
    match if bracket.active then grammar.target? label after else none with
    | none => (scanner.giveUpBracket.addText [']'], 0)
    | some (target, rest) =>
      let details : TokenDetails := { url := some target.url, title := target.title }
      let kind := if bracket.image then TokenKind.image else .link
      let token := Token.branch kind (inlineTokens scanner.pieces.reverse) details
      let brackets := if bracket.image then outer else outer.map OpenBracket.block
      ({ pieces := .whole token :: bracket.outside, brackets := brackets }, after.length - rest.length)

/-- The reference to a footnote that follows an opening bracket: its text and what follows it. -/
def noteReference? (grammar : InlineGrammar) : Text → Option (Piece × Text)
  | '^' :: text =>
    if grammar.footnotes then
      (NoteDefinition.label? text).map fun (label, after) =>
        let key := labelKey label
        if grammar.notes.contains key then (.whole (Token.leaf .footnoteReference key), after)
        else (.literal ("[^".toList ++ label ++ "]".toList), after)
    else none
  | _ => none

/-- A bracket, or the reference to a footnote, given what follows the bracket. -/
def bracket (grammar : InlineGrammar) (after : Text) (scanner : Scanner) : Scanner × Nat :=
  match grammar.noteReference? after with
  | some (piece, rest) => (scanner.add piece, after.length - rest.length)
  | none => (scanner.openBracket false after, 0)

/-- An exclamation mark makes an image of a bracket, but not of the reference to a footnote. -/
def exclamation (grammar : InlineGrammar) (after : Text) (scanner : Scanner) : Scanner × Nat :=
  match after with
  | '[' :: source =>
    match grammar.noteReference? source with
    | some (_, rest) =>
      if rest.head? = some '(' then (scanner.openBracket true source, 1) else (scanner.addText ['!'], 0)
    | none => (scanner.openBracket true source, 1)
  | _ => (scanner.addText ['!'], 0)

/-- The text before the next run of exactly so many backticks, and what follows the run. -/
def beforeBackticks (count : Nat) : Nat → Text → Option (Text × Text)
  | 0, _ => none
  | limit + 1, text =>
    let inside := text.takeWhile (· != '\x60')
    let rest := text.drop inside.length
    let run := rest.takeWhile (· == '\x60')
    let after := rest.drop run.length
    if run.isEmpty then none
    else if run.length = count then some (inside, after)
    else (beforeBackticks count limit after).map fun (more, after) => (inside ++ run ++ more, after)

/-- Newlines are blanks in code, and one blank is dropped from each end of code that is not all blank. -/
def codeText (source : Text) : Text :=
  let text := source.map fun c => if c = '\n' then ' ' else c
  if text.head? = some ' ' && text.getLast? = some ' ' && text.any (· != ' ') then (text.drop 1).dropLast else text

def backticks (text : Text) (scanner : Scanner) : Scanner × Nat :=
  let run := text.takeWhile (· == '\x60')
  let after := text.drop run.length
  match beforeBackticks run.length text.length after with
  | some (inside, rest) => (scanner.addToken (Token.leaf .codeSpan (codeText inside)), text.length - rest.length)
  | none => (scanner.addText run, run.length)

def lineBreak (grammar : InlineGrammar) (hard : Bool) (after : Text) (scanner : Scanner) : Scanner × Nat :=
  let kind := if hard || grammar.hardWrap then TokenKind.lineBreak else .softBreak
  (scanner.addToken (Token.branch kind []), (after.takeWhile isSpacing).length)

/-- Spaces before a newline are part of the break, which two of them make a hard one. -/
def spaces (grammar : InlineGrammar) (text : Text) (scanner : Scanner) : Scanner × Nat :=
  let run := text.takeWhile (· == ' ')
  match text.drop run.length with
  | '\n' :: after =>
    let (scanner, more) := grammar.lineBreak (2 ≤ run.length) after scanner
    (scanner, run.length + 1 + more)
  | _ => (scanner.addText run, run.length)

/-- An address or a tag in angle brackets. -/
def angle (after : Text) (scanner : Scanner) : Scanner × Nat :=
  let autolink := do
    let (address, rest) ← Autolink.bracketed? after
    let destination ← Autolink.destination? address
    let details : TokenDetails := { url := some (LinkTarget.encodeUrl destination) }
    return (Token.branch .link [Token.leaf .text address] details, rest)
  let html := (Html.inline? after).map fun rest =>
    (Token.leaf .inlineHtml ('<' :: after.take (after.length - rest.length)), rest)
  match autolink <|> html with
  | some (token, rest) => (scanner.addToken token, after.length - rest.length)
  | none => (scanner.addText ['<'], 0)

def emphasis (before : Option Char) (text : Text) (scanner : Scanner) : Scanner × Nat :=
  let mark := text.head?.getD '*'
  let run := text.takeWhile (· == mark)
  (scanner.add (.run (EmphasisMark.ofRun mark run.length before (text.drop run.length).head?)), run.length)

def tildes (before : Option Char) (text : Text) (scanner : Scanner) : Scanner × Nat :=
  let run := text.takeWhile (· == '~')
  if run.length < 2 then (scanner.addText run, run.length)
  else
    let scanner := if run.length = 2 then scanner else scanner.addText (run.drop 2)
    (scanner.add (.run (EmphasisMark.ofTildes run.length before (text.drop run.length).head?)), run.length)

/-- A backslash makes a break hard, unless all breaks are hard anyway and it is literal. -/
def escape (grammar : InlineGrammar) (after : Text) (scanner : Scanner) : Scanner × Nat :=
  match after with
  | '\n' :: rest =>
    if grammar.hardWrap then (scanner.addText ['\\'], 0)
    else
      let (scanner, more) := grammar.lineBreak true rest scanner
      (scanner, 1 + more)
  | c :: _ => if Text.isAsciiPunctuation c then (scanner.addText [c], 1) else (scanner.addText ['\\'], 0)
  | [] => (scanner.addText ['\\'], 0)

/-- Takes the character `c`, which `before` precedes; answers how many of the characters after it
are taken with it. -/
def take (grammar : InlineGrammar) (before : Option Char) (c : Char) (after : Text) (scanner : Scanner) :
    Scanner × Nat :=
  let run := fun (scanner, length) => (scanner, length - 1)
  match c with
  | '\\' => grammar.escape after scanner
  | '\x60' => run (backticks (c :: after) scanner)
  | '[' => grammar.bracket after scanner
  | ']' => grammar.closeBracket after scanner
  | '!' => grammar.exclamation after scanner
  | '<' => angle after scanner
  | '*' | '_' => run (emphasis before (c :: after) scanner)
  | '~' => if grammar.strikethrough then run (tildes before (c :: after) scanner) else (scanner.addText [c], 0)
  | ' ' => run (grammar.spaces (c :: after) scanner)
  | '\n' => grammar.lineBreak false after scanner
  | _ => (scanner.addText [c], 0)

/-- Scans what follows `before`; so many characters at its front have been taken already. -/
def scan (grammar : InlineGrammar) (before : Option Char) : Nat → Scanner → Text → Scanner
  | _, scanner, [] => scanner
  | skip + 1, scanner, c :: rest => scan grammar (some c) skip scanner rest
  | 0, scanner, c :: rest =>
    let (scanner, skip) := grammar.take before c rest scanner
    scan grammar (some c) skip scanner rest

/-- The tokens of a text without its line's blanks at both ends. -/
def tokens (grammar : InlineGrammar) (text : Text) : List Token :=
  inlineTokens (grammar.scan none 0 {} text).finish

end InlineGrammar

end Adocify.Markdown
