import Adocify.Yaml.Directive
import Adocify.Yaml.ScalarText

/-! The tokens of a YAML text. Indentation and the keys that stand before a colon become tokens of
their own: a colon turns what was read since a place where a key may begin into a key. -/

namespace Adocify.Yaml

inductive Token where
  | directive (content : Directive)
  | documentStart
  | documentEnd
  | sequenceStart
  | mappingStart
  /-- Ends a collection that indentation holds together. -/
  | blockEnd
  | openBracket
  | closeBracket
  | openBrace
  | closeBrace
  | entry
  | comma
  | key
  | value
  | alias (name : Text)
  | anchor (name : Text)
  | tag (written : WrittenTag)
  | scalar (content : Text) (plain : Bool)
  deriving Repr, DecidableEq

/-- A place where a key may have begun. -/
structure KeyPlace where
  /-- How many tokens precede it. -/
  count : Nat
  /-- The indentation allows nothing but a key here. -/
  required : Bool
  spot : Spot
  deriving Repr

/-- A key lies on one line and has at most so many characters. -/
def keyLimit : Nat := 1024

structure TokenReader where
  rest : Spots
  /-- Latest token first. -/
  tokens : List Token := []
  count : Nat := 0
  indent : Int := -1
  /-- Indentations of the enclosing collections, innermost first. -/
  outer : List Int := []
  /-- For each open bracket, and for the text outside of them all, where a key may have begun;
  innermost first. -/
  keys : List (Option KeyPlace) := [none]
  keyAllowed : Bool := true
  deriving Repr

namespace TokenReader

def inFlow (reader : TokenReader) : Bool := reader.keys.length > 1

def emit (reader : TokenReader) (token : Token) : TokenReader :=
  { reader with tokens := token :: reader.tokens, count := reader.count + 1 }

/-- Puts a token behind the first `count` tokens. -/
def insertAt (reader : TokenReader) (count : Nat) (token : Token) : TokenReader :=
  let later := reader.count - count
  { reader with
    tokens := reader.tokens.take later ++ token :: reader.tokens.drop later
    count := reader.count + 1 }

/-- Skips blanks, comments and line breaks; behind a line break outside of brackets a key may begin. -/
def skipGap (inFlow : Bool) : Bool → Bool → Spots → Bool × Spots
  | _, allowed, [] => (allowed, [])
  | comment, allowed, spot :: rest =>
    if isBreak spot.char then skipGap inFlow false (allowed || !inFlow) rest
    else if comment then skipGap inFlow true allowed rest
    else if spot.char = ' ' then skipGap inFlow false allowed rest
    else if spot.char = '#' then skipGap inFlow true allowed rest
    else (allowed, spot :: rest)

/-- Gives up the keys that the line or the length leaves behind. None if one of them was required. -/
def dropStaleKeys (spot : Spot) : List (Option KeyPlace) → Option (List (Option KeyPlace))
  | [] => some []
  | none :: others => (dropStaleKeys spot others).map (none :: ·)
  | some place :: others =>
    if place.spot.line != spot.line || keyLimit < spot.index - place.spot.index then
      if place.required then none else (dropStaleKeys spot others).map (none :: ·)
    else (dropStaleKeys spot others).map (some place :: ·)

/-- Closes the collections that are indented beyond the column. -/
def closeTo (column : Int) : List Int → Int → List Token → List Int × Int × List Token
  | [], indent, tokens => ([], indent, tokens)
  | enclosing :: outer, indent, tokens =>
    if column < indent then closeTo column outer enclosing (.blockEnd :: tokens)
    else (enclosing :: outer, indent, tokens)

def unwind (reader : TokenReader) (column : Int) : TokenReader :=
  if reader.inFlow then reader
  else
    let (outer, indent, tokens) := closeTo column reader.outer reader.indent reader.tokens
    { reader with outer, indent, tokens, count := reader.count + (tokens.length - reader.tokens.length) }

/-- Opens a collection if the column is beyond the indentation. -/
def openAt (reader : TokenReader) (column count : Nat) (token : Token) : TokenReader :=
  if reader.indent < column then
    { reader.insertAt count token with indent := column, outer := reader.indent :: reader.outer }
  else reader

/-- Gives up the innermost key. None if it was required. -/
def forgetKey (reader : TokenReader) : Option TokenReader :=
  match reader.keys with
  | some place :: outer => if place.required then none else some { reader with keys := none :: outer }
  | _ => some reader

/-- Notes that a key may begin at the spot. -/
def noteKey (reader : TokenReader) (spot : Spot) : Option TokenReader := do
  if !reader.keyAllowed then return reader
  let required := !reader.inFlow && reader.indent == spot.column
  let reader ← reader.forgetKey
  return { reader with keys := some ⟨reader.count, required, spot⟩ :: reader.keys.tail }

def openFlow (reader : TokenReader) (spot : Spot) (token : Token) (rest : Spots) : Option TokenReader := do
  let reader ← reader.noteKey spot
  return { reader.emit token with keys := none :: reader.keys, keyAllowed := true, rest }

/-- None when nothing is open. -/
def closeFlow (reader : TokenReader) (token : Token) (rest : Spots) : Option TokenReader := do
  if !reader.inFlow then none
  let reader ← reader.forgetKey
  return { reader.emit token with keys := reader.keys.tail, keyAllowed := false, rest }

def comma (reader : TokenReader) (rest : Spots) : Option TokenReader := do
  let reader ← reader.forgetKey
  return { reader.emit .comma with keyAllowed := true, rest }

/-- A hyphen, a question mark or a colon that opens a collection at its own place; `token` is the
opening. -/
def begin (reader : TokenReader) (spot : Spot) (token : Token) : Option TokenReader := do
  if reader.inFlow then return reader
  if !reader.keyAllowed then none
  return reader.openAt spot.column reader.count token

def entry (reader : TokenReader) (spot : Spot) (rest : Spots) : Option TokenReader := do
  let reader ← reader.begin spot .sequenceStart
  let reader ← reader.forgetKey
  return { reader.emit .entry with keyAllowed := true, rest }

def explicitKey (reader : TokenReader) (spot : Spot) (rest : Spots) : Option TokenReader := do
  let reader ← reader.begin spot .mappingStart
  let reader ← reader.forgetKey
  return { reader.emit .key with keyAllowed := !reader.inFlow, rest }

def value (reader : TokenReader) (spot : Spot) (rest : Spots) : Option TokenReader :=
  match reader.keys with
  | some place :: outer =>
    let reader := { reader with keys := none :: outer }
    let reader := reader.insertAt place.count .key
    let reader := if reader.inFlow then reader else reader.openAt place.spot.column place.count .mappingStart
    some { reader.emit .value with keyAllowed := false, rest }
  | _ => do
    let reader ← reader.begin spot .mappingStart
    return { reader.emit .value with keyAllowed := !reader.inFlow, rest }

/-- A token that may be, or begin, a key. -/
def content (reader : TokenReader) (spot : Spot) (read : Reading (Token × Spots)) : Reading TokenReader := do
  let reader ← Reading.ofOption (reader.noteKey spot)
  let (token, rest) ← read
  return { reader.emit token with keyAllowed := false, rest }

def directive (reader : TokenReader) (rest : Spots) : Reading TokenReader := do
  let reader ← Reading.ofOption (reader.unwind (-1)).forgetKey
  let (content, rest) ← Directive.read rest
  return { reader.emit (.directive content) with keyAllowed := false, rest }

def documentMark (reader : TokenReader) (token : Token) (rest : Spots) : Option TokenReader := do
  let reader ← (reader.unwind (-1)).forgetKey
  return { reader.emit token with keyAllowed := false, rest }

/-- A literal or folded block. A key may stand behind it. -/
def block (reader : TokenReader) (folded : Bool) (rest : Spots) : Option TokenReader := do
  let reader ← reader.forgetKey
  let (content, after) ← blockScalar folded (max 1 (reader.indent + 1)).toNat rest
  return { reader.emit (.scalar content false) with keyAllowed := true, rest := after }

def plain (reader : TokenReader) (spot : Spot) (rest : Spots) : Option TokenReader := do
  let scalar := plainScalar reader.inFlow (reader.indent + 1) (spot :: rest)
  let reader ← reader.noteKey spot
  return { reader.emit (.scalar scalar.content true) with keyAllowed := scalar.endsLine, rest := scalar.rest }

/-- A name behind an asterisk or an ampersand. -/
def nameOf (spots : Spots) : Option (Text × Spots) :=
  let (name, rest) := spots.spanChars isNameChar
  if name.isEmpty then none
  else if rest.headIs fun c => !isGap c && !"?:,]\x7d%@\x60".toList.contains c then none
  else some (name.text, rest)

def beginsPlain (inFlow : Bool) (c : Char) (rest : Spots) : Bool :=
  (!isGap c && !"-?:,[]\x7b\x7d#&*!|>'\"%@\x60".toList.contains c) ||
    (!rest.atGap && (c = '-' || (!inFlow && (c = '?' || c = ':'))))

/-- Reads the next token; the reader stands at the spot. -/
def readToken (reader : TokenReader) (spot : Spot) (rest : Spots) : Reading TokenReader :=
  let c := spot.char
  let marked := spot.column = 0 && Spots.atDocumentMark (spot :: rest)
  let named := fun (token : Text → Token) =>
    Reading.ofOption ((nameOf rest).map fun (name, after) => (token name, after))
  let tagged := Reading.ofOption ((tagOf spot rest).map fun (written, after) => (Token.tag written, after))
  if spot.column = 0 && c = '%' then reader.directive rest
  else if marked then
    Reading.ofOption (reader.documentMark (if c = '-' then .documentStart else .documentEnd) (rest.drop 2))
  else if c = '[' then Reading.ofOption (reader.openFlow spot .openBracket rest)
  else if c = '\x7b' then Reading.ofOption (reader.openFlow spot .openBrace rest)
  else if c = ']' then Reading.ofOption (reader.closeFlow .closeBracket rest)
  else if c = '\x7d' then Reading.ofOption (reader.closeFlow .closeBrace rest)
  else if c = ',' then Reading.ofOption (reader.comma rest)
  else if c = '-' && rest.atGap then Reading.ofOption (reader.entry spot rest)
  else if c = '?' && (reader.inFlow || rest.atGap) then Reading.ofOption (reader.explicitKey spot rest)
  else if c = ':' && (reader.inFlow || rest.atGap) then Reading.ofOption (reader.value spot rest)
  else if c = '*' then reader.content spot (named .alias)
  else if c = '&' then reader.content spot (named .anchor)
  else if c = '!' then reader.content spot tagged
  else if (c = '|' || c = '>') && !reader.inFlow then Reading.ofOption (reader.block (c = '>') rest)
  else if c = '\'' || c = '"' then
    reader.content spot ((quotedScalar (c = '"') rest).map fun (content, after) => (.scalar content false, after))
  else if beginsPlain reader.inFlow c rest then Reading.ofOption (reader.plain spot rest)
  else Reading.malformed

/-- At the end no bracket may be open and no required key may be missing. -/
def finish (reader : TokenReader) : Option (List Token) := do
  if reader.inFlow then none
  let reader ← (reader.unwind (-1)).forgetKey
  return reader.tokens.reverse

/-- The key may still turn up where the reader stands. -/
def isOpen (reader : TokenReader) (place : KeyPlace) : Bool :=
  match reader.rest with
  | [] => false
  | spot :: _ => place.spot.line == spot.line && spot.index - place.spot.index ≤ keyLimit

/-- The tokens before which nothing can be put any more. -/
def settled (reader : TokenReader) : List Token :=
  let open? := reader.keys.filterMap fun place => place.filter reader.isOpen
  reader.tokens.reverse.take (open?.foldl (fun least place => min least place.count) reader.count)

end TokenReader

/-- The tokens of a text, up to a failure if there is one. -/
structure Tokens where
  list : List Token
  failure : Option Failure

namespace TokenReader

/-- Reads token after token; each takes up a character at least. -/
def run : Nat → TokenReader → Option Tokens
  | 0, _ => none
  | fuel + 1, reader =>
    let (keyAllowed, rest) := skipGap reader.inFlow false reader.keyAllowed reader.rest
    match rest with
    | [] => (finish { reader with keyAllowed, rest }).map fun tokens => ⟨tokens, none⟩
    | spot :: after => do
      let keys ← dropStaleKeys spot reader.keys
      let standing := { reader with keyAllowed, rest, keys }.unwind spot.column
      match standing.readToken spot after with
      | .ok next => run fuel next
      | .error .malformed => none
      | .error (.failed cause) => some ⟨reader.settled, some cause⟩

end TokenReader

/-- None if the text is no sequence of tokens. -/
def tokensOf (text : Text) : Option Tokens := do
  let spots ← spotsOf text
  TokenReader.run (spots.length + 1) { rest := spots }

end Adocify.Yaml
