import Adocify.Yaml.Refusal
import Adocify.Yaml.Spot

/-! The text of YAML scalars in their four forms: plain, quoted, literal and folded. A reader gives
the text and what follows it. A single line break within a plain, quoted or folded scalar becomes a
blank; of several, all but the first remain. -/

namespace Adocify.Yaml

/-- What several line breaks leave when the first of them folds. -/
def foldedBreaks (first : Char) (others : Text) : Text :=
  if first != '\n' then first :: others
  else if others.isEmpty then [' ']
  else others

/-! ### Plain scalars -/

def endsPlain (flow : Bool) (c : Char) (rest : Spots) : Bool :=
  isGap c ||
    (c = ':' && (rest.atGap || (flow && rest.headIs (",[]\x7b\x7d".toList.contains ·)))) ||
    (flow && ",?[]\x7b\x7d".toList.contains c)

/-- One run of a plain scalar without blanks. -/
def plainRun (flow : Bool) : Spots → Text × Spots
  | [] => ([], [])
  | spot :: rest =>
    if endsPlain flow spot.char rest then ([], spot :: rest)
    else
      let (run, after) := plainRun flow rest
      (spot.char :: run, after)

/-- What stands between two runs of a plain scalar. -/
structure PlainGap where
  /-- What the gap contributes to the text; nothing if the scalar ends before it. -/
  filling : Text
  crossesLine : Bool
  rest : Spots

/-- Skips blanks and gathers line breaks. None when a document mark follows one of them. -/
def plainBreaks : Spots → Text × Spots × Bool
  | [] => ([], [], false)
  | spot :: rest =>
    if spot.char = ' ' then plainBreaks rest
    else if isBreak spot.char then
      if Spots.atDocumentMark rest then ([], rest, true)
      else
        let (breaks, after, stopped) := plainBreaks rest
        (spot.char :: breaks, after, stopped)
    else ([], spot :: rest, false)

def plainGap (spots : Spots) : PlainGap :=
  let (blanks, rest) := spots.spanChars (· = ' ')
  match rest with
  | [] => ⟨blanks.text, false, []⟩
  | spot :: after =>
    if isBreak spot.char then
      if Spots.atDocumentMark after then ⟨[], true, after⟩
      else
        let (breaks, remaining, stopped) := plainBreaks after
        ⟨if stopped then [] else foldedBreaks spot.char breaks, true, remaining⟩
    else ⟨blanks.text, false, rest⟩

structure PlainScalar where
  content : Text
  /-- The scalar is followed by a line break, so that a key may stand next. -/
  endsLine : Bool
  rest : Spots

/-- Continues a plain scalar. Its lines must be indented by `indent` at least, except within brackets. -/
def plainScalarFrom (flow : Bool) (indent : Int) : Nat → Spots → PlainScalar
  | 0, spots => ⟨[], false, spots⟩
  | fuel + 1, spots =>
    let (run, rest) := plainRun flow spots
    if run.isEmpty then ⟨[], false, spots⟩
    else
      let gap := plainGap rest
      let outdented := !flow && (gap.rest.head?.map fun spot => decide ((spot.column : Int) < indent)).getD false
      if gap.filling.isEmpty || gap.rest.headIs (· = '#') || outdented then ⟨run, gap.crossesLine, gap.rest⟩
      else
        let more := plainScalarFrom flow indent fuel gap.rest
        if more.content.isEmpty then ⟨run, gap.crossesLine, gap.rest⟩
        else { more with content := run ++ gap.filling ++ more.content }

def plainScalar (flow : Bool) (indent : Int) (spots : Spots) : PlainScalar :=
  plainScalarFrom flow indent (spots.length + 1) spots

/-! ### Quoted scalars -/

def escapeReplacement? : Char → Option Nat
  | '0' => some 0x00
  | 'a' => some 0x07
  | 'b' => some 0x08
  | 't' | '\t' => some 0x09
  | 'n' => some 0x0a
  | 'v' => some 0x0b
  | 'f' => some 0x0c
  | 'r' => some 0x0d
  | 'e' => some 0x1b
  | ' ' => some 0x20
  | '"' => some 0x22
  | '\\' => some 0x5c
  | '/' => some 0x2f
  | 'N' => some 0x85
  | '_' => some 0xa0
  | 'L' => some 0x2028
  | 'P' => some 0x2029
  | _ => none

/-- How many hexadecimal digits follow the letter of a numeric escape. -/
def escapeWidth? : Char → Option Nat
  | 'x' => some 2
  | 'u' => some 4
  | 'U' => some 8
  | _ => none

/-- Gathers the line breaks of a quoted scalar, with the blanks around them skipped. None at a
document mark. -/
def quotedBreaks (atStart : Bool) : Spots → Option (Text × Spots)
  | [] => some ([], [])
  | spot :: rest =>
    if atStart && Spots.atDocumentMark (spot :: rest) then none
    else if spot.char = ' ' || spot.char = '\t' then quotedBreaks false rest
    else if isBreak spot.char then do
      let (breaks, after) ← quotedBreaks true rest
      some (spot.char :: breaks, after)
    else some ([], spot :: rest)

/-- A blank of any length inside a quoted scalar. None if the text ends in it. -/
def quotedGap (spots : Spots) : Option (Text × Spots) :=
  let (blanks, rest) := spots.spanChars fun c => c = ' ' || c = '\t'
  match rest with
  | [] => none
  | spot :: after =>
    if isBreak spot.char then do
      let (breaks, remaining) ← quotedBreaks true after
      some (foldedBreaks spot.char breaks, remaining)
    else some (blanks.text, rest)

/-- The character of a number. A surrogate is half of one, beyond the last one there is none, and beyond 31 bits
no such number is taken. -/
def characterOf (number : Nat) : Reading Char :=
  if number.isValidChar then .ok (Char.ofNat number)
  else if number < 0x80000000 then Reading.failed .unreadableScalar
  else Reading.failed .tooLarge

/-- An escape in double quotes, from behind its backslash. -/
def escaped (spots : Spots) : Reading (Text × Spots) :=
  match spots with
  | [] => Reading.malformed
  | spot :: rest =>
    if isBreak spot.char then Reading.ofOption (quotedBreaks true rest)
    else
      match escapeReplacement? spot.char, escapeWidth? spot.char with
      | some n, _ => .ok ([Char.ofNat n], rest)
      | none, some width =>
        let digits := Spots.text (rest.take width)
        if digits.length < width then Reading.malformed
        else do
          let number ← Reading.ofOption (Text.readDigits? 16 digits)
          let c ← characterOf number
          return ([c], rest.drop width)
      | none, none => Reading.malformed

/-- The rest of a quoted scalar, the opening quote having been read. -/
def quotedScalarFrom (double : Bool) : Nat → Spots → Reading (Text × Spots)
  | 0, _ => Reading.malformed
  | _, [] => Reading.malformed
  | fuel + 1, spot :: rest =>
    let continued := fun (piece : Text) (after : Spots) => do
      let (content, remaining) ← quotedScalarFrom double fuel after
      return (piece ++ content, remaining)
    if isGap spot.char then do
      let (filling, after) ← Reading.ofOption (quotedGap (spot :: rest))
      continued filling after
    else if double then
      if spot.char = '"' then .ok ([], rest)
      else if spot.char = '\\' then do
        let (piece, after) ← escaped rest
        continued piece after
      else continued [spot.char] rest
    else if spot.char = '\'' then
      if Spots.headIs rest (· = '\'') then continued ['\''] rest.tail else .ok ([], rest)
    else continued [spot.char] rest

def quotedScalar (double : Bool) (spots : Spots) : Reading (Text × Spots) :=
  quotedScalarFrom double (spots.length + 1) spots

/-! ### Literal and folded scalars -/

/-- What becomes of the line breaks at the end of a block. -/
inductive Chomping where
  | clip
  | strip
  | keep
  deriving Repr, DecidableEq

structure BlockIndicators where
  chomping : Chomping := .clip
  increment : Option Nat := none

def chomping? : Char → Option Chomping
  | '+' => some .keep
  | '-' => some .strip
  | _ => none

/-- The indicators behind the mark of a block; an increment of zero is refused. -/
def blockIndicators (spots : Spots) : Option (BlockIndicators × Spots) :=
  let increment? := fun c : Char => if c.isDigit then some (c.toNat - 0x30) else none
  let (indicators, rest) : BlockIndicators × Spots := match spots with
    | [] => ({}, [])
    | first :: rest =>
      match chomping? first.char, increment? first.char with
      | some chomping, _ =>
        match rest.head?.bind fun spot => increment? spot.char with
        | some n => ({ chomping, increment := some n }, rest.tail)
        | none => ({ chomping }, rest)
      | none, some n =>
        match rest.head?.bind fun spot => chomping? spot.char with
        | some chomping => ({ chomping, increment := some n }, rest.tail)
        | none => ({ increment := some n }, rest)
      | none, none => ({}, spots)
  if indicators.increment == some 0 then none
  else if rest.headIs fun c => c != ' ' && !isBreak c then none
  else some (indicators, rest)

/-- Skips blanks, a comment and the line break behind the indicators. -/
def blockHeaderEnd (spots : Spots) : Option Spots :=
  let rest : Spots := spots.dropWhile (·.char = ' ')
  let rest : Spots := if rest.headIs (· = '#') then rest.dropWhile (!isBreak ·.char) else rest
  match rest with
  | [] => some []
  | spot :: after => if isBreak spot.char then some after else none

/-- The line breaks before the first line of a block, and the widest indentation among the blanks
passed on the way. -/
def detectIndentation (widest : Nat) : Spots → Text × Nat × Spots
  | [] => ([], widest, [])
  | spot :: rest =>
    if spot.char = ' ' then detectIndentation (max widest (spot.column + 1)) rest
    else if isBreak spot.char then
      let (breaks, found, after) := detectIndentation widest rest
      (spot.char :: breaks, found, after)
    else ([], widest, spot :: rest)

/-- The line breaks before the next line of a block; indentation is skipped up to the block's. -/
def blockBreaks (indent : Nat) : Spots → Text × Spots
  | [] => ([], [])
  | spot :: rest =>
    if spot.char = ' ' && spot.column < indent then blockBreaks indent rest
    else if isBreak spot.char then
      let (breaks, after) := blockBreaks indent rest
      (spot.char :: breaks, after)
    else ([], spot :: rest)

def startsMore (spots : Spots) : Bool := spots.headIs fun c => c = ' ' || c = '\t'

def atColumn (indent : Nat) (spots : Spots) : Bool :=
  (spots.head?.map fun spot => spot.column == indent).getD false

/-- The lines of a block: `breaks` are the line breaks gathered before the first of them. -/
def blockLines (folded : Bool) (indent : Nat) (chomping : Chomping) : Nat → Text → Spots → Text × Spots
  | 0, _, spots => ([], spots)
  | fuel + 1, breaks, spots =>
    let (line, rest) := spots.spanChars (!isBreak ·)
    let ending := Spots.text (rest.take 1)
    let (following, after) := blockBreaks indent (rest.drop 1)
    if atColumn indent after then
      let folds := folded && ending == ['\n'] && !startsMore spots && !startsMore after
      let between := if folds then (if following.isEmpty then [' '] else []) else ending
      let (more, remaining) := blockLines folded indent chomping fuel following after
      (breaks ++ line.text ++ between ++ more, remaining)
    else
      let closing := match chomping with
        | .strip => []
        | .clip => ending
        | .keep => ending ++ following
      (breaks ++ line.text ++ closing, after)

/-- A literal or folded block from behind its mark. Its lines are indented by `least` at least. -/
def blockScalar (folded : Bool) (least : Nat) (spots : Spots) : Option (Text × Spots) := do
  let (indicators, rest) ← blockIndicators spots
  let rest ← blockHeaderEnd rest
  let (breaks, indent, rest) := match indicators.increment with
    | some n =>
      let indent := least + n - 1
      let (breaks, after) := blockBreaks indent rest
      (breaks, indent, after)
    | none =>
      let (breaks, widest, after) := detectIndentation 0 rest
      (breaks, max least widest, after)
  if atColumn indent rest then
    some (blockLines folded indent indicators.chomping (rest.length + 1) breaks rest)
  else some (if indicators.chomping = .keep then breaks else [], rest)

end Adocify.Yaml
