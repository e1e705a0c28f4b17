import Adocify.Text.Numeral
import Adocify.Yaml.Refusal
import Adocify.Yaml.Tag

/-! Directives: lines before a document that tell its version and what its handles stand for. -/

namespace Adocify.Yaml

inductive Directive where
  | version (major : Nat)
  | handle (name stands : Text)
  /-- Of a name that has no meaning yet. -/
  | reserved
  deriving Repr, DecidableEq

namespace Directive

def versionNumber (spots : Spots) : Reading (Nat × Spots) :=
  let (digits, rest) := spots.spanChars Char.isDigit
  if digits.isEmpty then Reading.malformed
  else match Text.readInteger? 10 digits.text with
    | some number => .ok (number.toNat, rest)
    | none => Reading.failed .unreadableScalar

def withoutBlanks (spots : Spots) : Spots := spots.dropWhile (·.char = ' ')

def versionOf (spots : Spots) : Reading (Directive × Spots) := do
  let (major, rest) ← versionNumber (withoutBlanks spots)
  if !rest.headIs (· = '.') then Reading.malformed
  let (_, rest) ← versionNumber rest.tail
  if atBlank rest then return (.version major, rest) else Reading.malformed

def handleMeaning (spots : Spots) : Option (Directive × Spots) := do
  let (name, rest) ← handleOf (withoutBlanks spots)
  if !rest.headIs (· = ' ') then none
  let (stands, rest) ← uriOf (withoutBlanks rest)
  if atBlank rest then some (.handle name stands, rest) else none

/-- What is left of the line, a comment at most, and the line break. -/
def lineEnd (spots : Spots) : Option Spots :=
  let rest := withoutBlanks spots
  let rest : Spots := if rest.headIs (· = '#') then rest.dropWhile (!isBreak ·.char) else rest
  match rest with
  | [] => some []
  | spot :: after => if isBreak spot.char then some after else none

/-- A directive from behind its percent sign, and what follows its line. -/
def read (spots : Spots) : Reading (Directive × Spots) := do
  let (name, rest) := spots.spanChars isNameChar
  if name.isEmpty || !atBlank rest then Reading.malformed
  let (directive, rest) ←
    if name.text == "YAML".toList then versionOf rest
    else if name.text == "TAG".toList then Reading.ofOption (handleMeaning rest)
    else pure (.reserved, rest.dropWhile (!isBreak ·.char))
  let rest ← Reading.ofOption (lineEnd rest)
  return (directive, rest)

end Directive

end Adocify.Yaml
