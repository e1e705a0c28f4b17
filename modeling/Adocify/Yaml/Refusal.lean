import Adocify.Failure

/-! Why a text is not read as YAML. -/

namespace Adocify.Yaml

inductive Refusal where
  /-- The text is no YAML, or has a node that can stand for nothing. -/
  | malformed
  /-- The form is right, and something in the text has no value all the same. -/
  | failed (cause : Failure)
  deriving Repr, DecidableEq

abbrev Reading := Except Refusal

namespace Reading

def malformed : Reading α := .error .malformed

def failed (cause : Failure) : Reading α := .error (.failed cause)

def ofOption : Option α → Reading α
  | some value => .ok value
  | none => malformed

end Reading

end Adocify.Yaml
