import Adocify.Failure
import Adocify.Text.Blank

/-! Attributes on the command line: `KEY=VALUE` sets one, `KEY` sets it to the empty text, and `KEY!`
unsets it. -/

namespace Adocify.CommandLine

def attributeArgument (argument : Text) : Except Failure (Text × Value) :=
  let (before, after) := Text.cut '=' argument
  let stripped := Text.strip before
  let (name, value) := match after with
    | some value => (stripped, Value.text value)
    | none => if stripped.getLast? = some '!' then (stripped.dropLast, .null) else (stripped, .text [])
  if name.isEmpty then
    .error (.argument ("Invalid attribute: ".toList ++ Text.quoted argument ++ " (expected KEY=VALUE or KEY!)".toList))
  else .ok (name, value)

end Adocify.CommandLine
