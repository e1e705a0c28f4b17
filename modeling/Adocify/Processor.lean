import Adocify.Log.Logged

/-! Processors that callers add to a conversion, before the text is parsed or after it is rendered. A
processor that has room for a second argument is given one: the attributes before, the document
after. -/

namespace Adocify

/-- The parameters of a processor that can be filled by position. -/
structure Parameters where
  positional : Nat
  /-- It takes any number of further arguments. -/
  variadic : Bool := false
  deriving Repr, DecidableEq

/-- Of a processor whose parameters are unknown nothing is expected. -/
def Parameters.takeSecond : Option Parameters → Bool
  | some parameters => parameters.variadic || 2 ≤ parameters.positional
  | none => false

/-- A text, or nothing, is made into a text or nothing. The second argument may be changed on the way. -/
structure Processor (Second : Type) where
  parameters : Option Parameters
  run : Option Text → Option Second → Logged (Option Text × Option Second)

namespace Processor

/-- Runs a processor with as many arguments as it takes. -/
def apply (processor : Processor Second) (text : Option Text) (second : Second) :
    Logged (Option Text × Second) := do
  if Parameters.takeSecond processor.parameters then
    let (answer, changed) ← processor.run text (some second)
    return (answer, changed.getD second)
  else
    let (answer, _) ← processor.run text none
    return (answer, second)

/-- Runs all in order, each on what the one before has made. -/
def applyAll (second : Second) : List (Processor Second) → Option Text → Logged (Option Text × Second)
  | [], text => return (text, second)
  | processor :: rest, text => do
    let (text, second) ← processor.apply text second
    applyAll second rest text

/-- Runs all in order; where one answers nothing, the text stays. -/
def amendAll (second : Second) : List (Processor Second) → Text → Logged Text
  | [], text => return text
  | processor :: rest, text => do
    let (answer, second) ← processor.apply (some text) second
    amendAll second rest (answer.getD text)

end Processor

/-- What a caller gives where processors are expected. -/
inductive ProcessorChoice (Second : Type) where
  | one (processor : Processor Second)
  | many (entries : List (Processor Second ⊕ Value))
  | other (value : Value)

namespace ProcessorChoice

/-- The elements of a value that has some. -/
def elements? : Value → Option (List Value)
  | .text content => some (content.map fun c => .text [c])
  | .bytes content => some (content.map fun b => .int b.toNat)
  | .list items | .set items => some items
  | .mapping entries => some (entries.map (·.1))
  | _ => none

def refuseEntry (parameter : String) (value : Value) : Failure :=
  .validation (parameter.toList ++ " contains a non-callable entry: ".toList ++ value.inner) (some parameter.toList)

def ofEntries (parameter : String) :
    List (Processor Second ⊕ Value) → Except Failure (List (Processor Second))
  | [] => .ok []
  | .inl processor :: rest => (ofEntries parameter rest).map (processor :: ·)
  | .inr value :: _ => .error (refuseEntry parameter value)

/-- The processors chosen. Nothing and a plain no choose none. -/
def processors (parameter : String) : ProcessorChoice Second → Except Failure (List (Processor Second))
  | .one processor => .ok [processor]
  | .many entries => ofEntries parameter entries
  | .other .null | .other (.bool false) => .ok []
  | .other value =>
    match elements? value with
    | some elements => ofEntries parameter (elements.map .inr)
    | none =>
      .error (.validation (parameter.toList ++ " must be a callable or a list of callables".toList)
        (some parameter.toList))

end ProcessorChoice

end Adocify
