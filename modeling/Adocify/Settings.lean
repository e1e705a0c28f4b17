import Adocify.Attributes
import Adocify.Failure

/-! Option settings as callers write them: named values of any kind, on top of defaults. -/

namespace Adocify

abbrev Settings := List (Text × Value)

namespace Settings

def value (settings : Settings) (name : String) : Value := (settings.lookup name.toList).getD .null

def flag (settings : Settings) (name : String) : Bool := (settings.value name).isTruthy

/-- The settings with values replaced. -/
def replace (settings : Settings) (changes : List (Text × Value)) : Settings :=
  settings.map fun (name, value) => (name, (changes.lookup name).getD value)

def unknownNames (settings : Settings) (changes : List (Text × Value)) : List Text :=
  (changes.map (·.1)).filter fun name => (settings.lookup name).isNone

/-- New settings from defaults; a name that is no option is refused as an argument. -/
def construct (defaults : Settings) (given : List (Text × Value)) : Except Failure Settings :=
  if (unknownNames defaults given).isEmpty then .ok (defaults.replace given) else .error .illTyped

/-- Changed settings; the names that are no options of the component are reported in order. -/
def amend (component : String) (settings : Settings) (changes : List (Text × Value)) : Except Failure Settings :=
  match (unknownNames settings changes).mergeSort Text.atMost with
  | [] => .ok (settings.replace changes)
  | first :: others =>
    .error <| .invalidOptions
      (some ("Unknown option(s) for ".toList ++ component.toList ++ ": ".toList ++
        Text.join ", ".toList (first :: others)))
      (some component.toList) none none (some first)

def requireChoice (settings : Settings) (name : String) (choices : List String) : Except Failure Unit :=
  match settings.value name with
  | .text content =>
    if choices.any (·.toList == content) then .ok ()
    else .error (.invalidChoice name.toList (.text content) (choices.map String.toList))
  | other => .error (.invalidChoice name.toList other (choices.map String.toList))

end Settings

end Adocify
