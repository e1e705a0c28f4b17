import Adocify.Attributes
import Adocify.Failure
import Adocify.Text.Numeral

/-! How metadata become document attributes. Every value becomes text: nothing becomes the empty
text, truth values are in small letters, and the items of a list are set apart by commas. -/

namespace Adocify.FrontMatter

mutual

/-- A number of too many digits is not written. -/
def isWritable : Value → Bool
  | .int number => (Text.ofNat number.natAbs).length ≤ Text.decimalLimit
  | .list items | .set items => areWritable items
  | .mapping entries => entriesWritable entries
  | .pair first second => isWritable first && isWritable second
  | _ => true

def areWritable : List Value → Bool
  | [] => true
  | item :: rest => isWritable item && areWritable rest

def entriesWritable : List (Value × Value) → Bool
  | [] => true
  | (key, value) :: rest => isWritable key && isWritable value && entriesWritable rest

end

def writtenText (value : Value) : Except Failure Text :=
  if isWritable value then .ok value.display else .error .unreadableScalar

mutual

def attributeText : Value → Except Failure Text
  | .null => .ok []
  | .bool flag => .ok (if flag then "true" else "false").toList
  | .list items => (attributeTexts items).map (Text.join ", ".toList)
  | .pair first second => do return (← attributeText first) ++ ", ".toList ++ (← attributeText second)
  | .enclosing _ => .error .endlessValue
  | other => writtenText other

def attributeTexts : List Value → Except Failure (List Text)
  | [] => .ok []
  | item :: rest => do return (← attributeText item) :: (← attributeTexts rest)

end

/-- Keys that have no counterpart among the attributes. -/
def isIgnored (name : Text) : Bool := name == "layout".toList

def attributeName (name : Text) : Text := if name == "title".toList then "doctitle".toList else name

/-- Adds the metadata to the attributes. What is there already, also from an earlier key, stays. -/
def seed (attributes : Attributes) : List (Value × Value) → Except Failure Attributes
  | [] => .ok attributes
  | (key, value) :: rest => do
    let name ← writtenText key
    if isIgnored name then seed attributes rest
    else seed (attributes.register (attributeName name) (.text (← attributeText value))) rest

end Adocify.FrontMatter
