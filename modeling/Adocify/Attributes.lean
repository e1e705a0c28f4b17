import Adocify.Value

/-! Document attributes: a mapping from names to values that keeps the order of insertion. -/

namespace Adocify

abbrev Attributes := List (Text × Value)

namespace Attributes

def get? (attributes : Attributes) (name : Text) : Option Value := attributes.lookup name

def holds (attributes : Attributes) (name : Text) : Bool := (attributes.get? name).isSome

/-- A name that is already there keeps its value. -/
def register (attributes : Attributes) (name : Text) (value : Value) : Attributes :=
  if attributes.holds name then attributes else attributes ++ [(name, value)]

/-- A name that is already there keeps its place and takes the new value. -/
def set (attributes : Attributes) (name : Text) (value : Value) : Attributes :=
  if attributes.holds name then
    attributes.map fun entry => if entry.1 = name then (name, value) else entry
  else attributes ++ [(name, value)]

def update (attributes : Attributes) (changes : Attributes) : Attributes :=
  changes.foldl (fun result entry => result.set entry.1 entry.2) attributes

/-- The mapping that a list of entries describes, a repeated name counting with its last value. -/
def ofEntries (entries : List (Text × Value)) : Attributes := update [] entries

def names (attributes : Attributes) : List Text := attributes.map (·.1)

end Attributes

end Adocify
