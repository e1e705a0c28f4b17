import Adocify.Document.Node

/-! What is decided about a document before anything of it is rendered: which comments stand before
its header, which heading is its title, and whether it is a book. -/

namespace Adocify

structure DocumentStructure where
  prologue : List Node
  title : Option (List Node)
  body : List Node
  partCount : Nat
  deriving Repr

namespace Node

def isComment : Node → Bool
  | .comment _ => true
  | _ => false

/-- A heading of level one. -/
def isPart : Node → Bool
  | .heading level _ => level.toInt == 1
  | _ => false

end Node

namespace DocumentStructure

/-- A level-one heading behind the leading comments becomes the title. A title from outside counts
as a part when the document does not open with its own. -/
def ofChildren (children : List Node) (titleGiven : Bool) : DocumentStructure :=
  let prologue := children.takeWhile (·.isComment)
  let rest := children.dropWhile (·.isComment)
  let (title, body) := match rest with
    | .heading level content :: body => if level.toInt = 1 then (some content, body) else (none, rest)
    | _ => (none, rest)
  let parts := children.countP (·.isPart)
  { prologue, title, body, partCount := if title.isNone && titleGiven then parts + 1 else parts }

/-- A document of more than one part is a book. -/
def isBook (decision : DocumentStructure) : Bool := decision.partCount > 1

end DocumentStructure

end Adocify
