import Adocify.Document.PlainText
import Adocify.Text.Blank
import Adocify.Text.Case

/-! Key combinations, written in the source as keyboard tags joined by plus signs. -/

namespace Adocify.AsciiDoc

/-- The node is the inline tag of the given name, in any case and with blanks around it. -/
def isTag (name : String) : Node → Bool
  | .htmlInline content => Text.lower (Text.strip content) == '<' :: name.toList ++ ['>']
  | _ => false

def isPlus : Node → Bool
  | .text content => Text.strip content == ['+']
  | _ => false

/-- One key: an opening tag, and everything up to the next closing one. -/
def takeKey (view : α → Node) : List α → Option (Text × List α)
  | [] => none
  | item :: rest =>
    if isTag "kbd" (view item) then
      let inner := rest.takeWhile fun other => !isTag "/kbd" (view other)
      match rest.drop inner.length with
      | [] => none
      | _ :: after => some (Text.strip (Node.plainTexts (inner.map view)), after)
    else none

/-- What follows a plus sign between two keys. -/
def afterPlus (view : α → Node) : List α → Option (List α)
  | plus :: next :: rest => if isPlus (view plus) && isTag "kbd" (view next) then some (next :: rest) else none
  | _ => none

/-- The keys of a combination, and the items behind it. A plus sign in front of a tag that is never
closed counts as read. -/
def takeKeysWithin (view : α → Node) : Nat → List α → List Text × List α
  | 0, items => ([], items)
  | limit + 1, items =>
    match takeKey view items with
    | none => ([], items)
    | some (key, after) =>
      match afterPlus view after with
      | none => ([key], after)
      | some next =>
        let (keys, rest) := takeKeysWithin view limit next
        (key :: keys, rest)

/-- A combination has at most as many keys as there are items. -/
def takeKeys (view : α → Node) (items : List α) : List Text × List α :=
  takeKeysWithin view items.length items

end Adocify.AsciiDoc
