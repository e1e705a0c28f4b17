import Adocify.AsciiDoc.Inline

/-! Lists. The marker of an item repeats as often as there are lists of its kind around it. -/

namespace Adocify.AsciiDoc

mutual

/-- How many list levels a list leaves open at its end. -/
def trailingDepth : Node → Nat
  | .list _ items _ _ => lastItemDepth items + 1
  | _ => 0

def lastItemDepth : List Node → Nat
  | [] => 0
  | [.listItem children _] => lastChildDepth children
  | [_] => 0
  | _ :: rest => lastItemDepth rest

def lastChildDepth : List Node → Nat
  | [] => 0
  | [child] => trailingDepth child
  | _ :: rest => lastChildDepth rest

end

def isList : Node → Bool
  | .list .. => true
  | _ => false

def taskMarker (marker : Text) (taskStatus : Option Text) : Text :=
  match taskStatus.filter fun status => !status.isEmpty with
  | some status => marker ++ (if status == "checked".toList then " [x]" else " [ ]").toList
  | none => marker

/-- The parts of an item behind its first line. A nested list attaches by itself; any other block
takes a continuation line, and in front of it one blank line for each list level still open. -/
def itemParts : Nat → List Child → Render (List Text)
  | _, [] => return []
  | openLevels, child :: rest => do
    let text ← child.rendered
    if text.isEmpty then itemParts openLevels rest
    else if isList child.node then
      let others ← itemParts (trailingDepth child.node) rest
      return text :: others
    else
      let others ← itemParts 0 rest
      return (List.replicate openLevels '\n' ++ "+\n".toList ++ text) :: others

/-- An item that does not begin with a paragraph has an empty first line. -/
def blankFirstLine : Text := "\x7bblank\x7d".toList

def listItem (first : Render Text) (others : List Child) (taskStatus : Option Text) (marker : Text) : Render Text := do
  let line ← first
  let parts ← itemParts 0 others
  return Text.unlines ((taskMarker marker taskStatus ++ ' ' :: line) :: parts)

def markerOf (ordered : Bool) : Char := if ordered then '.' else '*'

/-- The items take the marker of the list; an ordered list that does not start at one says where. -/
def list (ordered : Bool) (start : Whole) (items : List (Text → Render Text)) : Render Text := do
  let context ← get
  let marker := markerOf ordered
  let depth := context.listStack.count marker + 1
  let texts ← Render.insideList marker (Render.sequence (items.map fun item => item (List.replicate depth marker)))
  let header := if ordered && start.toInt ≠ 1 then "[start=".toList ++ start.toValue.display ++ "]\n".toList else []
  return header ++ Text.unlines texts

end Adocify.AsciiDoc
