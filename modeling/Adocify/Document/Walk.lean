import Adocify.Document.Node

/-! A walk that reports the kind and the depth of each node. Nodes of a foreign kind are passed
through: their children are reported at the depth of the node itself. -/

namespace Adocify.Node

mutual

def walk (depth : Nat) : Node → Except Failure (List (Text × Nat))
  | .stray _ => .error .misplaced
  | .foreign _ content _ => walkAll depth content
  | node@(.document children) | node@(.blockQuote children) | node@(.listItem children _) =>
    (walkAll (depth + 1) children).map ((node.kindName, depth) :: ·)
  | node@(.heading _ content) | node@(.paragraph content) | node@(.tableCell content _ _)
  | node@(.footnoteDefinition _ content) | node@(.definitionTerm content)
  | node@(.definitionDescription content) | node@(.emphasis content) | node@(.strong content)
  | node@(.strikethrough content) | node@(.link _ content _) =>
    (walkAll (depth + 1) content).map ((node.kindName, depth) :: ·)
  | node@(.list _ items _ _) => (walkAll (depth + 1) items).map ((node.kindName, depth) :: ·)
  | node@(.table none rows _ _) => (walkAll (depth + 1) rows).map ((node.kindName, depth) :: ·)
  | node@(.table (some header) rows _ _) => do
    let first ← walk (depth + 1) header
    let others ← walkAll (depth + 1) rows
    return (node.kindName, depth) :: first ++ others
  | node@(.tableRow cells) => (walkAll (depth + 1) cells).map ((node.kindName, depth) :: ·)
  | node@(.definitionList entries) => (walkEntries (depth + 1) entries).map ((node.kindName, depth) :: ·)
  | node => .ok [(node.kindName, depth)]

def walkAll (depth : Nat) : List Node → Except Failure (List (Text × Nat))
  | [] => .ok []
  | node :: rest => do
    let first ← walk depth node
    let others ← walkAll depth rest
    return first ++ others

def walkEntries (depth : Nat) : List (Node × List Node) → Except Failure (List (Text × Nat))
  | [] => .ok []
  | (term, descriptions) :: rest => do
    let first ← walk depth term
    let second ← walkAll depth descriptions
    let others ← walkEntries depth rest
    return first ++ second ++ others

end

end Adocify.Node
