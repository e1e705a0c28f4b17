import Adocify.Value.SetOrder
import Adocify.Yaml.Document

/-! The value of a document. Lists and mappings are made empty at first and filled in the order in
which they were made, so that what stands outside is settled before what stands inside it, and a node
that stands in several places is one value. -/

namespace Adocify.Yaml

/-- A key of a mapping, with the node that it comes from. -/
structure Key where
  id : NodeId
  value : Value
  /-- The number that is none, as it is written plainly. There is one such key only. -/
  isUndefined : Bool := false

def Key.same (x y : Key) : Bool := x.id == y.id || x.value.sameKey y.value || (x.isUndefined && y.isUndefined)

/-- What has been made of a node; its parts are told by their nodes. -/
inductive Built where
  | single (value : Value)
  | list (items : List NodeId)
  | pairs (items : List (NodeId × NodeId))
  | mapping (entries : List (Key × NodeId))
  | set (items : List Key)

structure Builder where
  graph : Graph
  built : Array (Option Built)
  /-- What is still to be filled, in order. -/
  waiting : List NodeId := []

namespace Builder

abbrev Step := StateT Builder Reading

def malformed : Step α := throw .malformed

def contentOf? (id : NodeId) : Step (Option Content) := do return (← get).graph[id]?.map (·.content)

def tagOf? (id : NodeId) : Step (Option Tag) := do return (← get).graph.tagOf? id

def modifyGraph (change : Graph → Graph) : Step Unit :=
  modify fun builder => { builder with graph := change builder.graph }

/-! ### Scalars -/

/-- The text of a scalar. That of a mapping is the one under its key for a value. -/
def textOf : Nat → NodeId → Step Text
  | 0, _ => throw (.failed .endlessValue)
  | fuel + 1, id => do
    match ← contentOf? id with
    | some (.scalar text) => return text
    | some (.mapping entries) =>
      let graph := (← get).graph
      let some (_, value) := entries.find? fun entry => graph.tagOf? entry.1 == some .value | malformed
      textOf fuel value
    | _ => malformed

def ofResult : Except Failure Value → Step Value
  | .ok value => return value
  | .error cause => throw (.failed cause)

/-- A time must be a scalar itself. -/
def timeValue (id : NodeId) (text : Text) : Step Value := do
  match ← contentOf? id with
  | some (.scalar _) => ofResult (timestampValue text)
  | _ => throw (.failed .illTyped)

def binaryValue (text : Text) : Option Value :=
  if text.all (·.toNat < 0x80) then (bytesOfBase64 text).map .bytes else none

/-- The value of a node with the tag of a scalar. -/
def scalarValue (id : NodeId) (tag : Tag) : Step Value := do
  let text ← textOf ((← get).graph.size + 1) id
  match tag with
  | .null => return .null
  | .bool => ofResult (boolValue text)
  | .int => ofResult (intValue text)
  | .float => ofResult (floatValue text)
  | .timestamp => timeValue id text
  | .binary =>
    let some value := binaryValue text | malformed
    return value
  | _ => return .text text

/-! ### Making -/

def built? (id : NodeId) : Step (Option Built) := do return (← get).built[id]?.join

def note (id : NodeId) (built : Built) : Step Unit :=
  modify fun builder => { builder with built := builder.built.setIfInBounds id (some built) }

/-- Makes a list, a mapping or the like, to be filled later. -/
def await (id : NodeId) (empty : Built) : Step Unit := do
  note id empty
  modify fun builder => { builder with waiting := builder.waiting ++ [id] }

/-- Makes what a node stands for, unless that has been done. -/
def build (id : NodeId) : Step Unit := do
  if (← built? id).isSome then return
  match ← tagOf? id with
  | some .sequence => await id (.list [])
  | some .orderedMapping | some .pairs => await id (.pairs [])
  | some .mapping => await id (.mapping [])
  | some .set => await id (.set [])
  | some .merge | some .value | some .unknown | none => malformed
  | some tag => note id (.single (← scalarValue id tag))

/-- Makes a key. Lists and mappings cannot serve as keys. -/
def buildKey (id : NodeId) : Step Key := do
  build id
  let some (.single value) ← built? id | malformed
  let isUndefined := match (← get).graph[id]? with
    | some ⟨.float, .scalar text⟩ => isNanText text
    | _ => false
  return { id, value, isUndefined }

/-! ### Filling -/

/-- Takes over, in front of a mapping's own entries, those of the mappings under its merge keys;
`taken` are the entries of the merge keys before. Of several mappings under one key the first counts
most. A key for a value becomes a text. -/
def merge (id : NodeId) : Nat → List (NodeId × NodeId) → Step Unit
  | 0, _ => throw (.failed .endlessValue)
  | fuel + 1, taken => do
    let graph := (← get).graph
    let some entries := graph.entries? id | malformed
    match entries.findIdx? fun entry => graph.tagOf? entry.1 == some .merge with
    | none =>
      for (key, _) in entries do
        if graph.tagOf? key == some .value then modifyGraph (·.setTag key .text)
      if !taken.isEmpty then modifyGraph (·.setContent id (.mapping (taken ++ entries)))
    | some index =>
      modifyGraph (·.setContent id (.mapping (entries.eraseIdx index)))
      let some sources := entries[index]?.bind fun entry => graph.sources? entry.2 | malformed
      let found ← sources.mapM fun source => do
        merge source fuel []
        let some entries := (← get).graph.entries? source | malformed
        return entries
      merge id fuel (taken ++ found.reverse.flatten)

/-- A repeated key keeps its place and takes the new value. -/
def put (entries : List (Key × NodeId)) (entry : Key × NodeId) : List (Key × NodeId) :=
  if entries.any fun old => old.1.same entry.1 then
    entries.map fun old => if old.1.same entry.1 then (old.1, entry.2) else old
  else entries ++ [entry]

def buildEntries (id : NodeId) : Step (List (Key × NodeId)) := do
  merge id ((← get).graph.entryCount + 1) []
  let some entries := (← get).graph.entries? id | malformed
  entries.foldlM (fun entries (key, value) => do
    let key ← buildKey key
    build value
    return put entries (key, value)) []

/-- Each item must be a mapping of one entry. -/
def buildPair (id : NodeId) : Step (NodeId × NodeId) := do
  let some [(key, value)] := (← get).graph.entries? id | malformed
  build key
  build value
  return (key, value)

def buildItems (id : NodeId) : Step (List NodeId) := do
  let some (.sequence items) ← contentOf? id | malformed
  return items

def fill (id : NodeId) : Step Unit := do
  match ← built? id with
  | some (.list _) =>
    let items ← buildItems id
    items.forM build
    note id (.list items)
  | some (.pairs _) => note id (.pairs (← (← buildItems id).mapM buildPair))
  | some (.mapping _) => note id (.mapping (← buildEntries id))
  | some (.set _) => note id (.set ((← buildEntries id).map (·.1)))
  | _ => return

/-- Fills what waits, in order; each node waits once at most. -/
def fillAll : Nat → Step Unit
  | 0 => return
  | fuel + 1 => do
    let builder ← get
    match builder.waiting with
    | [] => return
    | id :: waiting =>
      set { builder with waiting }
      fill id
      fillAll fuel

/-! ### Reading -/

/-- The value of a node. The path leads through the lists and mappings around it; it is followed from
the outermost mapping on, because what stands around that is told item by item. -/
def valueOf (built : Array (Option Built)) : Nat → Bool → List NodeId → NodeId → Value
  | 0, _, _, _ => .null
  | fuel + 1, inside, path, id =>
    let part := fun inside path => valueOf built fuel inside (id :: path)
    match built[id]?.join with
    | none => .null
    | some (.single value) => value
    | some (.list items) => if path.contains id then .enclosing true else .list (items.map (part inside path))
    | some (.pairs items) =>
      if path.contains id then .enclosing true
      else .list (items.map fun item => .pair (part inside path item.1) (part inside path item.2))
    | some (.mapping entries) =>
      let path := if inside then path else []
      if path.contains id then .enclosing false
      else .mapping (entries.map fun entry => (entry.1.value, part true path entry.2))
    | some (.set items) => .set (SetOrder.arrange (items.map (·.value)))

/-- The value of the whole document. The values in a mapping are told one by one. -/
def rootValue (builder : Builder) (id : NodeId) : Value :=
  let part := valueOf builder.built (builder.graph.size + 1) false []
  match builder.built[id]?.join with
  | some (.mapping entries) => .mapping (entries.map fun entry => (entry.1.value, part entry.2))
  | _ => part id

def buildAll (id : NodeId) : Step Value := do
  build id
  fillAll ((← get).graph.size + 1)
  return (← get).rootValue id

end Builder

def valueOfText (depth : Nat) (text : Text) : Reading Value := do
  let (root, graph) ← documentOf depth text
  match root with
  | none => return .null
  | some id => (Builder.buildAll id).run' { graph, built := Array.replicate graph.size none }

/-- The value of a text, in which collections are nested no deeper than this; nothing if it has no document. -/
def load (depth : Nat) (text : Text) : Reading Value := valueOfText depth text

end Adocify.Yaml
