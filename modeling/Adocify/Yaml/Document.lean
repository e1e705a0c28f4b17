import Adocify.Yaml.Graph
import Adocify.Yaml.Scalar
import Adocify.Yaml.Token

/-! The document of a YAML text: what its tokens say of its nodes. An alias brings in the node that
bears its name, which may not be complete yet. -/

namespace Adocify.Yaml

structure DocumentReader where
  tokens : List Token
  /-- What stands behind the tokens instead of the end. -/
  failure : Option Failure
  handles : List (Text × Text) := standardHandles
  graph : Graph := #[]
  named : List (Text × NodeId) := []
  /-- So many collections can still be opened within each other. -/
  room : Nat

namespace DocumentReader

abbrev Step := StateT DocumentReader Reading

def malformed : Step α := throw .malformed

/-- The next token, or none at the end. -/
def next? : Step (Option Token) := do
  let reader ← get
  match reader.tokens, reader.failure with
  | token :: _, _ => return some token
  | [], none => return none
  | [], some cause => throw (.failed cause)

def skip : Step Unit := modify fun reader => { reader with tokens := reader.tokens.tail }

def nextIn (tokens : List Token) : Step Bool := do return ((← next?).map (tokens.contains ·)).getD false

def accept (token : Token) : Step Bool := do
  if (← next?) = some token then
    skip
    return true
  return false

def require (token : Token) : Step Unit := do
  if !(← accept token) then malformed

def acceptAnchor : Step (Option Text) := do
  let some (.anchor name) ← next? | return none
  skip
  return some name

def acceptTag : Step (Option WrittenTag) := do
  let some (.tag written) ← next? | return none
  skip
  return some written

/-- What may stand before a node: its name and the name of its tag. -/
structure Properties where
  anchor : Option Text
  tag : Option Text

namespace Properties

def isEmpty (given : Properties) : Bool := given.anchor.isNone && given.tag.isNone

/-- The tag leaves the choice to the content. -/
def isNonSpecific (given : Properties) : Bool := given.tag = some ['!']

/-- The tag of a node, if the content is not to choose it. -/
def specificTag (given : Properties) : Option Tag :=
  if given.isNonSpecific then none else given.tag.map Tag.ofName

end Properties

def tagName (written : WrittenTag) : Step Text := do
  let some name := written.name? (← get).handles | malformed
  return name

/-- An anchor and a tag, in either order. -/
def properties : Step Properties := do
  let first ← acceptAnchor
  let tag ← acceptTag
  let anchor ← if first.isNone && tag.isSome then acceptAnchor else pure first
  let tag ← tag.mapM tagName
  return { anchor, tag }

/-- Adds a node under its name. A name is given once. -/
def add (anchor : Option Text) (tag : Tag) (content : Content) : Step NodeId := do
  let reader ← get
  match anchor with
  | none =>
    let (id, graph) := reader.graph.add ⟨tag, content⟩
    set { reader with graph }
    return id
  | some name =>
    if (reader.named.lookup name).isSome then malformed
    let (id, graph) := reader.graph.add ⟨tag, content⟩
    set { reader with graph, named := (name, id) :: reader.named }
    return id

/-- Adds a collection, which stays open until it is complete. -/
def addOpen (anchor : Option Text) (tag : Tag) (content : Content) : Step NodeId := do
  let reader ← get
  match reader.room with
  | 0 => throw (.failed .tooDeep)
  | room + 1 =>
    set { reader with room }
    add anchor tag content

def complete (id : NodeId) (content : Content) : Step NodeId := do
  modify fun reader => { reader with graph := reader.graph.setContent id content, room := reader.room + 1 }
  return id

def anchored (name : Text) : Step NodeId := do
  let some id := (← get).named.lookup name | malformed
  return id

/-- A scalar; a plain one takes its tag from its text, and so does one with the non-specific tag. -/
def addScalar (given : Properties) (text : Text) (plain : Bool) : Step NodeId :=
  let chosen := if plain || given.isNonSpecific then plainTag text else .text
  add given.anchor (given.specificTag.getD chosen) (.scalar text)

/-- What stands where a node is left out. -/
def addAbsent : Step NodeId := add none .null (.scalar [])

mutual

/-- A node. Collections held together by indentation are read in `block` places only; where an
indentation of its own is not needed, a sequence may begin with an entry. -/
def node (block unindented : Bool) : Nat → Step NodeId
  | 0 => malformed
  | fuel + 1 => do
    if let some (.alias name) := (← next?) then
      skip
      return ← anchored name
    content block unindented (← properties) fuel

def content (block unindented : Bool) (given : Properties) : Nat → Step NodeId
  | 0 => malformed
  | fuel + 1 => do
    let begin := addOpen given.anchor (given.specificTag.getD .sequence) (.sequence [])
    let beginMapping := addOpen given.anchor (given.specificTag.getD .mapping) (.mapping [])
    match (← next?) with
    | some (.scalar text plain) =>
      skip
      addScalar given text (plain && given.tag.isNone)
    | some .openBracket =>
      let id ← begin
      skip
      complete id (.sequence (← flowItems true fuel))
    | some .openBrace =>
      let id ← beginMapping
      skip
      complete id (.mapping (← flowEntries true fuel))
    | some .entry =>
      if unindented then
        let id ← begin
        complete id (.sequence (← unindentedItems fuel))
      else if given.isEmpty then malformed
      else addScalar given [] given.tag.isNone
    | some .sequenceStart =>
      if !block then
        if given.isEmpty then malformed
        addScalar given [] given.tag.isNone
      else
        let id ← begin
        skip
        complete id (.sequence (← blockItems fuel))
    | some .mappingStart =>
      if !block then
        if given.isEmpty then malformed
        addScalar given [] given.tag.isNone
      else
        let id ← beginMapping
        skip
        complete id (.mapping (← blockEntries fuel))
    | _ =>
      if given.isEmpty then malformed
      addScalar given [] given.tag.isNone

/-- A node unless one of the tokens follows that may stand where it is left out. -/
def nodeUnless (stops : List Token) (block unindented : Bool) : Nat → Step NodeId
  | 0 => malformed
  | fuel + 1 => do if ← nextIn stops then addAbsent else node block unindented fuel

def blockItems : Nat → Step (List NodeId)
  | 0 => malformed
  | fuel + 1 => do
    if ← accept .entry then
      let item ← nodeUnless [.entry, .blockEnd] true false fuel
      return item :: (← blockItems fuel)
    require .blockEnd
    return []

def unindentedItems : Nat → Step (List NodeId)
  | 0 => malformed
  | fuel + 1 => do
    if ← accept .entry then
      let item ← nodeUnless [.entry, .key, .value, .blockEnd] true false fuel
      return item :: (← unindentedItems fuel)
    return []

def blockEntries : Nat → Step (List (NodeId × NodeId))
  | 0 => malformed
  | fuel + 1 => do
    if ← accept .key then
      let key ← nodeUnless [.key, .value, .blockEnd] true true fuel
      let value ← valueUnless [.key, .value, .blockEnd] true fuel
      return (key, value) :: (← blockEntries fuel)
    require .blockEnd
    return []

/-- What follows a colon, if there is one. -/
def valueUnless (stops : List Token) (block : Bool) : Nat → Step NodeId
  | 0 => malformed
  | fuel + 1 => do if ← accept .value then nodeUnless stops block block fuel else addAbsent

/-- The comma before all items but the first; a last comma may stand alone. -/
def flowItems (first : Bool) : Nat → Step (List NodeId)
  | 0 => malformed
  | fuel + 1 => do
    if ← accept .closeBracket then return []
    if !first then require .comma
    if ← accept .closeBracket then return []
    let item ← flowItem fuel
    return item :: (← flowItems false fuel)

/-- A key among the items makes a mapping of one entry. -/
def flowItem : Nat → Step NodeId
  | 0 => malformed
  | fuel + 1 => do
    if ← accept .key then
      let id ← addOpen none .mapping (.mapping [])
      let key ← nodeUnless [.value, .comma, .closeBracket] false false fuel
      let value ← valueUnless [.comma, .closeBracket] false fuel
      complete id (.mapping [(key, value)])
    else node false false fuel

def flowEntries (first : Bool) : Nat → Step (List (NodeId × NodeId))
  | 0 => malformed
  | fuel + 1 => do
    if ← accept .closeBrace then return []
    if !first then require .comma
    if ← accept .closeBrace then return []
    let entry ← flowEntry fuel
    return entry :: (← flowEntries false fuel)

/-- What is no key stands for itself with nothing as its value. -/
def flowEntry : Nat → Step (NodeId × NodeId)
  | 0 => malformed
  | fuel + 1 => do
    if ← accept .key then
      let key ← nodeUnless [.value, .comma, .closeBrace] false false fuel
      let value ← valueUnless [.comma, .closeBrace] false fuel
      return (key, value)
    return (← node false false fuel, ← addAbsent)

end

/-- Directives give the version, the first part of which must be one, and handles, each at most once. -/
def directives (versioned : Bool) : Nat → Step Unit
  | 0 => return
  | fuel + 1 => do
    let some (.directive directive) ← next? | return
    skip
    match directive with
    | .reserved => directives versioned fuel
    | .version major =>
      if versioned || major != 1 then malformed
      directives true fuel
    | .handle name stands =>
      let reader ← get
      if (reader.handles.lookup name).isSome then malformed
      set { reader with handles := reader.handles ++ [(name, stands)] }
      directives versioned fuel

/-- The directives of a document and the mark at its start. -/
def start : Step Unit := do
  modify fun reader => { reader with handles := [] }
  directives false (← get).tokens.length
  require .documentStart
  modify fun reader => { reader with handles := reader.handles ++ standardHandles }

def isDocumentLimit : Option Token → Bool
  | none | some .documentStart | some .documentEnd | some (.directive _) => true
  | _ => false

/-- The first document, which may lack its start. -/
def first (fuel : Nat) : Step NodeId := do
  match ← next? with
  | some .documentStart | some (.directive _) =>
    start
    if isDocumentLimit (← next?) then addAbsent else node true false fuel
  | _ => node true false fuel

def skipEnds : Nat → Step Unit
  | 0 => return
  | fuel + 1 => do if ← accept .documentEnd then skipEnds fuel

/-- The only document of the text, if there is one. -/
def document (fuel : Nat) : Step (Option NodeId) := do
  if (← next?).isNone then return none
  let root ← first fuel
  skipEnds fuel
  if (← next?).isSome then
    start
    malformed
  return some root

end DocumentReader

/-- The nodes of a text, and the root of its document if it has one. Collections are followed so deep. -/
def documentOf (depth : Nat) (text : Text) : Reading (Option NodeId × Graph) := do
  let tokens ← Reading.ofOption (tokensOf text)
  let reader : DocumentReader := { tokens := tokens.list, failure := tokens.failure, room := depth }
  let (root, reader) ← (DocumentReader.document (4 * (tokens.list.length + 1))).run reader
  return (root, reader.graph)

end Adocify.Yaml
