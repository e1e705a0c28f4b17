import Adocify.Toml.Scalar

/-! Documents of TOML. A table is written out once: what has been given a value stays as it is, inline
values cannot be added to, and a header names no table twice. -/

namespace Adocify.Toml

abbrev Key := List Text

abbrev Table := List (Value × Value)

/-! ### Keys -/

def isBareKeyChar (c : Char) : Bool := c.isAlphanum || c = '-' || c = '_'

def keyPart (text : Text) : Option (Text × Text) :=
  match text with
  | [] => none
  | c :: _ =>
    if isBareKeyChar c then some (text.takeWhile isBareKeyChar, text.dropWhile isBareKeyChar)
    else singleLineString text

/-- Parts with dots between them. -/
def keyFrom : Nat → Text → Option (Key × Text)
  | 0, _ => none
  | fuel + 1, text => do
    let (part, rest) ← keyPart text
    match rest.dropWhile isBlank with
    | '.' :: rest => do
      let (parts, rest) ← keyFrom fuel (rest.dropWhile isBlank)
      some (part :: parts, rest)
    | rest => some ([part], rest)

def key (text : Text) : Option (Key × Text) := keyFrom (text.length + 1) text

/-! ### Tables -/

/-- Changes the table at the end of a path, making the tables on the way that are missing. Through a
list the way leads to its last item, if `throughLists`. None if something else is in the way. -/
def changeAt (throughLists : Bool) (change : Table → Option Table) : Key → Table → Option Table
  | [], table => change table
  | name :: path, table =>
    match table.find? fun entry => entry.1.sameKey (.text name) with
    | none => do
      let made ← changeAt throughLists change path []
      some (table ++ [(.text name, .mapping made)])
    | some (_, .mapping inner) => do
      let changed ← changeAt throughLists change path inner
      some (replaced table name (.mapping changed))
    | some (_, .list items) =>
      match throughLists, items.getLast? with
      | true, some (.mapping inner) => do
        let changed ← changeAt throughLists change path inner
        some (replaced table name (.list (items.dropLast ++ [.mapping changed])))
      | _, _ => none
    | some _ => none
where
  replaced (table : Table) (name : Text) (value : Value) : Table :=
    table.map fun entry => if entry.1.sameKey (.text name) then (entry.1, value) else entry

/-- Adds an entry; none if the name is taken. -/
def addEntry (name : Text) (value : Value) (table : Table) : Option Table :=
  if table.any fun entry => entry.1.sameKey (.text name) then none else some (table ++ [(.text name, value)])

/-- Adds an empty table to the list of that name. -/
def addToList (name : Text) (table : Table) : Option Table :=
  match table.find? fun entry => entry.1.sameKey (.text name) with
  | none => some (table ++ [(.text name, .list [.mapping []])])
  | some (_, .list items) => some (changeAt.replaced table name (.list (items ++ [.mapping []])))
  | some _ => none

/-! ### Values -/

def isCollection : Value → Bool
  | .list _ | .mapping _ => true
  | _ => false

/-- Skips a comment up to the end of its line; none if it holds a forbidden character. -/
def skipComment (text : Text) : Option Text :=
  match text with
  | '#' :: rest => if (rest.takeWhile (· != '\n')).any isForbidden then none else some (rest.dropWhile (· != '\n'))
  | _ => some text

/-- Skips blanks, newlines and comments between the items of a list. -/
def skipSpace : Nat → Text → Option Text
  | 0, _ => none
  | fuel + 1, text =>
    match text.dropWhile isBlankOrNewline with
    | '#' :: rest => do
      let rest ← skipComment ('#' :: rest)
      skipSpace fuel rest
    | rest => some rest

def spaceSkipped (text : Text) : Reading Text := ofOption (skipSpace (text.length + 1) text)

/-- An inline table being read, with the keys of the collections in it. -/
structure InlineTable where
  entries : Table := []
  closed : List Key := []

namespace InlineTable

/-- Nothing can be added below a collection that stands as a value. -/
def add (table : InlineTable) (key : Key) (value : Value) : Option InlineTable := do
  if table.closed.any fun path => path.isPrefixOf key then none
  let name ← key.getLast?
  let entries ← changeAt false (addEntry name value) key.dropLast table.entries
  some { entries, closed := if isCollection value then key :: table.closed else table.closed }

end InlineTable

/-- What room is left within a collection. -/
def within : Nat → Reading Nat
  | 0 => throw .tooDeep
  | room + 1 => return room

mutual

/-- A value. So many lists and tables can be opened within each other. -/
def value (room : Nat) : Nat → Text → Reading (Value × Text)
  | 0, _ => refuse
  | fuel + 1, text =>
    match text with
    | '[' :: rest => do
      let (items, rest) ← items (← within room) fuel (← spaceSkipped rest)
      return (.list items, rest)
    | '\x7b' :: rest => do
      let room ← within room
      match rest.dropWhile isBlank with
      | '\x7d' :: rest => return (.mapping [], rest)
      | rest => do
        let (entries, rest) ← inlineEntries room fuel {} rest
        return (.mapping entries, rest)
    | _ => scalar text

/-- The items of a list up to its end. -/
def items (room : Nat) : Nat → Text → Reading (List Value × Text)
  | 0, _ => refuse
  | fuel + 1, text =>
    match text with
    | ']' :: rest => return ([], rest)
    | _ => do
      let (first, rest) ← value room fuel text
      match ← spaceSkipped rest with
      | ']' :: rest => return ([first], rest)
      | ',' :: rest => do
        let (others, rest) ← items room fuel (← spaceSkipped rest)
        return (first :: others, rest)
      | _ => refuse

def inlineEntries (room : Nat) : Nat → InlineTable → Text → Reading (Table × Text)
  | 0, _, _ => refuse
  | fuel + 1, table, text => do
    let (key, rest) ← ofOption (key text)
    let rest ← ofOption (expect '=' rest)
    let (value, rest) ← value room fuel (rest.dropWhile isBlank)
    let table ← ofOption (table.add key value)
    match rest.dropWhile isBlank with
    | '\x7d' :: rest => return (table.entries, rest)
    | ',' :: rest => inlineEntries room fuel table (rest.dropWhile isBlank)
    | _ => refuse

end

/-! ### Statements -/

structure Document where
  root : Table := []
  /-- The table that the last header names. -/
  header : Key := []
  /-- Tables that no further header may name. -/
  declared : List Key := []
  /-- Tables made by dotted keys since the last header; the next header declares them. -/
  pending : List Key := []
  /-- Values that cannot be added to. -/
  closed : List Key := []

namespace Document

def isClosed (document : Document) (key : Key) : Bool := document.closed.any fun path => path.isPrefixOf key

def settlePending (document : Document) : Document :=
  { document with declared := document.pending ++ document.declared, pending := [] }

def openTable (document : Document) (key : Key) : Option Document := do
  if document.declared.contains key || document.isClosed key then none
  let root ← changeAt true some key document.root
  some { document with root, header := key, declared := key :: document.declared }

/-- Begins a further item of a list of tables; what was declared within the items before is free again. -/
def openListItem (document : Document) (key : Key) : Option Document := do
  if document.isClosed key then none
  let name ← key.getLast?
  let root ← changeAt true (addToList name) key.dropLast document.root
  some { document with
    root, header := key
    declared := key :: document.declared.filter (!key.isPrefixOf ·)
    closed := document.closed.filter (!key.isPrefixOf ·) }

/-- The tables that a dotted key passes through. -/
def passed (document : Document) (key : Key) : List Key :=
  (List.range (key.length - 1)).map fun i => document.header ++ key.take (i + 1)

def assign (document : Document) (key : Key) (value : Value) : Option Document := do
  let passed := document.passed key
  if passed.any document.declared.contains then none
  let parent := document.header ++ key.dropLast
  if document.isClosed parent then none
  let name ← key.getLast?
  let root ← changeAt true (addEntry name value) parent document.root
  some { document with
    root
    pending := passed ++ document.pending
    closed := if isCollection value then (document.header ++ key) :: document.closed else document.closed }

/-- Reads one statement; what follows it on its line is left. -/
def statement (depth : Nat) (document : Document) (text : Text) : Reading (Document × Text) :=
  match text with
  | '[' :: '[' :: rest => do
    let (key, rest) ← ofOption (key (rest.dropWhile isBlank))
    let document ← ofOption (document.settlePending.openListItem key)
    let rest ← ofOption ((expect ']' rest).bind (expect ']'))
    return (document, rest)
  | '[' :: rest => do
    let (key, rest) ← ofOption (key (rest.dropWhile isBlank))
    let document ← ofOption (document.settlePending.openTable key)
    let rest ← ofOption (expect ']' rest)
    return (document, rest)
  | c :: _ =>
    if isBareKeyChar c || c = '"' || c = '\'' then do
      let (key, rest) ← ofOption (key text)
      let rest ← ofOption (expect '=' rest)
      let rest := rest.dropWhile isBlank
      let (value, rest) ← value depth (rest.length + 1) rest
      let document ← ofOption (document.assign key value)
      return (document, rest)
    else if c = '#' then return (document, text)
    else refuse
  | [] => refuse

/-- Reads statements line by line. -/
def readFrom (depth : Nat) : Nat → Document → Text → Reading Document
  | 0, _, _ => refuse
  | fuel + 1, document, text =>
    match text.dropWhile isBlank with
    | [] => return document
    | '\n' :: rest => readFrom depth fuel document rest
    | text => do
      let (document, rest) ← document.statement depth text
      match ← ofOption (skipComment (rest.dropWhile isBlank)) with
      | [] => return document
      | '\n' :: rest => readFrom depth fuel document rest
      | _ => refuse

end Document

def unifyBreaks : Text → Text
  | [] => []
  | '\r' :: '\n' :: rest => '\n' :: unifyBreaks rest
  | c :: rest => c :: unifyBreaks rest

/-- The table that a text describes, in which values are nested no deeper than this. -/
def load (depth : Nat) (text : Text) : Reading Table := do
  let text := unifyBreaks text
  let document ← Document.readFrom depth (text.length + 1) {} text
  return document.root

end Adocify.Toml
