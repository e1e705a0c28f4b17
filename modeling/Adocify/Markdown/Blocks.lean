import Adocify.Markdown.DefinitionEntry
import Adocify.Markdown.NoteDefinition
import Adocify.Markdown.OpenBlocks

/-! The blocks of a text. Tables, definitions of footnotes and definition lists stand in the document
itself, never in a quote or an item, and only where a line would otherwise be mere text. -/

namespace Adocify.Markdown

/-- Which constructs the document itself may hold beyond the common ones. -/
structure BlockExtensions where
  tables : Bool := false
  footnotes : Bool := false
  definitionLists : Bool := false
  deriving Repr, DecidableEq

/-- What reading the blocks of a text yields. -/
structure Outline where
  blocks : List Block := []
  definitions : LinkDefinitions := []
  notes : List NoteDefinition := []
  deriving Repr

namespace Outline

/-- The blocks of lines in which there are no extensions. -/
def plainBlocks (lines : List Text) : List Block :=
  (lines.foldl OpenBlocks.read {}).closeAll.innermost.children

/-- Terms and descriptions. What a description defines for links does not count. -/
def definitionParts (entry : DefinitionEntry) : List Block :=
  entry.terms.map .term ++ entry.descriptions.map fun lines => .description (plainBlocks lines)

/-- A document while it is being read. -/
structure Reading where
  blocks : OpenBlocks := {}
  notes : List NoteDefinition := []

namespace Reading

/-- Puts a finished block behind all that is open. -/
def addBlock (block : Block) (reading : Reading) : Reading :=
  { reading with blocks := reading.blocks.closeAll.addBlock block }

def note? (reading : Reading) (lines : List Text) : Option (Reading × List Text) :=
  (NoteDefinition.ofLines? lines).map fun (note, rest) =>
    ({ blocks := reading.blocks.closeAll, notes := reading.notes ++ [note] }, rest)

def table? (reading : Reading) (lines : List Text) : Option (Reading × List Text) :=
  (PipeTable.ofLines? lines).map fun (table, rest) => (reading.addBlock (.table table), rest)

def definitions? (reading : Reading) (lines : List Text) : Option (Reading × List Text) :=
  match DefinitionEntry.manyOfLines lines.length lines with
  | ([], _) => none
  | (entries, rest) => some (reading.addBlock (.definitions (entries.flatMap definitionParts)), rest)

/-- Takes an extension's construct from the front of the lines; the rest is shorter. What begins like
a table is no definition list, even if it turns out to be no table. -/
def extended? (extensions : BlockExtensions) (reading : Reading) (lines : List Text) :
    Option (Reading × List Text) :=
  (if extensions.footnotes then reading.note? lines else none) <|>
  if extensions.tables && PipeTable.beginsAt lines then reading.table? lines
  else if extensions.definitionLists then reading.definitions? lines
  else none

/-- Reads so many lines at most; every step takes at least one. -/
def read (extensions : BlockExtensions) : Nat → List Text → Reading → Reading
  | 0, _, reading => reading
  | _, [], reading => reading
  | count + 1, line :: rest, reading =>
    let extended := if reading.blocks.isPlainIn line then extended? extensions reading (line :: rest) else none
    match extended with
    | some (reading, rest) => read extensions count rest reading
    | none => read extensions count rest { reading with blocks := reading.blocks.read line }

end Reading

def ofText (extensions : BlockExtensions) (text : Text) : Outline :=
  let lines := sourceLines text
  let reading := Reading.read extensions lines.length lines {}
  let blocks := reading.blocks.closeAll
  ⟨blocks.innermost.children, blocks.definitions, reading.notes⟩

end Outline

end Adocify.Markdown
