import Mathlib.Data.List.Nodup
import Adocify.Markdown.Tree
import Adocify.Proofs.TreeContainment

/-! Trees that are read from tokens. Nothing is known of the tokens, so that every promise about a tree
is kept by the reading itself. The footnotes gathered on the way belong to what is promised. -/

namespace Adocify

namespace Node

def IsCell : Node → Prop
  | .tableCell _ span _ => span = 1
  | _ => False

def IsRow : Node → Prop
  | .tableRow cells => ∀ cell ∈ cells, cell.IsCell
  | _ => False

def IsItem : Node → Prop
  | .listItem _ taskStatus =>
    taskStatus = none ∨ taskStatus = some "checked".toList ∨ taskStatus = some "unchecked".toList
  | _ => False

/-- What a node of a parsed tree keeps to. Footnotes stand apart from the tree. -/
def IsRegular : Node → Prop
  | .heading level _ => 1 ≤ level.toInt ∧ level.toInt ≤ 6
  | .list _ items _ _ => ∀ item ∈ items, item.IsItem
  | .table header rows _ _ => ∀ row ∈ header.toList ++ rows, row.IsRow
  | .footnoteDefinition .. | .foreign .. | .stray _ => False
  | _ => True

abbrev Regular : Node → Prop := Everywhere IsRegular

theorem Regular.of {node : Node} (here : node.IsRegular) (below : ∀ child ∈ node.children, child.Regular) :
    node.Regular :=
  everywhere_iff.mpr ⟨here, below⟩

theorem Regular.leaf {node : Node} (here : node.IsRegular) (childless : node.children = []) : node.Regular :=
  .of here fun _ member => absurd (childless ▸ member) List.not_mem_nil

end Node

namespace Markdown

open Node (IsCell IsRow IsItem Regular)

/-- The children of a parsed document: regular trees, then the footnotes, each once. -/
def WellFormed (children : List Node) : Prop :=
  ∃ (body : List Node) (notes : FootnoteTable),
    children = body ++ notes.map (fun note => .footnoteDefinition note.1 note.2) ∧
    (notes.map (·.1)).Nodup ∧ (∀ node ∈ body, node.Regular) ∧ ∀ note ∈ notes, ∀ node ∈ note.2, node.Regular

structure Gathered (table : FootnoteTable) : Prop where
  distinct : (table.map (·.1)).Nodup
  regular : ∀ note ∈ table, ∀ node ∈ note.2, node.Regular

/-- Whatever is read has the property, and the footnotes gathered stay as promised. -/
def Yields (property : α → Prop) (reader : TreeReader α) : Prop :=
  ∀ table, Gathered table → ∀ value after, reader.run table = .ok (value, after) → property value ∧ Gathered after

namespace Yields

variable {property : α → Prop} {result : β → Prop}

protected theorem pure {value : α} (holds : property value) : Yields property (pure value) := by
  rintro table gathered _ _ ⟨⟩
  exact ⟨holds, gathered⟩

theorem fail {failure : Failure} : Yields property (throw failure) := by
  rintro table gathered _ _ ⟨⟩

theorem bind {reader : TreeReader α} {next : α → TreeReader β} (first : Yields property reader)
    (rest : ∀ value, property value → Yields result (next value)) : Yields result (reader >>= next) := by
  intro table gathered value after read
  rw [StateT.run_bind] at read
  cases found : reader.run table with
  | error failure =>
    rw [found] at read
    cases read
  | ok here =>
    obtain ⟨holds, kept⟩ := first table gathered _ _ found
    rw [found] at read
    exact rest _ holds _ kept _ _ read

end Yields

/-- Several regular trees, or none. -/
abbrev AllRegular (nodes : List Node) : Prop := ∀ node ∈ nodes, node.Regular

theorem Gathered.replace {table : FootnoteTable} (gathered : Gathered table) (identifier : Text) {content : List Node}
    (regular : AllRegular content) :
    Gathered (table.map fun note => if note.1 = identifier then (identifier, content) else note) := by
  constructor
  · have same : (table.map fun note => if note.1 = identifier then (identifier, content) else note).map (·.1) =
        table.map (·.1) := by
      rw [List.map_map]
      refine List.map_congr_left fun note _ => ?_
      by_cases equal : note.1 = identifier <;> simp [equal]
    rw [same]
    exact gathered.distinct
  · intro note member
    obtain ⟨former, found, rfl⟩ := List.mem_map.mp member
    split
    · exact regular
    · exact gathered.regular former found

theorem Gathered.append {table : FootnoteTable} (gathered : Gathered table) {identifier : Text} {content : List Node}
    (fresh : ¬(table.lookup identifier).isSome) (regular : AllRegular content) :
    Gathered (table ++ [(identifier, content)]) := by
  have absent : identifier ∉ table.map (·.1) := by simpa using fresh
  constructor
  · rw [List.map_append]
    exact List.Nodup.append gathered.distinct (List.nodup_singleton _) (List.disjoint_singleton.mpr absent)
  · intro note member
    rcases List.mem_append.mp member with former | latest
    · exact gathered.regular note former
    · cases List.mem_singleton.mp latest
      exact regular

theorem noteFootnote_yields (identifier : Text) {content : List Node} (regular : AllRegular content) :
    Yields (fun _ => True) (noteFootnote identifier content) := by
  rintro table gathered _ _ ⟨⟩
  refine ⟨trivial, ?_⟩
  by_cases known : (table.lookup identifier).isSome = true
  · simp only [if_pos known]
    exact gathered.replace identifier regular
  · simp only [if_neg known]
    exact gathered.append known regular

theorem headingLevel_range (details : TokenDetails) :
    1 ≤ (headingLevel details).toInt ∧ (headingLevel details).toInt ≤ 6 := by
  have first : 1 ≤ (Whole.number 1).toInt ∧ (Whole.number 1).toInt ≤ 6 := by decide
  simp only [headingLevel]
  split
  · split
    · assumption
    · exact first
  · exact first

theorem codeBlock_regular (content : Text) (details : TokenDetails) : (codeBlock content details).Regular :=
  .leaf trivial rfl

theorem htmlBlock_regular (content : Text) : (htmlBlock content).Regular := by
  simp only [htmlBlock]
  split
  · exact .leaf trivial rfl
  · exact .leaf trivial rfl

/-- At most one regular tree. -/
abbrev AtMostRegular (found : Option Node) : Prop := AllRegular found.toList

theorem Yields.found {node : Node} (regular : node.Regular) : Yields AtMostRegular (pure (some node)) :=
  .pure fun _ member => Option.some.inj (Option.mem_toList.mp member) ▸ regular

theorem Yields.nothing : Yields AtMostRegular (pure none) := .pure nofun

theorem Yields.followed {first : TreeReader (Option Node)} {rest : TreeReader (List Node)}
    (here : Yields AtMostRegular first) (others : Yields AllRegular rest) :
    Yields AllRegular (do
      let found ← first
      let nodes ← rest
      return found.toList ++ nodes) := by
  refine .bind here fun found regular => ?_
  exact .bind others fun nodes later => .pure (List.forall_mem_append.mpr ⟨regular, later⟩)

mutual

theorem inlineNode_yields (token : Token) : Yields AtMostRegular (inlineNode token) := by
  match token with
  | .stray =>
    simp only [inlineNode]
    exact .fail
  | .element kind literal tight details children =>
    have inner := inlineNodes_yields children
    cases kind with
    | strong | emphasis | strikethrough | link =>
      simp only [inlineNode]
      exact .bind inner fun nodes regular => .found (.of trivial regular)
    | text | codeSpan | inlineHtml | lineBreak | softBreak | footnoteReference | image =>
      simp only [inlineNode]
      exact .found (.leaf trivial rfl)
    | _ =>
      simp only [inlineNode]
      exact .nothing
termination_by sizeOf token

theorem inlineNodes_yields (tokens : List Token) : Yields AllRegular (inlineNodes tokens) := by
  match tokens with
  | [] =>
    simp only [inlineNodes]
    exact .pure nofun
  | token :: rest =>
    simp only [inlineNodes]
    exact .followed (inlineNode_yields token) (inlineNodes_yields rest)
termination_by sizeOf tokens

end

theorem tableCells_yields (tokens : List Token) :
    Yields (fun cells => AllRegular cells ∧ ∀ cell ∈ cells, cell.IsCell) (tableCells tokens) := by
  induction tokens with
  | nil =>
    simp only [tableCells]
    exact .pure ⟨nofun, nofun⟩
  | cons token rest ih =>
    match token with
    | .stray =>
      simp only [tableCells]
      exact .fail
    | .element kind literal tight details children =>
      cases kind with
      | tableCell =>
        simp only [tableCells]
        refine .bind (inlineNodes_yields children) fun content regular => ?_
        refine .bind ih fun cells ⟨others, shape⟩ => .pure ⟨?_, ?_⟩
        · exact List.forall_mem_cons.mpr ⟨.of trivial regular, others⟩
        · exact List.forall_mem_cons.mpr ⟨rfl, shape⟩
      | _ =>
        simp only [tableCells]
        exact ih

theorem tableRows_yields (tokens : List Token) :
    Yields (fun rows => AllRegular rows ∧ ∀ row ∈ rows, row.IsRow) (tableRows tokens) := by
  induction tokens with
  | nil =>
    simp only [tableRows]
    exact .pure ⟨nofun, nofun⟩
  | cons token rest ih =>
    match token with
    | .stray =>
      simp only [tableRows]
      exact .fail
    | .element kind literal tight details children =>
      simp only [tableRows]
      refine .bind (tableCells_yields children) fun cells ⟨regular, cellular⟩ => ?_
      refine .bind ih fun rows ⟨others, shape⟩ => .pure ⟨?_, ?_⟩
      · exact List.forall_mem_cons.mpr ⟨.of trivial regular, others⟩
      · exact List.forall_mem_cons.mpr ⟨cellular, shape⟩

/-- The parts of a table make a regular one. -/
def TableParts.Regular (parts : TableParts) : Prop :=
  ∀ row ∈ parts.header.toList ++ parts.rows, row.Regular ∧ row.IsRow

theorem tableParts_yields (tokens : List Token) {parts : TableParts} (regular : parts.Regular) :
    Yields TableParts.Regular (tableParts parts tokens) := by
  induction tokens generalizing parts with
  | nil =>
    simp only [tableParts]
    exact .pure regular
  | cons token rest ih =>
    obtain ⟨upper, lower⟩ := List.forall_mem_append.mp regular
    match token with
    | .stray =>
      simp only [tableParts]
      exact .fail
    | .element kind literal tight details children =>
      cases kind with
      | tableHead =>
        simp only [tableParts]
        refine .bind (tableCells_yields children) fun cells ⟨inner, cellular⟩ => ih ?_
        exact List.forall_mem_cons.mpr ⟨⟨.of trivial inner, cellular⟩, lower⟩
      | tableBody =>
        simp only [tableParts]
        refine .bind (tableRows_yields children) fun rows ⟨inner, shape⟩ => ih ?_
        refine List.forall_mem_append.mpr ⟨upper, List.forall_mem_append.mpr ⟨lower, ?_⟩⟩
        exact fun row member => ⟨inner row member, shape row member⟩
      | _ =>
        simp only [tableParts]
        exact ih regular

namespace DefinitionPart

def content : DefinitionPart → List Node
  | .term content | .description content => content

theorem leading_regular {parts : List DefinitionPart} (regular : ∀ part ∈ parts, AllRegular part.content) :
    AllRegular (leading parts) := by
  induction parts with
  | nil => exact nofun
  | cons part rest ih =>
    obtain ⟨here, others⟩ := List.forall_mem_cons.mp regular
    cases part with
    | term content => exact nofun
    | description content => exact List.forall_mem_cons.mpr ⟨.of trivial here, ih others⟩

theorem entries_regular {parts : List DefinitionPart} (regular : ∀ part ∈ parts, AllRegular part.content) :
    AllRegular (Node.entryChildren (entries parts)) := by
  induction parts with
  | nil => exact nofun
  | cons part rest ih =>
    obtain ⟨here, others⟩ := List.forall_mem_cons.mp regular
    cases part with
    | term content =>
      refine List.forall_mem_cons.mpr ⟨.of trivial here, List.forall_mem_append.mpr ⟨?_, ih others⟩⟩
      exact leading_regular others
    | description content => exact ih others

end DefinitionPart

mutual

theorem blockNodes_yields (tokens : List Token) : Yields AllRegular (blockNodes tokens) := by
  match tokens with
  | [] =>
    simp only [blockNodes]
    exact .pure nofun
  | token :: rest =>
    simp only [blockNodes]
    exact .followed (blockNode_yields token) (blockNodes_yields rest)
termination_by sizeOf tokens

theorem blockNode_yields (token : Token) : Yields AtMostRegular (blockNode token) := by
  match token with
  | .stray =>
    simp only [blockNode]
    exact .fail
  | .element kind literal tight details children =>
    cases kind with
    | heading =>
      simp only [blockNode]
      exact .bind (inlineNodes_yields children) fun nodes regular => .found (.of (headingLevel_range details) regular)
    | paragraph | blockText =>
      simp only [blockNode]
      exact .bind (inlineNodes_yields children) fun nodes regular => .found (.of trivial regular)
    | blockCode =>
      simp only [blockNode]
      exact .found (codeBlock_regular _ _)
    | blockQuote =>
      simp only [blockNode]
      exact .bind (blockNodes_yields children) fun nodes regular => .found (.of trivial regular)
    | list =>
      simp only [blockNode]
      exact .bind (listItems_yields children) fun items ⟨regular, shape⟩ => .found (.of shape regular)
    | table =>
      simp only [blockNode]
      refine .bind (tableParts_yields children nofun) fun parts regular => .found (.of ?_ ?_)
      · exact fun row member => (regular row member).2
      · exact fun row member => (regular row member).1
    | thematicBreak =>
      simp only [blockNode]
      exact .found (.leaf trivial rfl)
    | blockHtml =>
      simp only [blockNode]
      exact .found (htmlBlock_regular _)
    | footnotes =>
      simp only [blockNode]
      exact .bind (footnoteItems_yields children) fun _ _ => .nothing
    | definitionList =>
      simp only [blockNode]
      refine .bind (definitionParts_yields children) fun parts regular => .found (.of trivial ?_)
      exact DefinitionPart.entries_regular regular
    | _ =>
      simp only [blockNode]
      exact .nothing
termination_by sizeOf token

theorem listItems_yields (tokens : List Token) :
    Yields (fun items => AllRegular items ∧ ∀ item ∈ items, item.IsItem) (listItems tokens) := by
  match tokens with
  | [] =>
    simp only [listItems]
    exact .pure ⟨nofun, nofun⟩
  | .stray :: rest =>
    simp only [listItems]
    exact listItems_yields rest
  | .element kind literal tight details children :: rest =>
    simp only [listItems]
    refine .bind (blockNodes_yields children) fun content regular => ?_
    refine .bind (listItems_yields rest) fun items ⟨others, shape⟩ => .pure ⟨?_, ?_⟩
    · exact List.forall_mem_cons.mpr ⟨.of trivial regular, others⟩
    · refine List.forall_mem_cons.mpr ⟨?_, shape⟩
      cases details.checked with
      | none => exact .inl rfl
      | some checked => cases truthy : checked.isTruthy <;> simp [IsItem, truthy]
termination_by sizeOf tokens

theorem footnoteItems_yields (tokens : List Token) : Yields (fun _ => True) (footnoteItems tokens) := by
  match tokens with
  | [] =>
    simp only [footnoteItems]
    exact .pure trivial
  | .stray :: rest =>
    simp only [footnoteItems]
    exact .fail
  | .element kind literal tight details children :: rest =>
    simp only [footnoteItems]
    refine .bind (blockNodes_yields children) fun content regular => ?_
    exact .bind (noteFootnote_yields _ regular) fun _ _ => footnoteItems_yields rest
termination_by sizeOf tokens

theorem definitionParts_yields (tokens : List Token) :
    Yields (fun parts => ∀ part ∈ parts, AllRegular part.content) (definitionParts tokens) := by
  match tokens with
  | [] =>
    simp only [definitionParts]
    exact .pure nofun
  | .stray :: rest =>
    simp only [definitionParts]
    exact .fail
  | .element kind literal tight details children :: rest =>
    have others := definitionParts_yields rest
    cases kind with
    | definitionHead =>
      simp only [definitionParts]
      refine .bind (inlineNodes_yields children) fun content regular => ?_
      exact .bind others fun parts later => .pure (List.forall_mem_cons.mpr ⟨regular, later⟩)
    | definitionItem =>
      simp only [definitionParts]
      refine .bind (description_yields children) fun content regular => ?_
      exact .bind others fun parts later => .pure (List.forall_mem_cons.mpr ⟨regular, later⟩)
    | _ =>
      simp only [definitionParts]
      exact others
termination_by sizeOf tokens

theorem description_yields (tokens : List Token) : Yields AllRegular (description tokens) := by
  match tokens with
  | [] =>
    simp only [description]
    exact .pure nofun
  | token :: rest =>
    simp only [description]
    split
    · have refused : Yields (fun _ : PUnit => False) (throw .misplaced) := .fail
      exact .bind refused nofun
    split
    · refine .bind (inlineNodes_yields _) fun content regular => .pure ?_
      exact List.forall_mem_singleton.mpr (.of trivial regular)
    · exact .followed (blockNode_yields token) (blockNodes_yields rest)
termination_by sizeOf tokens

end

/-- Every tree that is read from tokens is well formed. -/
theorem documentOf_wellFormed {tokens : List Token} {children : List Node} (parsed : documentOf tokens = .ok children) :
    WellFormed children := by
  cases read : (blockNodes tokens).run [] with
  | error failure =>
    simp [documentOf, read, bind, Except.bind] at parsed
  | ok found =>
    obtain ⟨body, notes⟩ := found
    -- What stays in the table when all tokens are read becomes the end of the document.
    obtain ⟨regular, gathered⟩ := blockNodes_yields tokens [] ⟨.nil, nofun⟩ body notes read
    refine ⟨body, notes, ?_, gathered.distinct, regular, gathered.regular⟩
    simpa [documentOf, read, bind, Except.bind, pure, Except.pure] using parsed.symm

end Markdown

end Adocify
