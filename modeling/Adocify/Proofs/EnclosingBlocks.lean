import Adocify.Proofs.RenderFrames

/-! What inline content leaves of the block around it. A reference renders the blocks of its footnote
within the line, in the context of the line. Lists that are open stay open, but the table and the section
are then those of the blocks in the footnote, if it has any. -/

namespace Adocify.AsciiDoc

open Comparison (Agree)

def IsTable : Node → Prop
  | .table .. => True
  | _ => False

def IsHeading : Node → Prop
  | .heading .. => True
  | _ => False

/-- Rendering the nodes comes to none of the kind, in the footnotes of the root neither. -/
def Spares (root : Node) (kind : Node → Prop) (nodes : List Node) : Prop :=
  ∀ node ∈ nodes, ∀ next, Reaches (notesOf root) node next → ¬kind next

section

variable {options : Options} {root : Node} {kind : Node → Prop} {α : Type} {part : Context → α} {content : List Node}

theorem columns_lawful (options : Options) (root : Node) : (spared root IsTable Context.tableColumns).Lawful options := by
  refine spared_lawful (fun {node change} other arises context => ?_) (fun _ _ => rfl) fun _ => rfl
  cases change with
  | beginTable width =>
    cases node with
    | table => exact absurd trivial other
    | _ => exact arises.1.elim
  | _ => rfl

theorem section_lawful (options : Options) (root : Node) : (spared root IsHeading Context.sectionLevel).Lawful options := by
  refine spared_lawful (fun {node change} other arises context => ?_) (fun _ _ => rfl) fun _ => rfl
  cases change with
  | enterSection level =>
    cases node with
    | heading => exact absurd trivial other
    | _ => exact arises.1.elim
  | _ => rfl

theorem spared_text (other : ∀ written, ¬kind (.text written)) (written : Text) :
    (spared root kind part).node (.text written) := by
  refine ⟨.inl ⟨written, rfl⟩, fun next reaches => ?_⟩
  rcases Relation.ReflTransGen.cases_head reaches with rfl | ⟨first, leads, -⟩
  · exact other written
  · rcases leads with member | ⟨identifier, content, same, -⟩
    · cases member
    · cases same

/-- Texts of a line are joined, which adds no node of another kind. -/
theorem spared_line (other : ∀ written, ¬kind (.text written)) (inside : ∀ node ∈ content, root.Contains node)
    (spares : Spares root kind content) : ∀ node ∈ inlineParts content, (spared root kind part).node node := by
  intro node member
  rcases mem_inlineParts member with ⟨written, rfl⟩ | standing
  · exact spared_text other written
  · exact ⟨.inr (inside node standing), spares node standing⟩

/-- What is rendered on a stage of texts leaves the part of the context as it was. -/
theorem Frame.Lawful.plain {depth : Nat} {β : Type} {nodes : List Node} {fits : List Text → β → Prop}
    {computation : Render β} (laws : (spared root kind part).Lawful options) (other : ∀ written, ¬kind (.text written))
    (takes : (Stage.plain options depth).Takes nodes fits computation)
    (admitted : ∀ node ∈ nodes, (spared root kind part).node node) {before : Context}
    (start : before.footnotes = notesOf root) :
    (spared root kind part).same before (computation.runIn before).2 :=
  laws.takes takes (fun arises start => laws.change (spared_text other []) arises start) admitted start

end

section

variable {root : Node} {kind : Node → Prop} {nodes : List Node}

/-- It is enough that none of the kind stands in the nodes or in any footnote. -/
theorem spares_of_everywhere (other : ∀ written, ¬kind (.text written))
    (here : ∀ node ∈ nodes, node.Everywhere fun inner => ¬kind inner)
    (notes : ∀ note ∈ notesOf root, ∀ block ∈ note.2, block.Everywhere fun inner => ¬kind inner) :
    Spares root kind nodes := by
  intro node member next reaches
  have start : IsText node ∨ node.Everywhere fun inner => ¬kind inner := .inr (here node member)
  have without := reaches.within (Node.Everywhere fun inner => ¬kind inner) (fun above under => above.child under)
    (fun _ found within => notes _ (FootnoteTable.mem_of_lookup found) _ within) start
  rcases without with ⟨written, rfl⟩ | holds
  · exact other written
  · exact holds.here

end

/-- A row that is filled up to the width, whatever table was begun last. -/
def filledRow (width : Int) (cells : List Child) : Render Text := do
  let texts ← Render.sequence (cells.map (·.rendered))
  let span ← liftM (rowSpan (cells.map (·.node)))
  return Text.stripRight (Text.join [' '] (texts ++ List.replicate (width - span).toNat ['|']))

/-- The rendering of a table's row at the width. -/
def filledTo (options : Options) (depth : Nat) (width : Int) : Node → Child
  | .tableRow cells => ⟨.tableRow cells, filledRow width (renderChildren options (renderFootnote options depth) cells)⟩
  | other => ⟨other, renderNode options (renderFootnote options depth) other⟩

theorem filledTo_node (options : Options) (depth : Nat) (width : Int) (row : Node) :
    (filledTo options depth width row).node = row := by
  cases row <;> rfl

/-- A table of the width is the one that was begun last. -/
def InTable (root : Node) (width : Int) (context : Context) : Prop :=
  context.footnotes = notesOf root ∧ context.tableColumns = width

abbrev inTable (root : Node) (width : Int) : Comparison := .within (InTable root width)

section

variable (options : Options) (depth : Nat) (width : Int) {root row : Node} {rows : List Node}

theorem inTable_self {β : Type} {nodes : List Node} {fits : List Text → β → Prop} {computation : Render β}
    (takes : (Stage.plain options depth).Takes nodes fits computation)
    (admitted : ∀ node ∈ nodes, (spared root IsTable Context.tableColumns).node node) :
    (inTable root width).Agree Eq computation computation := by
  refine .itself fun before held => ?_
  have same := (columns_lawful options root).plain (fun _ => id) takes admitted held.1
  exact ⟨same.1.trans held.1, same.2.trans held.2⟩

/-- Within its table, a row is filled up to the width of that table. -/
theorem row_inTable (admitted : (spared root IsTable Context.tableColumns).node row) :
    (inTable root width).Agree Eq (renderNode options (renderFootnote options depth) row)
      (filledTo options depth width row).rendered := by
  have alone : (inTable root width).Agree Eq (renderNode options (renderFootnote options depth) row)
      (renderNode options (renderFootnote options depth) row) :=
    inTable_self options depth width (.visit (follows options depth row)) (List.forall_mem_singleton.mpr admitted)
  cases row with
  | tableRow cells =>
    have children : renderChildren options (renderFootnote options depth) cells =
        cells.map (Stage.plain options depth).child :=
      Stage.renderChildren_eq (.plain options depth) cells
    have takes : (Stage.plain options depth).Takes cells Laid
        (Render.sequence ((cells.map (Stage.plain options depth).child).map (·.rendered))) :=
      .children fun cell _ => follows options depth cell
    have texts := inTable_self options depth width takes fun cell member =>
      (columns_lawful options root).part admitted member
    simp only [renderNode, filledTo, tableRow, filledRow, children]
    refine texts.bind fun written written' same => ?_
    subst same
    rintro before before' ⟨rfl, held⟩
    -- the width is read behind the cells, none of which has begun a table
    simp only [Render.runIn_bind get, Render.runIn_get, held.2]
    refine Agree.bind (.lift fun _ _ => trivial) (fun span span' same => ?_) before before ⟨rfl, held⟩
    subst same
    exact .pure rfl
  | _ => exact alone

theorem rows_inTable (admitted : ∀ row ∈ rows, (spared root IsTable Context.tableColumns).node row) :
    (inTable root width).Agree Eq (Render.sequence ((rows.map (Stage.plain options depth).child).map (·.rendered)))
      (Render.sequence ((rows.map (filledTo options depth width)).map (·.rendered))) := by
  have each : List.Forall₂ ((inTable root width).Agree Eq)
      ((rows.map (Stage.plain options depth).child).map (·.rendered))
      ((rows.map (filledTo options depth width)).map (·.rendered)) := by
    rw [List.map_map, List.map_map, List.forall₂_map_left_iff, List.forall₂_map_right_iff, List.forall₂_same]
    exact fun row member => row_inTable options depth width (admitted row member)
  exact (Agree.sequence each).mono fun texts others same => List.forall₂_eq_eq_eq ▸ same

/-- A table from whose rows no other is reached fills its rows up to its own width. -/
theorem table_filled {header : Option Node} {alignments : List (Option Text)} {caption : Option Text} {width : Int}
    (fits : tableWidth (header.toList ++ rows) = .ok width)
    (admitted : ∀ row ∈ header.toList ++ rows, (spared root IsTable Context.tableColumns).node row)
    {context : Context} (start : context.footnotes = notesOf root) :
    (renderNode options (renderFootnote options depth) (.table header rows alignments caption)).runIn context =
      (table (header.map (filledTo options depth width)) (rows.map (filledTo options depth width)) alignments
        caption).runIn context := by
  have children : renderChildren options (renderFootnote options depth) rows =
      rows.map (Stage.plain options depth).child :=
    Stage.renderChildren_eq (.plain options depth) rows
  have whole : renderNode options (renderFootnote options depth) (.table header rows alignments caption) =
      table (header.map (Stage.plain options depth).child) (rows.map (Stage.plain options depth).child) alignments
        caption := by
    cases header with
    | none => simp only [renderNode, children, Option.map_none]
    | some row =>
      simp only [renderNode, children, Option.map_some]
      rfl
  have nodes (child : Node → Child) (same : ∀ row, (child row).node = row) :
      ((header.map child).toList ++ rows.map child).map (·.node) = header.toList ++ rows := by
    rw [Option.toList_map, ← List.map_append, List.map_map]
    exact (List.map_congr_left fun row _ => same row).trans (List.map_id _)
  simp only [whole, table, nodes (Stage.plain options depth).child fun _ => rfl,
    nodes _ (filledTo_node options depth width), fits, Render.runIn_bind (liftM _), Render.runIn_liftM, Render.runIn_bind (modify _), Render.runIn_modify,
    List.isEmpty_map, Option.isSome_map]
  refine Agree.same ?_ (show InTable root width _ from ⟨start, rfl⟩)
  have body := rows_inTable options depth width fun row member => admitted row (List.mem_append_right _ member)
  have closed {above : List Text} (lines lines' : List Text) (same : lines = lines') : (inTable root width).Agree Eq
      (Render.sequence ((rows.map (Stage.plain options depth).child).map (·.rendered)) >>= fun texts =>
        pure (Text.unlines (above ++ lines ++ texts ++ [tableDelimiter])))
      (Render.sequence ((rows.map (filledTo options depth width)).map (·.rendered)) >>= fun texts =>
        pure (Text.unlines (above ++ lines' ++ texts ++ [tableDelimiter]))) := by
    refine body.bind fun texts texts' also => ?_
    subst same also
    exact .pure rfl
  cases header with
  | none => exact .bind (.pure rfl) closed
  | some row =>
    refine .bind (row_inTable options depth width (admitted row List.mem_cons_self)) fun text text' same => ?_
    subst same
    exact .bind (.pure rfl) closed

end

/-- Inline content of a document leaves the open lists, and also the table and the section unless it
leads to another of their kind. A table whose rows lead to no other has rows of its own width. -/
theorem inline_keeps_enclosing (options : Options) (depth : Nat) {root : Node} {content : List Node}
    (inside : ∀ node ∈ content, root.Contains node) {context : Context} (start : context.footnotes = notesOf root) :
    let after :=
      ((inlineContent options (renderChildren options (renderFootnote options depth) content)).runIn context).2
    after.listStack = context.listStack ∧
    (Spares root IsTable content → after.tableColumns = context.tableColumns) ∧
    (Spares root IsHeading content → after.sectionLevel = context.sectionLevel) ∧
    ∀ header rows alignments caption width, root.Contains (.table header rows alignments caption) →
      tableWidth (header.toList ++ rows) = .ok width → Spares root IsTable (header.toList ++ rows) →
      (renderNode options (renderFootnote options depth) (.table header rows alignments caption)).runIn context =
        (table (header.map (filledTo options depth width)) (rows.map (filledTo options depth width)) alignments
          caption).runIn context := by
  intro after
  have takes := takes_inlineContent options depth content
  have levels := Frame.levels_lawful options
  refine ⟨?_, fun spares => ?_, fun spares => ?_, ?_⟩
  · exact levels.takes takes (fun arises => levels.change trivial arises) (fun _ _ => trivial) trivial
  · exact ((columns_lawful options root).plain (fun _ => id) takes (spared_line (fun _ => id) inside spares) start).2
  · exact ((section_lawful options root).plain (fun _ => id) takes (spared_line (fun _ => id) inside spares) start).2
  · intro header rows alignments caption width standing fits spares
    exact table_filled options depth fits (fun row member => ⟨.inr (standing.tail member), spares row member⟩) start

/-- Two rows, the first of which refers to a footnote and has one cell more. -/
def referringRows : List Node :=
  let cell (content : List Node) : Node := .tableCell content 1 none
  [.tableRow [cell [.footnoteReference ['n']], cell [.text ['a']]], .tableRow [cell [.text ['b']]]]

def referringTable (blocks : List Node) : Node :=
  .document [.table none referringRows [] none, .footnoteDefinition ['n'] blocks]

theorem referringTable_contains (blocks : List Node) :
    (referringTable blocks).Contains (.table none referringRows [] none) ∧
      (referringTable blocks).Contains (.footnoteReference ['n']) := by
  have whole : (referringTable blocks).Contains (.table none referringRows [] none) := .single List.mem_cons_self
  exact ⟨whole, whole.trans (.head List.mem_cons_self (.head List.mem_cons_self (.single List.mem_cons_self)))⟩

/-- The footnote holds a list. -/
theorem inline_keeps_enclosing_list :
    let root := referringTable [.list false [.listItem [.paragraph [.text ['i']]] none] (.number 1) true]
    let context : Context := { attributes := [], footnotes := notesOf root, listStack := ['*'], tableColumns := 2 }
    let after :=
      ((inlineContent {} (renderChildren {} (renderFootnote {} 1) [.footnoteReference ['n']])).runIn context).2
    (∀ node ∈ [Node.footnoteReference ['n']], root.Contains node) ∧ context.footnotes = notesOf root ∧
    Spares root IsTable [.footnoteReference ['n']] ∧ Spares root IsHeading [.footnoteReference ['n']] ∧
    after.listStack = ['*'] ∧ after.tableColumns = 2 ∧ after.sectionLevel = .number 1 ∧ after.emitted = [['n']] ∧
    root.Contains (.table none referringRows [] none) ∧ tableWidth referringRows = .ok 2 ∧
      Spares root IsTable referringRows ∧
    (renderNode {} (renderFootnote {} 1) (.table none referringRows [] none)).runIn context =
      (table none (referringRows.map (filledTo {} 1 2)) [] none).runIn context := by
  intro root context after
  obtain ⟨standing, reference⟩ :=
    referringTable_contains [.list false [.listItem [.paragraph [.text ['i']]] none] (.number 1) true]
  have inside : ∀ node ∈ [Node.footnoteReference ['n']], root.Contains node := List.forall_mem_singleton.mpr reference
  have notes : notesOf root =
      [(['n'], [.list false [.listItem [.paragraph [.text ['i']]] none] (.number 1) true])] := rfl
  have noTable : Spares root IsTable [.footnoteReference ['n']] := by
    refine spares_of_everywhere (fun _ => id) ?_ ?_ <;>
      simp [notes, Node.everywhere_iff_forall, Node.children, IsTable]
  have noHeading : Spares root IsHeading [.footnoteReference ['n']] := by
    refine spares_of_everywhere (fun _ => id) ?_ ?_ <;>
      simp [notes, Node.everywhere_iff_forall, Node.children, IsHeading]
  have noOther : Spares root IsTable referringRows := by
    refine spares_of_everywhere (fun _ => id) ?_ ?_ <;>
      simp [notes, referringRows, Node.everywhere_iff_forall, Node.children, IsTable]
  obtain ⟨levels, columns, sections, tables⟩ := inline_keeps_enclosing {} 1 inside
    (show context.footnotes = notesOf root from rfl)
  exact ⟨inside, rfl, noTable, noHeading, levels, columns noTable, sections noHeading, rfl, standing, rfl, noOther,
    tables none referringRows [] none 2 standing rfl noOther⟩

/-- The footnote holds a table of one column, to which the rows below the reference are then filled up. -/
theorem row_filled_to_note :
    let root := referringTable [.table none [.tableRow [.tableCell [.text ['x']] 1 none]] [] none]
    let context : Context := { attributes := [], footnotes := notesOf root, tableColumns := 2 }
    tableWidth referringRows = .ok 2 ∧
    ((inlineContent {} (renderChildren {} (renderFootnote {} 1) [.footnoteReference ['n']])).runIn
      context).2.tableColumns = 1 ∧
    (render {} [] root).outcome = .ok "|===\n| footnote:n[\\|=== \\| x \\|===] | a\n| b\n|===\n".toList ∧
    ((table none (referringRows.map (filledTo {} 1 2)) [] none).runIn context).1 =
      .ok "|===\n| footnote:n[\\|=== \\| x \\|===] | a\n| b |\n|===".toList :=
  ⟨rfl, rfl, rfl, rfl⟩

end Adocify.AsciiDoc
