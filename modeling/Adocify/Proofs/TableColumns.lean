import Mathlib.Algebra.Order.BigOperators.Group.List
import Mathlib.Algebra.Order.Ring.Int
import Mathlib.Data.List.Chain
import Adocify.Proofs.EnclosingBlocks
import Adocify.Proofs.SingleLines
import Adocify.Proofs.TextTrimming

/-! The columns of a table. A bar begins a cell unless a backslash stands directly before it, and what is written
directly before the bar says how many columns the cell takes up. Read in this way, all rows of a table have the same
columns, whatever their cells hold. -/

namespace Adocify

namespace Text

theorem mem_join {c : Char} {separator : Text} {parts : List Text} (member : c ∈ join separator parts) :
    c ∈ separator ∨ ∃ part ∈ parts, c ∈ part := by
  induction parts with
  | nil => cases member
  | cons first others ih =>
    rw [join_cons] at member
    rcases List.mem_append.mp member with here | later
    · exact .inr ⟨first, List.mem_cons_self, here⟩
    cases others with
    | nil => cases later
    | cons second others =>
      rw [continued_cons] at later
      rcases List.mem_append.mp later with between | later
      · exact .inl between
      rcases ih later with between | ⟨part, member, inside⟩
      · exact .inl between
      · exact .inr ⟨part, .tail _ member, inside⟩

end Text

namespace AsciiDoc

/-- What stands directly before each bar that begins a cell, since the last blank or the last such bar. So much of it
is read already, and the text follows the character. -/
def barsFrom (read : Text) (before : Char) : Text → List Text
  | [] => []
  | c :: rest =>
    if c = '|' ∧ before ≠ '\\' then read :: barsFrom [] c rest
    else if c = ' ' then barsFrom [] c rest
    else barsFrom (read ++ [c]) c rest

def bars (line : Text) : List Text := barsFrom [] ' ' line

/-- The columns of a cell with this before its bar. -/
def columnsOf (mark : Text) : Nat := if mark.isEmpty then 1 else Nat.ofDigitChars 10 mark.dropLast 0

def spanMark (span : Int) : Text := if span > 1 then Text.ofInt span ++ ['+'] else []

theorem columnsOf_spanMark {span : Int} (some : 1 ≤ span) : (columnsOf (spanMark span) : Int) = span := by
  by_cases more : span > 1
  · obtain ⟨n, rfl⟩ := Int.eq_ofNat_of_zero_le (by omega : 0 ≤ span)
    simp [spanMark, more, columnsOf, Text.ofInt, Text.ofNat, Nat.ofDigitChars_ten_toDigits]
  · simp only [spanMark, if_neg more, columnsOf, List.isEmpty_nil, if_true]
    omega

/-- Nothing that a reader of bars looks at. -/
def IsPlainMark (mark : Text) : Prop := ∀ c ∈ mark, c ≠ '|' ∧ c ≠ ' ' ∧ c ≠ '\\'

theorem spanMark_plain (span : Int) : IsPlainMark (spanMark span) := by
  have digits (n : Nat) : IsPlainMark (Text.ofNat n) := by
    intro c member
    have digit := Nat.isDigit_of_mem_toDigits (by decide) (by decide) member
    refine ⟨?_, ?_, ?_⟩ <;>
    · rintro rfl
      exact absurd digit (by decide)
  intro c member
  simp only [spanMark] at member
  split at member
  next more =>
    rcases List.mem_append.mp member with number | sign
    · cases span with
      | ofNat n => exact digits n c number
      | negSucc n => exact absurd more (by omega)
    · obtain rfl := List.mem_singleton.mp sign
      decide
  next => cases member

/-- Each bar in the text, which comes after the character, has a backslash directly before it. -/
abbrev Escaped (before : Char) (text : Text) : Prop :=
  (before :: text).IsChain fun previous c => c = '|' → previous = '\\'

theorem escaped_substitute (before : Char) (text : Text) : Escaped before (Text.substitute '|' ['\\', '|'] text) := by
  induction text generalizing before with
  | nil => exact .singleton before
  | cons c rest ih =>
    rw [Text.substitute_cons]
    split
    next => exact .cons_cons nofun (.cons_cons (fun _ => rfl) (ih '|'))
    next other => exact .cons_cons (fun same => absurd same other) (ih c)

theorem barsFrom_mark {mark : Text} (plain : IsPlainMark mark) (read : Text) {before : Char} (bare : before ≠ '\\')
    (rest : Text) : barsFrom read before (mark ++ '|' :: rest) = (read ++ mark) :: barsFrom [] '|' rest := by
  induction mark generalizing read before with
  | nil => simp [barsFrom, bare]
  | cons c mark ih =>
    obtain ⟨⟨noBar, noBlank, noEscape⟩, others⟩ := List.forall_mem_cons.mp plain
    simp only [List.cons_append, barsFrom, noBar, noBlank, false_and, if_false]
    rw [ih others (read ++ [c]) noEscape, List.append_assoc, List.singleton_append]

/-- Nothing within the content of a cell is read. -/
theorem barsFrom_escaped {content : Text} {before : Char} (escaped : Escaped before content) (read : Text)
    (others : List Text) :
    barsFrom read before (content ++ Text.continued [' '] others) = bars (Text.join [' '] others) := by
  induction content generalizing read before with
  | nil =>
    cases others with
    | nil => rfl
    | cons second others => rfl
  | cons c content ih =>
    -- Whatever is read on the way is given up at the blank before the next cell.
    obtain ⟨behind, later⟩ := List.isChain_cons_cons.mp escaped
    have inside : ¬(c = '|' ∧ before ≠ '\\') := fun ⟨bar, bare⟩ => bare (behind bar)
    simp only [List.cons_append, barsFrom, if_neg inside]
    split
    · exact ih later []
    · exact ih later (read ++ [c])

/-- A cell as it is written: what says its columns, the bar, and content without a bar of its own. -/
def WritesCell (mark cell : Text) : Prop :=
  IsPlainMark mark ∧ ∃ content, cell = mark ++ '|' :: content ∧ Escaped '|' content

theorem bars_join {marks cells : List Text} (written : List.Forall₂ WritesCell marks cells) :
    bars (Text.join [' '] cells) = marks := by
  induction written with
  | nil => rfl
  | @cons mark cell marks others here _ ih =>
    obtain ⟨plain, content, rfl, escaped⟩ := here
    rw [Text.join_cons, List.append_assoc, List.cons_append, bars, barsFrom_mark plain [] (by decide),
      barsFrom_escaped escaped, ih, List.nil_append]

theorem empty_cell : WritesCell [] ['|'] := ⟨List.forall_mem_nil _, [], rfl, .singleton '|'⟩

theorem cell_written (span : Int) (line : Text) :
    WritesCell (spanMark span)
      (Text.stripRight (spanMark span ++ "| ".toList ++ Text.substitute '|' ['\\', '|'] line)) := by
  refine ⟨spanMark_plain span, ?_⟩
  have barred : Text.stripRight (spanMark span ++ "| ".toList) = spanMark span ++ ['|'] := Text.stripRight_append _ _
  rw [Text.stripRight_append, barred]
  split
  · exact ⟨[], rfl, .singleton '|'⟩
  · refine ⟨' ' :: Text.stripRight (Text.substitute '|' ['\\', '|'] line), by simp, ?_⟩
    have whole : Escaped '|' (' ' :: Text.substitute '|' ['\\', '|'] line) :=
      .cons_cons (by decide) (escaped_substitute ' ' line)
    apply whole.prefix
    exact (List.prefix_cons_inj _).mpr ((List.prefix_cons_inj _).mpr (Text.stripRight_prefix _))

section

variable {options : Options} {depth : Nat} {header : Option Node} {row : Node} {cells rows : List Node}
  {alignments : List (Option Text)}
  {caption : Option Text} {width : Int} {before left : Context} {text : Text} {texts : List Text}

def cellsOf : Node → List Node
  | .tableRow cells => cells
  | _ => []

def spanOf : Node → Int
  | .tableCell _ span _ => span
  | _ => 0

def rowWidth (row : Node) : Int := ((cellsOf row).map spanOf).sum

theorem rowWidth_positive (filled : cellsOf row ≠ []) (spans : ∀ cell ∈ cellsOf row, 1 ≤ spanOf cell) :
    0 < rowWidth row := by
  apply List.sum_pos
  · intro span member
    obtain ⟨cell, inside, rfl⟩ := List.mem_map.mp member
    exact spans cell inside
  · exact mt List.map_eq_nil_iff.mp filled

theorem rowSpan_sum (spanned : rowSpan cells = .ok width) : (cells.map spanOf).sum = width := by
  induction cells generalizing width with
  | nil => exact Except.ok.inj spanned
  | cons cell rest ih =>
    cases cell with
    | tableCell content span alignment =>
      obtain ⟨others, behind, rfl⟩ := map_ok spanned
      simp only [List.map_cons, List.sum_cons, ih behind, spanOf]
    | _ => cases spanned

theorem bind_ok {α β : Type} {first : Except Failure α} {next : α → Except Failure β} {result : β}
    (ran : first >>= next = .ok result) : ∃ value, first = .ok value ∧ next value = .ok result := by
  cases first with
  | error failure => cases ran
  | ok value => exact ⟨value, rfl, ran⟩

theorem rowSpans_widths {spans : List Int} (spanned : rowSpans rows = .ok spans) :
    rows.map rowWidth = spans ∧ ∀ row ∈ rows, ∃ cells, row = .tableRow cells ∧ rowSpan cells = .ok (rowWidth row) := by
  induction rows generalizing spans with
  | nil => exact ⟨Except.ok.inj spanned, List.forall_mem_nil _⟩
  | cons row rest ih =>
    cases row with
    | tableRow cells =>
      obtain ⟨span, here, spanned⟩ := bind_ok spanned
      obtain ⟨others, later, rfl⟩ := map_ok spanned
      obtain ⟨widths, spans⟩ := ih later
      have own : rowWidth (.tableRow cells) = span := rowSpan_sum here
      exact ⟨by rw [List.map_cons, own, widths], List.forall_mem_cons.mpr ⟨⟨cells, rfl, own ▸ here⟩, spans⟩⟩
    | _ => cases spanned

theorem tableWidth_greatest (fits : tableWidth rows = .ok width) (some : rows ≠ []) :
    (rows.map rowWidth).max? = .some width ∧
      ∀ row ∈ rows, ∃ cells, row = .tableRow cells ∧ rowSpan cells = .ok (rowWidth row) := by
  obtain ⟨spans, spanned, fits⟩ := bind_ok fits
  obtain ⟨rfl, each⟩ := rowSpans_widths spanned
  refine ⟨?_, each⟩
  obtain ⟨first, others, rfl⟩ := List.exists_cons_of_ne_nil some
  rw [List.map_cons, List.max?_cons']
  exact congrArg _ (Except.ok.inj fits)

/-- Neither a table nor a reference, whose footnote may hold one. -/
def KeepsTable (node : Node) : Prop := ¬IsTable node ∧ ∀ identifier, node ≠ .footnoteReference identifier

theorem text_keeps_table (written : Text) : (Node.text written).Everywhere KeepsTable :=
  Node.everywhere_iff_forall.mpr ⟨⟨id, fun _ => nofun⟩, trivial⟩

/-- The table that was begun last stays the same. -/
def sameTable : Frame :=
  ⟨Node.Everywhere KeepsTable, fun _ => True, fun before after => after.tableColumns = before.tableColumns⟩

theorem sameTable_lawful (options : Options) : sameTable.Lawful options where
  refl _ := rfl
  trans first second := second.trans first
  kept _ _ := trivial
  part := by
    intro parent node admitted member
    rcases Inside.part (.inr .refl) member with ⟨written, rfl⟩ | inside
    · exact text_keeps_table written
    · exact admitted.inside inside
  note := by
    intro before identifier content node _ admitted
    exact absurd rfl (admitted.here.2 identifier)
  change := by
    rintro node change before admitted ⟨arises, -⟩ -
    cases change with
    | beginTable width =>
      cases node with
      | table => exact absurd trivial admitted.here.1
      | _ => exact arises.elim
    | _ => rfl
  entered _ _ := trivial
  inside _ _ same := same

theorem plain_children (options : Options) (depth : Nat) (nodes : List Node) :
    renderChildren options (renderFootnote options depth) nodes = nodes.map (Stage.plain options depth).child :=
  Stage.renderChildren_eq (.plain options depth) nodes

theorem cells_keep_table (options : Options) (depth : Nat) (before : Context)
    (plain : ∀ cell ∈ cells, cell.Everywhere KeepsTable) :
    ((Render.sequence ((renderChildren options (renderFootnote options depth) cells).map (·.rendered))).runIn
      before).2.tableColumns = before.tableColumns := by
  -- Footnotes and anchors may well change the context, which is why the frame is about the columns alone.
  have laws := sameTable_lawful options
  have takes : (Stage.plain options depth).Takes cells Laid
      (Render.sequence ((cells.map (Stage.plain options depth).child).map (·.rendered))) :=
    .children fun cell _ => follows options depth cell
  rw [plain_children]
  exact laws.takes takes (fun arises => laws.change (text_keeps_table []) arises) plain trivial

theorem cells_written (spans : ∀ cell ∈ cells, ∃ content span alignment, cell = .tableCell content span alignment)
    (ran : (Render.sequence ((renderChildren options (renderFootnote options depth) cells).map (·.rendered))).runIn
      before = (.ok texts, left)) :
    List.Forall₂ WritesCell (cells.map fun cell => spanMark (spanOf cell)) texts ∧ ∀ text ∈ texts, text.Trimmed := by
  induction cells generalizing before left texts with
  | nil =>
    rw [renderChildren] at ran
    obtain ⟨rfl, -⟩ := Render.runIn_pure_ok.mp ran
    exact ⟨.nil, List.forall_mem_nil _⟩
  | cons cell rest ih =>
    obtain ⟨⟨content, span, alignment, rfl⟩, others⟩ := List.forall_mem_cons.mp spans
    rw [renderChildren, List.map_cons] at ran
    obtain ⟨text, between, more, first, behind, rfl⟩ := Render.sequence_cons_ok.mp ran
    obtain ⟨written, trimmed⟩ := ih others behind
    simp only [renderNode] at first
    obtain ⟨line, inside, -, first⟩ := Render.runIn_bind_ok.mp first
    obtain ⟨rfl, -⟩ := Render.runIn_pure_ok.mp first
    refine ⟨.cons (cell_written span line) written, List.forall_mem_cons.mpr ⟨?_, trimmed⟩⟩
    exact (trimmed_bar (single_span span) _).1

/-- A row of the table: one bar for each of its cells, with the span of the cell before it, and one for each column
that the cells leave free. All together they take up the width. -/
structure FillsRow (width : Int) (row : Node) (line : Text) : Prop where
  bars : bars line =
    (cellsOf row).map (fun cell => spanMark (spanOf cell)) ++ List.replicate (width - rowWidth row).toNat []
  number : ((AsciiDoc.bars line).length : Int) = (cellsOf row).length + (width - rowWidth row)
  columns : (((AsciiDoc.bars line).map columnsOf).sum : Int) = width

theorem fillsRow_of_bars {line : Text} (spans : ∀ cell ∈ cellsOf row, 1 ≤ spanOf cell) (fits : rowWidth row ≤ width)
    (bars : bars line =
      (cellsOf row).map (fun cell => spanMark (spanOf cell)) ++ List.replicate (width - rowWidth row).toNat []) :
    FillsRow width row line := by
  have cells : ∀ cells : List Node, (∀ cell ∈ cells, 1 ≤ spanOf cell) →
      (((cells.map fun cell => spanMark (spanOf cell)).map columnsOf).sum : Int) = (cells.map spanOf).sum := by
    intro cells spans
    induction cells with
    | nil => rfl
    | cons cell rest ih =>
      obtain ⟨here, others⟩ := List.forall_mem_cons.mp spans
      have own := columnsOf_spanMark here
      have more := ih others
      simp only [List.map_cons, List.sum_cons] at more ⊢
      omega
  have free : ((List.replicate (width - rowWidth row).toNat []).map columnsOf).sum = (width - rowWidth row).toNat := by
    simp [columnsOf]
  refine ⟨bars, ?_, ?_⟩
  · rw [bars, List.length_append, List.length_map, List.length_replicate]
    omega
  · have own := cells (cellsOf row) spans
    rw [bars, List.map_append, List.sum_append, free]
    simp only [rowWidth] at fits ⊢
    omega

theorem tableRow_ran {children : List Child} (ran : (tableRow children).runIn before = (.ok text, left)) :
    ∃ texts span, (Render.sequence (children.map (·.rendered))).runIn before = (.ok texts, left) ∧
      rowSpan (children.map (·.node)) = .ok span ∧ text = Text.stripRight
        (Text.join [' '] (texts ++ List.replicate (left.tableColumns - span).toNat ['|'])) := by
  obtain ⟨texts, between, rendered, ran⟩ := Render.runIn_bind_ok.mp ran
  obtain ⟨context, after, got, ran⟩ := Render.runIn_bind_ok.mp ran
  obtain ⟨span, last, lifted, ran⟩ := Render.runIn_bind_ok.mp ran
  obtain ⟨written, rfl⟩ := Render.runIn_pure_ok.mp ran
  rw [Render.runIn_liftM] at lifted
  obtain ⟨spanned, rfl⟩ := Prod.mk.inj lifted
  obtain ⟨same, rfl⟩ := Prod.mk.inj got
  obtain rfl := Except.ok.inj same
  exact ⟨texts, span, rendered, spanned, written.symm⟩

theorem row_filled (spans : ∀ cell ∈ cells, 1 ≤ spanOf cell) (plain : ∀ cell ∈ cells, cell.Everywhere KeepsTable)
    (spanned : rowSpan cells = .ok (rowWidth (.tableRow cells))) (fits : rowWidth (.tableRow cells) ≤ width)
    (begun : before.tableColumns = width)
    (ran : (renderNode options (renderFootnote options depth) (.tableRow cells)).runIn before = (.ok text, left)) :
    FillsRow width (.tableRow cells) text ∧ left.tableColumns = width := by
  rw [renderNode] at ran
  obtain ⟨texts, span, rendered, own, rfl⟩ := tableRow_ran ran
  have nodes : (renderChildren options (renderFootnote options depth) cells).map (·.node) = cells := by
    rw [plain_children, Stage.nodes_eq]
  rw [nodes, spanned] at own
  obtain rfl := Except.ok.inj own
  have kept := cells_keep_table options depth before plain
  rw [rendered] at kept
  have columns : left.tableColumns = width := kept.trans begun
  obtain ⟨written, trimmed⟩ := cells_written (rowSpan_cells spanned) rendered
  obtain ⟨whole, -⟩ := filled_row trimmed (left.tableColumns - rowWidth (.tableRow cells)).toNat
  rw [whole, columns]
  refine ⟨fillsRow_of_bars spans fits ?_, rfl⟩
  have empty (missing : Nat) :
      List.Forall₂ WritesCell (List.replicate missing []) (List.replicate missing ['|']) := by
    induction missing with
    | zero => exact .nil
    | succ missing ih => exact .cons empty_cell ih
  exact bars_join (List.rel_append written (empty _))

theorem rows_filled (spans : ∀ row ∈ rows, ∀ cell ∈ cellsOf row, 1 ≤ spanOf cell)
    (plain : ∀ row ∈ rows, ∀ cell ∈ cellsOf row, cell.Everywhere KeepsTable)
    (shape : ∀ row ∈ rows, ∃ cells, row = .tableRow cells ∧ rowSpan cells = .ok (rowWidth row))
    (fits : ∀ row ∈ rows, rowWidth row ≤ width) (begun : before.tableColumns = width)
    (ran : (Render.sequence ((renderChildren options (renderFootnote options depth) rows).map (·.rendered))).runIn
      before = (.ok texts, left)) :
    List.Forall₂ (FillsRow width) rows texts ∧ left.tableColumns = width := by
  induction rows generalizing before left texts with
  | nil =>
    rw [renderChildren] at ran
    obtain ⟨rfl, rfl⟩ := Render.runIn_pure_ok.mp ran
    exact ⟨.nil, begun⟩
  | cons row rest ih =>
    rw [renderChildren, List.map_cons] at ran
    obtain ⟨text, between, more, first, behind, rfl⟩ := Render.sequence_cons_ok.mp ran
    obtain ⟨⟨cells, rfl, spanned⟩, others⟩ := List.forall_mem_cons.mp shape
    rw [List.forall_mem_cons] at spans plain fits
    obtain ⟨here, begun⟩ := row_filled spans.1 plain.1 spanned fits.1 begun first
    obtain ⟨later, begun⟩ := ih spans.2 plain.2 others fits.2 begun behind
    exact ⟨.cons here later, begun⟩

def captionLines (caption : Option Text) : List Text :=
  match caption.filter fun content => !content.isEmpty with
  | some content => ['.' :: content]
  | none => []

/-- The lines of a table. A blank line tells the header from the rows below it. -/
def tableLines (alignments : List (Option Text)) (caption : Option Text) (width : Int) (headerLines rowLines : List Text) :
    List Text :=
  captionLines caption ++ tableAttributes alignments width (!headerLines.isEmpty && rowLines.isEmpty) ++
    [tableDelimiter] ++ headerLines ++ (if !headerLines.isEmpty && !rowLines.isEmpty then [[]] else []) ++ rowLines ++
    [tableDelimiter]

theorem table_ran {header : Option Child} {rows : List Child}
    (ran : (table header rows alignments caption).runIn before = (.ok text, left)) :
    ∃ width headerLines rowLines between, tableWidth ((header.toList ++ rows).map (·.node)) = .ok width ∧
      (Render.sequence (header.toList.map (·.rendered))).runIn { before with tableColumns := width } =
        (.ok headerLines, between) ∧
      (Render.sequence (rows.map (·.rendered))).runIn between = (.ok rowLines, left) ∧
      text = Text.unlines (tableLines alignments caption width headerLines rowLines) := by
  obtain ⟨width, begun, measured, ran⟩ := Render.runIn_bind_ok.mp ran
  rw [Render.runIn_liftM] at measured
  obtain ⟨fits, rfl⟩ := Prod.mk.inj measured
  obtain ⟨_, begun, started, ran⟩ := Render.runIn_bind_ok.mp ran
  rw [Render.runIn_modify] at started
  obtain ⟨-, rfl⟩ := Prod.mk.inj started
  cases header with
  | none =>
    obtain ⟨_, between, first, ran⟩ := Render.runIn_bind_ok.mp ran
    obtain ⟨rfl, rfl⟩ := Render.runIn_pure_ok.mp first
    obtain ⟨rowLines, last, behind, ran⟩ := Render.runIn_bind_ok.mp ran
    obtain ⟨rfl, rfl⟩ := Render.runIn_pure_ok.mp ran
    refine ⟨width, [], rowLines, _, fits, rfl, behind, ?_⟩
    cases shown : caption.filter fun content => !content.isEmpty <;> simp [tableLines, captionLines, shown]
  | some row =>
    obtain ⟨line, between, first, ran⟩ := Render.runIn_bind_ok.mp ran
    obtain ⟨_, after, second, ran⟩ := Render.runIn_bind_ok.mp ran
    obtain ⟨rfl, rfl⟩ := Render.runIn_pure_ok.mp second
    obtain ⟨rowLines, last, behind, ran⟩ := Render.runIn_bind_ok.mp ran
    obtain ⟨rfl, rfl⟩ := Render.runIn_pure_ok.mp ran
    refine ⟨width, [line], rowLines, _, fits, Render.runIn_bind_ok.mpr ⟨line, _, first, rfl⟩, behind, ?_⟩
    have same := Render.sequence_length behind
    rw [List.length_map] at same
    cases rows with
    | nil =>
      obtain rfl := List.eq_nil_of_length_eq_zero same
      cases shown : caption.filter fun content => !content.isEmpty <;> simp [tableLines, captionLines, shown]
    | cons row others =>
      obtain ⟨rowLine, otherLines, rfl⟩ := List.exists_cons_of_length_eq_add_one same
      cases shown : caption.filter fun content => !content.isEmpty <;> simp [tableLines, captionLines, shown]

/-- The entries of the list of columns that a line of block attributes begins with. -/
def columnEntries (line : Text) : Option (List Text) :=
  let key := "[cols=\"".toList
  if key.isPrefixOf line then some (List.splitOn ',' ((line.drop key.length).takeWhile (· ≠ '"'))) else none

theorem columnSpecs_entries (alignments : List (Option Text)) (positive : 0 < width) (rest : Text) :
    ∃ entries, columnEntries ("[cols=\"".toList ++ columnSpecs alignments width ++ '"' :: rest) = some entries ∧
      (entries.length : Int) = width := by
  let specs := (List.range width.toNat).map fun column => alignmentSign (alignments[column]?.getD none) ++ ['1']
  have sign (alignment : Option Text) : ∀ c ∈ alignmentSign alignment ++ ['1'], c ≠ '"' ∧ c ≠ ',' := by
    cases alignment with
    | none => simp [alignmentSign]
    | some name =>
      simp only [alignmentSign]
      split
      · simp
      split
      · simp
      split <;> simp
  have each : ∀ spec ∈ specs, ∀ c ∈ spec, c ≠ '"' ∧ c ≠ ',' := by
    intro spec member
    obtain ⟨column, -, rfl⟩ := List.mem_map.mp member
    exact sign _
  have unquoted : ∀ c ∈ columnSpecs alignments width, decide (c ≠ '"') = true := by
    intro c member
    rcases Text.mem_join member with between | ⟨spec, listed, inside⟩
    · obtain rfl := List.mem_singleton.mp between
      decide
    · exact decide_eq_true (each spec listed c inside).1
  have filled : specs ≠ [] := by
    apply List.ne_nil_of_length_pos
    rw [List.length_map, List.length_range]
    omega
  refine ⟨specs, ?_, ?_⟩
  · simp only [columnEntries, List.append_assoc]
    rw [if_pos (List.isPrefixOf_iff_prefix.mpr (List.prefix_append _ _)), List.drop_left,
      List.takeWhile_append_of_pos unquoted, List.takeWhile_cons_of_neg (by decide), List.append_nil]
    exact congrArg _ (List.splitOn_intercalate ',' (fun spec listed inside => (each spec listed ',' inside).2 rfl) filled)
  · rw [List.length_map, List.length_range]
    omega

/-- The columns are listed if and only if one of them has an alignment. -/
theorem columns_listed (alignments : List (Option Text)) (positive : 0 < width) (headerOnly : Bool) :
    let listed := (tableAttributes alignments width headerOnly).findSome? columnEntries
    (listed.isSome ↔ ∃ name, some name ∈ alignments ∧ name ≠ []) ∧
      ∀ entries, listed = some entries → (entries.length : Int) = width := by
  intro listed
  have aligned : hasAlignment alignments = true ↔ ∃ name, some name ∈ alignments ∧ name ≠ [] := by
    rw [hasAlignment, List.any_eq_true]
    constructor
    · rintro ⟨alignment, member, named⟩
      obtain ⟨name, rfl, filled⟩ := (Option.any_eq_true ..).mp named
      exact ⟨name, member, by simpa using filled⟩
    · rintro ⟨name, member, filled⟩
      exact ⟨some name, member, by simpa using filled⟩
  rw [← aligned]
  have line (rest : Text) (found : tableAttributes alignments width headerOnly =
      ["[cols=\"".toList ++ columnSpecs alignments width ++ '"' :: rest]) :
      listed.isSome ∧ ∀ entries, listed = some entries → (entries.length : Int) = width := by
    obtain ⟨entries, read, number⟩ := columnSpecs_entries alignments positive rest
    have same : listed = some entries := by
      simp only [listed, found, List.findSome?_cons, read]
    rw [same]
    refine ⟨rfl, ?_⟩
    intro others also
    exact Option.some.inj also ▸ number
  cases given : hasAlignment alignments with
  | true =>
    cases headerOnly with
    | true =>
      obtain ⟨found, number⟩ := line ",options=\"header\"]".toList (by simp [tableAttributes, given, Text.join])
      exact ⟨iff_of_true found rfl, number⟩
    | false =>
      obtain ⟨found, number⟩ := line "]".toList (by simp [tableAttributes, given, Text.join])
      exact ⟨iff_of_true found rfl, number⟩
  | false =>
    have none : listed = .none := by
      cases headerOnly with
      | true => simp [listed, tableAttributes, given, Text.join, columnEntries]
      | false => simp [listed, tableAttributes, given]
    rw [none]
    refine ⟨by simp, ?_⟩
    intro entries found
    cases found

/-- All rows of a table take up the columns of its widest row, whatever their cells hold, as long as no other table is
begun within them. The list of columns has as many entries. -/
theorem rows_span_alike (options : Options) (depth : Nat) {header : Option Node} {rows : List Node}
    {alignments : List (Option Text)} {caption : Option Text} {before left : Context} {text : Text}
    (filled : ∃ row ∈ header.toList ++ rows, cellsOf row ≠ [])
    (spans : ∀ row ∈ header.toList ++ rows, ∀ cell ∈ cellsOf row, 1 ≤ spanOf cell)
    (plain : ∀ row ∈ header.toList ++ rows, ∀ cell ∈ cellsOf row, cell.Everywhere KeepsTable)
    (ran : (renderNode options (renderFootnote options depth) (.table header rows alignments caption)).runIn before =
      (.ok text, left)) :
    ∃ width headerLines rowLines, ((header.toList ++ rows).map rowWidth).max? = some width ∧
      text = Text.unlines (tableLines alignments caption width headerLines rowLines) ∧
      List.Forall₂ (FillsRow width) header.toList headerLines ∧ List.Forall₂ (FillsRow width) rows rowLines ∧
      ∀ headerOnly, let listed := (tableAttributes alignments width headerOnly).findSome? columnEntries
        (listed.isSome ↔ ∃ name, some name ∈ alignments ∧ name ≠ []) ∧
          ∀ entries, listed = some entries → (entries.length : Int) = width := by
  have whole : ∃ first others, renderNode options (renderFootnote options depth) (.table header rows alignments caption) =
      table first others alignments caption ∧
      first.toList = renderChildren options (renderFootnote options depth) header.toList ∧
      others = renderChildren options (renderFootnote options depth) rows := by
    cases header with
    | none => exact ⟨none, _, by rw [renderNode], rfl, rfl⟩
    | some row => exact ⟨some _, _, by rw [renderNode], rfl, rfl⟩
  obtain ⟨first, others, same, own, rfl⟩ := whole
  rw [same] at ran
  obtain ⟨width, headerLines, rowLines, between, fits, above, below, rfl⟩ := table_ran ran
  rw [own] at above fits
  have nodes : (renderChildren options (renderFootnote options depth) header.toList ++
      renderChildren options (renderFootnote options depth) rows).map (·.node) = header.toList ++ rows := by
    rw [List.map_append, plain_children, plain_children, Stage.nodes_eq, Stage.nodes_eq]
  rw [nodes] at fits
  obtain ⟨widest, inWidest, content⟩ := filled
  obtain ⟨greatest, shape⟩ := tableWidth_greatest fits (List.ne_nil_of_mem inWidest)
  have bounded : ∀ row ∈ header.toList ++ rows, rowWidth row ≤ width := fun row member =>
    (List.max?_eq_some_iff.mp greatest).2 _ (List.mem_map_of_mem member)
  have positive : 0 < width :=
    Int.lt_of_lt_of_le (rowWidth_positive content (spans widest inWidest)) (bounded widest inWidest)
  rw [List.forall_mem_append] at spans plain shape bounded
  obtain ⟨headerFilled, begun⟩ := rows_filled spans.1 plain.1 shape.1 bounded.1 rfl above
  obtain ⟨rowsFilled, -⟩ := rows_filled spans.2 plain.2 shape.2 bounded.2 begun below
  exact ⟨width, headerLines, rowLines, greatest, rfl, headerFilled, rowsFilled, columns_listed alignments positive⟩

/-- A header and two rows, one of them with a cell of two columns that holds a bar and ends in a backslash. -/
def measuredHeader : Node := .tableRow [.tableCell [.text "x".toList] 1 none]

def measuredRows : List Node :=
  [.tableRow [.tableCell [.text "a|b\\".toList] 2 none, .tableCell [.code "c|".toList] 1 none],
    .tableRow [.tableCell [.strong [.text "d".toList]] 1 none]]

theorem rows_span_alike_measured :
    let text := ".Sums\n[cols=\"^1,1,1\"]\n|===\n| x | |\n\n2+| a\\|b\\ | `c\\|`\n| *d* | |\n|===".toList
    let alignments := [some "center".toList]
    let node : Node := .table (some measuredHeader) measuredRows alignments (some "Sums".toList)
    let rows := [measuredHeader] ++ measuredRows
    (∃ row ∈ rows, cellsOf row ≠ []) ∧ (∀ row ∈ rows, ∀ cell ∈ cellsOf row, 1 ≤ spanOf cell) ∧
    (∀ row ∈ rows, ∀ cell ∈ cellsOf row, cell.Everywhere KeepsTable) ∧
    ((renderNode {} (renderFootnote {} 0) node).runIn { attributes := [] }).1 = .ok text ∧
    ∃ headerLines rowLines, text = Text.unlines (tableLines alignments (some "Sums".toList) 3 headerLines rowLines) ∧
      List.Forall₂ (FillsRow 3) [measuredHeader] headerLines ∧ List.Forall₂ (FillsRow 3) measuredRows rowLines := by
  intro text alignments node rows
  have filled : ∃ row ∈ rows, cellsOf row ≠ [] := ⟨measuredHeader, List.mem_cons_self, List.cons_ne_nil _ _⟩
  have spans : ∀ row ∈ rows, ∀ cell ∈ cellsOf row, 1 ≤ spanOf cell := by
    simp [rows, measuredHeader, measuredRows, cellsOf, spanOf]
  have plain : ∀ row ∈ rows, ∀ cell ∈ cellsOf row, cell.Everywhere KeepsTable := by
    simp [rows, measuredHeader, measuredRows, cellsOf, Node.everywhere_iff_forall, Node.children, KeepsTable, IsTable]
  have ran : ((renderNode {} (renderFootnote {} 0) node).runIn { attributes := [] }).1 = .ok text := rfl
  obtain ⟨width, headerLines, rowLines, greatest, same, headerFilled, rowsFilled, -⟩ :=
    rows_span_alike {} 0 filled spans plain (Prod.ext ran rfl)
  obtain rfl : 3 = width := Option.some.inj greatest
  exact ⟨filled, spans, plain, ran, headerLines, rowLines, same, headerFilled, rowsFilled⟩

end

end AsciiDoc

end Adocify
