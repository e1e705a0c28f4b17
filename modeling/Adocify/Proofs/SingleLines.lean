import Adocify.Proofs.DocumentTitles
import Adocify.Proofs.LineBreaks
import Adocify.Proofs.SectionIds

/-! Constructs that have to stay on one line: headings, titles, terms and the rows of tables. None of them takes a
line break out of its content, so that each is on one line if and only if its content is. -/

namespace Adocify.AsciiDoc

open Node (Straight)

variable {options : Options} {depth : Nat} {content nodes : List Node} {before left : Context} {text : Text}

theorem inline_breaks (straight : ∀ node ∈ content, Straight node)
    (ran : (inlineContent options (renderChildren options (renderFootnote options depth) content)).runIn before =
      (.ok text, left)) :
    '\n' ∈ text ↔ BreaksWithin options content := by
  let stage : Stage := { options, depth, own := fun _ => True, refuses := fun _ => True }
  have accurate : ∀ part ∈ inlineParts content, stage.Accurate part := by
    intro part member
    exact Stage.straight_accurate (inlineParts_straight straight part member)
  rw [stage.renderChildren_eq] at ran
  exact Stage.inlineContent_breaks accurate straight ran

/-- The texts that ids are made of have no line break in them. -/
def StraightIds (options : Options) : Prop :=
  (∀ start ∈ options.idStart, '\n' ∉ start) ∧ ∀ separator ∈ options.idSeparator, '\n' ∉ separator

theorem sectionId?_single (ids : StraightIds options) {id : Text}
    (ended : sectionId? options content = .ok (some id)) : '\n' ∉ id := by
  simp only [sectionId?] at ended
  split at ended
  · cases ended
  next words =>
    split at ended
    · cases ended
    · cases ended
    next separator start separated started =>
      obtain rfl := Option.some.inj (Except.ok.inj ended)
      have joined : '\n' ∉ Text.join separator (titleWords content) := by
        rw [Text.newline_join (ids.2 separator separated)]
        rintro ⟨word, member, broken⟩
        exact absurd ((titleWords_words content word member).2 _ broken) (by decide)
      exact List.mem_append.not.mpr (not_or.mpr ⟨ids.1 start started, joined⟩)

theorem idLine_single (ids : StraightIds options) {named : List Text} (ended : idLine options content = .ok named) :
    named.length ≤ 1 ∧ ∀ line ∈ named, '\n' ∉ line := by
  simp only [idLine] at ended
  split at ended
  · obtain rfl := Except.ok.inj ended
    exact ⟨Nat.zero_le 1, List.forall_mem_nil _⟩
  · obtain ⟨found, written, rfl⟩ := map_ok ended
    split
    · exact ⟨Nat.zero_le 1, List.forall_mem_nil _⟩
    next id =>
      split
      · exact ⟨Nat.zero_le 1, List.forall_mem_nil _⟩
      · refine ⟨Nat.le_refl 1, List.forall_mem_singleton.mpr ?_⟩
        simpa using sectionId?_single ids written

theorem heading_lines (straight : ∀ node ∈ content, Straight node) (ids : StraightIds options) {level : Whole}
    (ran : (renderNode options (renderFootnote options depth) (.heading level content)).runIn before =
      (.ok text, left)) :
    ∃ mark named title, idLine options content = .ok named ∧ named.length ≤ 1 ∧ mark.level = level ∧
      text = Text.unlines (headingLines options mark named title) ∧
      (Text.lines text = headingLines options mark named title ↔ ¬BreaksWithin options content) := by
  rw [renderNode] at ran
  obtain ⟨title, between, named, mark, line, ended, same, -, rfl⟩ := heading_marked ran
  obtain ⟨short, single⟩ := idLine_single ids ended
  refine ⟨mark, named, title, ended, short, same, rfl, ?_⟩
  have some : headingLines options mark named title ≠ [] := List.append_ne_nil_of_right_ne_nil _ (List.cons_ne_nil _ _)
  have marked : ∀ line ∈ (if mark.discrete then ["[discrete]".toList] else []), '\n' ∉ line := by
    split <;> decide
  have markers : '\n' ∉ List.replicate (markerCount options mark.level).toNat '=' := by simp
  rw [Text.lines_unlines_iff some, headingLines, List.forall_mem_append, List.forall_mem_append,
    List.forall_mem_singleton, and_iff_right ⟨marked, single⟩, ← inline_breaks straight line]
  simp [markers]

theorem title_lines (straight : ∀ node ∈ content, Straight node) {attributes : Attributes}
    (opens : OpensWith nodes content)
    (rendered : (render options attributes (.document nodes)).outcome = .ok text) :
    ∃ parts title, (renderParts options attributes nodes).1 = .ok parts ∧
      (title ≠ [] → parts.header.head? = some (titleLine title)) ∧
      (Text.lines (titleLine title) = [titleLine title] ↔ ¬BreaksWithin options content) := by
  obtain ⟨own, parts, yielded, ended, -, header⟩ := render_parts rendered
  obtain ⟨title, after, ran, same⟩ := opening_title opens yielded
  refine ⟨parts, title, ended, ?_, ?_⟩
  · intro filled
    rw [header, same, Option.some_or]
    exact head_headerLines filled _
  · rw [Text.lines_self_iff, single_titleLine, ← inline_breaks straight ran]

theorem term_lines (straight : ∀ node ∈ content, Straight node)
    (ran : (renderNode options (renderFootnote options depth) (.definitionTerm content)).runIn before =
      (.ok text, left)) :
    ∃ term, text = term ++ "::".toList ∧ (Text.lines text = [text] ↔ ¬BreaksWithin options content) := by
  rw [renderNode] at ran
  obtain ⟨term, between, line, ran⟩ := Render.runIn_bind_ok.mp ran
  obtain ⟨rfl, -⟩ := Render.runIn_pure_ok.mp ran
  refine ⟨term, rfl, ?_⟩
  rw [Text.lines_self_iff, ← inline_breaks straight line]
  simp

/-- The line that a cell was written with, which is broken if its content is. -/
def CellLine (options : Options) (depth : Nat) (cell : Node) (line : Text) : Prop :=
  ∃ content span alignment before shown after, cell = .tableCell content span alignment ∧
    (inlineContent options (renderChildren options (renderFootnote options depth) content)).runIn before =
      (.ok shown, after) ∧
    line = Text.substitute '|' ['\\', '|'] shown ∧ ('\n' ∈ line ↔ BreaksWithin options content)

theorem rowSpan_cells {cells : List Node} {width : Int} (spanned : rowSpan cells = .ok width) :
    ∀ cell ∈ cells, ∃ content span alignment, cell = .tableCell content span alignment := by
  induction cells generalizing width with
  | nil => exact List.forall_mem_nil _
  | cons cell rest ih =>
    cases cell with
    | tableCell content span alignment =>
      obtain ⟨others, behind, -⟩ := map_ok spanned
      exact List.forall_mem_cons.mpr ⟨⟨content, span, alignment, rfl⟩, ih behind⟩
    | _ => cases spanned

theorem single_span (span : Int) : '\n' ∉ (if span > 1 then Text.ofInt span ++ ['+'] else []) := by
  have digits := single_ofInt span
  split
  · simpa using digits
  · exact List.not_mem_nil

/-- The bar before the line of a cell is not cut off, only the end of the line is. -/
theorem trimmed_bar {lead : Text} (single : '\n' ∉ lead) (line : Text) :
    (Text.stripRight (lead ++ "| ".toList ++ line)).Trimmed ∧
      ('\n' ∈ Text.stripRight (lead ++ "| ".toList ++ line) ↔ '\n' ∈ Text.stripRight line) := by
  have barred : Text.stripRight (lead ++ "| ".toList) = lead ++ ['|'] := Text.stripRight_append lead _
  have whole := Text.stripRight_append (lead ++ "| ".toList) line
  rw [barred] at whole
  refine ⟨⟨?_, Text.stripRight_again _⟩, ?_⟩
  · rw [whole]
    split <;> simp
  · rw [whole]
    split
    next nothing => simp [nothing, single]
    next => simp [single]

theorem cells_lines {cells : List Node} {texts : List Text}
    (straight : ∀ cell ∈ cells, ∀ node ∈ cell.children, Straight node)
    (spans : ∀ cell ∈ cells, ∃ content span alignment, cell = .tableCell content span alignment)
    (ran : (Render.sequence ((renderChildren options (renderFootnote options depth) cells).map (·.rendered))).runIn
      before = (.ok texts, left)) :
    ∃ contents, List.Forall₂ (CellLine options depth) cells contents ∧ (∀ text ∈ texts, text.Trimmed) ∧
      ((∃ text ∈ texts, '\n' ∈ text) ↔ ∃ line ∈ contents, '\n' ∈ Text.stripRight line) := by
  induction cells generalizing before left texts with
  | nil =>
    rw [renderChildren] at ran
    obtain ⟨rfl, -⟩ := Render.runIn_pure_ok.mp ran
    exact ⟨[], .nil, List.forall_mem_nil _, by simp⟩
  | cons cell rest ih =>
    obtain ⟨⟨content, span, alignment, rfl⟩, others⟩ := List.forall_mem_cons.mp spans
    obtain ⟨here, later⟩ := List.forall_mem_cons.mp straight
    rw [renderChildren, List.map_cons] at ran
    obtain ⟨text, between, first, ran⟩ := Render.runIn_bind_ok.mp ran
    obtain ⟨more, last, behind, ran⟩ := Render.runIn_bind_ok.mp ran
    obtain ⟨rfl, -⟩ := Render.runIn_pure_ok.mp ran
    obtain ⟨contents, cells, trimmed, broken⟩ := ih later others behind
    simp only [renderNode] at first
    obtain ⟨line, inside, written, first⟩ := Render.runIn_bind_ok.mp first
    obtain ⟨rfl, -⟩ := Render.runIn_pure_ok.mp first
    have breaks : '\n' ∈ Text.substitute '|' ['\\', '|'] line ↔ BreaksWithin options content :=
      (Text.newline_substitute (by decide) (by decide)).trans (inline_breaks here written)
    obtain ⟨barred, single⟩ := trimmed_bar (single_span span) (Text.substitute '|' ['\\', '|'] line)
    have fits : CellLine options depth (.tableCell content span alignment) (Text.substitute '|' ['\\', '|'] line) :=
      ⟨content, span, alignment, before, line, inside, rfl, written, rfl, breaks⟩
    refine ⟨_, .cons fits cells, List.forall_mem_cons.mpr ⟨barred, trimmed⟩, ?_⟩
    rw [List.exists_mem_cons_iff, List.exists_mem_cons_iff]
    exact or_congr single broken

/-- The bars that a short row is filled up with stand on the line of its cells. -/
theorem filled_row {cells : List Text} (trimmed : ∀ cell ∈ cells, cell.Trimmed) (missing : Nat) :
    let row := Text.join [' '] (cells ++ List.replicate missing ['|'])
    Text.stripRight row = row ∧ ('\n' ∈ row ↔ ∃ cell ∈ cells, '\n' ∈ cell) := by
  intro row
  have bar : ∀ part ∈ List.replicate missing ['|'], part = ['|'] := fun part member => (List.mem_replicate.mp member).2
  constructor
  · apply Text.trimmed_join
    intro part member
    rcases List.mem_append.mp member with cell | fill
    · exact trimmed part cell
    · obtain rfl := bar part fill
      exact ⟨List.cons_ne_nil _ _, rfl⟩
  · rw [Text.newline_join (by decide)]
    constructor
    · intro ⟨part, member, inside⟩
      rcases List.mem_append.mp member with cell | fill
      · exact ⟨part, cell, inside⟩
      · obtain rfl := bar part fill
        exact absurd inside (by decide)
    · intro ⟨cell, member, inside⟩
      exact ⟨cell, List.mem_append_left _ member, inside⟩

theorem row_lines {cells : List Node} (straight : ∀ cell ∈ cells, ∀ node ∈ cell.children, Straight node)
    (ran : (renderNode options (renderFootnote options depth) (.tableRow cells)).runIn before = (.ok text, left)) :
    ∃ contents, List.Forall₂ (CellLine options depth) cells contents ∧
      (Text.lines text = [text] ↔ ∀ line ∈ contents, '\n' ∉ Text.stripRight line) := by
  rw [renderNode] at ran
  obtain ⟨texts, between, written, ran⟩ := Render.runIn_bind_ok.mp ran
  obtain ⟨context, _, -, ran⟩ := Render.runIn_bind_ok.mp ran
  obtain ⟨width, last, spanned, ran⟩ := Render.runIn_bind_ok.mp ran
  obtain ⟨rfl, -⟩ := Render.runIn_pure_ok.mp ran
  let stage : Stage := { options, depth, own := fun _ => True, refuses := fun _ => True }
  have nodes : (renderChildren options (renderFootnote options depth) cells).map (·.node) = cells := by
    rw [stage.renderChildren_eq, stage.nodes_eq]
  rw [nodes, Render.runIn_liftM] at spanned
  have spans := rowSpan_cells (congrArg Prod.fst spanned)
  obtain ⟨contents, fits, trimmed, broken⟩ := cells_lines straight spans written
  refine ⟨contents, fits, ?_⟩
  obtain ⟨kept, breaks⟩ := filled_row trimmed (context.tableColumns - width).toNat
  rw [Text.lines_self_iff, kept, breaks, broken]
  simp only [not_exists, not_and]

/-- If no inline element's own texts are broken, then nothing but the line breaks that are shown within the content
breaks the line of a heading, a title or a term, and each of those does. Above the line of a heading there are at most
two others. What breaks a row is within a cell, and more than blanks follows it there. A footnote never breaks a line,
whatever is in it. -/
theorem lines_single_unless_broken (options : Options) (depth : Nat) :
    (∀ content, (∀ node ∈ content, Straight node) →
      (∀ level before text left, StraightIds options →
        (renderNode options (renderFootnote options depth) (.heading level content)).runIn before = (.ok text, left) →
        ∃ mark named title, idLine options content = .ok named ∧ named.length ≤ 1 ∧ mark.level = level ∧
          text = Text.unlines (headingLines options mark named title) ∧
          (Text.lines text = headingLines options mark named title ↔ ¬BreaksWithin options content)) ∧
      (∀ attributes nodes text, OpensWith nodes content →
        (render options attributes (.document nodes)).outcome = .ok text →
        ∃ parts title, (renderParts options attributes nodes).1 = .ok parts ∧
          (title ≠ [] → parts.header.head? = some (titleLine title)) ∧
          (Text.lines (titleLine title) = [titleLine title] ↔ ¬BreaksWithin options content)) ∧
      ∀ before text left,
        (renderNode options (renderFootnote options depth) (.definitionTerm content)).runIn before = (.ok text, left) →
        ∃ term, text = term ++ "::".toList ∧ (Text.lines text = [text] ↔ ¬BreaksWithin options content)) ∧
    ∀ cells before text left, (∀ cell ∈ cells, ∀ node ∈ cell.children, Straight node) →
      (renderNode options (renderFootnote options depth) (.tableRow cells)).runIn before = (.ok text, left) →
      ∃ contents, List.Forall₂ (CellLine options depth) cells contents ∧
        (Text.lines text = [text] ↔ ∀ line ∈ contents, '\n' ∉ Text.stripRight line) := by
  refine ⟨fun content straight => ⟨?_, ?_, ?_⟩, ?_⟩
  · intro level before text left ids ran
    exact heading_lines straight ids ran
  · intro attributes nodes text opens rendered
    exact title_lines straight opens rendered
  · intro before text left ran
    exact term_lines straight ran
  · intro cells before text left straight ran
    exact row_lines straight ran

def joined : Options := { wrap := .none }

def notedLine : List Node :=
  [.text "a ".toList, .emphasis [.text "b".toList, .lineBreak true, .text "c".toList], .footnoteReference ['n']]

/-- A footnote of two lines. -/
def note : List Node := [.paragraph [.text "x".toList, .lineBreak false, .text "y".toList]]

def notedContext : Context := { attributes := [], tableColumns := 2, footnotes := [(['n'], note)] }

def notedDocument : List Node := [.heading (.number 1) notedLine, .footnoteDefinition ['n'] note]

theorem notedLine_straight : ∀ node ∈ notedLine, Straight node := by
  simp [notedLine, Node.everywhere_iff_forall, Node.IsStraight, Node.children]

def notedText : Text := "a __b c__footnote:n[x + y]".toList

theorem lines_single_unless_broken_note :
    let run (node : Node) := (renderNode joined (renderFootnote joined 1) node).runIn notedContext
    let cell : Node := .tableCell notedLine 1 none
    StraightIds joined ∧ OpensWith notedDocument notedLine ∧ ¬BreaksWithin joined notedLine ∧
    (run (.heading (.number 2) notedLine)).1 = .ok ("== ".toList ++ notedText) ∧
    (∃ mark title, Text.lines ("== ".toList ++ notedText) = headingLines joined mark [] title) ∧
    (run (.definitionTerm notedLine)).1 = .ok (notedText ++ "::".toList) ∧
    (run (.tableRow [cell])).1 = .ok ("| ".toList ++ notedText ++ " |".toList) ∧
    (∃ line, CellLine joined 1 cell line ∧ '\n' ∉ Text.stripRight line) ∧
    (render joined [] (.document notedDocument)).outcome = .ok ("= ".toList ++ notedText ++ ['\n']) ∧
    ∃ title, Text.lines (titleLine title) = [titleLine title] := by
  intro run cell
  have ids : StraightIds joined := by
    constructor <;> simp [joined]
  have opens : OpensWith notedDocument notedLine := ⟨[], .number 1, _, rfl, List.forall_mem_nil _, rfl⟩
  have heading : (run (.heading (.number 2) notedLine)).1 = .ok ("== ".toList ++ notedText) := by decide +kernel
  have term : (run (.definitionTerm notedLine)).1 = .ok (notedText ++ "::".toList) := by decide +kernel
  have row : (run (.tableRow [cell])).1 = .ok ("| ".toList ++ notedText ++ " |".toList) := by decide +kernel
  have document : (render joined [] (.document notedDocument)).outcome = .ok ("= ".toList ++ notedText ++ ['\n']) := by
    decide +kernel
  obtain ⟨constructs, rows⟩ := lines_single_unless_broken joined 1
  obtain ⟨headings, titles, terms⟩ := constructs notedLine notedLine_straight
  obtain ⟨_, -, termLines⟩ := terms _ _ _ (Prod.ext term rfl)
  have unbroken : ¬BreaksWithin joined notedLine := termLines.mp (by decide)
  obtain ⟨mark, named, title, written, -, -, -, headingLine⟩ := headings _ _ _ _ ids (Prod.ext heading rfl)
  obtain rfl : [] = named := Except.ok.inj written
  obtain ⟨parts, shown, -, -, titleLine⟩ := titles _ _ _ opens document
  have plain : ∀ part ∈ [cell], ∀ node ∈ Node.children part, Straight node :=
    List.forall_mem_singleton.mpr notedLine_straight
  obtain ⟨contents, cells, rowLine⟩ := rows [cell] _ _ _ plain (Prod.ext row rfl)
  cases cells with
  | @cons _ line _ _ fits none =>
    have single := rowLine.mp (by decide) line List.mem_cons_self
    exact ⟨ids, opens, unbroken, heading, ⟨mark, title, headingLine.mpr unbroken⟩, term, row, ⟨line, fits, single⟩,
      document, shown, titleLine.mpr unbroken⟩

def brokenRow : Node :=
  .tableRow [.tableCell [.text "a".toList, .htmlInline "<br>".toList, .text "b".toList] 1 none,
    .tableCell [.text "c".toList] 1 none]

/-- Two lines each: a title and a heading of two source lines, a term and a row with line breaks in them. -/
theorem constructs_broken :
    let soft : List Node := [.text "a".toList, .lineBreak true, .text "b".toList]
    let hard : List Node := [.text "a".toList, .lineBreak false, .text "b".toList]
    let run (node : Node) := ((renderNode {} (renderFootnote {} 0) node).runIn { attributes := [] }).1.map Text.lines
    (renderParts {} [] [.heading (.number 1) soft]).1.map (fun parts => Text.lines (Text.unlines parts.header)) =
      .ok ["= a".toList, "b".toList] ∧
    run (.heading (.number 2) soft) = .ok ["== a".toList, "b".toList] ∧
    run (.definitionTerm hard) = .ok ["a +".toList, "b::".toList] ∧
    run brokenRow = .ok ["| a +".toList, "b | c".toList] ∧
    (render {} [] (.document [.table none [brokenRow] [] none])).outcome =
      .ok "|===\n| a +\nb | c\n|===\n".toList := by
  decide +kernel

end Adocify.AsciiDoc
