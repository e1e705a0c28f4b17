import Adocify.AsciiDoc.Render
import Adocify.Proofs.RenderInline

/-! Blocks under a comparison. Which blocks drop out, how items and rows are put together and which
sections are entered depends on the tree, on the part of the context that both runs share, and on
whether a text is empty. -/

namespace Adocify.AsciiDoc

theorem Interchangeable.sameTexts {text : Text → Text → Prop} (laws : Interchangeable text) (texts : List Text) :
    List.Forall₂ text texts texts :=
  List.forall₂_same.mpr fun content _ => laws.refl content

theorem Interchangeable.present {text : Text → Text → Prop} (laws : Interchangeable text) {first second : List Text}
    (texts : List.Forall₂ text first second) :
    List.Forall₂ text (first.filter fun content => !content.isEmpty) (second.filter fun content => !content.isEmpty) := by
  induction texts with
  | nil => exact .nil
  | cons same rest ih =>
    simp only [List.filter_cons, laws.isEmpty same]
    split
    · exact .cons same ih
    · exact ih

theorem idLine_failure {options : Options} {content : List Node} {failure : Failure}
    (failed : idLine options content = .error failure) : failure = .misplaced ∨ failure = .illTyped := by
  simp only [idLine, sectionId?] at failed
  split at failed
  · cases failed
  split at failed
  · cases failed
  · split at failed <;> cases failed <;> simp

theorem rowSpan_failure {cells : List Node} {failure : Failure} (failed : rowSpan cells = .error failure) :
    failure = .misplaced := by
  fun_induction rowSpan cells with
  | case1 => cases failed
  | case2 content span alignment rest ih =>
    cases found : rowSpan rest with
    | ok width => simp [found, Except.map] at failed
    | error other =>
      obtain rfl : other = failure := by simpa [found, Except.map] using failed
      exact ih found
  | case3 => cases failed; rfl

theorem rowSpans_failure {rows : List Node} {failure : Failure} (failed : rowSpans rows = .error failure) :
    failure = .misplaced := by
  fun_induction rowSpans rows with
  | case1 => cases failed
  | case2 cells rest ih =>
    cases here : rowSpan cells with
    | error other =>
      obtain rfl : other = failure := by simpa [here, bind, Except.bind] using failed
      exact rowSpan_failure here
    | ok width =>
      cases others : rowSpans rest with
      | error other =>
        obtain rfl : other = failure := by simpa [here, others, bind, Except.bind] using failed
        exact ih others
      | ok widths => simp [here, others, bind, Except.bind, pure, Except.pure] at failed
  | case3 => cases failed; rfl

theorem tableWidth_failure {rows : List Node} {failure : Failure} (failed : tableWidth rows = .error failure) :
    failure = .misplaced := by
  cases found : rowSpans rows with
  | error other =>
    obtain rfl : other = failure := by simpa [tableWidth, found, bind, Except.bind] using failed
    exact rowSpans_failure found
  | ok widths => cases widths <;> simp [tableWidth, found, bind, Except.bind, pure, Except.pure] at failed

namespace Comparison.Lawful

variable {comparison : Comparison} {options : Options} {wrap : Wrap} (laws : comparison.Lawful options wrap)

include laws

theorem renderPresent {first second : List Child} (siblings : comparison.Siblings first second) :
    comparison.Agree (List.Forall₂ comparison.text) (Child.renderPresent first) (Child.renderPresent second) :=
  .bind (.sequence siblings.rendered) fun _ _ texts => .pure (laws.text.present texts)

theorem splitAdmonition {first second : List Child} (siblings : comparison.Siblings first second) :
    Option.Rel (fun found other => found.1 = other.1 ∧ comparison.Siblings found.2 other.2)
      (splitAdmonition (·.node) (Child.ofText options) first)
      (splitAdmonition (·.node) (Child.ofText (options.withWrap wrap)) second) := by
  cases siblings with
  | nil => exact .none
  | @cons label label' children children' marked rest =>
    obtain ⟨node, rendered⟩ := label
    obtain ⟨node', rendered'⟩ := label'
    obtain rfl : node = node' := marked.node
    cases rest with
    | nil => cases node <;> exact .none
    | @cons next next' others others' same siblings =>
      cases node with
      | strong content =>
        simp only [AsciiDoc.splitAdmonition, same.node]
        split
        · split
          · exact .none
          split
          · refine .some ⟨rfl, ?_⟩
            split
            · exact siblings
            · exact .cons (laws.ofText _) siblings
          · exact .some ⟨rfl, .cons same siblings⟩
        · exact .none
      | _ => exact .none

theorem paragraph {first second : List Child} (siblings : comparison.Siblings first second) :
    comparison.Agree comparison.text (paragraph options first) (paragraph (options.withWrap wrap) second) := by
  simp only [AsciiDoc.paragraph, ← siblings.nodes]
  split
  · exact laws.blockImage _
  have split := laws.splitAdmonition siblings
  generalize AsciiDoc.splitAdmonition (·.node) (Child.ofText options) first = found at split
  generalize AsciiDoc.splitAdmonition (·.node) (Child.ofText (options.withWrap wrap)) second = other at split
  cases split with
  | none => exact laws.paragraphText siblings
  | @some found other same =>
    obtain ⟨label, remainder⟩ := found
    obtain ⟨label', remainder'⟩ := other
    obtain ⟨rfl, rest⟩ := same
    exact .bind (laws.paragraphText rest) fun _ _ agree => .pure (laws.text.behind _ agree)

theorem htmlBlock (content : Text) :
    comparison.Agree comparison.text (htmlBlock options content) (htmlBlock (options.withWrap wrap) content) := by
  have same : (options.withWrap wrap).dropHtml = options.dropHtml := rfl
  simp only [AsciiDoc.htmlBlock, same]
  split
  · exact .bind (laws.report _ _) fun _ _ _ => .pure (laws.text.refl _)
  · exact .pure (laws.text.refl _)

/-- The quote's first paragraph is rendered from its own children if it opens with a label. -/
theorem blockQuote {opening opening' : Option (List Child)} {head head' : Option (Render Text)}
    {first second : List Child} (openings : Option.Rel comparison.Siblings opening opening')
    (heads : Option.Rel (comparison.Agree comparison.text) head head') (siblings : comparison.Siblings first second) :
    comparison.Agree comparison.text (blockQuote options opening head first)
      (blockQuote (options.withWrap wrap) opening' head' second) := by
  have labelled : Option.Rel (fun found other => found.1 = other.1 ∧ comparison.Siblings found.2 other.2)
      (opening.bind (AsciiDoc.splitAdmonition (·.node) (Child.ofText options)))
      (opening'.bind (AsciiDoc.splitAdmonition (·.node) (Child.ofText (options.withWrap wrap)))) := by
    cases openings with
    | none => exact .none
    | some children => exact laws.splitAdmonition children
  simp only [AsciiDoc.blockQuote]
  generalize opening.bind _ = found at labelled
  generalize opening'.bind _ = other at labelled
  cases labelled with
  | none =>
    have heads : List.Forall₂ (comparison.Agree comparison.text) head.toList head'.toList := by
      cases heads with
      | none => exact .nil
      | some agree => exact .cons agree .nil
    refine .bind (.sequence (List.rel_append heads siblings.rendered)) fun _ _ texts => ?_
    have inner := laws.text.join blankLine (laws.text.present texts)
    exact .pure (laws.text.before (laws.text.behind _ inner) _)
  | @some found other same =>
    obtain ⟨label, remainder⟩ := found
    obtain ⟨label', remainder'⟩ := other
    obtain ⟨rfl, rest⟩ := same
    refine .bind (.sequence (.cons (laws.paragraph rest) siblings.rendered)) fun _ _ texts => ?_
    have inner := laws.text.join blankLine (laws.text.present texts)
    exact .pure (laws.text.before (laws.text.behind _ inner) _)

theorem definitionTerm {first second : List Child} (siblings : comparison.Siblings first second) :
    comparison.Agree comparison.text (definitionTerm options first) (definitionTerm (options.withWrap wrap) second) :=
  .bind (laws.inlineContent siblings) fun _ _ agree => .pure (laws.text.before agree _)

theorem definitionDescription {first second : List Child} (siblings : comparison.Siblings first second) :
    comparison.Agree comparison.text (definitionDescription first) (definitionDescription second) :=
  .bind (laws.renderPresent siblings) fun _ _ texts => .pure (laws.text.join _ texts)

theorem definitionEntry {term term' : Render Text} {first second : List Child}
    (agree : comparison.Agree comparison.text term term') (siblings : comparison.Siblings first second) :
    comparison.Agree comparison.text (definitionEntry term first) (definitionEntry term' second) := by
  refine .bind agree fun _ _ same => ?_
  exact .bind (laws.renderPresent siblings) fun _ _ texts => .pure (laws.text.join _ (.cons same texts))

theorem clampMarkers (markers : Int) : comparison.Agree Eq (clampMarkers markers) (clampMarkers markers) := by
  simp only [AsciiDoc.clampMarkers]
  split
  · exact .bind (laws.report _ _) fun _ _ _ => .pure rfl
  · exact .pure rfl

theorem enterSection {level : Whole} {content : List Node} (admitted : comparison.node (.heading level content)) :
    comparison.Agree Eq (enterSection level) (enterSection level) := by
  intro first second context
  have same : first.sectionLevel = second.sectionLevel := (laws.view context).sectionLevel
  have entered := laws.change (.enterSection level) admitted rfl context
  simp only [AsciiDoc.enterSection, Render.runIn_bind, Render.runIn_get, Render.runIn_set, Render.runIn_pure]
  exact .ok (congrArg (isDiscrete · level) same) entered

theorem heading {level : Whole} {content : List Node} (admitted : comparison.node (.heading level content))
    {first second : List Child} (siblings : comparison.Siblings first second) :
    comparison.Agree comparison.text (heading options level content first)
      (heading (options.withWrap wrap) level content second) := by
  have failures : ∀ failure, idLine options content = .error failure → comparison.failure failure := by
    intro failure failed
    rcases idLine_failure failed with rfl | rfl
    · exact laws.misplaced
    · exact laws.illTyped
  refine .bind (laws.inlineContent siblings) fun _ _ agree => ?_
  refine .bind (laws.clampMarkers _) fun markers _ same => same ▸ ?_
  refine .bind (laws.enterSection admitted) fun discrete _ same => same ▸ ?_
  refine .bind (.lift failures) fun named _ same => same ▸ ?_
  apply Agree.pure
  apply laws.text.join
  refine List.rel_append (laws.text.sameTexts _) (.cons ?_ .nil)
  exact laws.text.behind _ (laws.text.cons ' ' agree)

theorem itemParts {first second : List Child} (siblings : comparison.Siblings first second) (openLevels : Nat) :
    comparison.Agree (List.Forall₂ comparison.text) (itemParts openLevels first) (itemParts openLevels second) := by
  induction siblings generalizing openLevels with
  | nil => exact .pure .nil
  | cons same rest ih =>
    refine .bind same.rendered fun text text' agree => ?_
    simp only [laws.text.isEmpty agree, same.node]
    split
    · exact ih _
    split
    · exact .bind (ih _) fun _ _ texts => .pure (.cons agree texts)
    · exact .bind (ih _) fun _ _ texts => .pure (.cons (laws.text.behind _ agree) texts)

theorem listItem {line line' : Render Text} (agree : comparison.Agree comparison.text line line')
    {first second : List Child} (siblings : comparison.Siblings first second) (taskStatus : Option Text) (marker : Text) :
    comparison.Agree comparison.text (listItem line first taskStatus marker)
      (listItem line' second taskStatus marker) := by
  refine .bind agree fun _ _ same => ?_
  refine .bind (laws.itemParts siblings 0) fun _ _ texts => ?_
  exact .pure (laws.text.join _ (.cons (laws.text.behind _ (laws.text.cons ' ' same)) texts))

theorem list {ordered : Bool} {nodes : List Node} {start : Whole} {tight : Bool}
    (admitted : comparison.node (.list ordered nodes start tight)) {items items' : List (Text → Render Text)}
    (agree : List.Forall₂ (fun item item' => ∀ marker, comparison.Agree comparison.text (item marker) (item' marker))
      items items') :
    comparison.Agree comparison.text (list ordered start items) (list ordered start items') := by
  refine .bind .get fun context context' same => ?_
  simp only [← (laws.view same).listStack]
  have marked (marker : Text) : List.Forall₂ (comparison.Agree comparison.text)
      (items.map fun item => item marker) (items'.map fun item => item marker) := by
    rw [List.forall₂_map_left_iff, List.forall₂_map_right_iff]
    exact agree.imp fun _ _ same => same marker
  refine .bind (laws.insideList admitted _ (.sequence (marked _))) fun _ _ texts => ?_
  exact .pure (laws.text.behind _ (laws.text.join _ texts))

theorem tableCell (span : Int) {first second : List Child} (siblings : comparison.Siblings first second) :
    comparison.Agree comparison.text (tableCell options span first) (tableCell (options.withWrap wrap) span second) := by
  refine .bind (laws.inlineContent siblings) fun _ _ agree => ?_
  have escaped := laws.text.substitute agree '|' ['\\', '|'] (by decide)
  exact .pure (laws.text.stripRight (laws.text.behind _ escaped))

theorem tableRow {first second : List Child} (siblings : comparison.Siblings first second) :
    comparison.Agree comparison.text (tableRow first) (tableRow second) := by
  refine .bind (.sequence siblings.rendered) fun _ _ texts => ?_
  refine .bind .get fun context context' same => ?_
  rw [← siblings.nodes]
  refine .bind (.lift fun failure failed => rowSpan_failure failed ▸ laws.misplaced) fun span _ equal => equal ▸ ?_
  simp only [(laws.view same).tableColumns]
  exact .pure (laws.text.stripRight (laws.text.join [' '] (List.rel_append texts (laws.text.sameTexts _))))

theorem table {header header' : Option Child} {first second : List Child} {alignments : List (Option Text)}
    {caption : Option Text} {node : Option Node} {nodes : List Node}
    (admitted : comparison.node (.table node nodes alignments caption))
    (headers : Option.Rel comparison.SameChild header header') (siblings : comparison.Siblings first second) :
    comparison.Agree comparison.text (table header first alignments caption)
      (table header' second alignments caption) := by
  have rows : comparison.Siblings (header.toList ++ first) (header'.toList ++ second) := by
    cases headers with
    | none => exact siblings
    | some same => exact .cons same siblings
  have shape : first.isEmpty = second.isEmpty := by cases siblings <;> rfl
  simp only [AsciiDoc.table, ← rows.nodes, shape]
  refine .bind (.lift fun failure failed => tableWidth_failure failed ▸ laws.misplaced) fun width _ same => same ▸ ?_
  refine .bind (laws.modify admitted (.beginTable width) trivial) fun _ _ _ => ?_
  have closed (lead : List Text) {above above' below below' : List Text}
      (upper : List.Forall₂ comparison.text above above') (lower : List.Forall₂ comparison.text below below') :
      comparison.text (Text.unlines (lead ++ above ++ below ++ [tableDelimiter]))
        (Text.unlines (lead ++ above' ++ below' ++ [tableDelimiter])) :=
    laws.text.join _ <| List.rel_append (List.rel_append (List.rel_append (laws.text.sameTexts _) upper) lower)
      (laws.text.sameTexts _)
  cases headers with
  | none =>
    refine .bind (.pure (laws.text.sameTexts [])) fun _ _ above => ?_
    exact .bind (.sequence siblings.rendered) fun _ _ below => .pure (closed _ above below)
  | some row =>
    refine .bind row.rendered fun text text' agree => ?_
    have head := List.Forall₂.cons agree (laws.text.sameTexts (if second.isEmpty = true then [] else [[]]))
    refine .bind (.pure head) fun _ _ above => ?_
    exact .bind (.sequence siblings.rendered) fun _ _ below => .pure (closed _ above below)

end Comparison.Lawful

end Adocify.AsciiDoc
