import Adocify.AsciiDoc.Render
import Adocify.Proofs.CourseInline
import Adocify.Proofs.RenderBlocks

/-! Courses through blocks. Items, rows and entries are rendered in order; blocks without text drop out,
and those that have some keep it. -/

namespace Adocify.AsciiDoc

variable {stage : Stage}

namespace Stage

variable {nodes content : List Node}

theorem nodes_eq (nodes : List Node) : (nodes.map stage.child).map (·.node) = nodes := by
  rw [List.map_map]
  exact List.map_id nodes

theorem splitAdmonition_eq (content : List Node) :
    splitAdmonition (·.node) (Child.ofText stage.options) (content.map stage.child) =
      (splitAdmonition id .text content).map fun found => (found.1, found.2.map stage.child) := by
  rw [ofText_eq]
  exact splitAdmonition_map stage.child _ _ content

theorem Takes.paragraph (common : stage.Common) (locates : ∀ url ∈ ownImages (.paragraph content), stage.Locates url)
    (follows : stage.FollowsAll (paragraphParts content)) :
    stage.Takes (paragraphParts content) Assembled (paragraph stage.options (content.map stage.child)) := by
  simp only [paragraphParts] at follows ⊢
  simp only [AsciiDoc.paragraph, nodes_eq, splitAdmonition_eq]
  cases image : blockImage? content with
  | some found => exact Takes.blockImage (locates found.url (by simp [ownImages, image]))
  | none =>
    rw [image] at follows
    simp only [Option.isSome_none, Bool.false_eq_true, if_false] at follows ⊢
    cases split : splitAdmonition id .text content with
    | none =>
      rw [split] at follows
      exact Takes.paragraphText common follows
    | some found =>
      rw [split] at follows
      exact (Takes.paragraphText common follows).map fun _ _ assembled => assembled.behind _

theorem Takes.htmlBlock (common : stage.Common) (content : Text) :
    stage.Takes [] Assembled (htmlBlock stage.options content) := by
  simp only [AsciiDoc.htmlBlock]
  split
  · exact (Takes.report common _ _).before fun _ _ => .pure (.literal _)
  · exact .pure (.literal _)

/-- The blocks of a quote, between the lines that delimit it. -/
theorem Takes.enclosed {computations : List (Render Text)}
    (takes : stage.Takes nodes Laid (Render.sequence computations))
    (lead trail : Text) :
    stage.Takes nodes Assembled (do
      let texts ← Render.sequence computations
      return lead ++ Text.join blankLine (texts.filter fun text => !text.isEmpty) ++ trail) :=
  takes.map fun _ _ laid => ((laid.present.join blankLine).behind lead).before trail

theorem Takes.blockQuote (common : stage.Common) (locates : ∀ url ∈ ownImages (.blockQuote nodes), stage.Locates url)
    (follows : stage.FollowsAll (partsOf (.blockQuote nodes))) :
    stage.Takes (partsOf (.blockQuote nodes)) Assembled
      (renderNode stage.options (renderFootnote stage.options stage.depth) (.blockQuote nodes)) := by
  have plain (others : List Node) (follows : stage.FollowsAll others) :
      stage.Takes others Assembled (AsciiDoc.blockQuote stage.options none none (others.map stage.child)) :=
    (Takes.children follows).enclosed "____\n".toList _
  rcases nodes with _ | ⟨first, rest⟩
  · simp only [renderNode, renderChildren_eq]
    exact plain _ follows
  cases first with
  | paragraph content =>
    simp only [partsOf] at follows ⊢
    simp only [renderNode, renderChildren_eq, AsciiDoc.blockQuote, Option.bind_some, splitAdmonition_eq]
    cases split : splitAdmonition id .text content with
    | none =>
      rw [split] at follows
      have visited : stage.Takes (.paragraph content :: rest) Laid
          (Render.sequence (((.paragraph content :: rest).map stage.child).map (·.rendered))) := Takes.children follows
      simp only [List.map_cons, child, renderNode, renderChildren_eq] at visited
      exact visited.enclosed "____\n".toList _
    | some found =>
      obtain ⟨label, remainder⟩ := found
      rw [split] at follows
      have labelled : stage.FollowsAll (paragraphParts remainder) :=
        fun node member => follows node (List.mem_append_left _ member)
      have others : stage.FollowsAll rest := fun node member => follows node (List.mem_append_right _ member)
      have both : stage.Takes (paragraphParts remainder ++ rest) Laid (Render.sequence
          (AsciiDoc.paragraph stage.options (remainder.map stage.child) ::
            (rest.map stage.child).map (·.rendered))) := by
        have located : ∀ url ∈ ownImages (.paragraph remainder), stage.Locates url := by
          simpa only [ownImages, split] using locates
        refine (Takes.paragraph common located labelled).bind fun texts text assembled => ?_
        exact (Takes.children others).map fun _ _ laid => .cons assembled laid
      exact both.enclosed ('[' :: label ++ "]\n====\n".toList) _
  | _ =>
    simp only [renderNode, renderChildren_eq]
    exact plain _ follows

theorem Takes.definitionTerm (common : stage.Common) (follows : stage.FollowsAll (inlineParts content)) :
    stage.Takes (inlineParts content) Assembled (definitionTerm stage.options (content.map stage.child)) :=
  (Takes.inlineContent common follows).map fun _ _ assembled => assembled.before _

theorem Takes.definitionDescription (follows : stage.FollowsAll nodes) :
    stage.Takes nodes Assembled (definitionDescription (nodes.map stage.child)) :=
  (Takes.renderPresent follows).map fun _ _ laid => laid.join _

theorem Takes.entries {entries : List (Node × List Node)} (follows : stage.FollowsAll (Node.entryChildren entries)) :
    stage.Takes (Node.entryChildren entries) Laid
      (Render.sequence (renderEntries stage.options (renderFootnote stage.options stage.depth) entries)) := by
  induction entries with
  | nil =>
    simp only [renderEntries]
    exact .pure .nil
  | cons entry rest ih =>
    obtain ⟨term, descriptions⟩ := entry
    simp only [Node.entryChildren, renderEntries, renderChildren_eq] at follows ⊢
    have here : stage.FollowsAll descriptions :=
      fun node member => follows node (List.mem_append_left _ (.tail _ member))
    have others : stage.FollowsAll (Node.entryChildren rest) :=
      fun node member => follows node (List.mem_append_right _ member)
    have entry : stage.Takes ([term] ++ descriptions) Assembled (definitionEntry
        (renderNode stage.options (renderFootnote stage.options stage.depth) term) (descriptions.map stage.child)) := by
      refine (Takes.visit (follows term List.mem_cons_self)).bind fun texts text same => ?_
      refine (Takes.renderPresent here).map fun more lines laid => ?_
      rw [same]
      exact (Laid.cons (.whole text) laid).join ['\n']
    refine entry.bind fun texts text assembled => ?_
    exact (ih others).map fun more lines laid => .cons assembled laid

theorem Takes.clampMarkers (common : stage.Common) (markers : Int) :
    stage.Takes [] (fun texts _ => texts = [] ∧ True) (clampMarkers markers) := by
  simp only [AsciiDoc.clampMarkers]
  split
  · exact (Takes.report common _ _).before fun _ _ => .pure ⟨rfl, trivial⟩
  · exact .pure ⟨rfl, trivial⟩

theorem Takes.enterSection {level : Whole} (entered : stage.own (.enterSection level)) :
    stage.Takes [] (fun texts _ => texts = [] ∧ True) (enterSection level) := by
  intro before
  simp only [AsciiDoc.enterSection, Render.runIn_bind, Render.runIn_get, Render.runIn_set, Render.runIn_pure]
  exact ⟨.ok [], .change entered, rfl, trivial⟩

theorem Takes.heading (common : stage.Common) {level : Whole} (entered : stage.own (.enterSection level))
    (refused : ∀ failure, idLine stage.options content = .error failure → stage.refuses failure)
    (follows : stage.FollowsAll (inlineParts content)) :
    stage.Takes (inlineParts content) Assembled (heading stage.options level content (content.map stage.child)) := by
  refine (Takes.inlineContent common follows).andThen fun texts text assembled => ?_
  refine (Takes.clampMarkers common _).before fun markers _ => ?_
  refine (Takes.enterSection entered).before fun discrete _ => ?_
  refine (Takes.lift refused).before fun named _ => .pure ?_
  have titled : Laid texts [List.replicate markers.toNat '=' ++ ' ' :: text] :=
    .single ((assembled.cons ' ').behind _)
  rw [List.append_nil]
  exact ((Laid.literals _).append titled).join ['\n']

theorem Takes.itemParts (openLevels : Nat) (follows : stage.FollowsAll nodes) :
    stage.Takes nodes Laid (itemParts openLevels (nodes.map stage.child)) := by
  induction nodes generalizing openLevels with
  | nil => exact .pure .nil
  | cons node rest ih =>
    have others : stage.FollowsAll rest := fun other member => follows other (.tail _ member)
    have here := Takes.visit (follows node List.mem_cons_self)
    change stage.Takes ([node] ++ rest) Laid _
    refine here.bind fun texts text same => ?_
    subst same
    split
    next empty =>
      have dropped : Assembled [text] [] := List.isEmpty_iff.mp empty ▸ .whole text
      exact (ih openLevels others).mono fun more lines laid => .drop dropped laid
    next =>
      split
      · exact (ih _ others).map fun more lines laid => .cons (.whole text) laid
      · exact (ih _ others).map fun more lines laid => .cons ((Assembled.whole text).behind _) laid

theorem Takes.listItem {line : Render Text} {others : List Node} (takes : stage.Takes nodes Assembled line)
    (follows : stage.FollowsAll others) (taskStatus : Option Text) (marker : Text) :
    stage.Takes (nodes ++ others) Assembled (listItem line (others.map stage.child) taskStatus marker) := by
  refine takes.bind fun texts text assembled => ?_
  refine (Takes.itemParts 0 follows).map fun more lines laid => ?_
  exact (Laid.cons ((assembled.cons ' ').behind _) laid).join ['\n']

/-- An item is rendered as such; whatever else stands in a list is refused. -/
theorem Takes.items (common : stage.Common) {items : List Node}
    (refused : ∀ item ∈ items, (∀ blocks status, item ≠ .listItem blocks status) → stage.refuses .misplaced)
    (follows : stage.FollowsAll (items.flatMap itemContents)) :
    List.Forall₂ (fun nodes item => ∀ marker, stage.Takes nodes Assembled (item marker)) (items.map itemContents)
      (renderItems stage.options (renderFootnote stage.options stage.depth) items) := by
  induction items with
  | nil =>
    simp only [renderItems]
    exact .nil
  | cons item rest ih =>
    have others := ih (fun other member => refused other (.tail _ member))
      fun node member => follows node (List.mem_append_right _ member)
    have here : stage.FollowsAll (itemContents item) := fun node member => follows node (List.mem_append_left _ member)
    rw [List.map_cons]
    cases item with
    | listItem blocks taskStatus =>
      have blank : stage.Takes [] Assembled (Pure.pure blankFirstLine) := .pure (.literal _)
      rcases blocks with _ | ⟨first, blocks⟩
      · simp only [renderItems, renderChildren_eq]
        exact .cons (blank.listItem here taskStatus) others
      cases first with
      | paragraph content =>
        have opening : stage.FollowsAll (inlineParts content) :=
          fun node member => here node (List.mem_append_left _ member)
        have behind : stage.FollowsAll blocks := fun node member => here node (List.mem_append_right _ member)
        simp only [renderItems, renderChildren_eq]
        exact .cons ((Takes.paragraphText common opening).listItem behind taskStatus) others
      | _ =>
        simp only [renderItems, renderChildren_eq]
        exact .cons (blank.listItem here taskStatus) others
    | _ =>
      simp only [renderItems]
      have foreign := refused _ List.mem_cons_self fun _ _ => Node.noConfusion
      exact .cons (fun _ => .fail foreign) others

theorem Takes.list {items : List Node} {computations : List (Text → Render Text)} (ordered : Bool) (start : Whole)
    (takes : List.Forall₂ (fun nodes item => ∀ marker, stage.Takes nodes Assembled (item marker))
      (items.map itemContents) computations) :
    stage.Takes (items.flatMap itemContents) Assembled (list ordered start computations) := by
  have marked (marker : Text) : stage.Takes (items.map itemContents).flatten Laid
      (Render.sequence (computations.map fun item => item marker)) := by
    apply Takes.sequence
    rw [List.forall₂_map_right_iff]
    exact takes.imp fun _ _ each => each marker
  rw [List.flatMap_def]
  refine Takes.get.before fun context _ => ?_
  exact ((marked _).insideList _).map fun texts lines laid => (laid.join ['\n']).behind _

theorem Takes.tableCell (common : stage.Common) (span : Int) (follows : stage.FollowsAll (inlineParts content)) :
    stage.Takes (inlineParts content) Assembled (tableCell stage.options span (content.map stage.child)) := by
  refine (Takes.inlineContent common follows).map fun texts text assembled => ?_
  exact ((assembled.settle .cell).behind _).settle .trimmed

theorem Takes.tableRow (refused : ∀ failure, rowSpan nodes = .error failure → stage.refuses failure)
    (follows : stage.FollowsAll nodes) :
    stage.Takes nodes Assembled (tableRow (nodes.map stage.child)) := by
  refine (Takes.children follows).andThen fun texts lines laid => ?_
  refine Takes.get.before fun context _ => ?_
  rw [nodes_eq]
  refine (Takes.lift refused).before fun span _ => .pure ?_
  rw [List.append_nil]
  exact ((laid.followed _).join [' ']).settle .trimmed

theorem Takes.table {header : Option Node} {rows : List Node} (begun : ∀ width, stage.own (.beginTable width))
    (refused : ∀ failure, tableWidth (header.toList ++ rows) = .error failure → stage.refuses failure)
    (follows : stage.FollowsAll (header.toList ++ rows)) (alignments : List (Option Text)) (caption : Option Text) :
    stage.Takes (header.toList ++ rows) Assembled
      (table (header.map stage.child) (rows.map stage.child) alignments caption) := by
  have rowTexts : stage.Takes rows Laid (Render.sequence ((rows.map stage.child).map (·.rendered))) :=
    Takes.children fun node member => follows node (List.mem_append_right _ member)
  have all : ((header.map stage.child).toList ++ rows.map stage.child).map (·.node) = header.toList ++ rows := by
    rw [Option.toList_map, ← List.map_append, nodes_eq]
  have closed {lead above below : List Text} {texts more : List Text} (upper : Laid texts above)
    (lower : Laid more below) :
      Assembled (texts ++ (more ++ [])) (Text.unlines (lead ++ above ++ below ++ [tableDelimiter])) := by
    rw [List.append_nil]
    exact ((((Laid.literals lead).append upper).append lower).followed _).join ['\n']
  simp only [AsciiDoc.table, all]
  refine (Takes.lift refused).before fun width _ => ?_
  refine (Takes.modify (.beginTable width) (begun width)).before fun _ _ => ?_
  cases header with
  | none => exact rowTexts.andThen fun more below lower => .pure (closed (.literals []) lower)
  | some row =>
    have first := Takes.visit (follows row List.mem_cons_self)
    change stage.Takes ([row] ++ rows) Assembled _
    refine first.bind fun texts text same => ?_
    have upper : Laid texts (text :: if (rows.map stage.child).isEmpty then [] else [[]]) := by
      rw [same]
      exact (Laid.single (.whole text)).followed _
    exact rowTexts.andThen fun more below lower => .pure (closed upper lower)

end Stage

end Adocify.AsciiDoc
