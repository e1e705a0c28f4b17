import Adocify.Proofs.CourseTrees
import Adocify.Proofs.JoinedTexts

/-! Rendering of a tree and of the tree with its texts joined, side by side. The two runs yield the same texts; their
states differ in the footnotes, which are joined in the second one. -/

namespace Adocify.AsciiDoc

open Node (joined joinedLine joinTexts Everywhere)

/-- A node about which joined texts tell nothing new. A comment would have fallen out from between two texts, and strong
text that opens a paragraph may be a label, from which a colon is taken off the first text alone. -/
def joinable : Node → Bool
  | .htmlInline content => !isInlineComment content
  | .paragraph content => !opensStrong content
  | _ => true

abbrev Joinable (root : Node) : Prop := Everywhere (joinable · = true) root

def Context.joined (context : Context) : Context := { context with footnotes := context.footnotes.joined }

def joining : Comparison where
  node _ := True
  definition _ _ := True
  context first second := second = first.joined ∧ ∀ note ∈ first.footnotes, ∀ node ∈ note.2, Joinable node
  text := Eq
  failure _ := True

/-- Both computations come to the same end, the second one with the footnotes joined. -/
abbrev Joins {α : Type} (first second : Render α) : Prop := joining.Agree Eq first second

/-- Only the collection of footnotes looks at the tree. -/
def Change.collects : Change → Bool
  | .collect _ => true
  | _ => false

namespace Joins

variable {α β : Type} {first second : Render α}

theorem bind {next next' : α → Render β} (begun : Joins first second)
    (rest : ∀ value, Joins (next value) (next' value)) : Joins (first >>= next) (second >>= next') := by
  refine Comparison.Agree.bind begun ?_
  rintro value _ rfl
  exact rest value

theorem map (begun : Joins first second) (shown : α → β) :
    Joins (do let value ← first; return shown value) (do let value ← second; return shown value) :=
  begun.bind fun _ => .pure rfl

theorem fail {failure : Failure} : Joins (throw failure : Render α) (throw failure) := Comparison.Agree.fail trivial

theorem lift (result : Except Failure α) : Joins (liftM result : Render α) (liftM result) :=
  Comparison.Agree.lift fun _ _ => trivial

/-- What goes on from the state may look at all of it but the footnotes. -/
theorem get {next : Context → Render β} {next' : Context → Render β}
    (rest : ∀ context, (∀ note ∈ context.footnotes, ∀ node ∈ note.2, Joinable node) →
      Joins (next context) (next' context.joined)) :
    Joins (get >>= next) (MonadState.get >>= next') := by
  refine Comparison.Agree.bind Comparison.Agree.get ?_
  rintro context _ ⟨rfl, known⟩
  exact rest context known

theorem sequence {computations others : List (Render α)} (each : List.Forall₂ Joins computations others) :
    Joins (Render.sequence computations) (Render.sequence others) :=
  (Comparison.Agree.sequence each).mono fun _ _ same => (List.forall₂_eq_eq_eq ▸ same : _ = _)

theorem modify (change : Change) (apart : change.collects = false) :
    Joins (modify change.apply : Render Unit) (modify change.apply) := by
  rintro context _ ⟨rfl, known⟩
  have kept : change.apply context.joined = (change.apply context).joined ∧
      (change.apply context).footnotes = context.footnotes := by
    cases change with
    | collect nodes => cases apart
    | _ => exact ⟨rfl, rfl⟩
  exact .ok rfl ⟨kept.1, kept.2 ▸ known⟩

theorem report (level : LogLevel) (message : Text) :
    Joins (Render.report level message) (Render.report level message) :=
  modify (.note [⟨level, message⟩]) rfl

theorem register (name : String) (value : Value) : Joins (Render.register name value) (Render.register name value) :=
  modify (.register name value) rfl

theorem insideList (marker : Char) (inner : Joins first second) :
    Joins (Render.insideList marker first) (Render.insideList marker second) := by
  rintro context _ ⟨rfl, known⟩
  have met := inner (Change.apply (.enterList marker) context) (Change.apply (.enterList marker) context.joined)
    ⟨rfl, known⟩
  rw [Render.runIn_insideList, Render.runIn_insideList]
  simp only [Change.apply] at met
  generalize first.runIn _ = here at met
  generalize second.runIn _ = there at met
  cases met with
  | ok same left => exact .ok same ⟨left.1 ▸ rfl, left.2⟩
  | error allowed left => exact .error allowed ⟨left.1 ▸ rfl, left.2⟩

end Joins

/-! What the two runs do alike, whatever the footnotes. -/

theorem joins_imageTarget (options : Options) (url : Text) :
    Joins (imageTarget options url) (imageTarget options url) := by
  simp only [imageTarget]
  split
  · exact .pure rfl
  split
  · exact (Joins.register _ _).bind fun _ => .pure rfl
  · exact .pure rfl

theorem joins_htmlInline (options : Options) (content : Text) :
    Joins (htmlInline options content) (htmlInline options content) := by
  simp only [htmlInline]
  split
  · exact .pure rfl
  split
  · exact (Joins.report _ _).bind fun _ => .pure rfl
  split
  · exact (Joins.report _ _).bind fun _ => .pure rfl
  · exact .pure rfl

theorem joins_htmlBlock (options : Options) (content : Text) :
    Joins (htmlBlock options content) (htmlBlock options content) := by
  simp only [htmlBlock]
  split
  · exact (Joins.report _ _).bind fun _ => .pure rfl
  · exact .pure rfl

theorem joins_clampMarkers (markers : Int) : Joins (clampMarkers markers) (clampMarkers markers) := by
  simp only [clampMarkers]
  split
  · exact (Joins.report _ _).bind fun _ => .pure rfl
  · exact .pure rfl

theorem joins_enterSection (level : Whole) : Joins (enterSection level) (enterSection level) := by
  rintro context _ ⟨rfl, known⟩
  simp only [enterSection, Render.runIn_bind, Render.runIn_get, Render.runIn_set, Render.runIn_pure]
  exact .ok rfl ⟨rfl, known⟩

namespace Stage

variable {stage : Stage} {node : Node} {nodes content : List Node}

/-- The node is rendered to the same when it is joined. -/
structure Settled (stage : Stage) (node : Node) : Prop where
  joinable : joinable node = true
  joins : Joins (stage.child node).rendered (stage.child node.joined).rendered

abbrev SettledAll (stage : Stage) (nodes : List Node) : Prop := ∀ node ∈ nodes, stage.Settled node

theorem settled_text (text : Text) : stage.Settled (.text text) := ⟨rfl, .pure rfl⟩

theorem joins_each (settled : stage.SettledAll nodes) :
    List.Forall₂ Joins ((nodes.map stage.child).map (·.rendered))
      (((nodes.map joined).map stage.child).map (·.rendered)) := by
  simp only [List.map_map, List.forall₂_map_left_iff, List.forall₂_map_right_iff]
  exact List.forall₂_same.mpr fun node member => (settled node member).joins

theorem joins_children (settled : stage.SettledAll nodes) :
    Joins (Render.sequence ((nodes.map stage.child).map (·.rendered)))
      (Render.sequence (((nodes.map joined).map stage.child).map (·.rendered))) :=
  .sequence (joins_each settled)

theorem joins_renderPresent (settled : stage.SettledAll nodes) :
    Joins (Child.renderPresent (nodes.map stage.child)) (Child.renderPresent ((nodes.map joined).map stage.child)) :=
  (joins_children settled).map _

theorem joins_piecesFrom {skip : Nat} (settled : stage.SettledAll nodes) :
    Joins (piecesFrom skip (nodes.map stage.child)) (piecesFrom skip ((nodes.map joined).map stage.child)) := by
  fun_induction outsideKeys skip nodes with
  | case1 skip => cases skip <;> exact .pure rfl
  | case2 skip node rest ih => exact ih fun other member => settled other (.tail _ member)
  | case3 node rest after taken ih =>
    have there := takeKeys_joined taken
    rw [List.map_cons] at there
    rw [piecesFrom_element taken, List.map_cons (f := joined), piecesFrom_element there, markOf_joined]
    refine (settled node List.mem_cons_self).joins.bind fun text => ?_
    exact (ih fun other member => settled other (.tail _ member)).map _
  | case4 node rest keys after some taken ih =>
    have there := takeKeys_joined taken
    rw [List.map_cons] at there
    rw [piecesFrom_keys (fun none => some none) taken, List.map_cons, piecesFrom_keys (fun none => some none) there,
      List.length_map, List.length_map]
    refine (Joins.register _ _).bind fun _ => ?_
    exact (ih fun other member => settled other (.tail _ member)).map _

theorem shown_of_settled (settled : stage.SettledAll content) (text : Text) (member : .htmlInline text ∈ content) :
    isInlineComment text = false := by
  have joinable := (settled _ member).joinable
  simpa only [AsciiDoc.joinable, Bool.not_eq_true'] using joinable

theorem reportDroppedComments_none (shown : ∀ text, .htmlInline text ∈ content → isInlineComment text = false) :
    reportDroppedComments (content.map stage.child) = modify (Change.apply (.note [])) := by
  have none : droppedComments (·.node) (content.map stage.child) = 0 := by
    rw [droppedComments, List.countP_map, List.countP_eq_zero]
    intro node member
    cases node with
    | htmlInline text => exact Bool.eq_false_iff.mp (shown text member)
    | _ => exact Bool.false_ne_true
  rw [reportDroppedComments, none]
  rfl

/-- A line is merged to the same whether or not its texts were joined before. -/
theorem joins_inlineContent (settled : stage.SettledAll content) :
    Joins (inlineContent stage.options (content.map stage.child))
      (inlineContent stage.options ((joinedLine content).map stage.child)) := by
  have shown := shown_of_settled settled
  have merged : mergeTexts id .text content = joinTexts content := mergeFrom_joins shown
  have parts : stage.SettledAll (joinTexts content) := by
    intro node member
    rcases mem_mergeFrom (merged ▸ member : node ∈ mergeTexts id .text content) with ⟨text, rfl⟩ | inside
    · exact settled_text text
    · exact settled node inside
  have shown' : ∀ text, .htmlInline text ∈ joinedLine content → isInlineComment text = false := by
    intro text member
    rw [Node.joinedLine_map] at member
    obtain ⟨node, inside, same⟩ := List.mem_map.mp member
    have own : node = .htmlInline text := by cases node <;> first | exact same | cases same
    exact shown_of_settled parts text (own ▸ inside)
  have merged' : mergeTexts id .text (joinedLine content) = (joinTexts content).map joined := by
    rw [mergeTexts, mergeFrom_joins shown', ← Node.joinedLine_map, joinedLine]
    exact Node.joinTexts_joinTexts _
  simp only [inlineContent, mergeTexts_children, reportDroppedComments_none shown, reportDroppedComments_none shown',
    merged, merged']
  exact (Joins.modify (.note []) rfl).bind fun _ => (joins_piecesFrom parts).map _

theorem joins_paragraphText (settled : stage.SettledAll content) :
    Joins (paragraphText stage.options (content.map stage.child))
      (paragraphText stage.options ((joinedLine content).map stage.child)) :=
  (joins_inlineContent settled).map _

theorem joins_strong (settled : stage.SettledAll content) :
    Joins (strong stage.options content (content.map stage.child))
      (strong stage.options (joinedLine content) ((joinedLine content).map stage.child)) := by
  simp only [strong, menuPath_joined]
  split
  · exact (Joins.register _ _).bind fun _ => .pure rfl
  · exact (joins_inlineContent settled).map _

theorem joins_link (settled : stage.SettledAll content) (url : Text) (title : Option Text) :
    Joins (link stage.options url content title (content.map stage.child))
      (link stage.options url (joinedLine content) title ((joinedLine content).map stage.child)) := by
  simp only [link, Node.plainTexts_joinedLine]
  exact (joins_inlineContent settled).map _

theorem joins_heading (settled : stage.SettledAll content) (level : Whole) :
    Joins (heading stage.options level content (content.map stage.child))
      (heading stage.options level (joinedLine content) ((joinedLine content).map stage.child)) := by
  simp only [heading, idLine_joined]
  refine (joins_inlineContent settled).bind fun text => ?_
  refine (joins_clampMarkers _).bind fun markers => ?_
  refine (joins_enterSection level).bind fun discrete => ?_
  exact (Joins.lift _).map _

/-- A paragraph that may not be a label is a block image or a line, before and after. -/
theorem joins_paragraph (settled : stage.SettledAll content) (apart : opensStrong content = false) :
    Joins (paragraph stage.options (content.map stage.child))
      (paragraph stage.options ((joinedLine content).map stage.child)) := by
  simp only [paragraph, nodes_eq, splitAdmonition_eq, blockImage?_joined, splitAdmonition_apart apart,
    splitAdmonition_apart ((opensStrong_joined content).trans apart)]
  split
  · exact (joins_imageTarget _ _).map _
  · exact joins_paragraphText settled

theorem joins_itemParts (settled : stage.SettledAll nodes) (openLevels : Nat) :
    Joins (itemParts openLevels (nodes.map stage.child))
      (itemParts openLevels ((nodes.map joined).map stage.child)) := by
  induction nodes generalizing openLevels with
  | nil => exact .pure rfl
  | cons node rest ih =>
    have others (openLevels : Nat) := ih (fun other member => settled other (.tail _ member)) openLevels
    have list : isList (stage.child node.joined).node = isList (stage.child node).node := isList_joined node
    have depth : trailingDepth (stage.child node.joined).node = trailingDepth (stage.child node).node :=
      trailingDepth_joined node
    simp only [List.map_cons, itemParts, list, depth]
    refine (settled node List.mem_cons_self).joins.bind fun text => ?_
    split
    · exact others _
    split
    · exact (others _).map _
    · exact (others _).map _

theorem joins_listItem {line line' : Render Text} (opening : Joins line line') (settled : stage.SettledAll nodes)
    (taskStatus : Option Text) (marker : Text) :
    Joins (listItem line (nodes.map stage.child) taskStatus marker)
      (listItem line' ((nodes.map joined).map stage.child) taskStatus marker) :=
  opening.bind fun _ => (joins_itemParts settled 0).map _

theorem joins_list (ordered : Bool) (start : Whole) {items items' : List (Text → Render Text)}
    (each : List.Forall₂ (fun item item' => ∀ marker, Joins (item marker) (item' marker)) items items') :
    Joins (list ordered start items) (list ordered start items') := by
  refine .get fun context _ => ?_
  refine (Joins.insideList _ (.sequence ?_)).map _
  simp only [List.forall₂_map_left_iff, List.forall₂_map_right_iff]
  exact each.imp fun _ _ joins => joins _

theorem joins_tableRow (settled : stage.SettledAll nodes) :
    Joins (tableRow (nodes.map stage.child)) (tableRow ((nodes.map joined).map stage.child)) := by
  simp only [tableRow, nodes_eq, rowSpan_joined]
  refine (joins_children settled).bind fun texts => ?_
  exact .get fun context _ => (Joins.lift _).map _

theorem joins_table {header : Option Node} (settled : stage.SettledAll (header.toList ++ nodes))
    (alignments : List (Option Text)) (caption : Option Text) :
    Joins (table (header.map stage.child) (nodes.map stage.child) alignments caption)
      (table ((header.map joined).map stage.child) ((nodes.map joined).map stage.child) alignments caption) := by
  have all (header : Option Node) (rows : List Node) :
      ((header.map stage.child).toList ++ rows.map stage.child).map (·.node) = header.toList ++ rows := by
    rw [Option.toList_map, ← List.map_append, nodes_eq]
  have width : tableWidth ((header.map joined).toList ++ nodes.map joined) = tableWidth (header.toList ++ nodes) := by
    rw [Option.toList_map, ← List.map_append, tableWidth_joined]
  have rows : stage.SettledAll nodes := fun node member => settled node (List.mem_append_right _ member)
  simp only [table, all, width, List.isEmpty_map]
  refine (Joins.lift _).bind fun width => ?_
  refine (Joins.modify (.beginTable width) rfl).bind fun _ => ?_
  cases header with
  | none => exact (Joins.bind (.pure rfl) fun _ => (joins_children rows).map _)
  | some row =>
    have first : stage.Settled row := settled row List.mem_cons_self
    exact first.joins.bind fun _ => Joins.bind (.pure rfl) fun _ => (joins_children rows).map _

/-- A quote whose first paragraph may not be a label is no admonition. -/
theorem joins_blockQuote {opening opening' : Option (List Child)} {head head' : Option (Render Text)}
    (plain : opening.bind (splitAdmonition (·.node) (Child.ofText stage.options)) = none)
    (plain' : opening'.bind (splitAdmonition (·.node) (Child.ofText stage.options)) = none)
    (heads : List.Forall₂ Joins head.toList head'.toList) (settled : stage.SettledAll nodes) :
    Joins (blockQuote stage.options opening head (nodes.map stage.child))
      (blockQuote stage.options opening' head' ((nodes.map joined).map stage.child)) := by
  simp only [blockQuote, plain, plain']
  exact (Joins.sequence (List.rel_append heads (joins_each settled))).map _

theorem joins_definitionEntry {term : Node} (here : stage.Settled term) (settled : stage.SettledAll nodes) :
    Joins (definitionEntry (stage.child term).rendered (nodes.map stage.child))
      (definitionEntry (stage.child term.joined).rendered ((nodes.map joined).map stage.child)) :=
  here.joins.bind fun _ => (joins_renderPresent settled).map _

theorem joins_entries {entries : List (Node × List Node)} (settled : stage.SettledAll (Node.entryChildren entries)) :
    List.Forall₂ Joins (renderEntries stage.options (renderFootnote stage.options stage.depth) entries)
      (renderEntries stage.options (renderFootnote stage.options stage.depth) (Node.joinedEntries entries)) := by
  induction entries with
  | nil =>
    simp only [renderEntries, Node.joinedEntries]
    exact .nil
  | cons entry rest ih =>
    obtain ⟨term, descriptions⟩ := entry
    simp only [Node.entryChildren, List.cons_append, List.forall_mem_cons, List.forall_mem_append] at settled
    obtain ⟨here, below, others⟩ := settled
    simp only [renderEntries, Node.joinedEntries, Node.joinedAll_eq, renderChildren_eq]
    exact .cons (joins_definitionEntry here below) (ih others)

theorem joins_itemLine (each : ∀ block ∈ nodes, Everywhere stage.Settled block) :
    Joins (itemLine stage.options (renderFootnote stage.options stage.depth) nodes)
      (itemLine stage.options (renderFootnote stage.options stage.depth) (nodes.map joined)) := by
  cases nodes with
  | nil => exact .pure rfl
  | cons first rest =>
    have below := each first List.mem_cons_self
    cases first with
    | paragraph content =>
      have line : stage.SettledAll content := fun node member => (below.child member).here
      simp only [List.map_cons, joined, Node.joinedLine_eq, itemLine, renderChildren_eq]
      exact joins_paragraphText line
    | _ => exact .pure rfl

theorem itemBlocks_joined (blocks : List Node) : itemBlocks (blocks.map joined) = (itemBlocks blocks).map joined := by
  cases blocks with
  | nil => rfl
  | cons first rest => cases first <;> rfl

theorem joins_renderItem (each : ∀ block ∈ nodes, Everywhere stage.Settled block) (taskStatus : Option Text)
    (marker : Text) :
    Joins (renderItem stage.options (renderFootnote stage.options stage.depth) nodes taskStatus marker)
      (renderItem stage.options (renderFootnote stage.options stage.depth) (nodes.map joined) taskStatus marker) := by
  simp only [renderItem, itemBlocks_joined, renderChildren_eq]
  exact joins_listItem (joins_itemLine each) (fun block member => (each block (mem_itemBlocks member)).here) _ _

theorem joins_items (each : ∀ item ∈ nodes, Everywhere stage.Settled item) :
    List.Forall₂ (fun item item' => ∀ marker, Joins (item marker) (item' marker))
      (renderItems stage.options (renderFootnote stage.options stage.depth) nodes)
      (renderItems stage.options (renderFootnote stage.options stage.depth) (nodes.map joined)) := by
  simp only [renderItems_eq, List.map_map, List.forall₂_map_left_iff, List.forall₂_map_right_iff]
  refine List.forall₂_same.mpr fun item member marker => ?_
  have below := each item member
  cases item with
  | listItem blocks taskStatus =>
    simp only [Function.comp_apply, joined, Node.joinedAll_eq, itemOf]
    exact joins_renderItem (fun block inside => below.child inside) taskStatus marker
  | _ => exact .fail

/-- The title of a document is joined with the heading that it comes from. -/
theorem joins_promotedTitle (titleGiven : Bool) (each : ∀ node ∈ nodes, Everywhere stage.Settled node) :
    Joins (promotedTitle stage.options (.ofChildren nodes titleGiven)
        (openingHeading stage.options (renderFootnote stage.options stage.depth) nodes))
      (promotedTitle stage.options (DocumentStructure.ofChildren nodes titleGiven).joined
        (openingHeading stage.options (renderFootnote stage.options stage.depth) (nodes.map joined))) := by
  have comments := prologue_comments nodes titleGiven
  have split := ofChildren_split nodes titleGiven
  generalize DocumentStructure.ofChildren nodes titleGiven = decision at comments split
  rcases split with ⟨level, content, promoted, rfl⟩ | ⟨plain, -⟩
  · generalize decision.prologue = prologue, decision.body = body at comments each
    have joinedComments : ∀ node ∈ prologue.map joined, node.isComment := by
      intro node member
      obtain ⟨other, inside, rfl⟩ := List.mem_map.mp member
      have comment := comments other inside
      cases other <;> exact comment
    have line : stage.SettledAll content :=
      fun node member => ((each (.heading level content) (by simp)).child member).here
    rw [openingHeading_behind comments, List.map_append, List.map_cons, joined, Node.joinedLine_eq,
      openingHeading_behind joinedComments]
    simp only [promotedTitle, DocumentStructure.joined, promoted, Option.map_some, Option.isSome_some]
    exact (joins_inlineContent line).map _
  · simp only [promotedTitle, DocumentStructure.joined, plain, Option.map_none, Option.isSome_none]
    exact .pure rfl

theorem joins_treeParts (titleGiven : Bool) (each : ∀ node ∈ nodes, Everywhere stage.Settled node) :
    Joins (treeParts stage.options (.ofChildren nodes titleGiven)
        (openingHeading stage.options (renderFootnote stage.options stage.depth) nodes) (nodes.map stage.child))
      (treeParts stage.options (DocumentStructure.ofChildren nodes titleGiven).joined
        (openingHeading stage.options (renderFootnote stage.options stage.depth) (nodes.map joined))
        ((nodes.map joined).map stage.child)) := by
  have settled : stage.SettledAll nodes := fun node member => (each node member).here
  have prologue (count : Nat) : Joins (Child.renderPresent ((nodes.map stage.child).take count))
      (Child.renderPresent (((nodes.map joined).map stage.child).take count)) := by
    rw [← List.map_take, ← List.map_take, ← List.map_take]
    exact joins_renderPresent fun node member => settled node (List.mem_of_mem_take member)
  have body (count : Nat) : Joins (Child.renderPresent ((nodes.map stage.child).drop count))
      (Child.renderPresent (((nodes.map joined).map stage.child).drop count)) := by
    rw [← List.map_drop, ← List.map_drop, ← List.map_drop]
    exact joins_renderPresent fun node member => settled node (List.mem_of_mem_drop member)
  simp only [treeParts, DocumentStructure.joined, List.length_map]
  refine (joins_promotedTitle titleGiven each).bind fun title => ?_
  exact (prologue _).bind fun _ => (body _).map _

theorem agree_decideStructure (joinable : Joinable (.document nodes)) :
    joining.Agree
      (fun decision other => other = decision.joined ∧ ∃ titleGiven, decision = .ofChildren nodes titleGiven)
      (decideStructure nodes) (decideStructure (nodes.map joined)) := by
  have collected : Joins (modify (Change.apply (.collect nodes)))
      (modify (Change.apply (.collect (nodes.map joined)))) := by
    rintro context _ ⟨rfl, known⟩
    refine .ok rfl ⟨?_, ?_⟩
    · have same : (Node.document nodes).joined = .document (nodes.map joined) := by
        simp only [joined, Node.joinedAll_eq]
      have both : context.footnotes.joined.collect (.document (nodes.map joined)) =
          (context.footnotes.collect (.document nodes)).joined := same ▸ FootnoteTable.collect_joined _
      simp only [Change.apply, Context.joined, both]
    · intro note member node inside
      rcases FootnoteTable.mem_collect member with former | own
      · exact known note former node inside
      · exact joinable.inside (Node.contains_note own inside)
  refine Comparison.Agree.bind collected fun _ _ _ => ?_
  refine Comparison.Agree.bind .get ?_
  rintro context _ ⟨rfl, -⟩
  simp only [Context.joined, DocumentStructure.ofChildren_joined]
  refine Comparison.Agree.bind (Joins.report _ _) fun _ _ _ => ?_
  refine Comparison.Agree.bind (Joins.modify (.classify _) rfl) fun _ _ _ => ?_
  change joining.Agree _ (if _ then _ else _) (if (DocumentStructure.ofChildren nodes _).isBook = true then _ else _)
  split
  · exact Comparison.Agree.bind (Joins.register _ _) fun _ _ _ => .pure ⟨rfl, _, rfl⟩
  · exact .pure ⟨rfl, _, rfl⟩

theorem joins_documentParts (joinable : Joinable (.document nodes))
    (each : ∀ node ∈ nodes, Everywhere stage.Settled node) :
    Joins (documentParts stage.options nodes
        (openingHeading stage.options (renderFootnote stage.options stage.depth) nodes) (nodes.map stage.child))
      (documentParts stage.options (nodes.map joined)
        (openingHeading stage.options (renderFootnote stage.options stage.depth) (nodes.map joined))
        ((nodes.map joined).map stage.child)) := by
  rw [documentParts_eq, documentParts_eq]
  refine (agree_decideStructure joinable).bind ?_
  rintro _ _ ⟨rfl, titleGiven, rfl⟩
  refine Joins.get fun before _ => ?_
  refine (joins_treeParts titleGiven each).bind fun parts => ?_
  exact .get fun after _ => .pure rfl

/-- The footnotes that may be met are rendered to the same when they are joined. -/
def NotesJoin (stage : Stage) : Prop :=
  ∀ identifier content, (∀ node ∈ content, Joinable node) →
    Joins (renderFootnote stage.options stage.depth identifier content)
      (renderFootnote stage.options stage.depth identifier (content.map joined))

theorem joins_footnoteReference (notes : stage.NotesJoin) (identifier : Text) :
    Joins (footnoteReference (renderFootnote stage.options stage.depth) identifier)
      (footnoteReference (renderFootnote stage.options stage.depth) identifier) := by
  refine .get fun context known => ?_
  simp only [Context.joined, FootnoteTable.lookup_joined]
  split
  · exact .pure rfl
  cases found : context.footnotes.lookup identifier with
  | none => exact (Joins.report _ _).bind fun _ => .pure rfl
  | some content =>
    refine (notes identifier content (known _ (FootnoteTable.mem_of_lookup found))).bind fun blocks => ?_
    exact (Joins.modify (.emit identifier) rfl).bind fun _ => .pure rfl

/-- The first paragraph of a quote, if the quote begins with one. -/
def quoteOpening : List Node → Option (List Node)
  | .paragraph content :: _ => some content
  | _ => none

theorem renderNode_blockQuote (options : Options) (descend : Text → List Node → Render (List Text))
    (nodes : List Node) : renderNode options descend (.blockQuote nodes) =
      blockQuote options ((quoteOpening nodes).map (renderChildren options descend))
        ((quoteOpening nodes).map fun content => paragraph options (renderChildren options descend content))
        (renderChildren options descend (itemBlocks nodes)) := by
  rcases nodes with _ | ⟨first, rest⟩
  · simp only [renderNode]
    rfl
  · cases first <;> simp only [renderNode] <;> rfl

theorem quoteOpening_joined (nodes : List Node) :
    quoteOpening (nodes.map joined) = (quoteOpening nodes).map joinedLine := by
  cases nodes with
  | nil => rfl
  | cons first rest =>
    cases first with
    | paragraph content => simp only [List.map_cons, joined, Node.joinedLine_eq, quoteOpening, Option.map_some]
    | _ => rfl

theorem quoteOpening_mem (opening : quoteOpening nodes = some content) : .paragraph content ∈ nodes := by
  rcases nodes with _ | ⟨first, rest⟩
  · cases opening
  cases first with
  | paragraph own =>
    obtain rfl := Option.some.inj opening
    exact List.mem_cons_self
  | _ => cases opening

theorem joins_quote (each : ∀ block ∈ nodes, Everywhere stage.Settled block) :
    Joins (renderNode stage.options (renderFootnote stage.options stage.depth) (.blockQuote nodes))
      (renderNode stage.options (renderFootnote stage.options stage.depth) (.blockQuote (nodes.map joined))) := by
  have blocks : stage.SettledAll (itemBlocks nodes) := fun block member => (each block (mem_itemBlocks member)).here
  simp only [renderNode_blockQuote, quoteOpening_joined, itemBlocks_joined, renderChildren_eq]
  cases opening : quoteOpening nodes with
  | none => exact joins_blockQuote rfl rfl .nil blocks
  | some content =>
    have below := each _ (quoteOpening_mem opening)
    have line : stage.SettledAll content := fun node member => (below.child member).here
    have apart : opensStrong content = false := by simpa [AsciiDoc.joinable] using below.here.joinable
    have plain {content : List Node} (apart : opensStrong content = false) :
        splitAdmonition (·.node) (Child.ofText stage.options) (content.map stage.child) = none := by
      rw [splitAdmonition_eq, splitAdmonition_apart apart, Option.map_none]
    simp only [Option.map_some, renderChildren_eq]
    exact joins_blockQuote (plain apart) (plain ((opensStrong_joined content).trans apart))
      (.cons (joins_paragraph line apart) .nil) blocks

/-- A node is rendered to the same when it is joined if everything below it is. -/
theorem joins_step (notes : stage.NotesJoin) (joinable : Joinable node)
    (below : ∀ child ∈ node.children, Everywhere stage.Settled child) :
    Joins (stage.child node).rendered (stage.child node.joined).rendered := by
  have settled : stage.SettledAll node.children := fun child member => (below child member).here
  simp only [child]
  cases node with
  | document nodes =>
    simp only [joined, Node.joinedAll_eq, renderNode, renderChildren_eq]
    exact (joins_documentParts joinable below).map _
  | heading level content =>
    simp only [joined, Node.joinedLine_eq, renderNode, renderChildren_eq]
    exact joins_heading settled level
  | paragraph content =>
    simp only [joined, Node.joinedLine_eq, renderNode, renderChildren_eq]
    exact joins_paragraph settled (by simpa [AsciiDoc.joinable] using joinable.here)
  | blockQuote nodes =>
    simp only [joined, Node.joinedAll_eq]
    exact joins_quote below
  | list ordered items start tight =>
    simp only [joined, Node.joinedAll_eq, renderNode]
    exact joins_list ordered start (joins_items below)
  | listItem blocks taskStatus =>
    simp only [joined, Node.joinedAll_eq, renderNode_listItem]
    exact joins_renderItem below taskStatus ['*']
  | table header rows alignments caption =>
    have takes := joins_table settled alignments caption
    simp only [joined, Node.joinedHeader_eq, Node.joinedAll_eq]
    cases header with
    | none =>
      simp only [Option.map_none, renderNode, renderChildren_eq]
      exact takes
    | some row =>
      simp only [Option.map_some, renderNode, renderChildren_eq]
      exact takes
  | tableRow cells =>
    simp only [joined, Node.joinedAll_eq, renderNode, renderChildren_eq]
    exact joins_tableRow settled
  | tableCell content span alignment =>
    simp only [joined, Node.joinedLine_eq, renderNode, renderChildren_eq]
    exact (joins_inlineContent settled).map _
  | htmlBlock content =>
    simp only [joined, renderNode]
    exact joins_htmlBlock _ content
  | definitionList entries =>
    simp only [joined, renderNode]
    exact (Joins.sequence (joins_entries settled)).map _
  | definitionTerm content =>
    simp only [joined, Node.joinedLine_eq, renderNode, renderChildren_eq]
    exact (joins_inlineContent settled).map _
  | definitionDescription content =>
    simp only [joined, Node.joinedAll_eq, renderNode, renderChildren_eq]
    exact (joins_renderPresent settled).map _
  | emphasis content | strikethrough content =>
    simp only [joined, Node.joinedLine_eq, renderNode, renderChildren_eq]
    exact (joins_inlineContent settled).map _
  | strong content =>
    simp only [joined, Node.joinedLine_eq, renderNode, renderChildren_eq]
    exact joins_strong settled
  | link url content title =>
    simp only [joined, Node.joinedLine_eq, renderNode, renderChildren_eq]
    exact joins_link settled url title
  | image url alternative title =>
    simp only [joined, renderNode]
    exact (joins_imageTarget _ url).map _
  | htmlInline content =>
    simp only [joined, renderNode]
    exact joins_htmlInline _ content
  | footnoteReference identifier =>
    simp only [joined, renderNode]
    exact joins_footnoteReference notes identifier
  | foreign kind content location =>
    simp only [joined, renderNode]
    exact .fail
  | stray kind =>
    simp only [joined, renderNode]
    exact .fail
  | codeBlock | thematicBreak | comment | footnoteDefinition | text | code | lineBreak =>
    simp only [joined, renderNode]
    exact .pure rfl

theorem settled_of_notes (notes : stage.NotesJoin) (joinable : Joinable node) : stage.Settled node := by
  induction node using Node.induction_below with
  | step node ih =>
    refine ⟨joinable.here, joins_step notes joinable fun child member other inside => ?_⟩
    exact ih child member other inside ((joinable.child member).inside inside)

end Stage

/-- Footnotes are rendered to the same at every depth. -/
theorem notes_join (options : Options) (depth : Nat) : (Stage.plain options depth).NotesJoin := by
  induction depth with
  | zero => exact fun identifier content _ => .fail
  | succ depth ih =>
    intro identifier content joinable
    change Joins (Child.renderPresent (renderChildren options (renderFootnote options depth) content))
      (Child.renderPresent (renderChildren options (renderFootnote options depth) (content.map joined)))
    have children (nodes : List Node) : renderChildren options (renderFootnote options depth) nodes =
        nodes.map (Stage.plain options depth).child := Stage.renderChildren_eq (.plain options depth) nodes
    rw [children, children]
    exact Stage.joins_renderPresent fun node member => Stage.settled_of_notes ih (joinable node member)

/-- A tree is rendered to the same when its texts are joined, with the same attributes and the same log. -/
theorem render_joined (options : Options) (attributes : Attributes) {root : Node} (joinable : Joinable root) :
    (render options attributes root.joined).outcome = (render options attributes root).outcome ∧
      (render options attributes root.joined).context = (render options attributes root).context.joined := by
  have depth : root.joined.footnotes.length = root.footnotes.length := by rw [Node.footnotes_joined, List.length_map]
  have met : joining.Meet Eq ((renderTree options root).runIn { attributes })
      ((renderTree options root.joined).runIn { attributes }) := by
    rw [renderTree, renderTree, depth]
    exact (Stage.settled_of_notes (notes_join options root.footnotes.length) joinable).joins _ _ ⟨rfl, nofun⟩
  rw [render_eq, render_eq, met.equal]
  exact ⟨rfl, met.context.1⟩

end Adocify.AsciiDoc
