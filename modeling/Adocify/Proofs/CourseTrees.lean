import Adocify.Proofs.CourseBlocks
import Adocify.Proofs.RenderTrees

/-! Whole trees as courses. By induction on the number of steps left from footnote to footnote, and
within that over the tree, every rendering of every node is a course of its parts. -/

namespace Adocify.AsciiDoc

open Node (Everywhere)

theorem prologue_comments (nodes : List Node) (titleGiven : Bool) :
    ∀ node ∈ (DocumentStructure.ofChildren nodes titleGiven).prologue, node.isComment := by
  intro node member
  exact List.mem_takeWhile_imp member

theorem openingHeading_comments {options : Options} {descend : Text → List Node → Render (List Text)}
    {prologue body content : List Node} {level : Whole} (comments : ∀ node ∈ prologue, node.isComment) :
    openingHeading options descend (prologue ++ .heading level content :: body) =
      some (renderChildren options descend content) := by
  induction prologue with
  | nil => simp only [List.nil_append, openingHeading]
  | cons node rest ih =>
    have first := comments node List.mem_cons_self
    cases node with
    | comment text =>
      simp only [List.cons_append, openingHeading]
      exact ih fun other member => comments other (.tail _ member)
    | _ => cases first

/-- The texts of a document's parts stand in its title and its body. -/
def TreeParts.Holds (texts : List Text) (parts : TreeParts) : Prop :=
  ∃ titled others, texts = titled ++ others ∧ Assembled titled (parts.title.getD []) ∧ Laid others parts.body

theorem TreeParts.Holds.join {texts : List Text} {parts : TreeParts} (holds : parts.Holds texts)
    (before after : Attributes) :
    Assembled texts (DocumentParts.join ⟨parts.prologue, parts.header before after, parts.body⟩) := by
  obtain ⟨titled, others, rfl, assembled, laid⟩ := holds
  have header : Laid titled (parts.header before after) := by
    obtain ⟨title, prologue, body⟩ := parts
    simp only [TreeParts.header, headerLines]
    cases title with
    | none => exact .missing assembled rfl _
    | some text =>
      refine (Laid.followed ?_ _).followed _
      cases text with
      | nil => exact .missing assembled rfl _
      | cons c text => exact .single (Assembled.behind _ assembled)
  have lead : Laid titled (if (Text.unlines (parts.header before after)).isEmpty then parts.prologue
      else [if (Text.join blankLine parts.prologue).isEmpty then Text.unlines (parts.header before after)
        else Text.join blankLine parts.prologue ++ '\n' :: Text.unlines (parts.header before after)]) := by
    have joined : Assembled titled (Text.unlines (parts.header before after)) := header.join ['\n']
    split
    next empty => exact .missing joined empty _
    next =>
      split
      · exact .single joined
      · exact .single ((joined.cons '\n').behind _)
  have blocks := (lead.append laid).join blankLine
  simp only [DocumentParts.join]
  split
  next empty =>
    rw [if_pos empty] at blocks
    exact blocks
  next shown =>
    rw [if_neg shown] at blocks
    exact blocks

/-- What is left of a document's rendering when its structure is decided. -/
def documentBody (options : Options) (decision : DocumentStructure) (opening : Option (List Child))
    (children : List Child) :
    Render DocumentParts := do
  let before ← get
  let parts ← treeParts options decision opening children
  let after ← get
  return ⟨parts.prologue, parts.header before.attributes after.attributes, parts.body⟩

namespace Stage

variable {stage : Stage} {nodes : List Node}

theorem openingHeading_behind {prologue body content : List Node} {level : Whole}
    (comments : ∀ node ∈ prologue, node.isComment) :
    openingHeading stage.options (renderFootnote stage.options stage.depth)
      (prologue ++ .heading level content :: body) = some (content.map stage.child) := by
  rw [openingHeading_comments comments, renderChildren_eq]

theorem Takes.comments {prologue : List Node} (comments : ∀ node ∈ prologue, node.isComment) :
    stage.Takes [] (fun texts _ => texts = []) (Child.renderPresent (prologue.map stage.child)) := by
  have each : stage.Takes [] (fun texts _ => texts = [] ∧ True)
      (Render.sequence ((prologue.map stage.child).map (·.rendered))) := by
    induction prologue with
    | nil => exact .pure ⟨rfl, trivial⟩
    | cons node rest ih =>
      have first := comments node List.mem_cons_self
      cases node with
      | comment text =>
        have others := ih fun other member => comments other (.tail _ member)
        simp only [List.map_cons, Render.sequence, child, renderNode, pure_bind]
        exact others.before fun _ _ => .pure ⟨rfl, trivial⟩
      | _ => cases first
  exact each.before fun _ _ => .pure rfl

theorem Takes.decideStructure (common : stage.Common) (collected : stage.own (.collect nodes))
    (classified : ∀ book, stage.own (.classify book))
    (booked : stage.own (.register "doctype" (.text "book".toList))) :
    stage.Takes [] (fun texts decision => texts = [] ∧ ∃ titleGiven, decision = .ofChildren nodes titleGiven)
      (decideStructure nodes) := by
  refine (Takes.modify (.collect nodes) collected).before fun _ _ => ?_
  refine Takes.get.before fun context _ => ?_
  refine (Takes.report common _ _).before fun _ _ => ?_
  refine (Takes.modify (.classify _) (classified _)).before fun _ _ => ?_
  split
  · exact (Takes.register booked).before fun _ _ => .pure ⟨rfl, _, rfl⟩
  · exact .pure ⟨rfl, _, rfl⟩

theorem Takes.treeParts (common : stage.Common) (titleGiven : Bool)
    (follows : stage.FollowsAll (partsOf (.document nodes))) :
    stage.Takes (partsOf (.document nodes)) (fun texts parts => parts.Holds texts)
      (treeParts stage.options (.ofChildren nodes titleGiven)
        (openingHeading stage.options (renderFootnote stage.options stage.depth) nodes) (nodes.map stage.child)) := by
  have heading : stage.FollowsAll (inlineParts ((DocumentStructure.ofChildren nodes titleGiven).title.getD [])) :=
    fun node member => follows node (List.mem_append_left _ member)
  have blocks : stage.FollowsAll (DocumentStructure.ofChildren nodes titleGiven).body :=
    fun node member => follows node (List.mem_append_right _ member)
  change stage.Takes (inlineParts ((DocumentStructure.ofChildren nodes titleGiven).title.getD []) ++
    (DocumentStructure.ofChildren nodes titleGiven).body) _ _
  have comments := prologue_comments nodes titleGiven
  have split := ofChildren_split nodes titleGiven
  generalize DocumentStructure.ofChildren nodes titleGiven = decision at heading blocks comments split ⊢
  have title : stage.Takes (inlineParts (decision.title.getD [])) (fun texts title => Assembled texts (title.getD []))
      (promotedTitle stage.options decision
        (openingHeading stage.options (renderFootnote stage.options stage.depth) nodes)) := by
    rcases split with ⟨level, content, promoted, whole⟩ | ⟨plain, -⟩
    · rw [whole, openingHeading_behind comments]
      simp only [promoted, Option.getD_some] at heading
      simp only [promotedTitle, promoted, Option.isSome_some, Option.getD_some]
      exact (Takes.inlineContent common heading).map fun _ _ assembled => assembled
    · simp only [promotedTitle, plain, Option.isSome_none]
      exact .pure (.literal _)
  have prologue : (nodes.map stage.child).take decision.prologue.length = decision.prologue.map stage.child := by
    rw [← List.map_take]
    rcases split with ⟨level, content, -, whole⟩ | ⟨-, whole⟩ <;> conv_lhs => rw [whole]
    · rw [List.take_left]
    · rw [List.take_left]
  have body : (nodes.map stage.child).drop ((nodes.map stage.child).length - decision.body.length) =
      decision.body.map stage.child := by
    have ends : decision.body <:+ nodes := by
      rcases split with ⟨level, content, -, whole⟩ | ⟨-, whole⟩
      · exact ⟨decision.prologue ++ [.heading level content], by simp [whole.symm]⟩
      · exact ⟨decision.prologue, whole.symm⟩
    rw [List.length_map, ← List.map_drop, ← List.suffix_iff_eq_drop.mp ends]
  simp only [AsciiDoc.treeParts, prologue, body]
  refine title.bind fun titled text assembled => ?_
  refine Takes.bind (Takes.comments comments) fun none _ same => ?_
  refine (Takes.renderPresent blocks).map fun others lines laid => ?_
  rw [same, List.nil_append]
  exact ⟨titled, others, rfl, assembled, laid⟩

theorem Takes.documentBody (common : stage.Common) (titleGiven : Bool)
    (follows : stage.FollowsAll (partsOf (.document nodes))) :
    stage.Takes (partsOf (.document nodes)) (fun texts parts => Assembled texts parts.join)
      (documentBody stage.options (.ofChildren nodes titleGiven)
        (openingHeading stage.options (renderFootnote stage.options stage.depth) nodes) (nodes.map stage.child)) := by
  refine Takes.get.before fun before _ => ?_
  refine (Takes.treeParts common titleGiven follows).andThen fun texts parts holds => ?_
  refine Takes.get.before fun after _ => .pure ?_
  rw [List.append_nil]
  exact holds.join _ _

theorem Takes.documentParts (common : stage.Common) (collected : stage.own (.collect nodes))
    (classified : ∀ book, stage.own (.classify book)) (booked : stage.own (.register "doctype" (.text "book".toList)))
    (follows : stage.FollowsAll (partsOf (.document nodes))) :
    stage.Takes (partsOf (.document nodes)) (fun texts parts => Assembled texts parts.join)
      (documentParts stage.options nodes
        (openingHeading stage.options (renderFootnote stage.options stage.depth) nodes) (nodes.map stage.child)) := by
  rw [documentParts_eq]
  refine (Takes.decideStructure common collected classified booked).before fun decision made => ?_
  obtain ⟨titleGiven, rfl⟩ := made
  exact Takes.documentBody common titleGiven follows

/-- The stage on which a node is rendered. -/
def of (options : Options) (depth : Nat) (node : Node) : Stage :=
  ⟨options, depth, Own options node, Refuses options node⟩

theorem common_of (options : Options) (depth : Nat) (node : Node) : (of options depth node).Common :=
  ⟨fun _ => ⟨trivial, trivial⟩, .experimental, .anywhere⟩

theorem locates_of {options : Options} {depth : Nat} {node : Node} {url : Text} (shown : url ∈ ownImages node) :
    (of options depth node).Locates url :=
  fun directory given under => ⟨.imagesDirectory given, .image shown ⟨directory, given, under⟩⟩

/-- One step of the induction over the tree: a node takes its course if its parts do. -/
theorem Takes.node (options : Options) (depth : Nat) {node : Node}
    (apart : ∀ identifier, node ≠ .footnoteReference identifier)
    (follows : ∀ part ∈ partsOf node, Follows options depth part) :
    (of options depth node).Takes (partsOf node) (Makes node)
      (renderNode options (renderFootnote options depth) node) := by
  have common := common_of options depth node
  have follows : (of options depth node).FollowsAll (partsOf node) := follows
  have made {computation : Render Text}
      (whole : ∀ texts text, Makes node texts text = (WrittenBare node ∨ Assembled texts text))
      (takes : (of options depth node).Takes (partsOf node) Assembled computation) :
      (of options depth node).Takes (partsOf node) (Makes node) computation :=
    takes.mono fun texts text assembled => whole texts text ▸ .inr assembled
  have children (nodes : List Node) : renderChildren options (renderFootnote options depth) nodes =
      nodes.map (of options depth node).child := renderChildren_eq (of options depth node) nodes
  cases node with
  | document nodes =>
    simp only [renderNode, children]
    have parts := Takes.documentParts common ⟨rfl, trivial⟩ (fun _ => ⟨trivial, trivial⟩) ⟨.book, .document⟩ follows
    exact made (fun _ _ => rfl) (parts.map fun _ _ assembled => assembled)
  | heading level content =>
    simp only [renderNode, children]
    exact made (fun _ _ => rfl) (.heading common ⟨rfl, trivial⟩ (fun _ failed => failed) follows)
  | paragraph content =>
    simp only [renderNode, children]
    exact made (fun _ _ => rfl) (.paragraph common (fun _ shown => locates_of shown) follows)
  | blockQuote nodes => exact made (fun _ _ => rfl) (.blockQuote common (fun _ shown => locates_of shown) follows)
  | list ordered items start tight =>
    simp only [renderNode]
    have refused : ∀ item ∈ items, (∀ blocks status, item ≠ .listItem blocks status) →
        Refuses options (.list ordered items start tight) .misplaced :=
      fun item member misplaced => ⟨rfl, item, member, misplaced⟩
    exact made (fun _ _ => rfl) (.list ordered start (Takes.items common refused follows))
  | listItem blocks taskStatus =>
    have blank : (of options depth (.listItem blocks taskStatus)).Takes [] Assembled (Pure.pure blankFirstLine) :=
      .pure (.literal _)
    rcases blocks with _ | ⟨first, rest⟩
    · simp only [renderNode, children]
      exact made (fun _ _ => rfl) (blank.listItem follows taskStatus ['*'])
    cases first with
    | paragraph content =>
      have opening : (of options depth _).FollowsAll (inlineParts content) :=
        fun node member => follows node (List.mem_append_left _ member)
      have behind : (of options depth _).FollowsAll rest :=
        fun node member => follows node (List.mem_append_right _ member)
      simp only [renderNode, children]
      exact made (fun _ _ => rfl) ((Takes.paragraphText common opening).listItem behind taskStatus ['*'])
    | _ =>
      simp only [renderNode, children]
      exact made (fun _ _ => rfl) (blank.listItem follows taskStatus ['*'])
  | table header rows alignments caption =>
    have begun (width : Int) : Own options (.table header rows alignments caption) (.beginTable width) :=
      ⟨trivial, trivial⟩
    have takes : (of options depth (.table header rows alignments caption)).Takes (header.toList ++ rows) Assembled
        (AsciiDoc.table (header.map (of options depth (.table header rows alignments caption)).child)
          (rows.map (of options depth (.table header rows alignments caption)).child) alignments caption) :=
      Takes.table begun (fun _ failed => failed) follows alignments caption
    cases header with
    | none =>
      simp only [renderNode, children]
      exact made (fun _ _ => rfl) takes
    | some row =>
      simp only [renderNode, children]
      exact made (fun _ _ => rfl) takes
  | tableRow cells =>
    simp only [renderNode, children]
    exact made (fun _ _ => rfl) (.tableRow (fun _ failed => failed) follows)
  | tableCell content span alignment =>
    simp only [renderNode, children]
    exact made (fun _ _ => rfl) (.tableCell common span follows)
  | htmlBlock content =>
    simp only [renderNode]
    exact made (fun _ _ => rfl) (.htmlBlock common content)
  | definitionList entries =>
    simp only [renderNode]
    exact made (fun _ _ => rfl) ((Takes.entries follows).map fun _ _ laid => laid.join ['\n'])
  | definitionTerm content =>
    simp only [renderNode, children]
    exact made (fun _ _ => rfl) (.definitionTerm common follows)
  | definitionDescription content =>
    simp only [renderNode, children]
    exact made (fun _ _ => rfl) (.definitionDescription follows)
  | emphasis content =>
    simp only [renderNode, children]
    exact made (fun _ _ => rfl) (.emphasis common follows)
  | strong content =>
    simp only [renderNode, children]
    exact made (fun _ _ => rfl) (.strong common follows)
  | strikethrough content =>
    simp only [renderNode, children]
    exact made (fun _ _ => rfl) (.strikethrough common follows)
  | link url content title =>
    simp only [renderNode, children]
    exact .link common follows url title
  | image url alternative title =>
    simp only [renderNode]
    exact made (fun _ _ => rfl) (.image (locates_of List.mem_cons_self) alternative title)
  | htmlInline content =>
    simp only [renderNode]
    exact made (fun _ _ => rfl) (.htmlInline common content)
  | footnoteReference identifier => exact absurd rfl (apart identifier)
  | foreign kind content location =>
    simp only [renderNode]
    exact .fail rfl
  | stray kind =>
    simp only [renderNode]
    exact .fail rfl
  | codeBlock | thematicBreak | comment | footnoteDefinition | text | code | lineBreak =>
    simp only [renderNode]
    exact .pure (.inr (.literal _))

theorem Takes.noteBlocks {content : List Node} (identifier : Text) (follows : stage.FollowsAll content) :
    stage.Takes content (fun texts blocks => blocks = presentTexts texts)
      (renderFootnote stage.options (stage.depth + 1) identifier content) := by
  simp only [renderFootnote, renderChildren_eq]
  exact (Takes.texts follows).map fun texts values same => by rw [same, presentTexts]

end Stage

section

variable {options : Options} {depth : Nat}

theorem follows_of_parts {node : Node} (apart : ∀ identifier, node ≠ .footnoteReference identifier)
    (follows : ∀ part ∈ partsOf node, Follows options depth part) : Follows options depth node := by
  intro before
  obtain ⟨result, course, completes⟩ := Stage.Takes.node options depth apart follows before
  exact .parts course completes rfl

theorem follows_text (content : Text) : Follows options depth (.text content) :=
  follows_of_parts (fun _ => Node.noConfusion) fun part member => by cases member

theorem follows_reference (identifier : Text)
    (earlier : ∀ steps, depth = steps + 1 → ∀ node, Follows options steps node) :
    Follows options depth (.footnoteReference identifier) := by
  intro before
  simp only [renderNode, footnoteReference, Render.runIn_bind, Render.runIn_get]
  by_cases fresh : identifier ∈ before.emitted
  · simp only [List.contains_eq_mem, fresh, decide_true, if_true, Render.runIn_pure]
    exact .repeated fresh
  simp only [List.contains_eq_mem, fresh, decide_false, Bool.false_eq_true, if_false]
  cases found : before.footnotes.lookup identifier with
  | none => exact .undefined fresh found
  | some content =>
    cases depth with
    | zero => exact .exhausted fresh found
    | succ steps =>
      have blocks : Stage.Takes ⟨options, steps, fun _ => False, fun _ => False⟩ content _ _ :=
        .noteBlocks identifier fun block _ => earlier steps rfl block
      obtain ⟨result, course, completes⟩ := blocks before
      simp only [Render.runIn_bind]
      generalize written : (renderFootnote options (steps + 1) identifier content).runIn before = ended
        at course completes ⊢
      obtain ⟨failure | blocks, after⟩ := ended
      · cases result with
        | ok texts => exact False.elim completes
        | error other =>
          obtain rfl : other = failure := completes
          exact .failed fresh found course
      · cases result with
        | error other => exact False.elim completes
        | ok texts =>
          obtain rfl : blocks = presentTexts texts := completes
          exact .noted fresh found course written

/-- Every rendering is a course. -/
theorem follows (options : Options) (depth : Nat) (node : Node) : Follows options depth node := by
  have level (depth : Nat) (earlier : ∀ steps, depth = steps + 1 → ∀ node, Follows options steps node) (node : Node) :
      Follows options depth node := by
    induction node using Node.induction_below with
    | step node below =>
      by_cases reference : ∃ identifier, node = .footnoteReference identifier
      · obtain ⟨identifier, rfl⟩ := reference
        exact follows_reference identifier earlier
      refine follows_of_parts (fun identifier same => reference ⟨identifier, same⟩) fun part member => ?_
      rcases partsOf_below member with ⟨content, rfl⟩ | ⟨child, under, inside⟩
      · exact follows_text content
      · exact below child under part inside
  induction depth generalizing node with
  | zero => exact level 0 (fun steps same => by cases same) node
  | succ depth ih =>
    refine level (depth + 1) (fun steps same => ?_) node
    obtain rfl : depth = steps := Nat.succ.inj same
    exact ih

/-- On this stage nothing changes but by notes and registrations, and nothing fails. -/
abbrev Stage.plain (options : Options) (depth : Nat) : Stage := Stage.of options depth (.text [])

theorem takes_inlineContent (options : Options) (depth : Nat) (content : List Node) :
    (Stage.plain options depth).Takes (inlineParts content) Assembled
      (inlineContent options (renderChildren options (renderFootnote options depth) content)) := by
  have children : renderChildren options (renderFootnote options depth) content =
      content.map (Stage.plain options depth).child := Stage.renderChildren_eq (.plain options depth) content
  rw [children]
  exact Stage.Takes.inlineContent (Stage.common_of options depth _) fun node _ => follows options depth node

theorem takes_paragraphText (options : Options) (depth : Nat) (content : List Node) :
    (Stage.plain options depth).Takes (inlineParts content) Assembled
      (paragraphText options (renderChildren options (renderFootnote options depth) content)) := by
  have children : renderChildren options (renderFootnote options depth) content =
      content.map (Stage.plain options depth).child := Stage.renderChildren_eq (.plain options depth) content
  rw [children]
  exact Stage.Takes.paragraphText (Stage.common_of options depth _) fun node _ => follows options depth node

end

end Adocify.AsciiDoc
