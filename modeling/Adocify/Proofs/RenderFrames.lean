import Adocify.Proofs.AttributeSeparation
import Adocify.Proofs.CourseTrees

/-! What a rendering leaves as it found it. A frame compares the contexts before and after a course; it
holds of a rendering if it holds of the changes that the nodes on the way make. -/

namespace Adocify.AsciiDoc

structure Frame where
  /-- The nodes that may be met. -/
  node : Node → Prop
  context : Context → Prop
  same : Context → Context → Prop

namespace Comparison

/-- Computations from the same context, of which something holds throughout. -/
def within (holds : Context → Prop) : Comparison where
  node _ := True
  definition _ _ := True
  context before other := before = other ∧ holds before
  text := Eq
  failure _ := True

theorem Agree.itself {α : Type} {holds : Context → Prop} {computation : Render α}
    (kept : ∀ before, holds before → holds (computation.runIn before).2) :
    (within holds).Agree Eq computation computation := by
  rintro before before' ⟨rfl, held⟩
  have after := kept before held
  generalize computation.runIn before = ended at after ⊢
  obtain ⟨failure | value, next⟩ := ended
  · exact .error trivial ⟨rfl, after⟩
  · exact .ok rfl ⟨rfl, after⟩

theorem Agree.same {α : Type} {holds : Context → Prop} {first second : Render α}
    (agree : (within holds).Agree Eq first second) {context : Context} (start : holds context) : first.runIn context = second.runIn context := by
  have met := agree context context ⟨rfl, start⟩
  exact Prod.ext met.equal met.context.1

end Comparison

namespace Frame

structure Lawful (frame : Frame) (options : Options) : Prop where
  refl : ∀ context, frame.same context context
  trans : ∀ {first second third}, frame.same first second → frame.same second third → frame.same first third
  kept : ∀ {before after}, frame.context before → frame.same before after → frame.context after
  part : ∀ {parent node}, frame.node parent → node ∈ partsOf parent → frame.node node
  note : ∀ {before identifier content node}, frame.context before → frame.node (.footnoteReference identifier) →
    before.footnotes.lookup identifier = some content → node ∈ content → frame.node node
  change : ∀ {node change before}, frame.node node → Own options node change → frame.context before →
    frame.same before (change.apply before)
  entered : ∀ {before} marker, frame.context before → frame.context ((Change.enterList marker).apply before)
  inside : ∀ {before after} marker, frame.context before → frame.same ((Change.enterList marker).apply before) after →
    frame.same before (Change.leaveList.apply after)

/-- The changes of a course keep to the frame. -/
def Keeps (frame : Frame) (own : Change → Prop) : Prop :=
  ∀ {change before}, own change → frame.context before → frame.same before (change.apply before)

section

variable {frame : Frame} {options : Options}

mutual

theorem Lawful.passage (laws : frame.Lawful options) : ∀ {depth node before outcome after},
    Passage options depth node before outcome after → frame.node node → frame.context before → frame.same before after
  | _, _, _, _, _, .parts course _ _, admitted, start =>
    laws.course course (fun arises => laws.change admitted arises) (fun _ member => laws.part admitted member) start
  | _, _, _, _, _, .repeated _, _, _ => laws.refl _
  | _, _, _, _, _, .undefined _ _, admitted, start => laws.change admitted ⟨trivial, trivial⟩ start
  | _, _, _, _, _, .exhausted _ _, _, _ => laws.refl _
  | _, _, _, _, _, .noted _ found course _, admitted, start =>
    have blocks := laws.course course (fun arises => arises.elim)
      (fun _ member => laws.note start admitted found member) start
    laws.trans blocks (laws.change admitted ⟨rfl, trivial⟩ (laws.kept start blocks))
  | _, _, _, _, _, .failed _ found course, admitted, start =>
    laws.course course (fun arises => arises.elim) (fun _ member => laws.note start admitted found member) start
termination_by structural _ _ _ _ _ passage => passage

theorem Lawful.course (laws : frame.Lawful options) : ∀ {depth own refuses nodes before result after},
    Course options depth own refuses nodes before result after → frame.Keeps own → (∀ node ∈ nodes, frame.node node) →
      frame.context before → frame.same before after
  | _, _, _, _, _, _, _, .nil, _, _, _ => laws.refl _
  | _, _, _, _, _, _, _, .change arises, keeps, _, start => keeps arises start
  | _, _, _, _, _, _, _, .refuse _, _, _, _ => laws.refl _
  | _, _, _, _, _, _, _, .visit passage, _, admitted, start =>
    laws.passage passage (admitted _ List.mem_cons_self) start
  | _, _, _, _, _, _, _, .append first rest, keeps, admitted, start =>
    have left := laws.course first keeps (fun _ member => admitted _ (List.mem_append_left _ member)) start
    have right := laws.course rest keeps (fun _ member => admitted _ (List.mem_append_right _ member))
      (laws.kept start left)
    laws.trans left right
  | _, _, _, _, _, _, _, .stop first, keeps, admitted, start =>
    laws.course first keeps (fun _ member => admitted _ (List.mem_append_left _ member)) start
  | _, _, _, _, _, _, _, .inside marker content, keeps, admitted, start =>
    laws.inside marker start (laws.course content keeps admitted (laws.entered marker start))
termination_by structural _ _ _ _ _ _ _ course => course

end

/-- The frame holds of every computation that takes a course. -/
theorem Lawful.takes {stage : Stage} (laws : frame.Lawful stage.options) {α : Type} {nodes : List Node}
    {fits : List Text → α → Prop} {computation : Render α} (takes : stage.Takes nodes fits computation)
    (keeps : frame.Keeps stage.own) (admitted : ∀ node ∈ nodes, frame.node node) {before : Context}
    (start : frame.context before) : frame.same before (computation.runIn before).2 := by
  obtain ⟨result, course, -⟩ := takes before
  exact laws.course course keeps admitted start

end

/-- Lists are left as often as they are entered. -/
def levels : Frame := ⟨fun _ => True, fun _ => True, fun before after => after.listStack = before.listStack⟩

theorem levels_lawful (options : Options) : levels.Lawful options where
  refl _ := rfl
  trans first second := second.trans first
  kept _ _ := trivial
  part _ _ := trivial
  note _ _ _ _ := trivial
  change := by
    rintro node change before - ⟨-, befits⟩ -
    cases change with
    | enterList | leaveList => exact befits.elim
    | _ => rfl
  entered _ _ := trivial
  inside marker _ same := by
    simp only [levels, Change.apply] at same ⊢
    rw [same, List.tail_cons]

/-- Attributes are added behind those that are there, and none is taken away. -/
theorem attributes_kept (change : Change) (context : Context) :
    context.attributes <+: (change.apply context).attributes := by
  cases change with
  | register name value => exact Attributes.register_prefix _ _ _
  | _ => exact List.prefix_refl _

def appending : Frame := ⟨fun _ => True, fun _ => True, fun before after => before.attributes <+: after.attributes⟩

theorem appending_lawful (options : Options) : appending.Lawful options where
  refl _ := List.prefix_refl _
  trans := List.IsPrefix.trans
  kept _ _ := trivial
  part _ _ := trivial
  note _ _ _ _ := trivial
  change _ _ _ := attributes_kept _ _
  entered _ _ := trivial
  inside _ _ kept := kept

end Frame

section

variable {root node next : Node} {nodes : List Node} {identifier : Text} {content : List Node}

/-- The footnotes of a document. -/
def notesOf (root : Node) : FootnoteTable := FootnoteTable.collect [] root

theorem mem_notesOf {note : Text × List Node} (member : note ∈ notesOf root) : note ∈ root.footnotes := by
  rcases FootnoteTable.mem_collect member with none | defined
  · cases none
  · exact defined

theorem Inside.note (found : (notesOf root).lookup identifier = some content) (member : node ∈ content) :
    Inside root node :=
  .inr (Node.contains_note (mem_notesOf (FootnoteTable.mem_of_lookup found)) member)

theorem Inside.reaches (inside : Inside root node) (reaches : Reaches (notesOf root) node next) : Inside root next :=
  reaches.within root.Contains (fun above under => above.tail under)
    (fun _ found member => Node.contains_note (mem_notesOf (FootnoteTable.mem_of_lookup found)) member) inside

theorem inside_document : ∀ part ∈ partsOf (.document nodes), Inside (.document nodes) part :=
  fun _ member => Inside.part (.inr .refl) member

/-- Documents within a document have no footnotes of their own. -/
theorem collect_inside (inside : Inside root (.document nodes)) :
    (notesOf root).collect (.document nodes) = notesOf root := by
  refine FootnoteTable.collect_known fun note member => FootnoteTable.known_collect ?_
  rcases inside with ⟨content, same⟩ | inside
  · cases same
  · have defined := (Node.mem_footnotes_iff (.document nodes)).mp member
    exact (Node.mem_footnotes_iff root).mpr (inside.trans defined)

end

/-- The nodes of a document from which no node of a kind is reached, and a part of the context that only
nodes of that kind change. -/
def spared {α : Type} (root : Node) (kind : Node → Prop) (part : Context → α) : Frame where
  node node := Inside root node ∧ ∀ next, Reaches (notesOf root) node next → ¬kind next
  context context := context.footnotes = notesOf root
  same before after := after.footnotes = before.footnotes ∧ part after = part before

theorem spared_lawful {α : Type} {root : Node} {kind : Node → Prop} {part : Context → α} {options : Options}
    (untouched : ∀ {node change}, ¬kind node → Own options node change →
      ∀ context, part (change.apply context) = part context)
    (entered : ∀ marker context, part ((Change.enterList marker).apply context) = part context)
    (left : ∀ context, part (Change.leaveList.apply context) = part context) :
    (spared root kind part).Lawful options where
  refl _ := ⟨rfl, rfl⟩
  trans first second := ⟨second.1.trans first.1, second.2.trans first.2⟩
  kept start same := same.1.trans start
  part := by
    rintro parent node ⟨inside, spares⟩ member
    exact ⟨inside.part member, fun next reached => spares next (.head (.inl member) reached)⟩
  note := by
    rintro before identifier content node start ⟨-, spares⟩ found member
    rw [show before.footnotes = notesOf root from start] at found
    exact ⟨.note found member, fun next reached => spares next (.head (.inr ⟨_, _, rfl, found, member⟩) reached)⟩
  change := by
    rintro node change before ⟨inside, spares⟩ arises start
    refine ⟨?_, untouched (spares node .refl) arises before⟩
    cases change with
    | collect nodes =>
      cases node with
      | document others =>
        obtain rfl : nodes = others := arises.1
        simp only [Change.apply, show before.footnotes = notesOf root from start, collect_inside inside]
      | _ => exact arises.1.elim
    | _ => rfl
  entered _ start := start
  inside marker start same := ⟨same.1, (left _).trans (same.2.trans (entered marker _))⟩

/-- The footnotes of a document do not change while its nodes are rendered. -/
def steady (root : Node) : Frame := spared root (fun _ => False) fun _ => ()

theorem steady_lawful (root : Node) (options : Options) : (steady root).Lawful options :=
  spared_lawful (fun _ _ _ => rfl) (fun _ _ => rfl) fun _ => rfl

theorem steady_node {root node : Node} (inside : Inside root node) : (steady root).node node :=
  ⟨inside, fun _ _ => id⟩

theorem steady_own {root node : Node} {options : Options} (inside : Inside root node) :
    (steady root).Keeps (Own options node) :=
  fun arises start => (steady_lawful root options).change (steady_node inside) arises start

theorem steady_note {root : Node} : (steady root).Keeps fun _ => False :=
  fun arises => arises.elim

section

variable {options : Options} {root : Node} {depth : Nat} {own : Change → Prop} {refuses : Failure → Prop}
    {nodes : List Node}
  {before after : Context} {result : Except Failure (List Text)}

theorem Course.steady (course : Course options depth own refuses nodes before result after)
    (keeps : (AsciiDoc.steady root).Keeps own) (inside : ∀ node ∈ nodes, Inside root node)
    (start : before.footnotes = notesOf root) : after.footnotes = notesOf root :=
  have same := (steady_lawful root options).course course keeps
    (fun node member => steady_node (inside node member)) start
  same.1.trans start

end

/-- The changes say nothing of which footnotes are written. -/
def Quiet (own : Change → Prop) : Prop :=
  ∀ {change context}, own change → (change.apply context).emitted = context.emitted

theorem quiet_own {options : Options} {node : Node} (apart : ∀ identifier, node ≠ .footnoteReference identifier) :
    Quiet (Own options node) := by
  intro change context arises
  cases change with
  | emit identifier =>
    cases node with
    | footnoteReference other => exact absurd rfl (apart other)
    | _ => exact arises.1.elim
  | _ => rfl

theorem makes_apart {node : Node} {texts : List Text} {text : Text} (makes : Makes node texts text) :
    ∀ identifier, node ≠ .footnoteReference identifier := by
  rintro identifier rfl
  exact makes

/-- The rendering of a whole document is a course of its parts, in the context that was opened for it. -/
theorem render_course (options : Options) (attributes : Attributes) (nodes : List Node) :
    let rendering := render options attributes (.document nodes)
    ∃ result, Course options (Node.document nodes).footnotes.length (Own options (.text []))
        (Refuses options (.text [])) (partsOf (.document nodes)) (opened nodes attributes) result rendering.context ∧
      Completes (fun texts written => ∃ text, Assembled texts text ∧ written = Text.endWithNewline text) result
        rendering.outcome := by
  intro rendering
  let stage := Stage.plain options (Node.document nodes).footnotes.length
  have children : renderChildren options (noteBlocks options nodes) nodes = nodes.map stage.child :=
    Stage.renderChildren_eq stage nodes
  have takes : stage.Takes (partsOf (.document nodes)) (fun texts parts => Assembled texts parts.join)
      (documentBody options (decisionFor nodes attributes) (openingHeading options (noteBlocks options nodes) nodes)
        (nodes.map stage.child)) :=
    Stage.Takes.documentBody (Stage.common_of options _ _) _ fun node _ => follows options _ node
  have parts : renderParts options attributes nodes = (documentBody options (decisionFor nodes attributes)
      (openingHeading options (noteBlocks options nodes) nodes) (nodes.map stage.child)).runIn
        (opened nodes attributes) := by
    simp only [renderParts, documentParts_eq, children]
    rw [Render.runIn_bind, decideStructure_opened]
    rfl
  obtain ⟨result, course, completes⟩ := takes (opened nodes attributes)
  simp only [rendering, render_document, parts]
  refine ⟨result, course, ?_⟩
  generalize Render.runIn _ (opened nodes attributes) = ended at completes ⊢
  obtain ⟨outcome, last⟩ := ended
  cases result <;> cases outcome
  · exact completes
  · exact completes
  · exact completes
  · exact ⟨_, completes, rfl⟩

end Adocify.AsciiDoc
