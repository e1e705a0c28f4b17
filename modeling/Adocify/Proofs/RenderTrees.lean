import Adocify.Proofs.RenderDocuments
import Adocify.Proofs.TreeContainment

/-! Whole trees under a comparison. Two runs over a tree that is compared agree if the blocks of the
footnotes they may meet do; by induction on the depth these agree as well. -/

namespace Adocify.AsciiDoc

open Node (Everywhere Contains)

namespace Comparison

/-- The node is compared, and both runs agree about it. -/
structure SameTree (comparison : Comparison) (options : Options) (wrap : Wrap)
    (descend descend' : Text → List Node → Render (List Text)) (node : Node) : Prop where
  admitted : comparison.node node
  rendered : comparison.Agree comparison.text (renderNode options descend node)
    (renderNode (options.withWrap wrap) descend' node)

/-- The blocks of every footnote that may be met agree. -/
def SameBlocks (comparison : Comparison) (descend descend' : Text → List Node → Render (List Text)) : Prop :=
  ∀ identifier content, comparison.node (.footnoteReference identifier) → comparison.definition identifier content →
    comparison.Agree (List.Forall₂ comparison.text) (descend identifier content) (descend' identifier content)

namespace Lawful

variable {comparison : Comparison} {options : Options} {wrap : Wrap} (laws : comparison.Lawful options wrap)
  {descend descend' : Text → List Node → Render (List Text)}

omit laws in
theorem siblings {nodes : List Node}
    (each : ∀ node ∈ nodes, Everywhere (comparison.SameTree options wrap descend descend') node) :
    comparison.Siblings (renderChildren options descend nodes)
      (renderChildren (options.withWrap wrap) descend' nodes) := by
  induction nodes with
  | nil =>
    simp only [renderChildren]
    exact .nil
  | cons node rest ih =>
    have here := (each node List.mem_cons_self).here
    simp only [renderChildren]
    exact .cons ⟨rfl, here.admitted, here.rendered⟩ (ih fun other member => each other (.tail _ member))

omit laws in
theorem siblingsOfChild {parent : Node} {content : List Node} (children : parent.children = content)
    (each : Everywhere (comparison.SameTree options wrap descend descend') parent) :
    comparison.Siblings (renderChildren options descend content)
      (renderChildren (options.withWrap wrap) descend' content) :=
  siblings fun _ member => each.child (children ▸ member)

omit laws in
theorem opening {nodes : List Node}
    (each : ∀ node ∈ nodes, Everywhere (comparison.SameTree options wrap descend descend') node) :
    Option.Rel comparison.Siblings (openingHeading options descend nodes)
      (openingHeading (options.withWrap wrap) descend' nodes) := by
  induction nodes with
  | nil =>
    simp only [openingHeading]
    exact .none
  | cons node rest ih =>
    cases node with
    | comment content =>
      simp only [openingHeading]
      exact ih fun other member => each other (.tail _ member)
    | heading level content =>
      simp only [openingHeading]
      exact .some (siblingsOfChild rfl (each _ List.mem_cons_self))
    | _ =>
      simp only [openingHeading]
      exact .none

include laws

theorem items {nodes : List Node}
    (each : ∀ node ∈ nodes, Everywhere (comparison.SameTree options wrap descend descend') node) :
    List.Forall₂ (fun item item' => ∀ marker, comparison.Agree comparison.text (item marker) (item' marker))
      (renderItems options descend nodes) (renderItems (options.withWrap wrap) descend' nodes) := by
  induction nodes with
  | nil =>
    simp only [renderItems]
    exact .nil
  | cons node rest ih =>
    have others := ih fun other member => each other (.tail _ member)
    have here := each node List.mem_cons_self
    cases node with
    | listItem blocks taskStatus =>
      have plain : comparison.Siblings (renderChildren options descend blocks)
          (renderChildren (options.withWrap wrap) descend' blocks) := siblingsOfChild rfl here
      have blank : comparison.Agree comparison.text (pure blankFirstLine) (pure blankFirstLine) :=
        .pure (laws.text.refl _)
      rcases blocks with _ | ⟨first, blocks⟩
      · simp only [renderItems]
        exact .cons (laws.listItem blank plain taskStatus) others
      cases first with
      | paragraph content =>
        have opening := siblingsOfChild rfl (here.child List.mem_cons_self)
        have blocks := siblings fun block member => here.child (List.mem_cons_of_mem _ member)
        simp only [renderItems]
        exact .cons (laws.listItem (laws.paragraphText opening) blocks taskStatus) others
      | _ =>
        simp only [renderItems]
        exact .cons (laws.listItem blank plain taskStatus) others
    | _ =>
      simp only [renderItems]
      exact .cons (fun _ => .fail laws.misplaced) others

theorem entries {entries : List (Node × List Node)}
    (each : ∀ node ∈ Node.entryChildren entries, Everywhere (comparison.SameTree options wrap descend descend') node) :
    List.Forall₂ (comparison.Agree comparison.text) (renderEntries options descend entries)
      (renderEntries (options.withWrap wrap) descend' entries) := by
  induction entries with
  | nil =>
    simp only [renderEntries]
    exact .nil
  | cons entry rest ih =>
    obtain ⟨term, descriptions⟩ := entry
    simp only [Node.entryChildren, List.cons_append, List.forall_mem_cons, List.forall_mem_append] at each
    obtain ⟨first, below, others⟩ := each
    simp only [renderEntries]
    exact .cons (laws.definitionEntry first.here.rendered (siblings below)) (ih others)

theorem descendant {root node : Node} (admitted : comparison.node root) (inside : root.Contains node) :
    comparison.node node := by
  induction inside with
  | refl => exact admitted
  | tail _ member ih => exact laws.child ih member

/-- A node is rendered alike if everything below it is. -/
theorem nodeStep (blocks : comparison.SameBlocks descend descend') {node : Node} (admitted : comparison.node node)
    (below : ∀ child ∈ node.children, Everywhere (comparison.SameTree options wrap descend descend') child) :
    comparison.Agree comparison.text (renderNode options descend node)
      (renderNode (options.withWrap wrap) descend' node) := by
  have same (content : Text) : comparison.Agree comparison.text (pure content) (pure content) := .pure (laws.text.refl _)
  cases node with
  | document nodes =>
    simp only [renderNode]
    exact .bind (laws.documentParts admitted (opening below) (siblings below)) fun _ _ agree => .pure agree
  | heading level content =>
    simp only [renderNode]
    exact laws.heading admitted (siblings below)
  | paragraph content =>
    simp only [renderNode]
    exact laws.paragraph (siblings below)
  | blockQuote nodes =>
    -- A paragraph at the beginning is rendered from its own children, two levels down.
    have plain := laws.blockQuote .none .none (siblings below)
    rcases nodes with _ | ⟨first, rest⟩
    · simp only [renderNode]
      exact plain
    cases first with
    | paragraph content =>
      have opening := siblingsOfChild rfl (below _ List.mem_cons_self)
      simp only [renderNode]
      have rest := siblings fun block member => below block (.tail _ member)
      exact laws.blockQuote (.some opening) (.some (laws.paragraph opening)) rest
    | _ =>
      simp only [renderNode]
      exact plain
  | list ordered nodes start tight =>
    simp only [renderNode]
    exact laws.list admitted (laws.items below)
  | listItem nodes taskStatus =>
    have plain := laws.listItem (same blankFirstLine) (siblings below) taskStatus ['*']
    rcases nodes with _ | ⟨first, rest⟩
    · simp only [renderNode]
      exact plain
    cases first with
    | paragraph content =>
      have opening := siblingsOfChild rfl (below _ List.mem_cons_self)
      simp only [renderNode]
      have rest := siblings fun block member => below block (.tail _ member)
      exact laws.listItem (laws.paragraphText opening) rest taskStatus ['*']
    | _ =>
      simp only [renderNode]
      exact plain
  | table header rows alignments caption =>
    cases header with
    | none =>
      simp only [renderNode]
      exact laws.table admitted .none (siblings below)
    | some header =>
      have here := (below header List.mem_cons_self).here
      simp only [renderNode]
      have rest := siblings fun row member => below row (.tail _ member)
      exact laws.table admitted (.some ⟨rfl, here.admitted, here.rendered⟩) rest
  | tableRow cells =>
    simp only [renderNode]
    exact laws.tableRow (siblings below)
  | tableCell content span alignment =>
    simp only [renderNode]
    exact laws.tableCell span (siblings below)
  | htmlBlock content =>
    simp only [renderNode]
    exact laws.htmlBlock content
  | definitionList pairs =>
    simp only [renderNode]
    exact .bind (.sequence (laws.entries below)) fun _ _ texts => .pure (laws.text.join _ texts)
  | definitionTerm content =>
    simp only [renderNode]
    exact laws.definitionTerm (siblings below)
  | definitionDescription content =>
    simp only [renderNode]
    exact laws.definitionDescription (siblings below)
  | emphasis content =>
    simp only [renderNode]
    exact laws.emphasis (siblings below)
  | strong content =>
    simp only [renderNode]
    exact laws.strong content (siblings below)
  | strikethrough content =>
    simp only [renderNode]
    exact laws.strikethrough (siblings below)
  | link url content title =>
    simp only [renderNode]
    exact laws.link url content title (siblings below)
  | image url alternative title =>
    simp only [renderNode]
    exact laws.image url alternative title
  | lineBreak soft =>
    simp only [renderNode]
    exact .pure (laws.lineBreak soft)
  | htmlInline content =>
    simp only [renderNode]
    exact laws.htmlInline content
  | footnoteReference identifier =>
    simp only [renderNode]
    exact laws.footnoteReference admitted fun content => blocks identifier content admitted
  | foreign kind content location =>
    simp only [renderNode]
    exact .fail (laws.foreign admitted)
  | stray kind =>
    simp only [renderNode]
    exact .fail (laws.stray admitted)
  | codeBlock | thematicBreak | comment | footnoteDefinition | text | code =>
    simp only [renderNode]
    exact same _

theorem node (blocks : comparison.SameBlocks descend descend') {node : Node} (admitted : comparison.node node) :
    comparison.SameTree options wrap descend descend' node := by
  induction node using Node.induction_below with
  | step node ih =>
    refine ⟨admitted, laws.nodeStep blocks admitted fun child member other inside => ?_⟩
    exact ih child member other inside (laws.descendant (laws.child admitted member) inside)

theorem everywhere (blocks : comparison.SameBlocks descend descend') {root : Node} (admitted : comparison.node root) :
    Everywhere (comparison.SameTree options wrap descend descend') root :=
  fun _ inside => laws.node blocks (laws.descendant admitted inside)

/-- The blocks of a footnote agree at every depth if its content is compared. -/
theorem footnoteBlocks (contents : ∀ identifier content, comparison.definition identifier content →
      comparison.failure (.circularFootnote identifier) ∧ ∀ node ∈ content, comparison.node node) (depth : Nat) :
    comparison.SameBlocks (renderFootnote options depth) (renderFootnote (options.withWrap wrap) depth) := by
  induction depth with
  | zero => exact fun identifier content _ defined => .fail (contents identifier content defined).1
  | succ depth ih =>
    intro identifier content _ defined
    refine laws.renderPresent (siblings fun node member => ?_)
    exact laws.everywhere ih ((contents identifier content defined).2 node member)

/-- Both runs agree about a whole tree. -/
theorem tree (contents : ∀ identifier content, comparison.definition identifier content →
      comparison.failure (.circularFootnote identifier) ∧ ∀ node ∈ content, comparison.node node) {root : Node}
    (admitted : comparison.node root) :
    comparison.Agree comparison.text (renderTree options root) (renderTree (options.withWrap wrap) root) :=
  (laws.node (laws.footnoteBlocks contents root.footnotes.length) admitted).rendered

end Lawful

end Comparison

theorem render_eq (options : Options) (attributes : Attributes) (node : Node) :
    render options attributes node =
      ⟨((renderTree options node).runIn { attributes }).1.map Text.endWithNewline,
        ((renderTree options node).runIn { attributes }).2⟩ := rfl

end Adocify.AsciiDoc
