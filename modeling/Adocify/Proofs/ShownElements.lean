import Adocify.Proofs.KeyCombinations
import Adocify.Proofs.SupportedTrees

/-! Which children of a node its rendering comes to. Of the children it leaves out those that are written
in another way: what stands in a footnote definition, below an element of a foreign kind, in a key
combination or in the label of an admonition, and what stands in a list without being an item. -/

namespace Adocify.AsciiDoc

open Node (IsKnown)

/-- The node is the label with which the line opens as an admonition. -/
def Opens (content : List Node) (node : Node) : Prop :=
  (splitAdmonition id .text content).isSome ∧ content.head? = some node

/-- A paragraph opens with the label; the first one of a quote may have a second right behind. -/
def IsLabel (content : List Node) (node : Node) : Prop :=
  Opens content node ∨ ∃ label remainder, splitAdmonition id .text content = some (label, remainder) ∧ Opens remainder node

def Presents : Node → Node → Prop
  | .footnoteDefinition .., _ | .foreign .., _ => False
  | .paragraph content, child => Stands content child ∧ ¬IsLabel content child
  | .heading _ content, child | .tableCell content _ _, child | .definitionTerm content, child
  | .emphasis content, child | .strong content, child | .strikethrough content, child
  | .link _ content _, child => Stands content child
  | .list _ items _ _, child => child ∈ items ∧ ∃ blocks taskStatus, child = .listItem blocks taskStatus
  | parent, child => child ∈ parent.children

/-- Shown are children of what is shown, and the blocks of a footnote that a shown reference names. -/
def Shown (table : FootnoteTable) : Node → Node → Prop :=
  Relation.ReflTransGen fun node next => Presents node next ∨ ∃ identifier content,
    node = .footnoteReference identifier ∧ table.lookup identifier = some content ∧ next ∈ content

/-- A node that is rendered, or all of whose shown children are. -/
inductive Met (table : FootnoteTable) (root : Node) : Node → Prop where
  | reached {node} (reaches : Reaches table root node) : Met table root node
  | through {node} (known : node.IsKnown) (apart : ∀ identifier, node ≠ .footnoteReference identifier)
      (shown : ∀ child, Presents node child → Met table root child) : Met table root node

section

variable {table : FootnoteTable} {root parent node child : Node} {content nodes : List Node}

theorem Stands.mem (stands : Stands content node) : node ∈ content := by
  obtain ⟨before, after, rfl, -⟩ := stands
  exact List.mem_append_right _ List.mem_cons_self

theorem Presents.mem (shows : Presents parent child) : child ∈ parent.children := by
  cases parent with
  | footnoteDefinition | foreign => exact shows.elim
  | paragraph => exact shows.1.mem
  | heading | tableCell | definitionTerm | emphasis | strong | strikethrough | link => exact Stands.mem shows
  | list => exact shows.1
  | _ => exact shows

theorem Stands.remainder (stands : Stands content node) (solid : Solid node) (other : ¬Opens content node) {label : Text}
    {remainder : List Node} (split : splitAdmonition id .text content = some (label, remainder)) :
    Stands remainder node := by
  have opens : (splitAdmonition id .text content).isSome := Option.isSome_iff_exists.mpr ⟨_, split⟩
  obtain ⟨marked, second, rest, rfl, shape⟩ := splitAdmonition_shape split
  have later : Stands (second :: rest) node := stands.behind fun same => other ⟨opens, congrArg some same.symm⟩
  rcases shape with rfl | ⟨⟨written, rfl⟩, shape⟩
  · exact later
  have last : Stands rest node := by
    refine later.behind ?_
    rintro rfl
    exact solid
  rcases shape with rfl | ⟨stripped, rfl⟩
  · exact last
  · obtain ⟨before, after, rfl, unkeyed⟩ := last
    refine ⟨.text stripped :: before, after, rfl, unkeyed.imp (fun closed => ?_) id⟩
    exact (keyOpen_other rfl rfl).trans closed

namespace Met

theorem leaf (known : node.IsKnown) (apart : ∀ identifier, node ≠ .footnoteReference identifier)
    (bare : node.children = []) : Met table root node :=
  .through known apart fun _ shows => absurd shows.mem (bare ▸ List.not_mem_nil)

theorem of_solid (reaches : Solid node → Reaches table root node) : Met table root node := by
  cases node with
  | text | htmlInline => exact .leaf trivial (fun _ => Node.noConfusion) rfl
  | _ => exact .reached (reaches trivial)

theorem line (parts : ∀ part ∈ inlineParts content, Reaches table root part) (stands : Stands content node) :
    Met table root node :=
  .of_solid fun solid => parts node (stands.mem_inlineParts solid)

theorem paragraph (parts : ∀ part ∈ paragraphParts content, Reaches table root part) (stands : Stands content node)
    (other : ¬Opens content node) : Met table root node := by
  simp only [paragraphParts] at parts
  split at parts
  next image =>
    have picture {url alternative title} : Met table root (.image url alternative title) :=
      .leaf trivial (fun _ => Node.noConfusion) rfl
    have member := stands.mem
    simp only [blockImage?] at image
    split at image
    · obtain rfl := List.mem_singleton.mp member
      exact picture
    · obtain rfl := List.mem_singleton.mp member
      refine .through trivial (fun _ => Node.noConfusion) fun child shows => ?_
      obtain rfl := List.mem_singleton.mp shows.mem
      exact picture
    · cases image
  split at parts
  next label remainder split =>
    exact .of_solid fun solid => parts node ((stands.remainder solid other split).mem_inlineParts solid)
  next => exact .line parts stands

/-- The blocks of a list item, the first of which is a line if it is a paragraph. -/
theorem item {taskStatus : Option Text}
    (parts : ∀ part ∈ itemContents (.listItem nodes taskStatus), Reaches table root part)
    (member : node ∈ nodes) : Met table root node := by
  rcases nodes with _ | ⟨first, rest⟩
  · cases member
  cases first with
  | paragraph content =>
    rcases List.mem_cons.mp member with rfl | later
    · exact .through trivial (fun _ => Node.noConfusion) fun child shows =>
        .line (fun part inside => parts part (List.mem_append_left _ inside)) shows.1
    · exact .reached (parts node (List.mem_append_right _ later))
  | _ => exact .reached (parts node member)

theorem quote (parts : ∀ part ∈ partsOf (.blockQuote nodes), Reaches table root part) (member : node ∈ nodes) :
    Met table root node := by
  rcases nodes with _ | ⟨first, rest⟩
  · cases member
  cases first with
  | paragraph content =>
    simp only [partsOf] at parts
    split at parts
    next label remainder split =>
      rcases List.mem_cons.mp member with rfl | later
      · refine .through trivial (fun _ => Node.noConfusion) fun child shows => ?_
        obtain ⟨stands, other⟩ := shows
        by_cases solid : Solid child
        · exact .paragraph (fun part inside => parts part (List.mem_append_left _ inside))
            (stands.remainder solid (fun opens => other (.inl opens)) split)
            fun opens => other (.inr ⟨label, remainder, split, opens⟩)
        · exact .of_solid fun held => absurd held solid
      · exact .reached (parts node (List.mem_append_right _ later))
    next => exact .reached (parts node member)
  | _ => exact .reached (parts node member)

theorem document (parts : ∀ part ∈ partsOf (.document nodes), Reaches table root part) (member : node ∈ nodes) :
    Met table root node := by
  have body : ∀ part ∈ (DocumentStructure.ofChildren nodes false).body, Met table root part :=
    fun part inside => .reached (parts part (List.mem_append_right _ inside))
  have comments : ∀ part ∈ (DocumentStructure.ofChildren nodes false).prologue, Met table root part := by
    intro part inside
    have comment : part.isComment = true := List.mem_takeWhile_imp inside
    cases part with
    | comment => exact .leaf trivial (fun _ => Node.noConfusion) rfl
    | _ => cases comment
  rcases ofChildren_split nodes false with ⟨level, content, promoted, whole⟩ | ⟨-, whole⟩
  · rw [whole] at member
    rcases List.mem_append.mp member with before | behind
    · exact comments node before
    rcases List.mem_cons.mp behind with rfl | later
    · refine .through trivial (fun _ => Node.noConfusion) fun child shows => .line (fun part inside => ?_) shows
      refine parts part (List.mem_append_left _ ?_)
      rwa [promoted, Option.getD_some]
    · exact body node later
  · rw [whole] at member
    rcases List.mem_append.mp member with before | later
    · exact comments node before
    · exact body node later

theorem shown (reaches : Reaches table root parent) (shows : Presents parent child) : Met table root child := by
  have parts : ∀ part ∈ partsOf parent, Reaches table root part := fun part member => reaches.tail (.inl member)
  cases parent with
  | document nodes => exact document parts shows
  | heading | tableCell | definitionTerm | emphasis | strikethrough | link => exact line parts shows
  | strong content =>
    simp only [partsOf] at parts
    split at parts
    next menu =>
      obtain ⟨path, found⟩ := Option.isSome_iff_exists.mp menu
      simp only [menuPath] at found
      split at found
      · cases found
      next written only =>
        obtain ⟨text, rfl⟩ := (onlyText_shape only).1 child (Stands.mem shows)
        exact .leaf trivial (fun _ => Node.noConfusion) rfl
    next => exact line parts shows
  | paragraph content => exact paragraph parts shows.1 fun opens => shows.2 (.inl opens)
  | blockQuote nodes => exact quote parts shows
  | list ordered items start tight =>
    obtain ⟨member, blocks, taskStatus, rfl⟩ := shows
    exact .through trivial (fun _ => Node.noConfusion) fun block inside =>
      item (fun part within => parts part (List.mem_flatMap.mpr ⟨_, member, within⟩)) inside
  | listItem blocks taskStatus =>
    have same : partsOf (.listItem blocks taskStatus) = itemContents (.listItem blocks taskStatus) := by
      rcases blocks with _ | ⟨first, rest⟩
      · rfl
      · cases first <;> rfl
    exact item (same ▸ parts) shows
  | table | tableRow | definitionList | definitionDescription => exact .reached (parts child shows)
  | footnoteDefinition | foreign => exact shows.elim
  | _ => cases shows

end Met

theorem Shown.met (shown : Shown table root node) : Met table root node := by
  induction shown with
  | refl => exact .reached .refl
  | tail _ step ih =>
    cases ih with
    | reached reaches =>
      rcases step with shows | note
      · exact .shown reaches shows
      · exact .reached (reaches.tail (.inr note))
    | through known apart children =>
      rcases step with shows | ⟨identifier, content, same, -⟩
      · exact children _ shows
      · exact absurd same (apart identifier)

/-- Rendering comes to whatever is shown and has no mapping. -/
theorem Shown.reaches (shown : Shown table root node) (unknown : ¬node.IsKnown) : Reaches table root node := by
  cases shown.met with
  | reached reaches => exact reaches
  | through known => exact absurd known unknown

end

end Adocify.AsciiDoc
