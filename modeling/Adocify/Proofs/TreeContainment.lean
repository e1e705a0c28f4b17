import Mathlib.Data.List.Basic
import Mathlib.Logic.Relation
import Adocify.Document.Footnotes

/-! What stands where in a document tree. A property of every node of a tree is passed on to the
trees below it, so that a claim about trees is proved one node at a time. -/

namespace Adocify.Node

theorem mem_entryChildren {entries : List (Node × List Node)} {node : Node} :
    node ∈ entryChildren entries ↔ ∃ entry ∈ entries, node = entry.1 ∨ node ∈ entry.2 := by
  induction entries with
  | nil => simp [entryChildren]
  | cons entry rest ih => simp [entryChildren, ih, or_assoc]

theorem child_smaller {parent child : Node} (member : child ∈ parent.children) : sizeOf child < sizeOf parent := by
  cases parent with
  | table header rows alignments caption =>
    rcases List.mem_append.mp member with first | row
    · obtain rfl : header = some child := Option.mem_toList.mp first
      simp only [table.sizeOf_spec, Option.some.sizeOf_spec]
      omega
    · have smaller := List.sizeOf_lt_of_mem row
      simp only [table.sizeOf_spec]
      omega
  | definitionList entries =>
    obtain ⟨⟨term, descriptions⟩, entry, below⟩ := mem_entryChildren.mp member
    have outer := List.sizeOf_lt_of_mem entry
    simp only [Prod.mk.sizeOf_spec, definitionList.sizeOf_spec] at outer ⊢
    rcases below with rfl | below
    · omega
    · have inner : sizeOf child < sizeOf descriptions := List.sizeOf_lt_of_mem below
      omega
  | _ =>
    first
    | exact absurd member List.not_mem_nil
    | have smaller := List.sizeOf_lt_of_mem member
      simp only [children] at smaller
      simp
      omega

/-- The node stands somewhere in the tree of the root, which contains itself. -/
def Contains : Node → Node → Prop := Relation.ReflTransGen fun parent child => child ∈ parent.children

/-- The property holds of the root and of all nodes below it. -/
def Everywhere (property : Node → Prop) (root : Node) : Prop := ∀ node, root.Contains node → property node

variable {property : Node → Prop} {root : Node}

theorem everywhere_iff :
    Everywhere property root ↔ property root ∧ ∀ child ∈ root.children, Everywhere property child := by
  constructor
  · intro holds
    exact ⟨holds root .refl, fun child member node inside => holds node (.head member inside)⟩
  · rintro ⟨here, below⟩ node inside
    rcases Relation.ReflTransGen.cases_head inside with rfl | ⟨child, member, rest⟩
    · exact here
    · exact below child member node rest

/-- This form settles a tree that is given in full. -/
theorem everywhere_iff_forall :
    Everywhere property root ↔ property root ∧ root.children.Forall (Everywhere property) := by
  rw [everywhere_iff, List.forall_iff_forall_mem]

theorem Everywhere.here (holds : Everywhere property root) : property root := holds root .refl

theorem Everywhere.child (holds : Everywhere property root) {child : Node} (member : child ∈ root.children) :
    Everywhere property child :=
  (everywhere_iff.mp holds).2 child member

theorem Everywhere.inside (holds : Everywhere property root) {node : Node} (inside : root.Contains node) :
    Everywhere property node :=
  fun other deeper => holds other (inside.trans deeper)

theorem Everywhere.mono {other : Node → Prop} (holds : Everywhere property root)
    (implies : ∀ node, property node → other node) : Everywhere other root :=
  fun node inside => implies node (holds node inside)

theorem everywhere_of_below (step : ∀ node, (∀ child ∈ node.children, Everywhere property child) → property node)
    (node : Node) : Everywhere property node :=
  have below : ∀ child ∈ node.children, Everywhere property child := fun child member =>
    have := child_smaller member
    everywhere_of_below step child
  everywhere_iff.mpr ⟨step node below, below⟩
termination_by sizeOf node

/-- Induction over trees. The hypothesis speaks of everything below a node, because some nodes are
treated together with the children of a child. -/
theorem induction_below {motive : Node → Prop}
    (step : ∀ node, (∀ child ∈ node.children, Everywhere motive child) → motive node) (node : Node) : motive node :=
  (everywhere_of_below step node).here

/-- The footnote that a node itself defines. -/
def definition : Node → Option (Text × List Node)
  | .footnoteDefinition identifier content => some (identifier, content)
  | _ => none

theorem footnotesIn_eq (nodes : List Node) : footnotesIn nodes = nodes.flatMap footnotes := by
  induction nodes with
  | nil => rfl
  | cons node rest ih => rw [footnotesIn, ih, List.flatMap_cons]

theorem footnotesOfEntries_eq (entries : List (Node × List Node)) :
    footnotesOfEntries entries = (entryChildren entries).flatMap footnotes := by
  induction entries with
  | nil => rfl
  | cons entry rest ih =>
    obtain ⟨term, descriptions⟩ := entry
    rw [footnotesOfEntries, ih, footnotesIn_eq, entryChildren, List.cons_append, List.flatMap_cons,
      List.flatMap_append, List.append_assoc]

theorem footnotes_eq (node : Node) :
    node.footnotes = node.definition.toList ++ node.children.flatMap footnotes := by
  cases node with
  | table header rows alignments caption =>
    cases header <;> simp [footnotes, footnotesIn_eq, children, definition]
  | _ => simp [footnotes, footnotesIn_eq, footnotesOfEntries_eq, children, definition]

/-- The footnotes of a tree are those that its nodes define. -/
theorem mem_footnotes_iff {identifier : Text} {content : List Node} (root : Node) :
    (identifier, content) ∈ root.footnotes ↔ root.Contains (.footnoteDefinition identifier content) := by
  induction root using induction_below with
  | step root ih =>
    have below : ∀ child ∈ root.children,
        ((identifier, content) ∈ child.footnotes ↔ child.Contains (.footnoteDefinition identifier content)) :=
      fun child member => (ih child member).here
    rw [footnotes_eq, List.mem_append, List.mem_flatMap, Contains, Relation.ReflTransGen.cases_head_iff]
    apply or_congr
    · cases root <;> simp [definition, eq_comm]
    · exact exists_congr fun child => and_congr_right fun member => below child member

/-- What a footnote holds stands in the tree that defines it. -/
theorem contains_note {root node : Node} {note : Text × List Node} (member : note ∈ root.footnotes)
    (inside : node ∈ note.2) : root.Contains node :=
  ((mem_footnotes_iff root).mp member).trans (.single inside)

end Adocify.Node

namespace Adocify.FootnoteTable

theorem mem_add {table : FootnoteTable} {definition note : Text × List Node} (member : note ∈ table.add definition) :
    note ∈ table ∨ note = definition := by
  simp only [add] at member
  split at member
  · exact .inl member
  · simpa using member

/-- Every footnote of a table comes from a tree that was collected. -/
theorem mem_collect {table : FootnoteTable} {node : Node} {note : Text × List Node}
    (member : note ∈ table.collect node) : note ∈ table ∨ note ∈ node.footnotes := by
  simp only [collect] at member
  generalize node.footnotes = definitions at member
  induction definitions generalizing table with
  | nil => exact .inl member
  | cons definition rest ih =>
    rcases ih member with added | later
    · rcases mem_add added with former | rfl
      · exact .inl former
      · exact .inr List.mem_cons_self
    · exact .inr (.tail _ later)

theorem known_add {table : FootnoteTable} {identifier : Text} (definition : Text × List Node)
    (known : (table.lookup identifier).isSome) : ((table.add definition).lookup identifier).isSome := by
  simp only [add]
  split
  · exact known
  · rw [List.lookup_append, Option.isSome_or, known, Bool.true_or]

theorem known_added (table : FootnoteTable) (definition : Text × List Node) :
    ((table.add definition).lookup definition.1).isSome := by
  simp only [add]
  split
  next known => exact known
  next => simp [List.lookup_append]

theorem known_foldl {definitions : List (Text × List Node)} {table : FootnoteTable} {identifier : Text}
    (known : (table.lookup identifier).isSome) : ((definitions.foldl add table).lookup identifier).isSome := by
  induction definitions generalizing table with
  | nil => exact known
  | cons definition rest ih => exact ih (known_add definition known)

/-- What a tree defines is found after it was collected. -/
theorem known_collect {table : FootnoteTable} {node : Node} {note : Text × List Node} (member : note ∈ node.footnotes) :
    ((table.collect node).lookup note.1).isSome := by
  simp only [collect]
  generalize node.footnotes = definitions at member
  induction definitions generalizing table with
  | nil => cases member
  | cons definition rest ih =>
    rcases List.mem_cons.mp member with rfl | later
    · rw [List.foldl_cons]
      exact known_foldl (known_added table note)
    · exact ih later

/-- Nothing is added for a tree all of whose footnotes are known. -/
theorem collect_known {table : FootnoteTable} {node : Node}
    (known : ∀ note ∈ node.footnotes, (table.lookup note.1).isSome) : table.collect node = table := by
  simp only [collect]
  generalize node.footnotes = definitions at known
  induction definitions with
  | nil => rfl
  | cons definition rest ih =>
    have first : table.add definition = table := if_pos (known definition List.mem_cons_self)
    rw [List.foldl_cons, first]
    exact ih fun note member => known note (.tail _ member)

theorem mem_of_lookup {table : FootnoteTable} {identifier : Text} {content : List Node}
    (found : table.lookup identifier = some content) : (identifier, content) ∈ table := by
  obtain ⟨before, after, rfl, -⟩ := List.lookup_eq_some_iff.mp found
  exact List.mem_append_right _ List.mem_cons_self

end Adocify.FootnoteTable
