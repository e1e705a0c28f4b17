import Adocify.Proofs.TreeContainment

/-! Which of several definitions of a footnote counts. The place of a node in a tree is the way down to it from the
root, told by the numbers of the children that it goes through. A walk that goes depth first and from left to right
comes to a node before all that stands below it, and to all that stands below a child before the next child; a table
into which a tree is collected keeps of each identifier what such a walk comes to first. -/

namespace Adocify

namespace Node

/-- The numbers of the children on the way down. -/
abbrev Place := List Nat

def at? : Node → Place → Option Node
  | root, [] => some root
  | root, index :: below => root.children[index]?.bind (·.at? below)

/-- A walk comes to the first place before it comes to the second. -/
def Earlier (first second : Place) : Prop := List.Lex (· < ·) first second

variable {root node child : Node} {place : Place} {identifier : Text} {content : List Node}

theorem at?_child {index : Nat} (found : root.children[index]? = some child) (below : Place) :
    root.at? (index :: below) = child.at? below := by
  rw [at?, found, Option.bind_some]

theorem at?_below {index : Nat} {below : Place} (found : root.at? (index :: below) = some node) :
    ∃ child, root.children[index]? = some child ∧ child.at? below = some node :=
  Option.bind_eq_some_iff.mp found

/-- A tree contains what stands at one of its places. -/
theorem contains_iff_at? : root.Contains node ↔ ∃ place, root.at? place = some node := by
  constructor
  · intro inside
    induction inside using Relation.ReflTransGen.head_induction_on with
    | refl => exact ⟨[], rfl⟩
    | head member _ ih =>
      obtain ⟨index, found⟩ := List.mem_iff_getElem?.mp member
      obtain ⟨below, there⟩ := ih
      exact ⟨index :: below, (at?_child found below).trans there⟩
  · rintro ⟨place, there⟩
    induction place generalizing root with
    | nil =>
      obtain rfl := Option.some.inj there
      exact .refl
    | cons index below ih =>
      obtain ⟨child, found, there⟩ := at?_below there
      exact .head (List.mem_of_getElem? found) (ih there)

/-- A definition of the footnote stands at the place. -/
def DefinesAt (root : Node) (identifier : Text) (place : Place) (content : List Node) : Prop :=
  root.at? place = some (.footnoteDefinition identifier content)

/-- It does, and a walk comes to no other definition of the footnote before. -/
def DefinesFirst (root : Node) (identifier : Text) (place : Place) (content : List Node) : Prop :=
  root.DefinesAt identifier place content ∧
    ∀ earlier, Earlier earlier place → ∀ other, ¬root.DefinesAt identifier earlier other

theorem lookup_footnotes_none :
    root.footnotes.lookup identifier = none ↔ ∀ place content, ¬root.DefinesAt identifier place content := by
  rw [List.lookup_eq_none_iff]
  constructor
  · intro absent place content defines
    have member := (mem_footnotes_iff root).mpr (contains_iff_at?.mpr ⟨place, defines⟩)
    simpa using absent _ member
  · rintro absent ⟨name, content⟩ member
    rw [bne_iff_ne]
    rintro rfl
    obtain ⟨place, defines⟩ := contains_iff_at?.mp ((mem_footnotes_iff root).mp member)
    exact absent place content defines

theorem lookup_flatMap {items : List Node} :
    (items.flatMap footnotes).lookup identifier = items.findSome? (·.footnotes.lookup identifier) := by
  induction items with
  | nil => rfl
  | cons first rest ih =>
    rw [List.flatMap_cons, List.lookup_append, ih, List.findSome?_cons]
    cases first.footnotes.lookup identifier <;> rfl

/-- If the root does not define the footnote, the first child counts in which it is defined. -/
theorem definesFirst_below_iff (other : ∀ content, root ≠ .footnoteDefinition identifier content) :
    (∃ place, root.DefinesFirst identifier place content) ↔
      ∃ before child after, root.children = before ++ child :: after ∧
        (∃ place, child.DefinesFirst identifier place content) ∧
        ∀ sibling ∈ before, sibling.footnotes.lookup identifier = none := by
  constructor
  · rintro ⟨_ | ⟨index, below⟩, defines, first⟩
    · exact absurd (Option.some.inj defines) (other content)
    obtain ⟨child, found, there⟩ := at?_below defines
    obtain ⟨within, rfl⟩ := List.getElem?_eq_some_iff.mp found
    have split : root.children = root.children.take index ++ root.children[index] :: root.children.drop (index + 1) := by
      rw [List.getElem_cons_drop, List.take_append_drop]
    refine ⟨_, _, _, split, ⟨below, there, ?_⟩, ?_⟩
    · intro earlier before content defines
      exact first (index :: earlier) (.cons before) content ((at?_child found earlier).trans defines)
    · intro sibling member
      obtain ⟨position, sooner, rfl⟩ := List.mem_take_iff_getElem.mp member
      rw [lookup_footnotes_none]
      intro place content defines
      have known := List.getElem?_eq_getElem (show position < root.children.length by omega)
      exact first (position :: place) (.rel (by omega)) content ((at?_child known place).trans defines)
  · rintro ⟨before, child, after, split, ⟨place, defines, first⟩, absent⟩
    have found : root.children[before.length]? = some child := by
      rw [split, List.getElem?_append_right (Nat.le_refl _), Nat.sub_self, List.getElem?_cons_zero]
    refine ⟨before.length :: place, (at?_child found place).trans defines, ?_⟩
    rintro (_ | ⟨position, below⟩) sooner content defined
    · exact other content (Option.some.inj defined)
    obtain ⟨sibling, there, defined⟩ := at?_below defined
    cases sooner with
    | cons sooner =>
      obtain rfl := Option.some.inj (found.symm.trans there)
      exact first below sooner content defined
    | rel sooner =>
      rw [split, List.getElem?_append_left sooner] at there
      exact lookup_footnotes_none.mp (absent sibling (List.mem_of_getElem? there)) below content defined

/-- The footnotes of a tree are listed in the order of the walk. -/
theorem lookup_footnotes_iff (root : Node) :
    root.footnotes.lookup identifier = some content ↔ ∃ place, root.DefinesFirst identifier place content := by
  induction root using induction_below with
  | step root ih =>
    by_cases own : ∃ written, root = .footnoteDefinition identifier written
    · obtain ⟨written, rfl⟩ := own
      have here : (footnoteDefinition identifier written).DefinesAt identifier [] written := rfl
      have listed : (footnoteDefinition identifier written).footnotes.lookup identifier = some written := by
        simp [footnotes]
      rw [listed]
      constructor
      · intro same
        obtain rfl := Option.some.inj same
        exact ⟨[], here, fun _ sooner => absurd sooner List.not_lex_nil⟩
      · rintro ⟨_ | ⟨index, below⟩, defines, first⟩
        · exact congrArg some (footnoteDefinition.inj (Option.some.inj defines)).2
        · exact absurd here (first [] .nil written)
    · have other (written : List Node) : root ≠ .footnoteDefinition identifier written :=
        fun same => own ⟨written, same⟩
      have apart : root.definition.toList.lookup identifier = none := by
        cases root with
        | footnoteDefinition name written =>
          have different : (identifier == name) = false := beq_eq_false_iff_ne.mpr fun same => other written (same ▸ rfl)
          simp [definition, List.lookup_cons, different]
        | _ => rfl
      rw [definesFirst_below_iff other, footnotes_eq, List.lookup_append, apart, Option.none_or, lookup_flatMap,
        List.findSome?_eq_some_iff]
      refine exists_congr fun before => exists_congr fun child => exists_congr fun after => ?_
      refine and_congr_right fun split => and_congr_left fun _ => ?_
      have member : child ∈ root.children := split ▸ List.mem_append_right _ List.mem_cons_self
      exact (ih child member).here

end Node

namespace FootnoteTable

variable {table : FootnoteTable} {identifier : Text}

theorem lookup_add (note : Text × List Node) :
    (table.add note).lookup identifier = (table.lookup identifier).or ([note].lookup identifier) := by
  unfold add
  split
  next known =>
    obtain ⟨content, found⟩ := Option.isSome_iff_exists.mp known
    by_cases same : identifier = note.1
    · rw [same, found, Option.some_or]
    · have other : [note].lookup identifier = none := by simp [same]
      rw [other, Option.or_none]
  next => rw [List.lookup_append]

/-- What is known before a tree is collected stays, and of what the tree defines the first counts. -/
theorem lookup_collect (root : Node) :
    (table.collect root).lookup identifier = (table.lookup identifier).or (root.footnotes.lookup identifier) := by
  rw [collect]
  generalize root.footnotes = notes
  induction notes generalizing table with
  | nil => exact Option.or_none.symm
  | cons note rest ih => rw [List.foldl_cons, ih, lookup_add, Option.or_assoc, ← List.lookup_append, List.singleton_append]

/-- A table into which a tree has been collected knows a footnote exactly if it did before or a definition of it stands
anywhere in the tree, and the content of the footnote is what it was before or else that of the definition to which a
walk through the tree comes first. -/
theorem first_definition_collected (table : FootnoteTable) (root : Node) (identifier : Text) :
    (((table.collect root).lookup identifier).isSome ↔
      (table.lookup identifier).isSome ∨ ∃ content, root.Contains (.footnoteDefinition identifier content)) ∧
    ∀ content, (table.collect root).lookup identifier = some content ↔
      table.lookup identifier = some content ∨
        table.lookup identifier = none ∧ ∃ place, root.DefinesFirst identifier place content := by
  rw [lookup_collect]
  constructor
  · rw [Option.isSome_or, Bool.or_eq_true]
    refine or_congr_right ?_
    rw [← Option.ne_none_iff_isSome, Ne, Node.lookup_footnotes_none]
    simp only [not_forall, not_not, Node.contains_iff_at?]
    exact exists_comm
  · intro content
    rw [Option.or_eq_some_iff, Node.lookup_footnotes_iff]

/-- What a footnote defines counts before a later definition outside of it. -/
example :
    let inner := Node.footnoteDefinition ['n'] [.paragraph [.text "first".toList]]
    let outer := Node.footnoteDefinition ['n'] [.paragraph [.text "second".toList]]
    let root := Node.document [.footnoteDefinition ['m'] [.blockQuote [inner]], outer]
    (FootnoteTable.collect [] root).lookup ['n'] = some [.paragraph [.text "first".toList]] := rfl

end FootnoteTable

end Adocify
