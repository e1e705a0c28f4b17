import Adocify.Proofs.NoteCycles

/-! Rendering ends. The way from footnote to footnote is bounded, and a rendering that needs more steps
than the bound gives up. If no footnote on record refers to itself, this never happens: a footnote does not
come up again on the way from it, so the way passes no more footnotes than the tree defines. A greater bound
then makes no difference. -/

namespace Adocify.AsciiDoc

open FootnoteTable (Refers Acyclic)

theorem refuses_apart {options : Options} {node : Node} {failure : Failure} (refused : Refuses options node failure)
    (identifier : Text) : failure ≠ .circularFootnote identifier := by
  rintro rfl
  cases node with
  | heading level content => rcases idLine_failure refused with same | same <;> cases same
  | list ordered items start tight => cases refused.1
  | table header rows alignments caption => cases tableWidth_failure refused
  | tableRow cells => cases rowSpan_failure refused
  | foreign kind content location => cases refused
  | stray kind => cases refused
  | _ => exact refused

section

variable {root node : Node} {trail : List Text} {identifier : Text} {content : List Node}

/-- Every footnote of the trail leads to whatever the node refers to. -/
def LedTo (table : FootnoteTable) (trail : List Text) (node : Node) : Prop :=
  ∀ other, node.Contains (.footnoteReference other) → ∀ identifier ∈ trail,
    Relation.TransGen table.Refers identifier other

theorem LedTo.fresh {table : FootnoteTable} (led : LedTo table trail (.footnoteReference identifier))
    (acyclic : Acyclic table) : identifier ∉ trail :=
  fun inside => acyclic identifier (led identifier .refl identifier inside)

theorem LedTo.note {table : FootnoteTable} (led : LedTo table trail (.footnoteReference identifier))
    (found : table.lookup identifier = some content) (member : node ∈ content) :
    LedTo table (identifier :: trail) node := by
  intro other contained earlier inside
  have refers : table.Refers identifier other := ⟨content, found, node, member, contained⟩
  rcases List.mem_cons.mp inside with rfl | before
  · exact .single refers
  · exact (led identifier .refl earlier before).tail refers

/-- A run beside itself over nodes of a document, come to by way of the footnotes of the trail. -/
def onTrail (root : Node) (trail : List Text) : Comparison :=
  { Comparison.within fun context => context.footnotes = notesOf root with
    node := fun node => Inside root node ∧ LedTo (notesOf root) trail node
    definition := fun identifier content => (notesOf root).lookup identifier = some content }

theorem onTrail_lawful (root : Node) (trail : List Text) (options : Options) :
    (onTrail root trail).Lawful options options.wrap where
  text := .equal
  lineBreak _ := rfl
  wrapped := by rintro _ _ rfl; rfl
  change := by
    rintro change node ⟨inside, -⟩ arises first _ ⟨rfl, recorded⟩
    refine ⟨rfl, ?_⟩
    cases change with
    | collect nodes =>
      cases node with
      | document others =>
        obtain rfl : nodes = others := arises
        exact (congrArg (FootnoteTable.collect · (.document nodes)) recorded).trans (collect_inside inside)
      | _ => exact absurd arises id
    | _ => exact recorded
  view := by rintro _ _ ⟨rfl, -⟩; exact ⟨rfl, rfl, rfl, rfl, rfl⟩
  attributes := by rintro _ - _ _ ⟨rfl, -⟩; rfl
  defined := fun ⟨_, recorded⟩ found => (congrArg (List.lookup _) recorded).symm.trans found
  literal written := by
    refine ⟨.inl ⟨written, rfl⟩, fun other contained => ?_⟩
    rcases Relation.ReflTransGen.cases_head contained with same | ⟨child, under, -⟩
    · cases same
    · cases under
  child := by
    rintro parent child ⟨inside, led⟩ under
    refine ⟨?_, fun other contained => led other (.head under contained)⟩
    rcases inside with ⟨written, rfl⟩ | inside
    · cases under
    · exact .inr (inside.tail under)
  misplaced := trivial
  illTyped := trivial
  foreign _ := trivial
  stray _ := trivial

/-- With enough steps left to pass every footnote that is not on the trail, further steps make no difference. -/
theorem deeper_blocks (acyclic : Acyclic (notesOf root)) (options : Options) (more : Nat) {depth : Nat}
    {trail : List Text} (distinct : trail.Nodup) (known : ∀ identifier ∈ trail, ((notesOf root).lookup identifier).isSome)
    (enough : (notesOf root).length ≤ trail.length + depth) :
    (onTrail root trail).SameBlocks (renderFootnote options depth) (renderFootnote options (depth + more)) := by
  induction depth generalizing trail with
  | zero =>
    intro identifier content admitted defined
    -- No step is left, and yet there is a footnote on record that is not on the trail.
    have longer : (identifier :: trail).Nodup := List.nodup_cons.mpr ⟨admitted.2.fresh acyclic, distinct⟩
    have bound := FootnoteTable.length_known longer (List.forall_mem_cons.mpr ⟨Option.isSome_of_eq_some defined, known⟩)
    rw [List.length_cons] at bound
    omega
  | succ depth ih =>
    intro identifier content admitted defined
    have laws := onTrail_lawful root (identifier :: trail) options
    have blocks := @ih (identifier :: trail) (List.nodup_cons.mpr ⟨admitted.2.fresh acyclic, distinct⟩)
      (List.forall_mem_cons.mpr ⟨Option.isSome_of_eq_some defined, known⟩) (by rw [List.length_cons]; omega)
    have siblings : (onTrail root (identifier :: trail)).Siblings
        (renderChildren options (renderFootnote options depth) content)
        (renderChildren (options.withWrap options.wrap) (renderFootnote options (depth + more)) content) :=
      Comparison.Lawful.siblings fun node member =>
        laws.everywhere blocks ⟨.note defined member, admitted.2.note defined member⟩
    rw [Nat.add_right_comm]
    exact (laws.renderPresent siblings).along rfl fun _ allowed => allowed

/-- How the blocks of footnotes are rendered matters to a document only as far as it matters to its tree. -/
theorem document_runIn (options : Options) (attributes : Attributes) (nodes : List Node)
    {descend descend' : Text → List Node → Render (List Text)}
    (same : (treeParts options (decisionFor nodes attributes) (openingHeading options descend nodes)
        (renderChildren options descend nodes)).runIn (opened nodes attributes) =
      (treeParts options (decisionFor nodes attributes) (openingHeading options descend' nodes)
        (renderChildren options descend' nodes)).runIn (opened nodes attributes)) :
    (renderNode options descend (.document nodes)).runIn { attributes } =
      (renderNode options descend' (.document nodes)).runIn { attributes } := by
  simp only [renderNode, documentParts_eq, Render.runIn_bind, decideStructure_opened, Render.runIn_get, same]

/-- A document is rendered alike within every bound that is not below the number of its footnotes. -/
theorem deeper_document {nodes : List Node} (acyclic : Acyclic (notesOf (.document nodes))) (options : Options)
    (attributes : Attributes) (more : Nat) :
    (renderNode options (renderFootnote options ((Node.document nodes).footnotes.length + more))
        (.document nodes)).runIn { attributes } =
      (renderTree options (.document nodes)).runIn { attributes } := by
  have laws := onTrail_lawful (.document nodes) [] options
  have enough := (recordedNotes_defined options attributes (.document nodes)).length
  rw [recordedNotes_document] at enough
  have blocks := deeper_blocks acyclic options more .nil nofun (by simpa using enough)
  have each : ∀ node ∈ nodes, node.Everywhere _ := fun node member =>
    laws.everywhere blocks ⟨.inr (.single member), fun _ _ _ => nofun⟩
  have agree := (laws.treeParts (decisionFor nodes attributes) (Comparison.Lawful.opening each)
    (Comparison.Lawful.siblings each)).mono fun _ _ fit => fit.eq
  have met := agree (opened nodes attributes) (opened nodes attributes) ⟨rfl, rfl⟩
  exact (document_runIn options attributes nodes (Prod.ext met.equal met.context.1)).symm

end

/-- A tree whose footnotes on record do not refer to themselves is rendered to an end, and not because the
steps from footnote to footnote are bounded: none runs out of them, and a document is rendered alike with any
number of further steps. -/
theorem rendering_ends (options : Options) (attributes : Attributes) (root : Node)
    (acyclic : Acyclic (recordedNotes options attributes root)) :
    (∀ identifier, (render options attributes root).outcome ≠ .error (.circularFootnote identifier)) ∧
    ∀ nodes, root = .document nodes → ∀ more,
      (renderNode options (renderFootnote options (root.footnotes.length + more)) root).runIn { attributes } =
        (renderTree options root).runIn { attributes } := by
  refine ⟨fun identifier gaveUp => ?_, ?_⟩
  · obtain ⟨culprit, -, refused⟩ := tree_blamed acyclic gaveUp
    exact refuses_apart refused identifier rfl
  · rintro nodes rfl more
    rw [recordedNotes_document] at acyclic
    exact deeper_document acyclic options attributes more

/-- Three footnotes in a chain, the second defined inside the first. A later definition of the last refers
to itself, but is not put on record. -/
def chainedNotes : List Node :=
  [.paragraph [.footnoteReference ['a']],
    .blockQuote [.footnoteDefinition ['a'] [.paragraph [.footnoteReference ['b']],
      .footnoteDefinition ['b'] [.list false [.listItem [.paragraph [.footnoteReference ['c']]] none] (.number 1) true]]],
    .footnoteDefinition ['c'] [.paragraph [.text "end".toList]],
    .footnoteDefinition ['c'] [.paragraph [.footnoteReference ['c']]]]

theorem chainedNotes_acyclic : (notesOf (.document chainedNotes)).Acyclic := by
  have table : notesOf (.document chainedNotes) =
      [(['a'], [.paragraph [.footnoteReference ['b']], .footnoteDefinition ['b']
          [.list false [.listItem [.paragraph [.footnoteReference ['c']]] none] (.number 1) true]]),
        (['b'], [.list false [.listItem [.paragraph [.footnoteReference ['c']]] none] (.number 1) true]),
        (['c'], [.paragraph [.text "end".toList]])] := rfl
  refine FootnoteTable.acyclic_of_rank
    (fun identifier => if identifier = ['a'] then 2 else if identifier = ['b'] then 1 else 0) ?_
  simp [table, Node.everywhere_iff_forall, Node.children]

theorem rendering_ends_chained :
    (recordedNotes {} [] (.document chainedNotes)).Acyclic ∧
    (∀ identifier, (render {} [] (.document chainedNotes)).outcome ≠ .error (.circularFootnote identifier)) ∧
    (renderNode {} (renderFootnote {} 9) (.document chainedNotes)).runIn { attributes := [] } =
      (renderTree {} (.document chainedNotes)).runIn { attributes := [] } ∧
    (render {} [] (.document chainedNotes)).outcome =
      .ok "footnote:a[footnote:b[* footnote:c[end\\\\]\\]]\n\n____\n\n____\n".toList := by
  have acyclic : (recordedNotes {} [] (.document chainedNotes)).Acyclic :=
    recordedNotes_document {} [] chainedNotes ▸ chainedNotes_acyclic
  obtain ⟨ends, deeper⟩ := rendering_ends {} [] (.document chainedNotes) acyclic
  exact ⟨acyclic, ends, deeper chainedNotes rfl 5, rfl⟩

end Adocify.AsciiDoc
