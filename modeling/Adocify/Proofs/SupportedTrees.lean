import Adocify.Proofs.ParsedTrees
import Adocify.Proofs.RenderTrees

/-! Rendering refuses a node as unsupported only if the tree holds one of an unknown kind. A footnote
may be met far from its definition, so the table of footnotes has to keep the same promise. -/

namespace Adocify

namespace Node

def IsKnown : Node → Prop
  | .foreign .. | .stray _ => False
  | _ => True

abbrev Known : Node → Prop := Everywhere IsKnown

theorem Regular.known {node : Node} (regular : node.Regular) : node.Known := by
  refine regular.mono fun other here => ?_
  cases other with
  | foreign | stray => exact here
  | _ => trivial

end Node

open Node (Known)

theorem Markdown.WellFormed.known {children : List Node} (formed : WellFormed children) :
    (Node.document children).Known := by
  obtain ⟨body, notes, rfl, -, regular, kept⟩ := formed
  refine Node.everywhere_iff.mpr ⟨trivial, List.forall_mem_append.mpr ⟨?_, ?_⟩⟩
  · exact fun node member => (regular node member).known
  · rintro _ member
    obtain ⟨note, found, rfl⟩ := List.mem_map.mp member
    exact Node.everywhere_iff.mpr ⟨trivial, fun node inside => (kept note found node inside).known⟩

namespace AsciiDoc

/-- A run over known trees beside itself. It may fail, but never because of an unsupported node. -/
def knownTrees : Comparison where
  node := Known
  definition _ content := ∀ node ∈ content, node.Known
  context first second := first = second ∧ ∀ note ∈ first.footnotes, ∀ node ∈ note.2, node.Known
  text := Eq
  failure failure := ∀ kind location, failure ≠ .unsupportedNode kind location

theorem knownTrees_lawful (options : Options) : knownTrees.Lawful options options.wrap where
  text := .equal
  lineBreak _ := rfl
  wrapped := by rintro _ _ rfl; rfl
  change := by
    rintro change node admitted arises first _ ⟨rfl, known⟩
    refine ⟨rfl, ?_⟩
    cases change with
    | collect nodes =>
      cases node with
      | document others =>
        obtain rfl : nodes = others := arises
        intro note member
        rcases FootnoteTable.mem_collect member with former | latest
        · exact known note former
        · exact fun node inside => admitted.inside (Node.contains_note latest inside)
      | _ => exact absurd arises id
    | _ => exact known
  view := by rintro _ _ ⟨rfl, -⟩; exact ⟨rfl, rfl, rfl, rfl, rfl⟩
  attributes := by rintro _ - _ _ ⟨rfl, -⟩; rfl
  defined := fun ⟨_, known⟩ found => known _ (FootnoteTable.mem_of_lookup found)
  literal _ := Node.everywhere_iff.mpr ⟨trivial, nofun⟩
  child known member := known.child member
  misplaced := nofun
  illTyped := nofun
  foreign known := absurd known.here id
  stray known := absurd known.here id

theorem render_supported (options : Options) (attributes : Attributes) {root : Node} (known : root.Known)
    (kind : Text) (location : Option Text) :
    (render options attributes root).outcome ≠ .error (.unsupportedNode kind location) := by
  have contents : ∀ identifier content, knownTrees.definition identifier content →
      knownTrees.failure (.circularFootnote identifier) ∧ ∀ node ∈ content, node.Known :=
    fun _ _ defined => ⟨nofun, defined⟩
  have met := (knownTrees_lawful options).tree contents known { attributes } { attributes } ⟨rfl, nofun⟩
  intro refused
  rw [render_eq] at refused
  cases ended : ((renderTree options root).runIn { attributes }).1 with
  | ok text => simp [ended, Except.map] at refused
  | error failure =>
    obtain rfl : failure = .unsupportedNode kind location := by simpa [ended, Except.map] using refused
    exact met.allowed ended kind location rfl

/-- What is read from tokens is well formed, and rendering supports all of it. -/
theorem parsed_tree_supported {tokens : List Markdown.Token} {children : List Node}
    (parsed : Markdown.documentOf tokens = .ok children) :
    Markdown.WellFormed children ∧ ∀ options attributes kind location,
      (render options attributes (.document children)).outcome ≠ .error (.unsupportedNode kind location) := by
  have formed := Markdown.documentOf_wellFormed parsed
  exact ⟨formed, fun options attributes => render_supported options attributes formed.known⟩

theorem parsed_tree_supported_note : ∃ children,
    Markdown.documentOf [
      .branch .heading [.leaf .text "Deep".toList] { level := some (.int 9) },
      .branch .list [.stray, .branch .taskListItem
        [.branch .blockText [.branch .footnoteReference [] { label := some "a".toList }]]
        { checked := some (.bool true) }],
      .branch .footnotes
        [.branch .footnoteItem [.branch .paragraph [.leaf .text "note".toList]] { key := some "a".toList }],
      .leaf .unknown []] = .ok children ∧
    Markdown.WellFormed children ∧ ∀ options attributes kind location,
      (render options attributes (.document children)).outcome ≠ .error (.unsupportedNode kind location) :=
  Exists.imp (fun _ parsed => ⟨parsed, parsed_tree_supported parsed⟩) ⟨_, rfl⟩

end AsciiDoc

end Adocify
