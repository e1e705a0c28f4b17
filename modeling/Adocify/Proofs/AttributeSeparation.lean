import Adocify.Proofs.AttributeRegistration
import Adocify.Proofs.RenderTrees

/-! Documents rendered with different attributes. Below the document nothing reads the attributes, so
that both runs register the same ones and differ in nothing else; only the header shows them. -/

namespace Adocify

namespace Node

def IsInner : Node → Prop
  | .document _ => False
  | _ => True

/-- No document stands in the tree. -/
abbrev Inner : Node → Prop := Everywhere IsInner

/-- The footnotes of trees without documents hold no documents either. -/
theorem Inner.footnotes {nodes : List Node} (inner : ∀ node ∈ nodes, node.Inner) {note : Text × List Node}
    (member : note ∈ (Node.document nodes).footnotes) : ∀ node ∈ note.2, node.Inner := by
  rw [footnotes_eq] at member
  obtain ⟨root, found, defined⟩ : ∃ root ∈ nodes, note ∈ root.footnotes := by simpa [definition, children] using member
  exact fun node below => (inner root found).inside (contains_note defined below)

end Node

open Node (Inner)

namespace AsciiDoc

def Context.warnings (context : Context) : List LogRecord := loggedFrom .warning context.log

abbrev AllRegistrable (options : Options) (entries : Attributes) : Prop :=
  ∀ entry ∈ entries, Registrable options entry.1 entry.2

/-- A document shows the attributes, so that one inside another is compared only if both runs began with the same. -/
def Comparable (base base' : Attributes) (node : Node) : Prop := base = base' ∨ node.Inner

theorem Comparable.inside {base base' : Attributes} {parent node : Node} (comparable : Comparable base base' parent)
    (inside : parent.Contains node) : Comparable base base' node :=
  comparable.imp id fun inner => inner.inside inside

/-- Both runs have registered the same attributes, each upon its own. -/
structure Apart (options : Options) (base base' : Attributes) (first second : Context) : Prop where
  view : SameView first second
  warnings : first.warnings = second.warnings
  notes : ∀ note ∈ first.footnotes, ∀ node ∈ note.2, Comparable base base' node
  registered : ∃ entries, AllRegistrable options entries ∧
    first.attributes = base.registerAll entries ∧ second.attributes = base'.registerAll entries

def apart (options : Options) (base base' : Attributes) : Comparison where
  node := Comparable base base'
  definition _ content := ∀ node ∈ content, Comparable base base' node
  context := Apart options base base'
  text := Eq
  failure _ := True

theorem SameView.change {first second : Context} (same : SameView first second) (change : Change) :
    SameView (change.apply first) (change.apply second) := by
  obtain ⟨listStack, sectionLevel, tableColumns, footnotes, emitted⟩ := same
  constructor <;> cases change <;> simp only [Change.apply, listStack, sectionLevel, tableColumns, footnotes, emitted]

theorem Apart.change {options : Options} {base base' : Attributes} {first second : Context}
    (same : Apart options base base' first second) (change : Change) {node : Node}
    (comparable : Comparable base base' node) (arises : change.ArisesAt options node) : Apart options base base' (change.apply first) (change.apply second) := by
  obtain ⟨view, warnings, notes, registered⟩ := same
  have view := view.change change
  cases change with
  | note records =>
    refine ⟨view, ?_, notes, registered⟩
    simp only [Context.warnings, loggedFrom] at warnings
    simp only [Change.apply, Context.warnings, loggedFrom, List.filter_append, warnings]
  | register name value =>
    obtain ⟨entries, registrable, upon, upon'⟩ := registered
    refine ⟨view, warnings, notes, entries ++ [(name.toList, value)], ?_, ?_, ?_⟩
    · exact List.forall_mem_append.mpr ⟨registrable, List.forall_mem_singleton.mpr arises⟩
    · rw [Attributes.registerAll_concat, ← upon]
      rfl
    · rw [Attributes.registerAll_concat, ← upon']
      rfl
  | collect nodes =>
    refine ⟨view, warnings, fun note member => ?_, registered⟩
    rcases FootnoteTable.mem_collect member with former | latest
    · exact notes note former
    · -- Only a document collects footnotes.
      cases node with
      | document others =>
        obtain rfl : nodes = others := arises
        exact fun below inside => comparable.inside (Node.contains_note latest inside)
      | _ => exact absurd arises id
  | enterList | leaveList | enterSection | beginTable | emit | classify => exact ⟨view, warnings, notes, registered⟩

theorem apart_lawful (options : Options) (base base' : Attributes) :
    (apart options base base').Lawful options options.wrap where
  text := .equal
  lineBreak _ := rfl
  wrapped := by rintro _ _ rfl; rfl
  change change _ comparable arises _ _ same := same.change change comparable arises
  view same := same.view
  attributes := by
    rintro nodes (rfl | inner) first second ⟨-, -, -, entries, -, upon, upon'⟩
    · rw [upon, upon']
    · exact absurd inner.here id
  defined same found := same.notes _ (FootnoteTable.mem_of_lookup found)
  literal _ := .inr (Node.everywhere_iff.mpr ⟨trivial, nofun⟩)
  child comparable member := comparable.inside (.single member)
  misplaced := trivial
  illTyped := trivial
  foreign _ := trivial
  stray _ := trivial

/-- What is decided about a document that is rendered with the attributes. -/
abbrev decisionFor (nodes : List Node) (attributes : Attributes) : DocumentStructure :=
  DocumentStructure.ofChildren nodes (suppliedTitle attributes).isSome

/-- The context in which the tree of a document begins to be rendered. -/
def opened (nodes : List Node) (attributes : Attributes) : Context where
  attributes :=
    if (decisionFor nodes attributes).isBook then attributes.register doctype (.text "book".toList) else attributes
  book := some (decisionFor nodes attributes).isBook
  footnotes := FootnoteTable.collect [] (.document nodes)
  log := [⟨.debug, structureReport (decisionFor nodes attributes)⟩]

theorem decideStructure_opened (nodes : List Node) (attributes : Attributes) :
    (decideStructure nodes).runIn { attributes } = (.ok (decisionFor nodes attributes), opened nodes attributes) := by
  simp only [decideStructure, Render.report, Render.register, Render.runIn_bind, Render.runIn_modify, Render.runIn_get,
    opened, decisionFor]
  by_cases book : (DocumentStructure.ofChildren nodes (suppliedTitle attributes).isSome).isBook = true
  · simp only [if_pos book]
    rfl
  · simp only [if_neg book]
    rfl

section

variable (options : Options) (attributes : Attributes) (nodes : List Node)

/-- The blocks of a footnote in a document. -/
def noteBlocks : Text → List Node → Render (List Text) := renderFootnote options (Node.document nodes).footnotes.length

/-- A document rendered up to its parts, with the state that is left. -/
def renderParts : Except Failure DocumentParts × Context :=
  (documentParts options nodes (openingHeading options (noteBlocks options nodes) nodes)
    (renderChildren options (noteBlocks options nodes) nodes)).runIn { attributes }

/-- What the tree of a document yields by itself. -/
def renderTreeParts : Except Failure TreeParts × Context :=
  (treeParts options (decisionFor nodes attributes) (openingHeading options (noteBlocks options nodes) nodes)
    (renderChildren options (noteBlocks options nodes) nodes)).runIn (opened nodes attributes)

/-- The parts of a document, with its header for the attributes at the end. -/
def TreeParts.complete (parts : TreeParts) (last : Attributes) : DocumentParts :=
  ⟨parts.prologue, parts.header (opened nodes attributes).attributes last, parts.body⟩

theorem renderParts_eq :
    renderParts options attributes nodes =
      ((renderTreeParts options attributes nodes).1.map fun parts =>
          parts.complete attributes nodes (renderTreeParts options attributes nodes).2.attributes,
        (renderTreeParts options attributes nodes).2) := by
  simp only [renderParts, renderTreeParts, documentParts_eq, Render.runIn_bind, decideStructure_opened, Render.runIn_get]
  generalize Render.runIn _ _ = ending
  obtain ⟨result, last⟩ := ending
  cases result <;> rfl

theorem render_document :
    render options attributes (.document nodes) =
      ⟨(renderParts options attributes nodes).1.map fun parts => Text.endWithNewline parts.join,
        (renderParts options attributes nodes).2⟩ := by
  simp only [render_eq, renderTree, renderNode, Render.runIn_bind, renderParts, noteBlocks]
  generalize Render.runIn _ _ = ending
  obtain ⟨result, last⟩ := ending
  cases result <;> rfl

end

/-- Whether there is a title from outside does not matter for the tree. -/
theorem treeParts_decision (options : Options) (nodes : List Node) (first second : Attributes) :
    treeParts options (decisionFor nodes first) = treeParts options (decisionFor nodes second) := by
  funext opening children
  simp only [treeParts, promotedTitle, decisionFor, DocumentStructure.ofChildren]

theorem treeParts_apart (options : Options) {nodes : List Node} (inner : ∀ node ∈ nodes, node.Inner)
    (first second : Attributes) :
    (apart options (opened nodes first).attributes (opened nodes second).attributes).Meet Eq
      (renderTreeParts options first nodes) (renderTreeParts options second nodes) := by
  have laws := apart_lawful options (opened nodes first).attributes (opened nodes second).attributes
  have blocks := laws.footnoteBlocks (fun _ _ defined => ⟨trivial, defined⟩) (Node.document nodes).footnotes.length
  have each := fun node member => laws.everywhere blocks (.inr (inner node member))
  have agree := laws.treeParts (decisionFor nodes first) (Comparison.Lawful.opening each)
    (Comparison.Lawful.siblings each)
  have equal := agree.mono fun _ _ fit => fit.eq
  rw [renderTreeParts, renderTreeParts, treeParts_decision options nodes second first]
  refine equal _ _ ⟨⟨rfl, rfl, rfl, rfl, rfl⟩, rfl, ?_, [], nofun, rfl, rfl⟩
  intro note member
  rcases FootnoteTable.mem_collect member with former | latest
  · cases former
  · exact fun node inside => .inr (Node.Inner.footnotes inner latest node inside)

/-- Both renderings of the document fail alike, or else differ in the lines of the header and in nothing else. -/
def DifferInHeaderOnly (options : Options) (nodes : List Node) (first second : Attributes) : Prop :=
  (∃ failure, (render options first (.document nodes)).outcome = .error failure ∧
    (render options second (.document nodes)).outcome = .error failure) ∨
  ∃ parts parts' : DocumentParts,
    (renderParts options first nodes).1 = .ok parts ∧ (renderParts options second nodes).1 = .ok parts' ∧
    (render options first (.document nodes)).outcome = .ok (Text.endWithNewline parts.join) ∧
    (render options second (.document nodes)).outcome = .ok (Text.endWithNewline parts'.join) ∧
    parts' = { parts with header := parts'.header } ∧
    (render options first (.document nodes)).context.emitted =
      (render options second (.document nodes)).context.emitted ∧
    (render options first (.document nodes)).context.sectionLevel =
      (render options second (.document nodes)).context.sectionLevel ∧
    (render options first (.document nodes)).context.warnings =
      (render options second (.document nodes)).context.warnings

/-- The attributes show in the header of a document and nowhere else. -/
theorem attributes_reach_header_only (options : Options) {nodes : List Node} (inner : ∀ node ∈ nodes, node.Inner)
    (first second : Attributes) : DifferInHeaderOnly options nodes first second := by
  have met := treeParts_apart options inner first second
  simp only [DifferInHeaderOnly, render_document, renderParts_eq]
  generalize renderTreeParts options first nodes = ending at met
  generalize renderTreeParts options second nodes = ending' at met
  cases met with
  | error allowed same => exact .inl ⟨_, rfl, rfl⟩
  | @ok parts _ last last' equal same =>
    obtain rfl := equal
    refine .inr ⟨_, _, rfl, rfl, rfl, rfl, rfl, same.view.emitted, same.view.sectionLevel, same.warnings⟩

theorem attributes_reach_header_only_note :
    (∀ node ∈ [Node.heading (.number 1) [.text "Notes".toList], .paragraph [.footnoteReference "a".toList],
      .footnoteDefinition "a".toList [.paragraph [.image "b.png".toList [] none]]], node.Inner) ∧
    DifferInHeaderOnly { imagesDirectory := some "img/".toList }
      [Node.heading (.number 1) [.text "Notes".toList], .paragraph [.footnoteReference "a".toList],
        .footnoteDefinition "a".toList [.paragraph [.image "b.png".toList [] none]]]
      [("doctitle".toList, .text "Manual".toList)] [("imagesdir".toList, .text "pictures".toList)] := by
  have inner : ∀ node ∈ [Node.heading (.number 1) [.text "Notes".toList], .paragraph [.footnoteReference "a".toList],
      .footnoteDefinition "a".toList [.paragraph [.image "b.png".toList [] none]]], node.Inner := by
    simp [Node.everywhere_iff_forall, Node.IsInner, Node.children]
  exact ⟨inner, attributes_reach_header_only _ inner _ _⟩

end AsciiDoc

end Adocify
