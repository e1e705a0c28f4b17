import Adocify.Proofs.DocumentTitles
import Adocify.Proofs.RenderFrames
import Adocify.Proofs.SessionAttributes

/-! Which documents are books. The scan of a document sets its leading comments and its title apart and keeps all else
as it stands. What is registered goes by the parts that are left behind the title, whichever side the title is from. -/

namespace Adocify.AsciiDoc

/-- A title takes up one block of the document, a heading of the first level; no title takes up none. -/
inductive TitleBlock : List Node → Option (List Node) → Prop where
  | none : TitleBlock [] none
  | heading {level : Whole} {content : List Node} (top : level.toInt = 1) :
      TitleBlock [.heading level content] (some content)

/-- The scan divides the blocks of a document: comments as long as there are any, the title if the next block is one,
and the rest. -/
structure Divided (nodes : List Node) (decision : DocumentStructure) : Prop where
  whole : ∃ heading, TitleBlock heading decision.title ∧ nodes = decision.prologue ++ heading ++ decision.body
  comments : ∀ node ∈ decision.prologue, node.isComment
  longest : ∀ node ∈ (nodes.drop decision.prologue.length).head?, node.isComment = false
  promoted : decision.title.isSome ↔ ∃ node ∈ (nodes.drop decision.prologue.length).head?, node.isPart

theorem ofChildren_divided (nodes : List Node) (titleGiven : Bool) : Divided nodes (.ofChildren nodes titleGiven) := by
  have dropped : nodes.drop (DocumentStructure.ofChildren nodes titleGiven).prologue.length =
      nodes.dropWhile (·.isComment) := by
    rw [List.dropWhile_eq_drop_findIdx_not, DocumentStructure.ofChildren, List.takeWhile_eq_take_findIdx_not,
      List.length_take, Nat.min_eq_left List.findIdx_le_length]
  have title : ∃ heading, TitleBlock heading (DocumentStructure.ofChildren nodes titleGiven).title ∧
      nodes.dropWhile (·.isComment) = heading ++ (DocumentStructure.ofChildren nodes titleGiven).body ∧
      ((DocumentStructure.ofChildren nodes titleGiven).title.isSome ↔
        ∃ node ∈ (nodes.dropWhile (·.isComment)).head?, node.isPart) := by
    simp only [DocumentStructure.ofChildren]
    generalize nodes.dropWhile (·.isComment) = rest
    rcases rest with _ | ⟨first, body⟩
    · exact ⟨[], .none, rfl, by simp⟩
    cases first with
    | heading level content =>
      by_cases top : level.toInt = 1
      · exact ⟨[.heading level content], by simpa [top] using .heading top, by simp [top], by simp [top, Node.isPart]⟩
      · exact ⟨[], by simpa [top] using .none, by simp [top], by simp [top, Node.isPart]⟩
    | _ => exact ⟨[], .none, rfl, by simp [Node.isPart]⟩
  obtain ⟨heading, block, behind, promoted⟩ := title
  refine ⟨⟨heading, block, ?_⟩, prologue_comments nodes titleGiven, ?_, dropped ▸ promoted⟩
  · rw [List.append_assoc, ← behind]
    exact List.takeWhile_append_dropWhile.symm
  · intro node first
    have visible := List.head?_dropWhile_not (·.isComment) nodes
    rw [dropped] at first
    rwa [Option.mem_def.mp first] at visible

/-- The parts of a document behind its title. -/
def bodyParts (nodes : List Node) : Nat := (DocumentStructure.ofChildren nodes false).body.countP (·.isPart)

/-- The document opens with a title, or the mapping supplies one that counts. -/
def HasTitle (attributes : Attributes) (nodes : List Node) : Prop :=
  (∃ content, OpensWith nodes content) ∨ ∃ value, attributes.get? doctitle = some value ∧ value.isTruthy = true

section

variable {options : Options} {attributes : Attributes} {nodes : List Node}

/-- The leading comments hold no part, and the title is one. -/
theorem parts_counted : nodes.countP (·.isPart) =
    bodyParts nodes + if (DocumentStructure.ofChildren nodes false).title.isSome then 1 else 0 := by
  obtain ⟨⟨heading, block, whole⟩, comments, -, -⟩ := ofChildren_divided nodes false
  have leading : (DocumentStructure.ofChildren nodes false).prologue.countP (·.isPart) = 0 := by
    refine List.countP_eq_zero.mpr fun node member => ?_
    have comment := comments node member
    cases node with
    | comment => exact Bool.false_ne_true
    | _ => cases comment
  conv_lhs => rw [whole]
  rw [List.countP_append, List.countP_append, leading, Nat.zero_add, Nat.add_comm, bodyParts]
  generalize (DocumentStructure.ofChildren nodes false).title = title at block
  cases block with
  | none => rfl
  | heading top => simp [Node.isPart, top]

theorem hasTitle_iff : HasTitle attributes nodes ↔
    (DocumentStructure.ofChildren nodes false).title.isSome ∨ (suppliedTitle attributes).isSome := by
  refine or_congr ?_ ?_
  · simp only [Option.isSome_iff_exists, openingTitle_iff]
  · rw [suppliedTitle, Option.isSome_filter]
    cases attributes.get? doctitle <;> simp

/-- A document with a title is a book if it has a part besides, and one without if it has two. -/
theorem isBook_iff : (decisionFor nodes attributes).isBook ↔
    (HasTitle attributes nodes → 1 ≤ bodyParts nodes) ∧ (¬HasTitle attributes nodes → 2 ≤ bodyParts nodes) := by
  have counted : (decisionFor nodes attributes).partCount =
      if (DocumentStructure.ofChildren nodes false).title.isNone && (suppliedTitle attributes).isSome then
        nodes.countP (·.isPart) + 1
      else nodes.countP (·.isPart) := rfl
  rw [hasTitle_iff, DocumentStructure.isBook, counted, parts_counted, decide_eq_true_iff]
  cases (DocumentStructure.ofChildren nodes false).title with
  | some content => simp [Nat.succ_le_iff]
  | none => cases (suppliedTitle attributes).isSome <;> simp [Nat.succ_le_iff]

end

/-- A document itself says what it is; nothing below it does. -/
def IsDocument : Node → Prop
  | .document _ => True
  | _ => False

theorem spared_doctype (root : Node) (options : Options) :
    (spared root IsDocument fun context => context.attributes.get? doctype).Lawful options := by
  refine spared_lawful ?_ (fun _ _ => rfl) fun _ => rfl
  rintro node change other ⟨-, befits⟩ context
  cases change with
  | register name value =>
    refine Attributes.get?_register_other (fun same => ?_) value
    rw [Change.Befits, ← same] at befits
    cases befits with
    | document => exact other trivial
  | _ => rfl

section

variable {options : Options} {attributes : Attributes} {nodes : List Node} {node next : Node}

theorem no_document_reached (inner : ∀ node ∈ nodes, node.Inner) (start : IsText node ∨ node.Inner)
    (reaches : Reaches (notesOf (.document nodes)) node next) : ¬IsDocument next := by
  have met := reaches.within Node.Inner (fun holds under => holds.child under)
    (fun _ found member => Node.Inner.footnotes inner (mem_notesOf (FootnoteTable.mem_of_lookup found)) _ member) start
  rcases met with ⟨content, rfl⟩ | inside
  · exact id
  · intro document
    cases next with
    | document => exact inside.here
    | _ => exact document

/-- Nothing registers a type of document after the scan, unless there are documents within the document. -/
theorem doctype_settled (inner : ∀ node ∈ nodes, node.Inner) :
    (render options attributes (.document nodes)).context.attributes.get? doctype =
      (opened nodes attributes).attributes.get? doctype := by
  obtain ⟨result, course, -⟩ := render_course options attributes nodes
  have laws := spared_doctype (.document nodes) options
  refine (laws.course course (fun arises start => ?_) (fun part member => ?_) rfl).2
  · exact laws.change ⟨.inl ⟨[], rfl⟩, fun next => no_document_reached inner (.inl ⟨[], rfl⟩)⟩ arises start
  · refine ⟨inside_document part member, fun next => no_document_reached inner ?_⟩
    refine (partsOf_below member).imp id fun ⟨child, under, contained⟩ => ?_
    exact (inner child under).inside contained

theorem opened_doctype (unset : attributes.get? doctype = none) : (opened nodes attributes).attributes.get? doctype =
    if (decisionFor nodes attributes).isBook then some (.text "book".toList) else none := by
  simp only [opened]
  split
  · exact Attributes.get?_register_new unset _
  · exact unset

theorem book_registered (unset : attributes.get? doctype = none) (book : (decisionFor nodes attributes).isBook) :
    (render options attributes (.document nodes)).context.attributes.get? doctype = some (.text "book".toList) := by
  obtain ⟨result, course, -⟩ := render_course options attributes nodes
  have kept := (Frame.appending_lawful options).course course (fun _ _ => Frame.attributes_kept _ _) (fun _ _ => trivial)
    trivial
  refine Attributes.get?_prefix kept ?_
  rw [opened_doctype unset, if_pos book]

theorem doctype_registered (unset : attributes.get? doctype = none) {value : Value}
    (found : (render options attributes (.document nodes)).context.attributes.get? doctype = some value) :
    value = .text "book".toList := by
  obtain ⟨entries, registrable, left⟩ := render_appends options attributes (.document nodes)
  rw [left] at found
  have known := registrable _ (Attributes.mem_of_get?_registerAll unset found)
  cases known with
  | book => rfl

end

/-- The scan of a document loses and doubles no block, and what it counts is what the rendering goes by: with a title
a document is a book from one part on behind it, and without one from two parts on. Documents within it are scanned on
their own, and may make it a book besides. -/
theorem book_iff_parts (options : Options) (nodes : List Node) :
    (∀ titleGiven, Divided nodes (.ofChildren nodes titleGiven)) ∧
    ∀ attributes, attributes.get? doctype = none →
      let registered := (render options attributes (.document nodes)).context.attributes.get? doctype
      let book := some (Value.text "book".toList)
      (registered = none ∨ registered = book) ∧
      (HasTitle attributes nodes → 1 ≤ bodyParts nodes → registered = book) ∧
      (¬HasTitle attributes nodes → 2 ≤ bodyParts nodes → registered = book) ∧
      ((∀ node ∈ nodes, node.Inner) → registered = book →
        (HasTitle attributes nodes → 1 ≤ bodyParts nodes) ∧ (¬HasTitle attributes nodes → 2 ≤ bodyParts nodes)) := by
  refine ⟨ofChildren_divided nodes, fun attributes unset => ⟨?_, fun titled some => ?_, fun plain some => ?_, ?_⟩⟩
  · cases found : (render options attributes (.document nodes)).context.attributes.get? doctype with
    | none => exact .inl rfl
    | some value => exact .inr (congrArg Option.some (doctype_registered unset found))
  · exact book_registered unset (isBook_iff.mpr ⟨fun _ => some, fun plain => absurd titled plain⟩)
  · exact book_registered unset (isBook_iff.mpr ⟨fun titled => absurd titled plain, fun _ => some⟩)
  · intro inner registered
    rw [doctype_settled inner, opened_doctype unset] at registered
    by_cases book : (decisionFor nodes attributes).isBook
    · exact isBook_iff.mp book
    · rw [if_neg book] at registered
      cases registered

def guideChapter : List Node :=
  [.comment ['c'], .heading (.number 1) [.text "Guide".toList], .paragraph [.text ['a']]]

/-- The title is none of the parts that make a book of a document with a title. -/
theorem book_iff_parts_guide :
    let registered (nodes : List Node) := (render {} [] (.document nodes)).context.attributes.get? doctype
    bodyParts guideChapter = 0 ∧ registered guideChapter = none ∧
      bodyParts (guideChapter ++ [.heading (.number 1) []]) = 1 ∧
      registered (guideChapter ++ [.heading (.number 1) []]) = some (.text "book".toList) := by
  intro registered
  have opens (rest : List Node) : HasTitle [] (guideChapter ++ rest) := by
    refine .inl ⟨[.text "Guide".toList], [.comment ['c']], .number 1, _, rfl, ?_, rfl⟩
    simp [Node.isComment]
  have inner : ∀ node ∈ guideChapter, node.Inner := by
    simp [guideChapter, Node.everywhere_iff_forall, Node.IsInner, Node.children]
  obtain ⟨-, chapter⟩ := book_iff_parts {} guideChapter
  obtain ⟨-, guide⟩ := book_iff_parts {} (guideChapter ++ [.heading (.number 1) []])
  obtain ⟨settled, -, -, counted⟩ := chapter [] rfl
  obtain ⟨-, booked, -, -⟩ := guide [] rfl
  refine ⟨rfl, settled.resolve_right fun book => ?_, rfl, booked (opens _) (le_refl 1)⟩
  exact absurd ((counted inner book).1 (opens [])) (by decide)

/-- A document within the document registers its own parts. -/
theorem inner_document_makes_book :
    let part (name : Char) : Node := .heading (.number 1) [.text [name]]
    let nodes : List Node := [.document [part 'A', part 'B']]
    bodyParts nodes = 0 ∧ ¬HasTitle [] nodes ∧
      (render {} [] (.document nodes)).context.attributes.get? doctype = some (.text "book".toList) ∧
      (render {} [] (.document nodes)).outcome =
        .ok ":doctype: book\n\n= A\n:doctype: book\n\n= B\n".toList := by
  intro part nodes
  refine ⟨rfl, fun titled => ?_, rfl, by decide +kernel⟩
  rcases hasTitle_iff.mp titled with promoted | supplied
  · cases promoted
  · cases supplied

end Adocify.AsciiDoc
