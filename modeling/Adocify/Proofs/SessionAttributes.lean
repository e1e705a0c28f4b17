import Adocify.AsciiDoc.Session
import Adocify.Proofs.AttributeSeparation

/-! The attributes in a session. Rendering registers attributes and changes none, also when it fails.
Whatever it registers is no title, so that a document rendered again with the attributes it left is
decided about as before and finds all of them registered. -/

namespace Adocify.AsciiDoc

theorem Registrable.notTitle {options : Options} {name : Text} {value : Value}
    (registrable : Registrable options name value) : name ≠ doctitle := by
  cases registrable <;> decide

theorem doctitle_absent {options : Options} {entries : Attributes} (registrable : AllRegistrable options entries) :
    doctitle ∉ entries.names := by
  intro member
  obtain ⟨entry, found, same⟩ := List.mem_map.mp member
  exact (registrable entry found).notTitle same

theorem suppliedTitle_registerAll {options : Options} {entries : Attributes}
    (registrable : AllRegistrable options entries) (attributes : Attributes) :
    suppliedTitle (attributes.registerAll entries) = suppliedTitle attributes := by
  rw [suppliedTitle, suppliedTitle, Attributes.get?_registerAll (doctitle_absent registrable)]

/-- Rendering a tree of any kind does nothing to the attributes but register some. -/
theorem render_appends (options : Options) (attributes : Attributes) (node : Node) :
    ∃ entries, AllRegistrable options entries ∧
      (render options attributes node).context.attributes = attributes.registerAll entries := by
  have comparable : Comparable attributes attributes node := .inl rfl
  have met := (apart_lawful options attributes attributes).tree (fun _ _ defined => ⟨trivial, defined⟩) comparable
    { attributes } { attributes } ⟨⟨rfl, rfl, rfl, rfl, rfl⟩, rfl, nofun, [], nofun, rfl, rfl⟩
  obtain ⟨entries, registrable, upon, -⟩ := met.context.registered
  exact ⟨entries, registrable, upon⟩

/-- What the decision about a document registers. -/
def bookEntry (nodes : List Node) (attributes : Attributes) : Attributes :=
  if (decisionFor nodes attributes).isBook then [(doctype, .text "book".toList)] else []

theorem opened_attributes (nodes : List Node) (attributes : Attributes) :
    (opened nodes attributes).attributes = attributes.registerAll (bookEntry nodes attributes) := by
  simp only [opened, bookEntry]
  split <;> rfl

theorem bookEntry_registrable (options : Options) (nodes : List Node) (attributes : Attributes) :
    AllRegistrable options (bookEntry nodes attributes) := by
  simp only [bookEntry]
  split
  · exact List.forall_mem_singleton.mpr .book
  · exact nofun

theorem bookEntry_registerAll {options : Options} {entries : Attributes}
    (registrable : AllRegistrable options entries) (nodes : List Node) (attributes : Attributes) :
    bookEntry nodes (attributes.registerAll entries) = bookEntry nodes attributes := by
  simp only [bookEntry, decisionFor, suppliedTitle_registerAll registrable]

theorem suppliedTitle_opened (nodes : List Node) (attributes : Attributes) :
    suppliedTitle (opened nodes attributes).attributes = suppliedTitle attributes := by
  rw [opened_attributes, suppliedTitle_registerAll (bookEntry_registrable {} nodes attributes)]

/-- The tree of a document, rendered again with the attributes it left, yields the same and leaves the same. -/
theorem treeParts_again (options : Options) {nodes : List Node} (inner : ∀ node ∈ nodes, node.Inner)
    (attributes : Attributes) :
    ∃ entries, AllRegistrable options entries ∧
      (renderTreeParts options attributes nodes).2.attributes = attributes.registerAll entries ∧
      (renderTreeParts options (attributes.registerAll entries) nodes).1 = (renderTreeParts options attributes nodes).1 ∧
      (renderTreeParts options (attributes.registerAll entries) nodes).2.attributes =
        attributes.registerAll entries := by
  let book := bookEntry nodes attributes
  generalize left : (renderTreeParts options attributes nodes).2.attributes = last
  have met := treeParts_apart options inner attributes last
  obtain ⟨entries, registrable, upon, upon'⟩ := met.context.registered
  rw [left, opened_attributes, ← Attributes.registerAll_append] at upon
  have known : AllRegistrable options (book ++ entries) :=
    List.forall_mem_append.mpr ⟨bookEntry_registrable options nodes attributes, registrable⟩
  -- Nothing that was registered is a title, so the second decision is the first one.
  have again : (opened nodes last).attributes.registerAll entries = last := by
    rw [opened_attributes, ← Attributes.registerAll_append, upon, bookEntry_registerAll known]
    exact Attributes.registerAll_again attributes (book ++ entries)
  refine ⟨book ++ entries, known, upon, ?_, ?_⟩
  · rw [← upon]
    exact met.equal.symm
  · rw [← upon, upon', again]

/-- A rendering registers some attributes, and one that begins with them comes to the same end. -/
theorem render_registers (options : Options) {nodes : List Node} (inner : ∀ node ∈ nodes, node.Inner)
    (attributes : Attributes) :
    ∃ entries, AllRegistrable options entries ∧
      (render options attributes (.document nodes)).context.attributes = attributes.registerAll entries ∧
      (render options (attributes.registerAll entries) (.document nodes)).outcome =
        (render options attributes (.document nodes)).outcome ∧
      (render options (attributes.registerAll entries) (.document nodes)).context.attributes =
        attributes.registerAll entries := by
  obtain ⟨entries, registrable, left, result, last⟩ := treeParts_again options inner attributes
  refine ⟨entries, registrable, ?_, ?_, ?_⟩
  · simpa only [render_document, renderParts_eq] using left
  · simp only [render_document, renderParts_eq, TreeParts.complete, TreeParts.header, result, left, last,
      suppliedTitle_opened, suppliedTitle_registerAll registrable]
  · simpa only [render_document, renderParts_eq] using last

namespace Session

/-- The options hold for the whole session. -/
theorem after_options (session : Session) (history : List Assignment) :
    (session.after history).options = session.options := by
  induction history generalizing session with
  | nil => rfl
  | cons assignment rest ih => exact ih (session.next assignment).2

/-- The mapping that the next document left is the one that it finds when its turn comes again. -/
theorem next_mapping (session : Session) (node : Node) (own : Option Attributes) :
    let rendered := (session.next ⟨node, own⟩).2
    rendered.mapping (own.map fun _ => rendered.context.attributes) = rendered.context.attributes := by
  cases own <;> rfl

end Session

/-- The next document only appends to its mapping, each name once, and rendered again with what it left
it has the same outcome and appends nothing. -/
def AppendsAndRepeats (options : Options) (session : Session) (document : Node) (own : Option Attributes) : Prop :=
  let (outcome, rendered) := session.next ⟨document, own⟩
  let (outcome', repeated) := rendered.next ⟨document, own.map fun _ => rendered.context.attributes⟩
  (∃ added : Attributes, rendered.context.attributes = session.mapping own ++ added ∧ added.names.Nodup ∧
    ∀ entry ∈ added, entry.1 ∉ (session.mapping own).names ∧ Registrable options entry.1 entry.2) ∧
  outcome' = outcome ∧ repeated.context.attributes = rendered.context.attributes

/-- Whatever was rendered before in a session, and with whatever outcome. -/
theorem session_appends_and_repeats (options : Options) (shared : Attributes) (history : List Assignment)
    {nodes : List Node} (inner : ∀ node ∈ nodes, node.Inner) (own : Option Attributes) :
    AppendsAndRepeats options ((Session.start options shared).after history) (.document nodes) own := by
  have unchanged : ((Session.start options shared).after history).options = options := Session.after_options _ history
  generalize (Session.start options shared).after history = session at unchanged
  subst unchanged
  obtain ⟨entries, registrable, left, outcome, last⟩ := render_registers session.options inner (session.mapping own)
  have found := (Session.next_mapping session (.document nodes) own).trans left
  obtain ⟨added, appended, distinct, fresh⟩ := Attributes.registerAll_appends (session.mapping own) entries
  refine ⟨⟨added, left.trans appended, distinct, fun entry member => ?_⟩, ?_, ?_⟩
  · exact ⟨(fresh entry member).2, registrable entry (fresh entry member).1⟩
  · exact (congrArg (fun mapping => (render session.options mapping (.document nodes)).outcome) found).trans outcome
  · have again := congrArg (fun mapping => (render session.options mapping (.document nodes)).context.attributes) found
    exact again.trans (last.trans left.symm)

theorem session_appends_and_repeats_book :
    (∀ node ∈ [Node.heading (.number 1) [], .heading (.number 1) [.image "a.png".toList [] none], .stray "int".toList],
      node.Inner) ∧
    AppendsAndRepeats { imagesDirectory := some "img/".toList }
      ((Session.start { imagesDirectory := some "img/".toList } [("toc".toList, .text [])]).after
        [{ document := .foreign "Chart".toList [] none }, { document := .document [], own := some [] }])
      (.document [.heading (.number 1) [], .heading (.number 1) [.image "a.png".toList [] none],
        .stray "int".toList]) none := by
  have inner : ∀ node ∈ [Node.heading (.number 1) [], .heading (.number 1) [.image "a.png".toList [] none],
      .stray "int".toList], node.Inner := by
    simp [Node.everywhere_iff_forall, Node.IsInner, Node.children]
  exact ⟨inner, session_appends_and_repeats _ _ _ inner none⟩

end Adocify.AsciiDoc
