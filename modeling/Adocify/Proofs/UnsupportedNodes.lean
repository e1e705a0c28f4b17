import Adocify.Proofs.NoteCycles
import Adocify.Proofs.RenderAccounts
import Adocify.Proofs.ShownElements

/-! Elements without a mapping surface. A rendering that succeeds has reached none of them, and one that
fails names a node that it has reached; so if one is shown, rendering fails and names such an element. -/

namespace Adocify.AsciiDoc

open Node (IsKnown)

/-- Nothing without a mapping is reached from the node. -/
def Clear (table : FootnoteTable) (node : Node) : Prop := ∀ next, Reaches table node next → next.IsKnown

/-- The footnotes that are written already hold nothing that is unknown. -/
def NotesClear (table : FootnoteTable) (context : Context) : Prop :=
  ∀ identifier ∈ context.emitted, ∀ content, table.lookup identifier = some content → ∀ block ∈ content,
    Clear table block

section

variable {table : FootnoteTable} {node : Node} {identifier : Text}

theorem Clear.of_leads (known : node.IsKnown) (leads : ∀ next, Leads table node next → Clear table next) :
    Clear table node := by
  intro next reaches
  rcases Relation.ReflTransGen.cases_head reaches with rfl | ⟨first, lead, rest⟩
  · exact known
  · exact leads first lead next rest

theorem clear_reference
    (clear : ∀ content, table.lookup identifier = some content → ∀ block ∈ content, Clear table block) :
    Clear table (.footnoteReference identifier) := by
  refine .of_leads trivial fun next leads => ?_
  rcases leads with part | ⟨other, content, same, found, member⟩
  · cases part
  · obtain rfl := Node.footnoteReference.inj same
    exact clear content found next member

theorem notesClear_emit {context : Context} (kept : NotesClear table context)
    (clear : ∀ content, table.lookup identifier = some content → ∀ block ∈ content, Clear table block) :
    NotesClear table ((Change.emit identifier).apply context) := by
  intro other member
  rcases List.mem_append.mp member with earlier | latest
  · exact kept other earlier
  · obtain rfl := List.mem_singleton.mp latest
    exact clear

end

theorem makes_known {node : Node} {texts : List Text} {text : Text} (makes : Makes node texts text) : node.IsKnown := by
  cases node with
  | foreign | stray => exact makes.elim
  | _ => trivial

/-- If the footnotes that are written hold nothing unknown, neither does what is rendered next. -/
def clearing (table : FootnoteTable) : Account where
  node node _ before after := NotesClear table before → Clear table node ∧ NotesClear table after
  row nodes _ before after := NotesClear table before → (∀ node ∈ nodes, Clear table node) ∧ NotesClear table after

theorem clearing_lawful (options : Options) (root : Node) : (clearing (notesOf root)).Lawful options root where
  quiet same _ kept := ⟨nofun, fun identifier member => kept identifier (same ▸ member)⟩
  one account kept := by
    obtain ⟨clear, after⟩ := account kept
    exact ⟨List.forall_mem_singleton.mpr clear, after⟩
  append first rest kept := by
    obtain ⟨clear, between⟩ := first kept
    obtain ⟨others, after⟩ := rest between
    exact ⟨List.forall_mem_append.mpr ⟨clear, others⟩, after⟩
  inside account kept := account kept
  parts := by
    intro depth node texts text before after _ account makes _ kept
    obtain ⟨clear, after⟩ := account kept
    refine ⟨.of_leads (makes_known makes) fun next leads => ?_, after⟩
    rcases leads with part | ⟨identifier, content, reference, -⟩
    · exact clear next part
    · exact absurd reference (makes_apart makes identifier)
  repeated written kept := ⟨clear_reference (kept _ written), kept⟩
  undefined := by
    intro identifier before after missing same _ kept
    refine ⟨clear_reference fun content found => ?_, fun other member => kept other (same ▸ member)⟩
    rw [missing] at found
    cases found
  noted := by
    intro depth identifier content texts before after _ found account _ kept
    obtain ⟨clear, after⟩ := account kept
    have noted : ∀ others, (notesOf root).lookup identifier = some others →
        ∀ block ∈ others, Clear (notesOf root) block := by
      intro others known
      obtain rfl := Option.some.inj (found.symm.trans known)
      exact clear
    exact ⟨clear_reference noted, notesClear_emit after noted⟩

/-- A failure that names the kind of an element without a mapping, and its place if it has one. -/
def Names : Node → Failure → Prop
  | .foreign kind _ location, failure => failure = .unsupportedNode kind (location.map (·.describe))
  | .stray kind, failure => failure = .unsupportedNode kind none
  | _, _ => False

/-- Lists hold items, tables rows, and rows cells. -/
def IsPlaced : Node → Prop
  | .list _ items _ _ => ∀ item ∈ items, ∃ blocks taskStatus, item = .listItem blocks taskStatus
  | .table header rows _ _ => ∀ row ∈ header.toList ++ rows, ∃ cells, row = .tableRow cells
  | .tableRow cells => ∀ cell ∈ cells, ∃ content span alignment, cell = .tableCell content span alignment
  | _ => True

/-- There are texts to make ids of, if ids are wanted. -/
def Options.GivesIds (options : Options) : Prop :=
  options.autoIds = true → options.idSeparator.isSome ∧ options.idStart.isSome

section

variable {options : Options} {root node : Node} {failure : Failure}

theorem idLine_given (given : options.GivesIds) (content : List Node) : idLine options content ≠ .error failure := by
  intro failed
  simp only [idLine] at failed
  split at failed
  · cases failed
  next wanted =>
    obtain ⟨separated, started⟩ := given (by simpa using wanted)
    obtain ⟨separator, separates⟩ := Option.isSome_iff_exists.mp separated
    obtain ⟨start, starts⟩ := Option.isSome_iff_exists.mp started
    simp only [sectionId?, separates, starts] at failed
    split at failed <;> cases failed

theorem rowSpan_placed {cells : List Node} (placed : IsPlaced (.tableRow cells)) :
    ∃ width, rowSpan cells = .ok width := by
  induction cells with
  | nil => exact ⟨0, rfl⟩
  | cons cell rest ih =>
    obtain ⟨content, span, alignment, rfl⟩ := placed cell List.mem_cons_self
    obtain ⟨width, others⟩ := ih fun other member => placed other (.tail _ member)
    exact ⟨span + width, by simp [rowSpan, others, Except.map]⟩

theorem tableWidth_placed {rows : List Node} (placed : ∀ row ∈ rows, ∃ cells, row = .tableRow cells ∧ IsPlaced row) :
    ∃ width, tableWidth rows = .ok width := by
  have spans : ∃ widths, rowSpans rows = .ok widths := by
    induction rows with
    | nil => exact ⟨[], rfl⟩
    | cons row rest ih =>
      obtain ⟨cells, rfl, cellsPlaced⟩ := placed row List.mem_cons_self
      obtain ⟨width, here⟩ := rowSpan_placed cellsPlaced
      obtain ⟨widths, others⟩ := ih fun other member => placed other (.tail _ member)
      exact ⟨width :: widths, by simp [rowSpans, here, others, bind, Except.bind, pure, Except.pure]⟩
  obtain ⟨widths, found⟩ := spans
  cases widths with
  | nil => exact ⟨0, by simp [tableWidth, found, bind, Except.bind, pure, Except.pure]⟩
  | cons first others =>
    exact ⟨others.foldl max first, by simp [tableWidth, found, bind, Except.bind, pure, Except.pure]⟩

/-- Where everything is in its place, a node fails by itself only for having no mapping. -/
theorem names_of_refuses (given : options.GivesIds) (placed : node.Everywhere IsPlaced)
    (refused : Refuses options node failure) :
    Names node failure := by
  cases node with
  | heading level content => exact (idLine_given given content refused).elim
  | list ordered items start tight =>
    obtain ⟨-, item, member, other⟩ := refused
    obtain ⟨blocks, taskStatus, same⟩ := placed.here item member
    exact (other blocks taskStatus same).elim
  | table header rows alignments caption =>
    have each : ∀ row ∈ header.toList ++ rows, ∃ cells, row = .tableRow cells ∧ IsPlaced row := by
      intro row member
      obtain ⟨cells, same⟩ := placed.here row member
      exact ⟨cells, same, (placed.child member).here⟩
    obtain ⟨width, fits⟩ := tableWidth_placed each
    cases fits.symm.trans refused
  | tableRow cells =>
    obtain ⟨width, fits⟩ := rowSpan_placed placed.here
    cases fits.symm.trans refused
  | foreign kind content location => exact refused
  | stray kind => exact refused
  | _ => exact refused.elim

end

/-- If a document shows an element without a mapping, its rendering fails. Unless footnotes refer to
themselves, something is out of place or the id options are no texts, the failure names such an element. -/
theorem unsupported_surfaces (options : Options) (attributes : Attributes) {nodes : List Node} {element : Node}
    (shown : Shown (notesOf (.document nodes)) (.document nodes) element) (unknown : ¬element.IsKnown) :
    ∃ failure, (render options attributes (.document nodes)).outcome = .error failure ∧
      ((notesOf (.document nodes)).Acyclic → (Node.document nodes).Everywhere IsPlaced → options.GivesIds →
        ∃ found, (Node.document nodes).Contains found ∧ Names found failure) := by
  cases ended : (render options attributes (.document nodes)).outcome with
  | ok text =>
    obtain ⟨texts, body, account, -⟩ := (clearing_lawful options (.document nodes)).render ended
    obtain ⟨clear, -⟩ := account nofun
    rcases Relation.ReflTransGen.cases_head (shown.reaches unknown) with rfl | ⟨part, leads, rest⟩
    · exact (unknown trivial).elim
    rcases leads with member | ⟨identifier, content, same, -⟩
    · exact (unknown (clear part member element rest)).elim
    · cases same
  | error failure =>
    refine ⟨failure, rfl, fun acyclic placed given => ?_⟩
    obtain ⟨found, reaches, refused⟩ := render_blamed acyclic ended
    rcases Inside.reaches (.inr .refl) reaches with ⟨content, rfl⟩ | inside
    · exact refused.elim
    · exact ⟨found, inside, names_of_refuses given (placed.inside inside) refused⟩

def callout : Node := .foreign "Callout".toList [] none

/-- A footnote of an item, with a callout in a quote. -/
def quotedCallout : List Node :=
  [.list false [.listItem [.paragraph [.footnoteReference ['n']]] none] (.number 1) true,
    .footnoteDefinition ['n'] [.blockQuote [.paragraph [.emphasis [callout]]]]]

theorem unsupported_surfaces_quoted :
    Shown (notesOf (.document quotedCallout)) (.document quotedCallout) callout ∧ ¬callout.IsKnown ∧
    (notesOf (.document quotedCallout)).Acyclic ∧ (Node.document quotedCallout).Everywhere IsPlaced ∧
    Options.GivesIds {} ∧ ∃ failure, (render {} [] (.document quotedCallout)).outcome = .error failure ∧
      ∃ found, (Node.document quotedCallout).Contains found ∧ Names found failure := by
  have notes : notesOf (.document quotedCallout) = [(['n'], [.blockQuote [.paragraph [.emphasis [callout]]]])] := rfl
  have alone (node : Node) : Stands [node] node := ⟨[], [], rfl, .inl rfl⟩
  have plain (node : Node) : ¬IsLabel [node] node := by simp [IsLabel, Opens, splitAdmonition]
  have item : Shown (notesOf (.document quotedCallout)) (.document quotedCallout) (.footnoteReference ['n']) :=
    .head (.inl List.mem_cons_self) <| .head (.inl ⟨List.mem_cons_self, _, _, rfl⟩) <|
      .head (.inl List.mem_cons_self) <| .single (.inl ⟨alone _, plain _⟩)
  have quote : Shown (notesOf (.document quotedCallout)) (.footnoteReference ['n']) callout :=
    .head (.inr ⟨_, _, rfl, rfl, List.mem_cons_self⟩) <| .head (.inl List.mem_cons_self) <|
      .head (.inl ⟨alone _, plain _⟩) <| .single (.inl (alone _))
  have acyclic : (notesOf (.document quotedCallout)).Acyclic := by
    refine FootnoteTable.acyclic_of_rank (fun _ => 0) ?_
    simp [notes, callout, Node.everywhere_iff_forall, Node.children]
  have placed : (Node.document quotedCallout).Everywhere IsPlaced := by
    simp [quotedCallout, callout, Node.everywhere_iff_forall, Node.children, IsPlaced]
  have given : Options.GivesIds {} := fun _ => ⟨rfl, rfl⟩
  obtain ⟨failure, failed, names⟩ := unsupported_surfaces {} [] (item.trans quote) id
  exact ⟨item.trans quote, id, acyclic, placed, given, failure, failed, names acyclic placed given⟩

/-- What is not shown is passed over: in a footnote that nothing refers to, in a key combination and in the
label of an admonition. In the place of a list item, and behind a footnote that refers to itself, it does
not surface as such. -/
theorem unsupported_passed_over :
    let note : Node := .document [.paragraph [.text ['x']], .footnoteDefinition ['n'] [.paragraph [callout]]]
    let keys : Node := .document [.paragraph [.htmlInline "<kbd>".toList, callout, .htmlInline "</kbd>".toList]]
    let label : Node := .document [.paragraph [.strong [.text "Note:".toList, callout], .text ['x']]]
    let item : Node := .document [.list false [callout] (.number 1) true]
    let cycle : Node := .document [.paragraph [.footnoteReference ['n'], callout],
      .footnoteDefinition ['n'] [.paragraph [.footnoteReference ['n']]]]
    ¬callout.IsKnown ∧ (∀ root ∈ [note, keys, label, item, cycle], root.Contains callout) ∧
    (render {} [] note).outcome = .ok "x\n".toList ∧
    (render {} [] keys).outcome = .ok ":experimental:\n\nkbd:[]\n".toList ∧
    (render {} [] label).outcome = .ok "NOTE: x\n".toList ∧ (render {} [] item).outcome = .error .misplaced ∧
    (render {} [] cycle).outcome = .error (.circularFootnote ['n']) := by
  intro note keys label item cycle
  refine ⟨id, ?_, by decide +kernel, by decide +kernel, by decide +kernel, by decide +kernel, by decide +kernel⟩
  have inNote : note.Contains callout :=
    .head (.tail _ List.mem_cons_self) (.head List.mem_cons_self (.single List.mem_cons_self))
  have inKeys : keys.Contains callout := .head List.mem_cons_self (.single (.tail _ List.mem_cons_self))
  have inLabel : label.Contains callout :=
    .head List.mem_cons_self (.head List.mem_cons_self (.single (.tail _ List.mem_cons_self)))
  have inItem : item.Contains callout := .head List.mem_cons_self (.single List.mem_cons_self)
  have inCycle : cycle.Contains callout := .head List.mem_cons_self (.single (.tail _ List.mem_cons_self))
  simp only [List.forall_mem_cons]
  exact ⟨inNote, inKeys, inLabel, inItem, inCycle, fun _ none => absurd none List.not_mem_nil⟩

end Adocify.AsciiDoc
