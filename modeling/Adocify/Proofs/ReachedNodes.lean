import Adocify.Proofs.RenderAccounts

/-! Reached nodes are rendered. In a rendering that succeeds every node that is reached was rendered at some time, and
the attributes that it registered are still there at the end. A footnote is rendered once; what it holds is therefore
followed up by the footnotes that are written already. -/

namespace Adocify.AsciiDoc

/-- The node was rendered, and the attributes that it left are the first of these. -/
def RenderedBy (options : Options) (last : Attributes) (node : Node) : Prop :=
  ∃ depth before text after, (renderNode options (renderFootnote options depth) node).runIn before = (.ok text, after) ∧
    after.attributes <+: last

def IsReference : Node → Prop
  | .footnoteReference _ => True
  | _ => False

/-- All that is reached from the node was rendered. References only count with what their footnotes hold. -/
def Followed (options : Options) (table : FootnoteTable) (last : Attributes) (node : Node) : Prop :=
  ∀ next, Reaches table node next → ¬IsReference next → RenderedBy options last next

/-- So was all that the footnotes hold that are written already. -/
def NotesFollowed (options : Options) (table : FootnoteTable) (context : Context) : Prop :=
  ∀ identifier ∈ context.emitted, ∀ content, table.lookup identifier = some content → ∀ block ∈ content,
    Followed options table context.attributes block

section

variable {options : Options} {table : FootnoteTable} {last later : Attributes} {node : Node} {identifier : Text}

theorem Followed.mono (followed : Followed options table last node) (kept : last <+: later) :
    Followed options table later node := by
  intro next reaches apart
  obtain ⟨depth, before, text, after, ran, grown⟩ := followed next reaches apart
  exact ⟨depth, before, text, after, ran, grown.trans kept⟩

theorem Followed.of_leads (here : ¬IsReference node → RenderedBy options last node)
    (leads : ∀ next, Leads table node next → Followed options table last next) : Followed options table last node := by
  intro next reaches apart
  rcases Relation.ReflTransGen.cases_head reaches with rfl | ⟨first, lead, rest⟩
  · exact here apart
  · exact leads first lead next rest apart

theorem followed_reference
    (followed : ∀ content, table.lookup identifier = some content → ∀ block ∈ content, Followed options table last block) :
    Followed options table last (.footnoteReference identifier) := by
  refine .of_leads (absurd trivial) fun next leads => ?_
  rcases leads with part | ⟨other, content, same, found, member⟩
  · cases part
  · obtain rfl := Node.footnoteReference.inj same
    exact followed content found next member

theorem NotesFollowed.mono {before after : Context} (notes : NotesFollowed options table before)
    (same : after.emitted = before.emitted) (kept : before.attributes <+: after.attributes) :
    NotesFollowed options table after :=
  fun identifier member content found block within =>
    (notes identifier (same ▸ member) content found block within).mono kept

theorem NotesFollowed.emit {context : Context} (notes : NotesFollowed options table context)
    (followed : ∀ content, table.lookup identifier = some content → ∀ block ∈ content,
      Followed options table context.attributes block) :
    NotesFollowed options table ((Change.emit identifier).apply context) := by
  intro other member
  rcases List.mem_append.mp member with earlier | latest
  · exact notes other earlier
  · obtain rfl := List.mem_singleton.mp latest
    exact followed

end

/-- What is rendered next is followed up as well, and no attribute is lost by it. -/
def following (options : Options) (table : FootnoteTable) : Account where
  node node _ before after := before.attributes <+: after.attributes ∧
    (NotesFollowed options table before →
      Followed options table after.attributes node ∧ NotesFollowed options table after)
  row nodes _ before after := before.attributes <+: after.attributes ∧
    (NotesFollowed options table before →
      (∀ node ∈ nodes, Followed options table after.attributes node) ∧ NotesFollowed options table after)

theorem following_lawful (options : Options) (root : Node) : (following options (notesOf root)).Lawful options root where
  quiet same kept := ⟨kept, fun notes => ⟨nofun, notes.mono same kept⟩⟩
  one := by
    rintro node text before after ⟨kept, account⟩
    refine ⟨kept, fun notes => ?_⟩
    obtain ⟨followed, written⟩ := account notes
    exact ⟨List.forall_mem_singleton.mpr followed, written⟩
  append := by
    rintro nodes others texts more before between after ⟨kept, account⟩ ⟨still, rest⟩
    refine ⟨kept.trans still, fun notes => ?_⟩
    obtain ⟨followed, written⟩ := account notes
    obtain ⟨others, more⟩ := rest written
    exact ⟨List.forall_mem_append.mpr ⟨fun node member => (followed node member).mono still, others⟩, more⟩
  inside account := account
  parts := by
    rintro depth node texts text before after _ ⟨kept, account⟩ makes ran
    refine ⟨kept, fun notes => ?_⟩
    obtain ⟨followed, written⟩ := account notes
    refine ⟨.of_leads (fun _ => ⟨depth, before, text, after, ran, List.prefix_refl _⟩) fun next leads => ?_, written⟩
    rcases leads with part | ⟨identifier, content, reference, -⟩
    · exact followed next part
    · exact absurd reference (makes_apart makes identifier)
  repeated written := ⟨List.prefix_refl _, fun notes => ⟨followed_reference (notes _ written), notes⟩⟩
  undefined := by
    intro identifier before after missing same kept
    refine ⟨kept, fun notes => ⟨followed_reference fun content found => ?_, notes.mono same kept⟩⟩
    rw [missing] at found
    cases found
  noted := by
    rintro depth identifier content texts before after _ found ⟨kept, account⟩ _
    refine ⟨kept, fun notes => ?_⟩
    obtain ⟨followed, written⟩ := account notes
    have noted : ∀ others, (notesOf root).lookup identifier = some others →
        ∀ block ∈ others, Followed options (notesOf root) after.attributes block := by
      intro others known
      obtain rfl := Option.some.inj (found.symm.trans known)
      exact followed
    exact ⟨followed_reference noted, written.emit noted⟩

/-- A rendering that succeeds has rendered all that is reached. -/
theorem reached_rendered {options : Options} {attributes : Attributes} {nodes : List Node} {next : Node} {text : Text}
    (rendered : (render options attributes (.document nodes)).outcome = .ok text)
    (reaches : Reaches (notesOf (.document nodes)) (.document nodes) next) (apart : ¬IsReference next) :
    RenderedBy options (render options attributes (.document nodes)).context.attributes next := by
  obtain ⟨texts, body, ⟨-, account⟩, -⟩ := (following_lawful options (.document nodes)).render rendered
  obtain ⟨followed, -⟩ := account nofun
  have whole : RenderedBy options (render options attributes (.document nodes)).context.attributes (.document nodes) := by
    rw [render_eq] at rendered
    obtain ⟨own, ended, -⟩ := map_ok rendered
    exact ⟨_, { attributes }, own, _, Prod.ext ended rfl, List.prefix_refl _⟩
  refine Followed.of_leads (fun _ => whole) (fun part leads => ?_) next reaches apart
  rcases leads with member | ⟨identifier, content, same, -⟩
  · exact followed part member
  · cases same

end Adocify.AsciiDoc
