import Adocify.Proofs.NoteCycles
import Adocify.Proofs.RenderAccounts

/-! Where the text of a footnote is written. The references of a document are mentions in the order in
which they are rendered; the first mention of a footnote carries its text, and the others are bare. The
output shows all mentions in this order, unless a link that is written as its bare address drops some. -/

namespace Adocify.AsciiDoc

open FootnoteTable (Acyclic)

inductive Mention where
  | bare (identifier : Text)
  | carrying (identifier text : Text)
  deriving DecidableEq

def Mention.identifier : Mention → Text
  | .bare identifier | .carrying identifier _ => identifier

def mentionsOf (identifier : Text) (mentions : List Mention) : List Mention :=
  mentions.filter (·.identifier == identifier)

section

variable {mention : Mention} {identifier : Text} {mentions : List Mention}

theorem mentionsOf_own (own : mention.identifier = identifier) :
    mentionsOf identifier (mention :: mentions) = mention :: mentionsOf identifier mentions :=
  List.filter_cons_of_pos (beq_iff_eq.mpr own)

theorem mentionsOf_other (other : mention.identifier ≠ identifier) :
    mentionsOf identifier (mention :: mentions) = mentionsOf identifier mentions :=
  List.filter_cons_of_neg (by simpa using other)

end

theorem mentionsOf_append (identifier : Text) (mentions others : List Mention) :
    mentionsOf identifier (mentions ++ others) = mentionsOf identifier mentions ++ mentionsOf identifier others :=
  List.filter_append ..

/-- How mentions of one footnote follow each other; the flags say whether its text was written before
and is written after them. -/
inductive Turn (identifier : Text) : Bool → List Mention → Bool → Prop where
  | stay {written} : Turn identifier written [] written
  | again {rest after} (others : Turn identifier true rest after) :
      Turn identifier true (.bare identifier :: rest) after
  | first {rest after} (text : Text) (others : Turn identifier true rest after) :
      Turn identifier false (.carrying identifier text :: rest) after

namespace Turn

variable {identifier : Text} {before between after : Bool} {mentions others : List Mention}

theorem append (turn : Turn identifier before mentions between) (rest : Turn identifier between others after) :
    Turn identifier before (mentions ++ others) after := by
  induction turn with
  | stay => exact rest
  | again _ ih => exact .again (ih rest)
  | first text _ ih => exact .first text (ih rest)

theorem later_bare (turn : Turn identifier true mentions after) : ∀ mention ∈ mentions, mention = .bare identifier := by
  generalize same : true = before at turn
  induction turn with
  | stay => exact nofun
  | again _ ih => exact List.forall_mem_cons.mpr ⟨rfl, ih rfl⟩
  | first => cases same

theorem first_carries (turn : Turn identifier false mentions after) :
    mentions = [] ∨ ∃ text rest, mentions = .carrying identifier text :: rest ∧
      ∀ mention ∈ rest, mention = .bare identifier := by
  cases turn with
  | stay => exact .inl rfl
  | first text others => exact .inr ⟨text, _, rfl, others.later_bare⟩

end Turn

/-- The text shows the mentions in their order, settled, with anything else between them. The mentions in
the text of a footnote follow the one that carries it. -/
inductive Displays : List Mention → Text → Prop where
  | literal (text : Text) : Displays [] text
  | append {mentions others text rest} (left : Displays mentions text) (right : Displays others rest) :
      Displays (mentions ++ others) (text ++ rest)
  | settle {mentions text} (settling : Settling) (displays : Displays mentions text) :
      Displays mentions (settling.apply text)
  | bare (identifier : Text) : Displays [.bare identifier] (bareReference identifier)
  | carrying {inner text} (identifier : Text) (displays : Displays inner text) :
      Displays (.carrying identifier text :: inner) (noteReference identifier text)

/-- The mentions that the texts show one after the other. -/
inductive Gathers : List Text → List Mention → Prop where
  | nil : Gathers [] []
  | cons {text texts mentions others} (displays : Displays mentions text) (rest : Gathers texts others) :
      Gathers (text :: texts) (mentions ++ others)

namespace Gathers

variable {texts more : List Text} {mentions others : List Mention} {text : Text}

theorem append (gathers : Gathers texts mentions) (rest : Gathers more others) :
    Gathers (texts ++ more) (mentions ++ others) := by
  induction gathers with
  | nil => exact rest
  | cons displays _ ih =>
    rw [List.append_assoc]
    exact .cons displays ih

theorem split (gathers : Gathers (texts ++ more) mentions) :
    ∃ first second, mentions = first ++ second ∧ Gathers texts first ∧ Gathers more second := by
  induction texts generalizing mentions with
  | nil => exact ⟨[], mentions, rfl, .nil, gathers⟩
  | cons text texts ih =>
    cases gathers with
    | @cons _ _ here others displays rest =>
      obtain ⟨first, second, rfl, left, right⟩ := ih rest
      exact ⟨here ++ first, second, (List.append_assoc _ _ _).symm, .cons displays left, right⟩

theorem assembled (gathers : Gathers texts mentions) (assembled : Assembled texts text) : Displays mentions text := by
  induction assembled generalizing mentions with
  | literal =>
    cases gathers
    exact .literal _
  | whole =>
    cases gathers with
    | cons displays rest =>
      cases rest
      rw [List.append_nil]
      exact displays
  | append _ _ ihLeft ihRight =>
    obtain ⟨first, second, rfl, left, right⟩ := gathers.split
    exact .append (ihLeft left) (ihRight right)
  | settle settling _ ih => exact .settle settling (ih gathers)

end Gathers

theorem noteText_assembled (texts : List Text) : Assembled texts (noteText texts) := by
  have lines : Laid texts ((presentTexts texts).map (Text.substitute '\n' [' '])) := by
    refine (Laid.each texts).present.reword ?_
    rw [presentTexts, List.forall₂_map_right_iff, List.forall₂_same]
    exact fun text _ held assembled => assembled.settle .flat
  exact lines.join [' ']

/-- The text is what the blocks of the footnote are rendered to, from some context. -/
def WritesNote (options : Options) (identifier : Text) (content : List Node) (text : Text) : Prop :=
  ∃ depth before blocks after, (renderFootnote options depth identifier content).runIn before = (.ok blocks, after) ∧
    text = flattened blocks

mutual

/-- The mentions of a node: those of its parts in their order. A reference is a mention itself, and if it
carries the text of its footnote, the mentions in that text follow. -/
inductive Reading (options : Options) (table : FootnoteTable) : Node → List Mention → Prop where
  | parts {node mentions} (apart : ∀ identifier, node ≠ .footnoteReference identifier)
      (readings : Readings options table (partsOf node) mentions) : Reading options table node mentions
  | bare (identifier : Text) : Reading options table (.footnoteReference identifier) [.bare identifier]
  | carrying {identifier content text inner} (found : table.lookup identifier = some content)
      (writes : WritesNote options identifier content text) (readings : Readings options table content inner) :
      Reading options table (.footnoteReference identifier) (.carrying identifier text :: inner)

inductive Readings (options : Options) (table : FootnoteTable) : List Node → List Mention → Prop where
  | nil : Readings options table [] []
  | cons {node nodes mentions others} (reading : Reading options table node mentions)
      (rest : Readings options table nodes others) : Readings options table (node :: nodes) (mentions ++ others)

end

section

variable {options : Options} {table : FootnoteTable} {node : Node} {nodes more : List Node}
  {mentions others : List Mention}

theorem Readings.append (readings : Readings options table nodes mentions) (rest : Readings options table more others) :
    Readings options table (nodes ++ more) (mentions ++ others) := by
  induction nodes generalizing mentions with
  | nil =>
    cases readings
    exact rest
  | cons node nodes ih =>
    cases readings with
    | cons reading later =>
      rw [List.append_assoc]
      exact .cons reading (ih later)

mutual

theorem Reading.reached : ∀ {node mentions}, Reading options table node mentions →
    ∀ mention ∈ mentions, Reaches table node (.footnoteReference mention.identifier)
  | _, _, .parts _ readings, mention, member => by
    obtain ⟨part, inside, reaches⟩ := Readings.reached readings mention member
    exact .head (.inl inside) reaches
  | _, _, .bare _, mention, member => by
    obtain rfl := List.mem_singleton.mp member
    exact .refl
  | _, _, .carrying found _ readings, mention, member => by
    rcases List.mem_cons.mp member with rfl | later
    · exact .refl
    · obtain ⟨block, inside, reaches⟩ := Readings.reached readings mention later
      exact .head (.inr ⟨_, _, rfl, found, inside⟩) reaches
termination_by structural _ _ reading => reading

theorem Readings.reached : ∀ {nodes mentions}, Readings options table nodes mentions →
    ∀ mention ∈ mentions, ∃ node ∈ nodes, Reaches table node (.footnoteReference mention.identifier)
  | _, _, .nil, _, member => nomatch member
  | _, _, .cons reading rest, mention, member => by
    rcases List.mem_append.mp member with here | later
    · exact ⟨_, List.mem_cons_self, Reading.reached reading mention here⟩
    · obtain ⟨node, inside, reaches⟩ := Readings.reached rest mention later
      exact ⟨node, .tail _ inside, reaches⟩
termination_by structural _ _ readings => readings

end

end

/-- How the mentions of each footnote that has a definition follow each other between two contexts. -/
def Turns (table : FootnoteTable) (before : Context) (mentions : List Mention) (after : Context) : Prop :=
  ∀ identifier, (table.lookup identifier).isSome →
    Turn identifier (decide (identifier ∈ before.emitted)) (mentionsOf identifier mentions)
      (decide (identifier ∈ after.emitted))

namespace Turns

variable {table : FootnoteTable} {before between after : Context} {mentions others : List Mention} {identifier : Text}

theorem stay (same : after.emitted = before.emitted) : Turns table before [] after := by
  intro identifier _
  rw [same]
  exact .stay

theorem append (turns : Turns table before mentions between) (rest : Turns table between others after) :
    Turns table before (mentions ++ others) after := by
  intro identifier defined
  rw [mentionsOf_append]
  exact (turns identifier defined).append (rest identifier defined)

theorem repeated (written : identifier ∈ before.emitted) : Turns table before [.bare identifier] before := by
  intro other _
  by_cases same : (Mention.bare identifier).identifier = other
  · rw [mentionsOf_own same]
    obtain rfl : identifier = other := same
    rw [decide_eq_true written]
    exact .again .stay
  · rw [mentionsOf_other same]
    exact .stay

theorem undefined (missing : table.lookup identifier = none) (same : after.emitted = before.emitted) :
    Turns table before [.bare identifier] after := by
  intro other defined
  have apart : (Mention.bare identifier).identifier ≠ other := by
    rintro rfl
    rw [Mention.identifier, missing] at defined
    cases defined
  rw [mentionsOf_other apart, same]
  exact .stay

theorem carrying (fresh : identifier ∉ before.emitted) (turns : Turns table before mentions after)
    (apart : ∀ mention ∈ mentions, mention.identifier ≠ identifier) (text : Text) :
    Turns table before (.carrying identifier text :: mentions) ((Change.emit identifier).apply after) := by
  intro other defined
  have inner := turns other defined
  by_cases same : (Mention.carrying identifier text).identifier = other
  · rw [mentionsOf_own same]
    obtain rfl : identifier = other := same
    have none : mentionsOf identifier mentions = [] :=
      List.filter_eq_nil_iff.mpr fun mention member => by simpa using apart mention member
    have latest : identifier ∈ ((Change.emit identifier).apply after).emitted :=
      List.mem_append_right _ List.mem_cons_self
    rw [decide_eq_false fresh, decide_eq_true latest, none]
    exact .first text .stay
  · have others : other ≠ identifier := fun equal => same equal.symm
    have kept : other ∈ ((Change.emit identifier).apply after).emitted ↔ other ∈ after.emitted := by
      simp [Change.apply, others]
    rw [mentionsOf_other same, decide_eq_decide.mpr kept]
    exact inner

end Turns

/-- No reference is reached from a link that is written as its bare address. -/
def Lossless (table : FootnoteTable) (root : Node) : Prop :=
  ∀ node, Inside root node → WrittenBare node → ∀ identifier, ¬Reaches table node (.footnoteReference identifier)

theorem Lossless.no_mentions {options : Options} {table : FootnoteTable} {root node : Node} {mentions : List Mention}
    (lossless : Lossless table root) (inside : Inside root node) (bare : WrittenBare node)
    (readings : Readings options table (partsOf node) mentions) : mentions = [] := by
  refine List.eq_nil_iff_forall_not_mem.mpr fun mention member => ?_
  obtain ⟨part, within, reaches⟩ := readings.reached mention member
  exact lossless node inside bare mention.identifier (.head (.inl within) reaches)

theorem makes_assembled {node : Node} {texts : List Text} {text : Text} (makes : Makes node texts text) :
    WrittenBare node ∨ Assembled texts text := by
  cases node with
  | foreign | stray | footnoteReference => exact makes.elim
  | _ => exact makes

/-- The mentions of what is rendered, as its text displays them. -/
def telling (options : Options) (table : FootnoteTable) : Account where
  node node text before after :=
    ∃ mentions, Reading options table node mentions ∧ Displays mentions text ∧ Turns table before mentions after
  row nodes texts before after :=
    ∃ mentions, Readings options table nodes mentions ∧ Gathers texts mentions ∧ Turns table before mentions after

theorem telling_lawful (options : Options) {root : Node} (acyclic : Acyclic (notesOf root))
    (lossless : Lossless (notesOf root) root) : (telling options (notesOf root)).Lawful options root where
  quiet same _ := ⟨[], .nil, .nil, .stay same⟩
  one := by
    rintro node text before after ⟨mentions, reading, displays, turns⟩
    have readings := Readings.cons reading .nil
    have gathers := Gathers.cons displays .nil
    rw [List.append_nil] at readings gathers
    exact ⟨mentions, readings, gathers, turns⟩
  append := by
    rintro nodes others texts more before between after ⟨mentions, readings, gathers, turns⟩ ⟨rest, later, shown, next⟩
    exact ⟨mentions ++ rest, readings.append later, gathers.append shown, turns.append next⟩
  inside account := account
  parts := by
    rintro depth node texts text before after inside ⟨mentions, readings, gathers, turns⟩ makes -
    refine ⟨mentions, .parts (makes_apart makes) readings, ?_, turns⟩
    rcases makes_assembled makes with bare | assembled
    · obtain rfl := lossless.no_mentions inside bare readings
      exact .literal text
    · exact gathers.assembled assembled
  repeated written := ⟨_, .bare _, .bare _, .repeated written⟩
  undefined missing same _ := ⟨_, .bare _, .bare _, .undefined missing same⟩
  noted := by
    rintro depth identifier content texts before after fresh found ⟨inner, readings, gathers, turns⟩ written
    have apart : ∀ mention ∈ inner, mention.identifier ≠ identifier := by
      rintro mention member rfl
      obtain ⟨block, within, reaches⟩ := readings.reached mention member
      exact acyclic_unreached acyclic found within reaches
    have writes : WritesNote options identifier content (noteText texts) := ⟨depth, before, _, _, written, rfl⟩
    exact ⟨_, .carrying found writes readings, .carrying identifier (gathers.assembled (noteText_assembled texts)),
      .carrying fresh turns apart _⟩

/-- A reference is reached only from nodes that have references standing in them. -/
theorem Reaches.reference {table : FootnoteTable} {node : Node} {identifier : Text}
    (reaches : Reaches table node (.footnoteReference identifier)) :
    ∃ other, node.Contains (.footnoteReference other) := by
  generalize same : Node.footnoteReference identifier = last at reaches
  induction reaches using Relation.ReflTransGen.head_induction_on with
  | refl => exact ⟨identifier, same ▸ .refl⟩
  | head leads rest ih =>
    obtain ⟨other, inside⟩ := ih
    rcases leads with part | ⟨reference, content, rfl, -⟩
    · rcases partsOf_below part with ⟨text, rfl⟩ | ⟨child, under, reached⟩
      · rcases Relation.ReflTransGen.cases_head inside with same | ⟨child, under, -⟩
        · cases same
        · cases under
      · exact ⟨other, .head under (reached.trans inside)⟩
    · exact ⟨reference, .refl⟩

/-- If footnotes do not refer to themselves and no reference stands in a link that is written as its bare
address, the output shows all references in the order in which they are rendered. The first to a footnote
that has a definition carries the text of its blocks, and the others are bare. -/
theorem footnote_text_once (options : Options) (attributes : Attributes) {nodes : List Node}
    (acyclic : (notesOf (.document nodes)).Acyclic)
    (apart : ∀ node, (Node.document nodes).Contains node → WrittenBare node →
      ∀ identifier, ¬node.Contains (.footnoteReference identifier))
    {text : Text} (rendered : (render options attributes (.document nodes)).outcome = .ok text) :
    ∃ mentions, Reading options (notesOf (.document nodes)) (.document nodes) mentions ∧ Displays mentions text ∧
      ∀ identifier, ((notesOf (.document nodes)).lookup identifier).isSome →
        mentionsOf identifier mentions = [] ∨ ∃ note rest,
          mentionsOf identifier mentions = .carrying identifier note :: rest ∧
            ∀ mention ∈ rest, mention = .bare identifier := by
  have lossless : Lossless (notesOf (.document nodes)) (.document nodes) := by
    rintro node (⟨content, rfl⟩ | inside) bare identifier reaches
    · exact bare.elim
    · obtain ⟨other, held⟩ := reaches.reference
      exact apart node inside bare other held
  obtain ⟨texts, body, ⟨mentions, readings, gathers, turns⟩, assembled, rfl⟩ :=
    (telling_lawful options acyclic lossless).render rendered
  refine ⟨mentions, .parts (fun _ => Node.noConfusion) readings, .settle .ended (gathers.assembled assembled), ?_⟩
  intro identifier defined
  have turn := turns identifier defined
  rw [decide_eq_false (show identifier ∉ (opened nodes attributes).emitted from List.not_mem_nil)] at turn
  exact turn.first_carries

/-- The first footnote refers to the second, and both are mentioned again. -/
def crossNotes : List Node :=
  [.paragraph [.footnoteReference ['a']], .paragraph [.footnoteReference ['b'], .text [' '], .footnoteReference ['a']],
    .footnoteDefinition ['a'] [.paragraph [.text "see ".toList, .footnoteReference ['b']]],
    .footnoteDefinition ['b'] [.paragraph [.text "end".toList]]]

theorem crossNotes_acyclic : (notesOf (.document crossNotes)).Acyclic := by
  have table : notesOf (.document crossNotes) =
      [(['a'], [.paragraph [.text "see ".toList, .footnoteReference ['b']]]),
        (['b'], [.paragraph [.text "end".toList]])] := rfl
  refine FootnoteTable.acyclic_of_rank (fun identifier => if identifier = ['a'] then 1 else 0) ?_
  simp [table, Node.everywhere_iff_forall, Node.children]

theorem footnote_text_once_cross :
    (notesOf (.document crossNotes)).Acyclic ∧
    (∀ node, (Node.document crossNotes).Contains node → WrittenBare node →
      ∀ identifier, ¬node.Contains (.footnoteReference identifier)) ∧
    (render {} [] (.document crossNotes)).outcome = .ok "footnote:a[see footnote:b[end\\]]\n\nfootnote:b[] footnote:a[]\n".toList ∧
    ∃ mentions, Reading {} (notesOf (.document crossNotes)) (.document crossNotes) mentions ∧
      Displays mentions "footnote:a[see footnote:b[end\\]]\n\nfootnote:b[] footnote:a[]\n".toList ∧
      ∀ identifier, ((notesOf (.document crossNotes)).lookup identifier).isSome →
        mentionsOf identifier mentions = [] ∨ ∃ note rest,
          mentionsOf identifier mentions = .carrying identifier note :: rest ∧
            ∀ mention ∈ rest, mention = .bare identifier := by
  have apart : (Node.document crossNotes).Everywhere fun node =>
      WrittenBare node → ∀ identifier, ¬node.Contains (.footnoteReference identifier) := by
    simp [crossNotes, Node.everywhere_iff_forall, Node.children, WrittenBare]
  have rendered : (render {} [] (.document crossNotes)).outcome =
      .ok "footnote:a[see footnote:b[end\\]]\n\nfootnote:b[] footnote:a[]\n".toList := rfl
  exact ⟨crossNotes_acyclic, apart, rendered, footnote_text_once {} [] crossNotes_acyclic apart rendered⟩

/-- The first reference stands in a link that is written as its bare address. -/
def lostNote : List Node :=
  [.paragraph [.link "https://a.org".toList [.text "https://a.org".toList, .footnoteReference ['n']] none],
    .paragraph [.footnoteReference ['n']], .footnoteDefinition ['n'] [.paragraph [.text "note".toList]]]

/-- The text of its footnote is dropped with it, and the reference that is shown stays bare. -/
theorem lost_note_stays_bare :
    (notesOf (.document lostNote)).Acyclic ∧ ((notesOf (.document lostNote)).lookup ['n']).isSome ∧
    ∃ text, (render {} [] (.document lostNote)).outcome = .ok text ∧
      Text.includes "footnote:n[]".toList text ∧ ¬Text.includes "footnote:n[note]".toList text := by
  have table : notesOf (.document lostNote) = [(['n'], [.paragraph [.text "note".toList]])] := rfl
  refine ⟨FootnoteTable.acyclic_of_rank (fun _ => 0) ?_, rfl, "https://a.org\n\nfootnote:n[]\n".toList, rfl,
    by decide, by decide⟩
  simp [table, Node.everywhere_iff_forall, Node.children]

end Adocify.AsciiDoc
