import Adocify.Markdown.Tree

/-! What the reading of tokens hangs on. The footnotes met before are not part of it: a reader comes to the same value
whatever they are, or it refuses something that stands among its tokens and is none. -/

namespace Adocify.Markdown

namespace Token

/-- It is no token, or something stands below it that is none. -/
inductive HoldsStray : Token → Prop where
  | here : HoldsStray .stray
  | within {kind literal tight details children child} (member : child ∈ children) (holds : HoldsStray child) :
      HoldsStray (.element kind literal tight details children)

abbrev AnyStray (tokens : List Token) : Prop := ∃ token ∈ tokens, token.HoldsStray

def isInline (token : Token) : Bool := (token.kind?.map (·.isInline)).getD false

theorem AnyStray.of_kindless {tokens : List Token} (kindless : (tokens.any fun token => token.kind?.isNone) = true) :
    AnyStray tokens := by
  obtain ⟨token, member, none⟩ := List.any_eq_true.mp kindless
  cases token with
  | stray => exact ⟨.stray, member, .here⟩
  | element => cases none

end Token

open Token (AnyStray)

/-- The reader comes to the value, whatever footnotes were met before. -/
def Reads (reader : TreeReader α) (value : α) : Prop := ∀ table, ∃ after, reader.run table = .ok (value, after)

/-- Whatever they were, it meets something that is no token. -/
def Refuses (reader : TreeReader α) : Prop := ∀ table, reader.run table = .error .misplaced

/-- The reader comes to one value, which is of that kind, unless it refuses a stray. -/
def Settles (strays : Prop) (kind : α → Prop) (reader : TreeReader α) : Prop :=
  (∃ value, kind value ∧ Reads reader value) ∨ strays ∧ Refuses reader

/-- As `Settles`, where nothing is told of the value. -/
abbrev Settled (strays : Prop) (reader : TreeReader α) : Prop := Settles strays (fun _ => True) reader

section

variable {strays : Prop} {kind : α → Prop} {later : β → Prop} {reader : TreeReader α} {next : α → TreeReader β}
  {value : α} {result : β}

theorem Reads.bind (first : Reads reader value) (rest : Reads (next value) result) : Reads (reader >>= next) result := by
  intro table
  obtain ⟨between, read⟩ := first table
  obtain ⟨after, done⟩ := rest between
  refine ⟨after, ?_⟩
  rw [StateT.run_bind, read]
  exact done

theorem Reads.refuses (first : Reads reader value) (rest : Refuses (next value)) : Refuses (reader >>= next) := by
  intro table
  obtain ⟨between, read⟩ := first table
  rw [StateT.run_bind, read]
  exact rest between

theorem Refuses.bind (refuses : Refuses reader) : Refuses (reader >>= next) := by
  intro table
  rw [StateT.run_bind, refuses table]
  rfl

namespace Settles

protected theorem pure (fits : kind value) : Settles strays kind (pure value) :=
  .inl ⟨value, fits, fun table => ⟨table, rfl⟩⟩

theorem refuse (stray : strays) : Settles strays kind (throw .misplaced) := .inr ⟨stray, fun _ => rfl⟩

theorem bind (first : Settles strays kind reader)
    (rest : ∀ value, kind value → Reads reader value → Settles strays later (next value)) :
    Settles strays later (reader >>= next) := by
  rcases first with ⟨value, fits, read⟩ | ⟨stray, refuses⟩
  · rcases rest value fits read with ⟨result, fit, done⟩ | ⟨stray, refuses⟩
    · exact .inl ⟨result, fit, read.bind done⟩
    · exact .inr ⟨stray, read.refuses refuses⟩
  · exact .inr ⟨stray, refuses.bind⟩

theorem weaken {wider : α → Prop} (settles : Settles strays kind reader)
    (wide : ∀ value, kind value → Reads reader value → wider value) : Settles strays wider reader :=
  settles.imp_left fun ⟨value, fits, read⟩ => ⟨value, wide value fits read, read⟩

/-- What is made of the value that a reader comes to. -/
theorem made (settles : Settles strays kind reader) (make : α → β) :
    Settled strays (reader >>= fun value => Pure.pure (make value)) := by
  apply settles.bind
  intro value _ _
  exact .pure trivial

theorem of_strays {others : Prop} (settles : Settles strays kind reader) (wide : strays → others) :
    Settles others kind reader :=
  settles.imp_right (And.imp_left wide)

variable {token : Token} {children rest : List Token}

theorem ahead (settles : Settles token.HoldsStray kind reader) : Settles (AnyStray (token :: rest)) kind reader :=
  settles.of_strays fun holds => ⟨token, List.mem_cons_self, holds⟩

theorem behind (settles : Settles (AnyStray rest) kind reader) : Settles (AnyStray (token :: rest)) kind reader :=
  settles.of_strays fun ⟨other, member, holds⟩ => ⟨other, List.mem_cons_of_mem token member, holds⟩

theorem below {name : TokenKind} {literal : Option Text} {tight : Option Value} {details : TokenDetails}
    (settles : Settles (AnyStray children) kind reader) :
    Settles (Token.HoldsStray (.element name literal tight details children)) kind reader :=
  settles.of_strays fun ⟨_, member, holds⟩ => .within member holds

theorem refuse_ahead : Settles (AnyStray (.stray :: rest)) kind (throw .misplaced) :=
  (refuse Token.HoldsStray.here).ahead

/-- What a token becomes, with what those behind it become. -/
theorem followed {first : TreeReader (Option Node)} {others : TreeReader (List Node)} (here : Settled strays first)
    (there : Settled strays others) :
    Settled strays (do
      let found ← first
      let nodes ← others
      return found.toList ++ nodes) := by
  apply here.bind
  intro found _ _
  exact there.made _

end Settles

end

theorem noteFootnote_settled (strays : Prop) (identifier : Text) (content : List Node) :
    Settled strays (noteFootnote identifier content) :=
  .inl ⟨(), trivial, fun _ => ⟨_, rfl⟩⟩

mutual

theorem inlineNode_settled (token : Token) : Settled token.HoldsStray (inlineNode token) := by
  match token with
  | .stray =>
    simp only [inlineNode]
    exact .refuse .here
  | .element kind literal tight details children =>
    cases kind with
    | strong | emphasis | strikethrough | link =>
      simp only [inlineNode]
      exact (inlineNodes_settled children).below.made _
    | _ =>
      simp only [inlineNode]
      exact .pure trivial
termination_by sizeOf token

theorem inlineNodes_settled (tokens : List Token) : Settled (AnyStray tokens) (inlineNodes tokens) := by
  match tokens with
  | [] =>
    simp only [inlineNodes]
    exact .pure trivial
  | token :: rest =>
    simp only [inlineNodes]
    exact .followed (inlineNode_settled token).ahead (inlineNodes_settled rest).behind
termination_by sizeOf tokens

end

theorem tableCells_settled (tokens : List Token) : Settled (AnyStray tokens) (tableCells tokens) := by
  induction tokens with
  | nil =>
    simp only [tableCells]
    exact .pure trivial
  | cons token rest ih =>
    match token with
    | .stray =>
      simp only [tableCells]
      exact .refuse_ahead
    | .element kind literal tight details children =>
      cases kind with
      | tableCell =>
        simp only [tableCells]
        apply (inlineNodes_settled children).below.ahead.bind
        intro content _ _
        exact ih.behind.made _
      | _ =>
        simp only [tableCells]
        exact ih.behind

theorem tableRows_settled (tokens : List Token) : Settled (AnyStray tokens) (tableRows tokens) := by
  induction tokens with
  | nil =>
    simp only [tableRows]
    exact .pure trivial
  | cons token rest ih =>
    match token with
    | .stray =>
      simp only [tableRows]
      exact .refuse_ahead
    | .element kind literal tight details children =>
      simp only [tableRows]
      apply (tableCells_settled children).below.ahead.bind
      intro cells _ _
      exact ih.behind.made _

theorem tableParts_settled (tokens : List Token) (parts : TableParts) :
    Settled (AnyStray tokens) (tableParts parts tokens) := by
  induction tokens generalizing parts with
  | nil =>
    simp only [tableParts]
    exact .pure trivial
  | cons token rest ih =>
    match token with
    | .stray =>
      simp only [tableParts]
      exact .refuse_ahead
    | .element kind literal tight details children =>
      cases kind with
      | tableHead =>
        simp only [tableParts]
        apply (tableCells_settled children).below.ahead.bind
        intro cells _ _
        exact (ih _).behind
      | tableBody =>
        simp only [tableParts]
        apply (tableRows_settled children).below.ahead.bind
        intro rows _ _
        exact (ih _).behind
      | _ =>
        simp only [tableParts]
        exact (ih _).behind

/-! ### Definition lists -/

/-- What the tokens below an item come to. Inline content alone makes one paragraph. -/
inductive Describes (children : List Token) : List Node → Prop where
  | paragraph {nodes} (filled : children ≠ []) (inline : ∀ child ∈ children, child.isInline = true)
      (reads : Reads (inlineNodes children) nodes) : Describes children [.paragraph nodes]
  | blocks {nodes} (mixed : children = [] ∨ ∃ child ∈ children, child.isInline = false)
      (reads : Reads (blockNodes children) nodes) : Describes children nodes

namespace Token

def isHead : Token → Bool
  | .element .definitionHead .. => true
  | _ => false

def isItem : Token → Bool
  | .element .definitionItem .. => true
  | _ => false

end Token

/-- The parts are what the heads and items among the tokens come to, in order. Other tokens are passed over. -/
inductive Parted : List Token → List DefinitionPart → Prop where
  | nil : Parted [] []
  | term {literal tight details children content rest parts} (reads : Reads (inlineNodes children) content)
      (behind : Parted rest parts) :
      Parted (.element .definitionHead literal tight details children :: rest) (.term content :: parts)
  | description {literal tight details children content rest parts} (describes : Describes children content)
      (behind : Parted rest parts) :
      Parted (.element .definitionItem literal tight details children :: rest) (.description content :: parts)
  | other {token rest parts} (noHead : token.isHead = false) (noItem : token.isItem = false)
      (behind : Parted rest parts) : Parted (token :: rest) parts

mutual

theorem blockNodes_settled (tokens : List Token) : Settled (AnyStray tokens) (blockNodes tokens) := by
  match tokens with
  | [] =>
    simp only [blockNodes]
    exact .pure trivial
  | token :: rest =>
    simp only [blockNodes]
    exact .followed (blockNode_settled token).ahead (blockNodes_settled rest).behind
termination_by sizeOf tokens

theorem blockNode_settled (token : Token) : Settled token.HoldsStray (blockNode token) := by
  match token with
  | .stray =>
    simp only [blockNode]
    exact .refuse .here
  | .element kind literal tight details children =>
    cases kind with
    | heading | paragraph | blockText =>
      simp only [blockNode]
      exact (inlineNodes_settled children).below.made _
    | blockQuote =>
      simp only [blockNode]
      exact (blockNodes_settled children).below.made _
    | list =>
      simp only [blockNode]
      exact (listItems_settled children).below.made _
    | table =>
      simp only [blockNode]
      exact (tableParts_settled children {}).below.made _
    | footnotes =>
      simp only [blockNode]
      exact (footnoteItems_settled children).below.made _
    | definitionList =>
      simp only [blockNode]
      exact (definitionParts_settles children).below.made _
    | _ =>
      simp only [blockNode]
      exact .pure trivial
termination_by sizeOf token

theorem listItems_settled (tokens : List Token) : Settled (AnyStray tokens) (listItems tokens) := by
  match tokens with
  | [] =>
    simp only [listItems]
    exact .pure trivial
  | .stray :: rest =>
    simp only [listItems]
    exact (listItems_settled rest).behind
  | .element kind literal tight details children :: rest =>
    simp only [listItems]
    apply (blockNodes_settled children).below.ahead.bind
    intro content _ _
    exact (listItems_settled rest).behind.made _
termination_by sizeOf tokens

theorem footnoteItems_settled (tokens : List Token) : Settled (AnyStray tokens) (footnoteItems tokens) := by
  match tokens with
  | [] =>
    simp only [footnoteItems]
    exact .pure trivial
  | .stray :: rest =>
    simp only [footnoteItems]
    exact .refuse_ahead
  | .element kind literal tight details children :: rest =>
    simp only [footnoteItems]
    apply (blockNodes_settled children).below.ahead.bind
    intro content _ _
    apply (noteFootnote_settled _ _ content).bind
    intro _ _ _
    exact (footnoteItems_settled rest).behind
termination_by sizeOf tokens

theorem definitionParts_settles (tokens : List Token) :
    Settles (AnyStray tokens) (Parted tokens) (definitionParts tokens) := by
  match tokens with
  | [] =>
    simp only [definitionParts]
    exact .pure .nil
  | .stray :: rest =>
    simp only [definitionParts]
    exact .refuse_ahead
  | .element kind literal tight details children :: rest =>
    cases kind with
    | definitionHead =>
      simp only [definitionParts]
      apply (inlineNodes_settled children).below.ahead.bind
      intro content _ reads
      apply (definitionParts_settles rest).behind.bind
      intro parts parted _
      exact .pure (.term reads parted)
    | definitionItem =>
      simp only [definitionParts]
      apply (description_settles children).below.ahead.bind
      intro content describes _
      apply (definitionParts_settles rest).behind.bind
      intro parts parted _
      exact .pure (.description describes parted)
    | _ =>
      simp only [definitionParts]
      apply (definitionParts_settles rest).behind.weaken
      intro parts parted _
      exact .other rfl rfl parted
termination_by sizeOf tokens

theorem description_settles (tokens : List Token) :
    Settles (AnyStray tokens) (Describes tokens) (description tokens) := by
  match tokens with
  | [] =>
    simp only [description]
    exact .pure (.blocks (.inl rfl) fun table => ⟨table, rfl⟩)
  | token :: rest =>
    simp only [description]
    split
    next kindless =>
      have refused : Settles (AnyStray (token :: rest)) (fun _ : PUnit => False) (throw .misplaced) :=
        .refuse (.of_kindless kindless)
      exact refused.bind nofun
    split
    next inline =>
      apply (inlineNodes_settled (token :: rest)).bind
      intro nodes _ reads
      exact .pure (.paragraph (List.cons_ne_nil token rest) (List.all_eq_true.mp inline) reads)
    next mixed =>
      obtain ⟨child, member, other⟩ := List.all_eq_false.mp (Bool.eq_false_iff.mpr mixed)
      -- What reads all blocks is put together again from its two parts, for the induction goes by the tokens.
      apply (Settles.followed (blockNode_settled token).ahead (blockNodes_settled rest).behind).weaken
      intro nodes _ reads
      apply Describes.blocks (.inr ⟨child, member, Bool.eq_false_iff.mpr other⟩)
      simpa only [blockNodes] using reads
termination_by sizeOf tokens

end

end Adocify.Markdown
