import Adocify.Proofs.JoinedRendering

/-! Texts in several parts. What is written of a tree does not depend on how the texts of its lines are divided into
neighbouring nodes. -/

namespace Adocify.Node

/-- The nodes that hold a line, as functions of it. -/
inductive LineHolder : (List Node → Node) → Prop where
  | heading (level : Whole) : LineHolder (.heading level)
  | paragraph : LineHolder .paragraph
  | tableCell (span : Int) (alignment : Option Text) : LineHolder (.tableCell · span alignment)
  | definitionTerm : LineHolder .definitionTerm
  | emphasis : LineHolder .emphasis
  | strong : LineHolder .strong
  | strikethrough : LineHolder .strikethrough
  | link (url : Text) (title : Option Text) : LineHolder (.link url · title)

/-- The nodes that hold a list of others which is no line, as functions of it. -/
inductive BlockHolder : (List Node → Node) → Prop where
  | document : BlockHolder .document
  | blockQuote : BlockHolder .blockQuote
  | list (ordered : Bool) (start : Whole) (tight : Bool) : BlockHolder (.list ordered · start tight)
  | listItem (taskStatus : Option Text) : BlockHolder (.listItem · taskStatus)
  | tableRow : BlockHolder .tableRow
  | footnoteDefinition (identifier : Text) : BlockHolder (.footnoteDefinition identifier)
  | definitionDescription : BlockHolder .definitionDescription
  | foreign (kind : Text) (location : Option Location) : BlockHolder (.foreign kind · location)

/-- One text of one line of the tree is replaced by several texts that say the same. -/
inductive Splits : Node → Node → Prop where
  | text {build : List Node → Node} (holder : LineHolder build) (above : List Node) (parts : List Text)
      (below : List Node) (several : 2 ≤ parts.length) :
      Splits (build (above ++ .text parts.flatten :: below)) (build (above ++ (parts.map .text ++ below)))
  | element {build : List Node → Node} (holder : LineHolder build ∨ BlockHolder build) (above : List Node)
      {node other : Node} (below : List Node) (split : Splits node other) :
      Splits (build (above ++ node :: below)) (build (above ++ other :: below))
  | header {node other : Node} (rows : List Node) (alignments : List (Option Text)) (caption : Option Text)
      (split : Splits node other) :
      Splits (.table (some node) rows alignments caption) (.table (some other) rows alignments caption)
  | row (header : Option Node) (above : List Node) {node other : Node} (below : List Node)
      (alignments : List (Option Text)) (caption : Option Text) (split : Splits node other) :
      Splits (.table header (above ++ node :: below) alignments caption)
        (.table header (above ++ other :: below) alignments caption)
  | term (above : List (Node × List Node)) {node other : Node} (descriptions : List Node)
      (below : List (Node × List Node)) (split : Splits node other) :
      Splits (.definitionList (above ++ (node, descriptions) :: below))
        (.definitionList (above ++ (other, descriptions) :: below))
  | description (above : List (Node × List Node)) (term : Node) (before : List Node) {node other : Node}
      (behind : List Node) (below : List (Node × List Node)) (split : Splits node other) :
      Splits (.definitionList (above ++ (term, before ++ node :: behind) :: below))
        (.definitionList (above ++ (term, before ++ other :: behind) :: below))

section

variable {build : List Node → Node} {first second : Node}

theorem LineHolder.joined (holder : LineHolder build) (content : List Node) :
    (build content).joined = build (joinedLine content) := by
  cases holder <;> simp only [Node.joined, joinedLine_eq]

theorem BlockHolder.joined (holder : BlockHolder build) (nodes : List Node) :
    (build nodes).joined = build (nodes.map Node.joined) := by
  cases holder <;> simp only [Node.joined, joinedAll_eq]

theorem LineHolder.children (holder : LineHolder build) (content : List Node) : (build content).children = content := by
  cases holder <;> rfl

theorem BlockHolder.children (holder : BlockHolder build) (nodes : List Node) : (build nodes).children = nodes := by
  cases holder <;> rfl

theorem joinTexts_append (above below : List Node) :
    joinTexts (above ++ below) = above.foldr attach (joinTexts below) :=
  List.foldr_append

theorem map_joined_element (above : List Node) {node other : Node} (below : List Node)
    (same : node.joined = other.joined) :
    (above ++ node :: below).map Node.joined = (above ++ other :: below).map Node.joined := by
  rw [List.map_append, List.map_append, List.map_cons, List.map_cons, same]

/-- A split leaves the same tree when all texts are joined. -/
theorem Splits.joined (split : Splits first second) : first.joined = second.joined := by
  induction split with
  | text holder above parts below several =>
    have some : parts ≠ [] := fun none => by simp [none] at several
    have own : (parts.map Node.text).map Node.joined = parts.map .text := by
      rw [List.map_map]
      rfl
    rw [holder.joined, holder.joined, joinedLine, joinedLine, List.map_append, List.map_append, List.map_append, own,
      joinTexts_append, joinTexts_append, joinTexts_parts some]
    rfl
  | element holder above below split ih =>
    rcases holder with holder | holder
    · rw [holder.joined, holder.joined, joinedLine, joinedLine, map_joined_element above below ih]
    · rw [holder.joined, holder.joined, map_joined_element above below ih]
  | header rows alignments caption split ih => simp only [Node.joined, joinedHeader, ih]
  | row header above below alignments caption split ih =>
    simp only [Node.joined, joinedAll_eq, map_joined_element above below ih]
  | term above descriptions below split ih =>
    simp only [Node.joined, joinedEntries_eq, List.map_append, List.map_cons, ih]
  | description above term before behind below split ih =>
    simp only [Node.joined, joinedEntries_eq, List.map_append, List.map_cons, ih]

theorem entryChildren_append (above below : List (Node × List Node)) :
    entryChildren (above ++ below) = entryChildren above ++ entryChildren below := by
  induction above with
  | nil => rfl
  | cons entry rest ih => simp only [List.cons_append, entryChildren, ih, List.append_assoc]

end

end Adocify.Node

namespace Adocify.AsciiDoc

open Node (Splits LineHolder BlockHolder)

section

variable {build : List Node → Node} {first second : Node}

theorem opensStrong_split (split : Splits first second) (below : List Node) :
    opensStrong (second :: below) = opensStrong (first :: below) := by
  cases split with
  | text holder => cases holder <;> rfl
  | element holder => rcases holder with holder | holder <;> cases holder <;> rfl
  | header | row | term | description => rfl

theorem opensStrong_append (above : List Node) {content other : List Node}
    (same : opensStrong other = opensStrong content) :
    opensStrong (above ++ other) = opensStrong (above ++ content) := by
  cases above with
  | nil => exact same
  | cons first rest => cases first <;> rfl

theorem joinable_line (holder : LineHolder build) {content other : List Node}
    (same : opensStrong other = opensStrong content) : joinable (build other) = joinable (build content) := by
  cases holder <;> simp only [joinable, same]

theorem joinable_block (holder : BlockHolder build) (nodes : List Node) : joinable (build nodes) = true := by
  cases holder <;> rfl

theorem joinable_text (content : Text) : Joinable (.text content) := Node.everywhere_iff.mpr ⟨rfl, nofun⟩

theorem joinable_element (above below : List Node) {node other : Node} (ih : Joinable node → Joinable other)
    (each : ∀ child ∈ above ++ node :: below, Joinable child) : ∀ child ∈ above ++ other :: below, Joinable child := by
  rw [List.forall_mem_append, List.forall_mem_cons] at each ⊢
  exact ⟨each.1, ih each.2.1, each.2.2⟩

/-- A split brings forth nothing that stands against it. -/
theorem joinable_split (split : Splits first second) (joinable : Joinable first) : Joinable second := by
  induction split with
  | text holder above parts below several =>
    rw [Joinable, Node.everywhere_iff, holder.children, List.forall_mem_append, List.forall_mem_cons] at joinable
    obtain ⟨here, before, -, behind⟩ := joinable
    rw [Joinable, Node.everywhere_iff, holder.children, List.forall_mem_append, List.forall_mem_append,
      List.forall_mem_map]
    obtain ⟨part, parts, rfl⟩ := List.exists_cons_of_length_pos (Nat.lt_of_lt_of_le Nat.zero_lt_two several)
    have opens : opensStrong (above ++ ((part :: parts).map .text ++ below)) =
        opensStrong (above ++ .text (part :: parts).flatten :: below) := opensStrong_append above rfl
    exact ⟨(joinable_line holder opens).trans here, before, fun part _ => joinable_text part, behind⟩
  | element holder above below split ih =>
    rw [Joinable, Node.everywhere_iff] at joinable ⊢
    obtain ⟨here, each⟩ := joinable
    rcases holder with holder | holder
    · rw [holder.children] at each ⊢
      exact ⟨(joinable_line holder (opensStrong_append above (opensStrong_split split below))).trans here,
        joinable_element above below ih each⟩
    · rw [holder.children] at each ⊢
      exact ⟨joinable_block holder _, joinable_element above below ih each⟩
  | header rows alignments caption split ih =>
    rw [Joinable, Node.everywhere_iff] at joinable ⊢
    exact ⟨rfl, joinable_element [] rows ih joinable.2⟩
  | row header above below alignments caption split ih =>
    rw [Joinable, Node.everywhere_iff, Node.children, List.forall_mem_append] at joinable ⊢
    exact ⟨rfl, joinable.2.1, joinable_element above below ih joinable.2.2⟩
  | term above descriptions below split ih =>
    rw [Joinable, Node.everywhere_iff, Node.children, Node.entryChildren_append, Node.entryChildren] at joinable ⊢
    exact ⟨rfl, joinable_element (Node.entryChildren above) _ ih joinable.2⟩
  | description above term before behind below split ih =>
    rw [Joinable, Node.everywhere_iff, Node.children, Node.entryChildren_append, Node.entryChildren, List.cons_append,
      List.forall_mem_append, List.forall_mem_cons, List.forall_mem_append] at joinable ⊢
    obtain ⟨-, front, own, each, back⟩ := joinable
    exact ⟨rfl, front, own, joinable_element before behind ih each, back⟩

end

/-- A tree without inline comments and without paragraphs that open with strong text is rendered to the same however its
texts are split, with the same attributes and the same log, and it fails in the same way. -/
theorem split_texts_rendered (options : Options) (attributes : Attributes) {first second : Node}
    (joinable : Joinable first) (splits : Relation.ReflTransGen Splits first second) :
    (render options attributes second).outcome = (render options attributes first).outcome ∧
      (render options attributes second).context.attributes = (render options attributes first).context.attributes ∧
      (render options attributes second).context.log = (render options attributes first).context.log := by
  have both : Joinable second ∧ second.joined = first.joined := by
    induction splits with
    | refl => exact ⟨joinable, rfl⟩
    | tail _ split ih => exact ⟨joinable_split split ih.1, split.joined.symm.trans ih.2⟩
  obtain ⟨outcome, context⟩ := render_joined options attributes joinable
  obtain ⟨outcome', context'⟩ := render_joined options attributes both.1
  rw [both.2] at outcome' context'
  have same := context'.symm.trans context
  have kept := congrArg Context.attributes same
  have logged := congrArg Context.log same
  exact ⟨outcome'.symm.trans outcome, kept, logged⟩

def menuDocument (lead path : List Node) : Node := .document [.paragraph (lead ++ [.strong path])]

/-- A menu path in two parts, and the text in front of it in three. -/
theorem split_texts_rendered_menu :
    let lead := [['S'], [], "ee ".toList]
    let path := ["A >".toList, " B".toList]
    let first := menuDocument [.text "See ".toList] [.text "A > B".toList]
    let second := menuDocument (lead.map .text) (path.map .text)
    Joinable first ∧ Relation.ReflTransGen Splits first second ∧
      (render {} [] second).outcome = .ok ":experimental:\n\nSee menu:A[B]\n".toList ∧
      (render {} [] second).context.attributes = [(experimental.toList, .text [])] := by
  intro lead path first second
  have joinable : Joinable first := by
    simp [first, menuDocument, Joinable, Node.everywhere_iff_forall, Node.children, AsciiDoc.joinable, opensStrong]
  have outer : Splits first (menuDocument (lead.map .text) [.text "A > B".toList]) :=
    .element (.inr .document) [] [] (.text .paragraph [] lead [.strong [.text "A > B".toList]] (by decide))
  have inner : Splits (menuDocument (lead.map .text) [.text "A > B".toList]) second :=
    .element (.inr .document) [] []
      (.element (.inl .paragraph) (lead.map .text) [] (.text .strong [] path [] (by decide)))
  have splits : Relation.ReflTransGen Splits first second := .tail (.single outer) inner
  obtain ⟨outcome, attributes, -⟩ := split_texts_rendered {} [] joinable splits
  have shown : (render {} [] (menuDocument [.text "See ".toList] [.text "A > B".toList])).outcome =
      .ok ":experimental:\n\nSee menu:A[B]\n".toList := rfl
  have registered : (render {} [] first).context.attributes = [(experimental.toList, .text [])] := rfl
  exact ⟨joinable, splits, outcome.trans shown, attributes.trans registered⟩

end Adocify.AsciiDoc
