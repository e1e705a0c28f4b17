import Mathlib.Data.List.Chain
import Mathlib.Data.List.Induction
import Adocify.Proofs.JoinedTexts

/-! What the merging of texts makes of a line. The nodes that are neither texts nor inline comments divide the line into
stretches. They stay as they are, each stretch comes to one text or to none, and a line that has been merged has nothing
in it to merge. -/

namespace Adocify.AsciiDoc

/-- An inline comment of HTML. -/
def dropsOut : Node → Bool
  | .htmlInline content => isInlineComment content
  | _ => false

/-- Neither a text nor an inline comment. -/
def staysWhole : Node → Bool
  | .text _ => false
  | node => !dropsOut node

def endsInComment (stretch : List Node) : Bool := stretch.getLast?.any dropsOut

/-- The text that a stretch of texts and comments comes to, if there is a text in it. The texts are appended one after
the other; behind a comment, a text leaves out the blanks that it begins with if what comes before it ends in one. -/
inductive ComesTo : List Node → Option Text → Prop where
  | nothing : ComesTo [] none
  | comment {stretch text node} (comes : ComesTo stretch text) (drops : dropsOut node = true) :
      ComesTo (stretch ++ [node]) text
  | first {stretch content} (comes : ComesTo stretch none) : ComesTo (stretch ++ [.text content]) (some content)
  | appended {stretch before content} (comes : ComesTo stretch (some before))
      (whole : endsInComment stretch = false ∨ endsInBlank before = false) :
      ComesTo (stretch ++ [.text content]) (some (before ++ content))
  | collapsed {stretch before content} (comes : ComesTo stretch (some before))
      (behind : endsInComment stretch = true) (blank : endsInBlank before = true) :
      ComesTo (stretch ++ [.text content]) (some (before ++ content.dropWhile isSpaceOrTab))

/-- The second line is the first with a text, if any, for each stretch between the nodes that stay whole. -/
inductive Merged : List Node → List Node → Prop where
  | stretch {stretch text} (comes : ComesTo stretch text) : Merged stretch (text.map .text).toList
  | whole {stretch text node rest merged} (comes : ComesTo stretch text) (stays : staysWhole node = true)
      (behind : Merged rest merged) : Merged (stretch ++ node :: rest) ((text.map .text).toList ++ node :: merged)

/-- No two texts are neighbours. -/
def TextsApart (nodes : List Node) : Prop := nodes.IsChain fun first second => ¬(IsText first ∧ IsText second)

section

variable {node : Node} {nodes merged stretch rest : List Node} {text pending : Option Text} {afterComment : Bool}

theorem staysWhole_iff : staysWhole node = true ↔ ¬IsText node ∧ dropsOut node = false := by
  cases node <;> simp [staysWhole, dropsOut, IsText]

theorem mergeFrom_comment (drops : dropsOut node = true) :
    mergeFrom id .text pending afterComment (node :: rest) = mergeFrom id .text pending true rest := by
  cases node with
  | htmlInline content => exact if_pos drops
  | _ => cases drops

theorem mergeFrom_whole (stays : staysWhole node = true) :
    mergeFrom id .text pending afterComment (node :: rest) =
      (pending.map .text).toList ++ node :: mergeFrom id .text none false rest := by
  cases node with
  | text content => cases stays
  | htmlInline content => exact if_neg (by simpa [staysWhole, dropsOut] using stays)
  | _ => rfl

theorem endsInComment_concat : endsInComment (stretch ++ [node]) = dropsOut node := by
  rw [endsInComment, List.getLast?_concat, Option.any_some]

/-- When a stretch has been read, what it comes to is pending. -/
theorem ComesTo.read (comes : ComesTo stretch text) (rest : List Node) :
    mergeFrom id .text none false (stretch ++ rest) = mergeFrom id .text text (endsInComment stretch) rest := by
  induction comes generalizing rest with
  | nothing => rfl
  | comment comes drops ih =>
    rw [List.append_assoc, ih, endsInComment_concat, drops]
    exact mergeFrom_comment drops
  | first comes ih =>
    rw [List.append_assoc, ih, endsInComment_concat]
    rfl
  | @appended stretch before content comes whole ih =>
    have kept : (endsInComment stretch && endsInBlank before) = false := Bool.and_eq_false_iff.mpr whole
    rw [List.append_assoc, ih, endsInComment_concat]
    simp only [List.singleton_append, mergeFrom, id_eq, kept, Bool.false_eq_true, if_false, dropsOut]
  | @collapsed stretch before content comes behind blank ih =>
    rw [List.append_assoc, ih, endsInComment_concat]
    simp only [List.singleton_append, mergeFrom, id_eq, behind, blank, Bool.and_self, if_true, dropsOut]

theorem ComesTo.parts (comes : ComesTo stretch text) : ∀ node ∈ stretch, staysWhole node = false := by
  induction comes with
  | nothing => exact List.forall_mem_nil _
  | comment comes drops ih =>
    refine List.forall_mem_append.mpr ⟨ih, List.forall_mem_singleton.mpr ?_⟩
    rw [Bool.eq_false_iff, Ne, staysWhole_iff, drops]
    exact fun stays => absurd stays.2 (by decide)
  | first comes ih | appended comes whole ih | collapsed comes behind blank ih =>
    exact List.forall_mem_append.mpr ⟨ih, List.forall_mem_singleton.mpr rfl⟩

theorem exists_comesTo (parts : ∀ node ∈ stretch, staysWhole node = false) : ∃ text, ComesTo stretch text := by
  induction stretch using List.reverseRecOn with
  | nil => exact ⟨none, .nothing⟩
  | append_singleton stretch node ih =>
    obtain ⟨before, last⟩ := List.forall_mem_append.mp parts
    obtain ⟨text, comes⟩ := ih before
    cases drops : dropsOut node with
    | true => exact ⟨text, comes.comment drops⟩
    | false =>
      have texts : IsText node := by
        by_contra other
        exact absurd (staysWhole_iff.mpr ⟨other, drops⟩) (by simp [last])
      obtain ⟨content, rfl⟩ := texts
      rcases text with _ | before
      · exact ⟨_, comes.first⟩
      cases behind : endsInComment stretch with
      | false => exact ⟨_, comes.appended (.inl behind)⟩
      | true =>
        cases blank : endsInBlank before with
        | false => exact ⟨_, comes.appended (.inr blank)⟩
        | true => exact ⟨_, comes.collapsed behind blank⟩

theorem mergeTexts_merged (nodes : List Node) : Merged nodes (mergeTexts id .text nodes) := by
  -- By the length of the line, for a whole stretch is taken off with the node behind it.
  induction measured : nodes.length using Nat.strong_induction_on generalizing nodes with
  | h length ih =>
    have split : nodes.takeWhile (!staysWhole ·) ++ nodes.dropWhile (!staysWhole ·) = nodes :=
      List.takeWhile_append_dropWhile
    have parts : ∀ node ∈ nodes.takeWhile (!staysWhole ·), staysWhole node = false := by
      intro node member
      simpa using List.mem_takeWhile_imp member
    obtain ⟨text, comes⟩ := exists_comesTo parts
    cases behind : nodes.dropWhile (!staysWhole ·) with
    | nil =>
      rw [behind, List.append_nil] at split
      rw [split] at comes
      have read := comes.read []
      rw [List.append_nil] at read
      rw [mergeTexts, read]
      exact .stretch comes
    | cons node rest =>
      have stays : staysWhole node = true := by
        have stopped := List.head?_dropWhile_not (!staysWhole ·) nodes
        rw [behind] at stopped
        simpa using stopped
      rw [behind] at split
      have shorter : rest.length < length := by
        rw [← measured, ← split, List.length_append, List.length_cons]
        omega
      rw [← split, mergeTexts, comes.read, mergeFrom_whole stays]
      exact .whole comes stays (ih rest.length shorter rest rfl)

theorem filter_text : (text.map Node.text).toList.filter staysWhole = [] := by
  cases text <;> rfl

/-- What stays whole stays in its order. -/
theorem Merged.whole_kept (merges : Merged nodes merged) : merged.filter staysWhole = nodes.filter staysWhole := by
  have dropped {stretch : List Node} {text : Option Text} (comes : ComesTo stretch text) :
      stretch.filter staysWhole = [] := by
    rw [List.filter_eq_nil_iff]
    intro node member
    simp [comes.parts node member]
  induction merges with
  | stretch comes => rw [filter_text, dropped comes]
  | whole comes stays behind ih =>
    rw [List.filter_append, List.filter_append, filter_text, dropped comes, List.filter_cons, List.filter_cons,
      if_pos stays, if_pos stays, ih]

theorem Merged.comments_dropped (merges : Merged nodes merged) : ∀ node ∈ merged, dropsOut node = false := by
  have texts {text : Option Text} : ∀ node ∈ (text.map Node.text).toList, dropsOut node = false := by
    cases text with
    | none => exact List.forall_mem_nil _
    | some content => exact List.forall_mem_singleton.mpr rfl
  induction merges with
  | stretch comes => exact texts
  | whole comes stays behind ih =>
    exact List.forall_mem_append.mpr ⟨texts, List.forall_mem_cons.mpr ⟨(staysWhole_iff.mp stays).2, ih⟩⟩

theorem Merged.texts_apart (merges : Merged nodes merged) : TextsApart merged := by
  induction merges with
  | @stretch _ text comes =>
    cases text with
    | none => exact .nil
    | some content => exact .singleton _
  | @whole _ text node _ merged comes stays behind ih =>
    have other := (staysWhole_iff.mp stays).1
    have rest : TextsApart (node :: merged) := List.isChain_cons.mpr ⟨fun _ _ both => other both.1, ih⟩
    cases text with
    | none => exact rest
    | some content => exact .cons_cons (fun both => other both.2) rest

theorem joinTexts_apart (apart : TextsApart nodes) : Node.joinTexts nodes = nodes := by
  induction nodes with
  | nil => rfl
  | cons node rest ih =>
    obtain ⟨here, others⟩ := List.isChain_cons.mp apart
    rw [Node.joinTexts_cons, ih others]
    rcases Node.attach_shape node rest with same | ⟨content, more, behind, rfl, rfl, -⟩
    · exact same
    · exact absurd ⟨⟨content, rfl⟩, ⟨more, rfl⟩⟩ (here _ rfl)

/-- Of what is neither a text nor a comment nothing is lost or moved, comments are gone, and each stretch of texts
between has become one text, which collapses the blanks around a comment to those on its left. No two texts are
neighbours any more, so that merging again changes nothing. -/
theorem merging_is_normal_form (nodes : List Node) :
    Merged nodes (mergeTexts id .text nodes) ∧
    (mergeTexts id .text nodes).filter staysWhole = nodes.filter staysWhole ∧
    (∀ node ∈ mergeTexts id .text nodes, dropsOut node = false) ∧
    TextsApart (mergeTexts id .text nodes) ∧
    mergeTexts id .text (mergeTexts id .text nodes) = mergeTexts id .text nodes := by
  have merges := mergeTexts_merged nodes
  have shown : ∀ content, .htmlInline content ∈ mergeTexts id .text nodes → isInlineComment content = false :=
    fun content member => merges.comments_dropped _ member
  refine ⟨merges, merges.whole_kept, merges.comments_dropped, merges.texts_apart, ?_⟩
  calc
    mergeTexts id .text (mergeTexts id .text nodes) = Node.joinTexts (mergeTexts id .text nodes) := mergeFrom_joins shown
    _ = mergeTexts id .text nodes := joinTexts_apart merges.texts_apart

end

end Adocify.AsciiDoc
