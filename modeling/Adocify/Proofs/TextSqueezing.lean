import Adocify.Proofs.TextEndings

/-! Texts that differ in their breaks only. Squeezing makes one space of each run of breaks. Unlike the
words of a text, the squeezed text tells what stands at its ends, so that the squeezed parts settle
what comes of joining them. -/

namespace Adocify.Text

/-- The blanks that may stand for each other when lines are broken anew. -/
def isBreak (c : Char) : Bool := isSpaceOrTab c || c == '\n'

/-- The words of a text are what stands between the runs of breaks. -/
def unbroken (text : Text) : List Text := (text.splitOnP isBreak).filter fun part => !part.isEmpty

/-- Puts a character before a squeezed text. A break is a space, and none is needed before another. -/
def glue (c : Char) (text : Text) : Text :=
  if isBreak c then (if text.head? = some ' ' then text else ' ' :: text) else c :: text

def squeeze (text : Text) : Text := text.foldr glue []

theorem isBreak_space : isBreak ' ' = true := by decide

theorem isBreak_of_blank {c : Char} (blank : isSpaceOrTab c = true) : isBreak c = true := by
  rw [isBreak, blank, Bool.true_or]

theorem isBlank_of_break {c : Char} (broken : isBreak c = true) : isBlank c = true := by
  simp only [isBreak, isSpaceOrTab, Bool.or_eq_true, beq_iff_eq] at broken
  rcases broken with (rfl | rfl) | rfl <;> decide

section

variable {c : Char} {text : Text}

theorem glue_break (broken : isBreak c = true) : glue c text = glue ' ' text := by
  simp only [glue, broken, isBreak_space, if_true]

theorem glue_visible (visible : ¬isBreak c = true) : glue c text = c :: text := if_neg visible

theorem head_glue_break (broken : isBreak c = true) : (glue c text).head? = some ' ' := by
  simp only [glue, broken, if_true]
  split
  · assumption
  · rfl

/-- Nothing is added where a space stands already. -/
theorem glue_of_head (broken : isBreak c = true) (spaced : text.head? = some ' ') : glue c text = text := by
  rw [glue, if_pos broken, if_pos spaced]

theorem glue_of_other (broken : isBreak c = true) (other : ¬text.head? = some ' ') : glue c text = ' ' :: text := by
  rw [glue, if_pos broken, if_neg other]

theorem glue_again (broken : isBreak c = true) : glue ' ' (glue c text) = glue ' ' text := by
  rw [glue_of_head isBreak_space (head_glue_break broken), glue_break broken]

theorem glue_ne_nil : glue c text ≠ [] := by
  by_cases broken : isBreak c = true
  · intro empty
    have head : (glue c text).head? = some ' ' := head_glue_break broken
    rw [empty] at head
    cases head
  · rw [glue_visible broken]
    exact List.cons_ne_nil c text

theorem getLast?_glue (more : text ≠ []) : (glue c text).getLast? = text.getLast? := by
  obtain ⟨first, rest, rfl⟩ := List.exists_cons_of_ne_nil more
  simp only [glue]
  split
  · split
    · rfl
    · exact List.getLast?_cons_cons
  · exact List.getLast?_cons_cons

theorem squeeze_cons : squeeze (c :: text) = glue c (squeeze text) := rfl

theorem squeeze_eq_nil : squeeze text = [] ↔ text = [] := by
  cases text with
  | nil => exact Iff.rfl
  | cons c rest => exact iff_of_false glue_ne_nil (List.cons_ne_nil c rest)

end

/-- Squeezing the first part beforehand makes no difference. -/
theorem foldr_glue_squeeze (first rest : Text) : (squeeze first).foldr glue rest = first.foldr glue rest := by
  induction first with
  | nil => rfl
  | cons c first ih =>
    rw [squeeze_cons, List.foldr_cons, ← ih]
    by_cases broken : isBreak c = true
    · by_cases spaced : (squeeze first).head? = some ' '
      · obtain ⟨after, split⟩ := List.head?_eq_some_iff.mp spaced
        rw [glue_of_head broken spaced, split, List.foldr_cons, glue_of_head broken (head_glue_break isBreak_space)]
      · rw [glue_of_other broken spaced, List.foldr_cons, glue_break broken]
    · rw [glue_visible broken, List.foldr_cons]

theorem squeeze_append (first second : Text) :
    squeeze (first ++ second) = (squeeze first).foldr glue (squeeze second) := by
  rw [foldr_glue_squeeze, squeeze, List.foldr_append]
  rfl

theorem head_squeeze (text : Text) {visible : Char → Bool} (ignored : ∀ c, isBreak c = true → visible c = false) :
    (squeeze text).head?.any visible = text.head?.any visible := by
  cases text with
  | nil => rfl
  | cons c rest =>
    rw [squeeze_cons, List.head?_cons]
    by_cases broken : isBreak c = true
    · rw [head_glue_break broken]
      simp only [Option.any_some, ignored c broken, ignored ' ' isBreak_space]
    · rw [glue_visible broken, List.head?_cons]

theorem last_squeeze (text : Text) {visible : Char → Bool} (ignored : ∀ c, isBreak c = true → visible c = false) :
    (squeeze text).getLast?.any visible = text.getLast?.any visible := by
  induction text with
  | nil => rfl
  | cons c rest ih =>
    rw [squeeze_cons]
    cases rest with
    | nil =>
      by_cases broken : isBreak c = true
      · rw [squeeze, List.foldr_nil, glue_of_other broken (by decide)]
        simp only [List.getLast?_singleton, Option.any_some, ignored c broken, ignored ' ' isBreak_space]
      · rw [squeeze, List.foldr_nil, glue_visible broken]
    | cons next rest =>
      have more : squeeze (next :: rest) ≠ [] := fun nothing => List.cons_ne_nil next rest (squeeze_eq_nil.mp nothing)
      rw [getLast?_glue more, List.getLast?_cons_cons, ih]

/-- A run of breaks is one break. -/
theorem foldr_glue_breaks {breaks : Text} (some : breaks ≠ []) (broken : ∀ c ∈ breaks, isBreak c = true) (text : Text) :
    breaks.foldr glue text = glue ' ' text := by
  induction breaks with
  | nil => exact absurd rfl some
  | cons c rest ih =>
    obtain ⟨here, others⟩ := List.forall_mem_cons.mp broken
    rw [List.foldr_cons, glue_break here]
    cases rest with
    | nil => rfl
    | cons next rest => rw [ih (List.cons_ne_nil _ _) others, glue_again isBreak_space]

theorem substitute_cons (old : Char) (new : Text) (c : Char) (rest : Text) :
    substitute old new (c :: rest) = (if c = old then new else [c]) ++ substitute old new rest := rfl

/-- Breaks may be replaced by breaks before squeezing or after it. -/
theorem squeeze_substitute {old : Char} {new : Text}
    (kept : isBreak old = true → new ≠ [] ∧ ∀ c ∈ new, isBreak c = true) (text : Text) :
    squeeze (substitute old new (squeeze text)) = squeeze (substitute old new text) := by
  have onto (c : Char) (rest : Text) : squeeze (substitute old new (c :: rest)) =
      (if c = old then new else [c]).foldr glue (squeeze (substitute old new rest)) := by
    rw [substitute_cons, squeeze_append, foldr_glue_squeeze]
  have broken (c : Char) (isBroken : isBreak c = true) (rest : Text) :
      squeeze (substitute old new (c :: rest)) = glue ' ' (squeeze (substitute old new rest)) := by
    rw [onto]
    split
    case isTrue same => exact foldr_glue_breaks (kept (same ▸ isBroken)).1 (kept (same ▸ isBroken)).2 _
    case isFalse => exact glue_break isBroken
  induction text with
  | nil => rfl
  | cons c rest ih =>
    rw [squeeze_cons]
    by_cases isBroken : isBreak c = true
    · -- A break becomes a run of breaks, of which one space is left whatever stands behind it.
      rw [broken c isBroken rest, ← ih]
      by_cases spaced : (squeeze rest).head? = some ' '
      · obtain ⟨after, split⟩ := List.head?_eq_some_iff.mp spaced
        rw [glue_of_head isBroken spaced, split, broken ' ' isBreak_space, glue_again isBreak_space]
      · rw [glue_of_other isBroken spaced, broken ' ' isBreak_space]
    · rw [glue_visible isBroken, onto, onto, ih]

theorem stripRight_cons (c : Char) (rest : Text) :
    stripRight (c :: rest) = if stripRight rest = [] then (if isBlank c then [] else [c]) else c :: stripRight rest := by
  simp only [stripRight, dropEndWhile, List.reverse_cons, List.dropWhile_append, List.reverse_eq_nil_iff,
    List.isEmpty_iff]
  split
  · cases blank : isBlank c <;> simp [blank]
  · simp

theorem head_stripRight {text : Text} (more : stripRight text ≠ []) : (stripRight text).head? = text.head? := by
  cases text with
  | nil => exact absurd rfl more
  | cons c rest =>
    rw [stripRight_cons] at more ⊢
    split at more
    · split at more
      · exact absurd rfl more
      · rename_i empty visible
        simp [empty, visible]
    · rename_i rest
      simp [rest]

theorem squeeze_stripRight (text : Text) : squeeze (stripRight text) = stripRight (squeeze text) := by
  induction text with
  | nil => rfl
  | cons c rest ih =>
    rw [stripRight_cons, squeeze_cons]
    by_cases empty : stripRight rest = []
    · have bare : stripRight (squeeze rest) = [] := by rw [← ih, empty, squeeze, List.foldr_nil]
      rw [if_pos empty]
      by_cases broken : isBreak c = true
      · rw [if_pos (isBlank_of_break broken)]
        by_cases spaced : (squeeze rest).head? = some ' '
        · rw [glue_of_head broken spaced, bare, squeeze, List.foldr_nil]
        · rw [glue_of_other broken spaced, stripRight_cons, if_pos bare, if_pos (isBlank_of_break isBreak_space)]
          rfl
      · rw [glue_visible broken, stripRight_cons, if_pos bare]
        split
        · rfl
        · rw [squeeze_cons, glue_visible broken, squeeze, List.foldr_nil]
    · have more : stripRight (squeeze rest) ≠ [] := by
        rw [← ih]
        exact fun nothing => empty (squeeze_eq_nil.mp nothing)
      rw [if_neg empty, squeeze_cons, ih]
      by_cases broken : isBreak c = true
      · by_cases spaced : (squeeze rest).head? = some ' '
        · rw [glue_of_head broken spaced, glue_of_head broken ((head_stripRight more).trans spaced)]
        · rw [glue_of_other broken spaced, stripRight_cons, if_neg more,
            glue_of_other broken fun other => spaced ((head_stripRight more).symm.trans other)]
      · rw [glue_visible broken, glue_visible broken, stripRight_cons, if_neg more]

/-- Squeezing keeps the first part between breaks, and of the other parts those that are not empty. -/
theorem parts_squeeze (text : Text) : ∃ first rest rest', text.splitOnP isBreak = first :: rest ∧
    (squeeze text).splitOnP isBreak = first :: rest' ∧
    (rest.filter fun part => !part.isEmpty) = rest'.filter fun part => !part.isEmpty := by
  induction text with
  | nil => exact ⟨[], [], [], List.splitOnP_nil, List.splitOnP_nil, rfl⟩
  | cons c text ih =>
    obtain ⟨first, rest, rest', parts, parts', same⟩ := ih
    rw [squeeze_cons, List.splitOnP_cons_eq_if_modifyHead, parts]
    by_cases broken : isBreak c = true
    · rw [if_pos broken]
      by_cases spaced : (squeeze text).head? = some ' '
      · obtain ⟨after, split⟩ := List.head?_eq_some_iff.mp spaced
        have empty : first = [] := by
          rw [split, List.splitOnP_cons_eq_if_modifyHead, if_pos isBreak_space] at parts'
          exact (List.cons.inj parts').1.symm
        subst empty
        rw [glue_of_head broken spaced, parts']
        exact ⟨[], [] :: rest, rest', rfl, rfl, same⟩
      · rw [glue_of_other broken spaced, List.splitOnP_cons_eq_if_modifyHead, if_pos isBreak_space, parts']
        exact ⟨[], first :: rest, first :: rest', rfl, rfl, by rw [List.filter_cons, List.filter_cons, same]⟩
    · rw [if_neg broken, glue_visible broken, List.splitOnP_cons_eq_if_modifyHead, if_neg broken, parts']
      exact ⟨c :: first, rest, rest', rfl, rfl, same⟩

theorem unbroken_squeeze (text : Text) : unbroken (squeeze text) = unbroken text := by
  obtain ⟨first, rest, rest', parts, parts', same⟩ := parts_squeeze text
  rw [unbroken, unbroken, parts, parts', List.filter_cons, List.filter_cons, same]

theorem unbroken_append_breaks (text : Text) {breaks : Text} (broken : ∀ c ∈ breaks, isBreak c = true) :
    unbroken (text ++ breaks) = unbroken text := by
  induction breaks generalizing text with
  | nil => rw [List.append_nil]
  | cons c rest ih =>
    obtain ⟨here, others⟩ := List.forall_mem_cons.mp broken
    have nothing : unbroken rest = [] := (ih [] others).trans (by simp [unbroken])
    have split : unbroken (text ++ c :: rest) = unbroken text ++ unbroken rest := by
      rw [unbroken, List.splitOnP_append_cons text rest here, List.filter_append]
      rfl
    rw [split, nothing, List.append_nil]

theorem unbroken_endWithNewline (text : Text) : unbroken (endWithNewline text) = unbroken text := by
  obtain ⟨ending, parts, newlines, -⟩ := dropEndWhile_parts (· == '\n') text
  have breaks : ∀ c ∈ ending, isBreak c = true := by
    intro c member
    rw [isBreak, newlines c member, Bool.or_true]
  have kept : unbroken (dropEndWhile (· == '\n') text) = unbroken text := by
    rw [← unbroken_append_breaks _ breaks, ← parts]
  rw [← kept, endWithNewline]
  split
  · rename_i empty
    rw [empty]
  · exact unbroken_append_breaks _ (List.forall_mem_singleton.mpr (by decide))

end Adocify.Text
