import Mathlib.Data.List.Basic
import Adocify.Text.Basic

/-! The lines of a text, and texts put together of lines. -/

namespace Adocify.Text

theorem lines_ne_nil (text : Text) : lines text ≠ [] := by
  cases text with
  | nil => exact List.cons_ne_nil _ _
  | cons c rest =>
    simp only [lines, splitOn]
    split
    · exact List.cons_ne_nil _ _
    · split <;> exact List.cons_ne_nil _ _

theorem lines_newline (rest : Text) : lines ('\n' :: rest) = [] :: lines rest := by
  simp only [lines, splitOn, if_true]

theorem lines_cons {c : Char} {rest first : Text} {others : List Text} (visible : c ≠ '\n')
    (split : lines rest = first :: others) : lines (c :: rest) = (c :: first) :: others := by
  have split : splitOn '\n' rest = first :: others := split
  simp only [lines, splitOn, if_neg visible, split]

theorem lines_single {text : Text} (single : '\n' ∉ text) : lines text = [text] := by
  induction text with
  | nil => rfl
  | cons c rest ih =>
    rw [List.mem_cons, not_or] at single
    exact lines_cons (Ne.symm single.1) (ih single.2)

theorem lines_append (text rest : Text) : lines (text ++ '\n' :: rest) = lines text ++ lines rest := by
  induction text with
  | nil => exact lines_newline rest
  | cons c text ih =>
    by_cases broken : c = '\n'
    · subst broken
      rw [List.cons_append, lines_newline, lines_newline, ih, List.cons_append]
    · obtain ⟨first, others, split⟩ := List.exists_cons_of_ne_nil (lines_ne_nil text)
      have whole : lines (text ++ '\n' :: rest) = first :: (others ++ lines rest) := by
        rw [ih, split, List.cons_append]
      rw [List.cons_append, lines_cons broken whole, lines_cons broken split, List.cons_append]

theorem lines_unlines {parts : List Text} (some : parts ≠ []) : lines (unlines parts) = parts.flatMap lines := by
  induction parts with
  | nil => exact absurd rfl some
  | cons first others ih =>
    cases others with
    | nil => simp [unlines, join]
    | cons second others =>
      have rest := ih (List.cons_ne_nil _ _)
      simp only [unlines, join] at rest ⊢
      rw [List.intercalate_cons_cons, List.append_assoc, List.singleton_append, lines_append, rest, ← List.flatMap_cons]

theorem single_of_mem_lines {text line : Text} (member : line ∈ lines text) : '\n' ∉ line := by
  induction text generalizing line with
  | nil =>
    obtain rfl := List.mem_singleton.mp member
    exact List.not_mem_nil
  | cons c rest ih =>
    by_cases broken : c = '\n'
    · subst broken
      rw [lines_newline] at member
      rcases List.mem_cons.mp member with rfl | later
      · exact List.not_mem_nil
      · exact ih later
    · obtain ⟨first, others, split⟩ := List.exists_cons_of_ne_nil (lines_ne_nil rest)
      rw [lines_cons broken split] at member
      rw [split] at ih
      rcases List.mem_cons.mp member with rfl | later
      · have single := ih List.mem_cons_self
        intro inside
        rcases List.mem_cons.mp inside with same | inside
        · exact broken same.symm
        · exact single inside
      · exact ih (List.mem_cons_of_mem _ later)

theorem lines_unlines_iff {parts : List Text} (some : parts ≠ []) :
    lines (unlines parts) = parts ↔ ∀ part ∈ parts, '\n' ∉ part := by
  constructor
  · intro same part member
    rw [← same] at member
    exact single_of_mem_lines member
  · intro single
    rw [lines_unlines some]
    induction parts with
    | nil => rfl
    | cons first others ih =>
      obtain ⟨here, later⟩ := List.forall_mem_cons.mp single
      rw [List.flatMap_cons, lines_single here, List.singleton_append, List.cons_inj_right]
      cases others with
      | nil => rfl
      | cons second others => exact ih (List.cons_ne_nil _ _) later

theorem lines_self_iff {text : Text} : lines text = [text] ↔ '\n' ∉ text := by
  have one : unlines [text] = text := by simp [unlines, join]
  simpa [one] using lines_unlines_iff (List.cons_ne_nil text [])

/-- What joined parts add behind a part that comes before them. -/
def continued (separator : Text) : List Text → Text
  | [] => []
  | parts => separator ++ join separator parts

theorem continued_cons (separator first : Text) (others : List Text) :
    continued separator (first :: others) = separator ++ join separator (first :: others) := rfl

theorem join_cons (separator first : Text) (others : List Text) :
    join separator (first :: others) = first ++ continued separator others := by
  cases others with
  | nil => simp [join, continued]
  | cons second others => simp [join, continued, List.intercalate_cons_cons]

theorem unlines_lines (text : Text) : unlines (lines text) = text := by
  induction text with
  | nil => rfl
  | cons c rest ih =>
    obtain ⟨first, others, split⟩ := List.exists_cons_of_ne_nil (lines_ne_nil rest)
    rw [split, unlines, join_cons] at ih
    by_cases broken : c = '\n'
    · subst broken
      rw [lines_newline, split, unlines, join_cons, List.nil_append, continued_cons, join_cons, ih]
      rfl
    · rw [lines_cons broken split, unlines, join_cons, List.cons_append, ih]

end Adocify.Text
