import Mathlib.Data.List.DropRight
import Adocify.Proofs.TextLines
import Adocify.Text.Lines

/-! How texts end. A text whose end is settled is empty or ends in one newline; to settle it again changes
nothing, and what stands before its last visible character does not matter. -/

namespace Adocify.Text

variable {text front rest : Text}

/-- The last character is no newline. -/
def Closed (text : Text) : Prop := ∃ body last, text = body ++ [last] ∧ last ≠ '\n'

theorem Closed.behind (closed : rest.Closed) (front : Text) : (front ++ rest).Closed := by
  obtain ⟨body, last, rfl, visible⟩ := closed
  exact ⟨front ++ body, last, (List.append_assoc _ _ _).symm, visible⟩

theorem closed_of_single (some : text ≠ []) (single : '\n' ∉ text) : text.Closed := by
  refine ⟨text.dropLast, text.getLast some, (List.dropLast_append_getLast some).symm, ?_⟩
  intro same
  exact single (same ▸ List.getLast_mem some)

abbrev withoutNewlines (text : Text) : Text := dropEndWhile (· == '\n') text

theorem withoutNewlines_closed (closed : text.Closed) : text.withoutNewlines = text := by
  obtain ⟨body, last, rfl, visible⟩ := closed
  simp [dropEndWhile, List.dropWhile_cons_of_neg, visible]

/-- What is dropped at the end, and what stands before it. -/
theorem dropEndWhile_parts (drop : Char → Bool) (text : Text) :
    ∃ dropped, text = dropEndWhile drop text ++ dropped ∧ (∀ c ∈ dropped, drop c = true) ∧
      ∀ c ∈ (dropEndWhile drop text).getLast?, drop c = false := by
  refine ⟨text.rtakeWhile drop, List.rdropWhile_append_rtakeWhile.symm, fun c => List.mem_rtakeWhile_imp, ?_⟩
  intro c last
  obtain ⟨filled, rfl⟩ := List.mem_getLast?_eq_getLast last
  exact Bool.eq_false_iff.mpr (List.rdropWhile_last_not drop text filled)

theorem dropEndWhile_append (drop : Char → Bool) (front rest : Text) :
    dropEndWhile drop (front ++ rest) =
      if dropEndWhile drop rest = [] then dropEndWhile drop front else front ++ dropEndWhile drop rest := by
  simp only [dropEndWhile, List.reverse_append, List.dropWhile_append, List.isEmpty_iff, List.reverse_eq_nil_iff]
  split
  · rfl
  · rw [List.reverse_append, List.reverse_reverse]

theorem stripRight_append (front rest : Text) :
    stripRight (front ++ rest) = if stripRight rest = [] then stripRight front else front ++ stripRight rest :=
  dropEndWhile_append isBlank front rest

theorem stripRight_again (text : Text) : stripRight (stripRight text) = stripRight text := by
  simp only [stripRight, dropEndWhile, List.reverse_reverse, List.dropWhile_idempotent]

/-- No blanks are at the end, and the text is not empty. -/
def Trimmed (text : Text) : Prop := text ≠ [] ∧ stripRight text = text

theorem Trimmed.behind (trimmed : rest.Trimmed) (front : Text) : (front ++ rest).Trimmed := by
  refine ⟨List.append_ne_nil_of_right_ne_nil _ trimmed.1, ?_⟩
  rw [stripRight_append, trimmed.2, if_neg trimmed.1]

theorem trimmed_join {separator : Text} {parts : List Text} (trimmed : ∀ part ∈ parts, part.Trimmed) :
    stripRight (join separator parts) = join separator parts := by
  cases parts with
  | nil => rfl
  | cons first others =>
    suffices whole : (join separator (first :: others)).Trimmed from whole.2
    induction others generalizing first with
    | nil => simpa [join] using trimmed
    | cons second others ih =>
      rw [join_cons, continued_cons]
      apply Trimmed.behind
      apply Trimmed.behind
      exact ih second (List.forall_mem_cons.mp trimmed).2

theorem withoutNewlines_append (front rest : Text) :
    (front ++ rest).withoutNewlines =
      if rest.withoutNewlines = [] then front.withoutNewlines else front ++ rest.withoutNewlines :=
  dropEndWhile_append _ front rest

/-- Only empty lines go with newlines at the end. -/
theorem mem_lines_withoutNewlines {line : Text} (filled : line ≠ []) :
    line ∈ lines text.withoutNewlines ↔ line ∈ lines text := by
  induction text using List.reverseRecOn with
  | nil => exact Iff.rfl
  | append_singleton front last ih =>
    rw [withoutNewlines_append]
    by_cases broken : last = '\n'
    · subst broken
      have ended : lines (front ++ ['\n']) = lines front ++ [[]] := lines_append front []
      rw [if_pos (by decide), ended, List.mem_append, List.mem_singleton, or_iff_left filled, ih]
    · have kept : withoutNewlines [last] = [last] := withoutNewlines_closed ⟨[], last, rfl, broken⟩
      rw [kept, if_neg (List.cons_ne_nil _ _)]

theorem mem_lines_dropWhile {line : Text} (filled : line ≠ []) :
    line ∈ lines (text.dropWhile (· == '\n')) ↔ line ∈ lines text := by
  induction text with
  | nil => exact Iff.rfl
  | cons c rest ih =>
    by_cases broken : c = '\n'
    · subst broken
      rw [List.dropWhile_cons_of_pos (by decide), lines_newline, List.mem_cons, or_iff_right filled, ih]
    · rw [List.dropWhile_cons_of_neg (by simpa using broken)]

theorem endWithNewline_some (some : text.withoutNewlines ≠ []) :
    endWithNewline text = text.withoutNewlines ++ ['\n'] := by
  simp only [endWithNewline]

theorem endWithNewline_closed (closed : front.Closed) (rest : Text) :
    endWithNewline (front ++ rest) =
      front ++ if rest.withoutNewlines = [] then ['\n'] else endWithNewline rest := by
  have some : front ≠ [] := by
    obtain ⟨body, last, rfl, -⟩ := closed
    simp
  have visible : (front ++ rest).withoutNewlines ≠ [] := by
    rw [withoutNewlines_append]
    split
    · rwa [withoutNewlines_closed closed]
    · simp [some]
  rw [endWithNewline_some visible, withoutNewlines_append]
  split
  · rw [withoutNewlines_closed closed]
  next more => rw [endWithNewline_some more, List.append_assoc]

theorem unlines_closed {parts : List Text} (some : parts ≠ []) (visible : ∀ part ∈ parts, part ≠ [] ∧ '\n' ∉ part) :
    (unlines parts).Closed := by
  induction parts with
  | nil => exact absurd rfl some
  | cons first others ih =>
    obtain ⟨⟨filled, single⟩, later⟩ := List.forall_mem_cons.mp visible
    rw [unlines, join_cons]
    cases others with
    | nil =>
      rw [continued, List.append_nil]
      exact closed_of_single filled single
    | cons second others =>
      apply Closed.behind
      apply Closed.behind
      exact ih (List.cons_ne_nil _ _) later

/-- Nothing more stands on the line. -/
def EndsLine (rest : Text) : Prop := rest = [] ∨ ∃ more, rest = '\n' :: more

theorem EndsLine.append {rest others : Text} (ends : rest.EndsLine) (behind : others.EndsLine) :
    (rest ++ others).EndsLine := by
  rcases ends with rfl | ⟨more, rfl⟩
  · exact behind
  · exact .inr ⟨more ++ others, rfl⟩

theorem endsLine_continued {separator : Text} (ends : separator.EndsLine) (some : separator ≠ []) (parts : List Text) :
    (continued separator parts).EndsLine := by
  cases parts with
  | nil => exact .inl rfl
  | cons first others =>
    obtain ⟨more, rfl⟩ := ends.resolve_left some
    exact .inr ⟨more ++ join ('\n' :: more) (first :: others), rfl⟩

theorem lines_before {front rest : Text} (closed : front.Closed) (ends : rest.EndsLine) :
    ∃ more, lines (endWithNewline (front ++ rest)) = lines front ++ more := by
  rw [endWithNewline_closed closed]
  by_cases nothing : rest.withoutNewlines = []
  · rw [if_pos nothing]
    exact ⟨[[]], lines_append front []⟩
  · rw [if_neg nothing, endWithNewline_some nothing]
    rcases ends with rfl | ⟨more, rfl⟩
    · exact absurd rfl nothing
    · obtain ⟨visible, same⟩ : ∃ visible, withoutNewlines ('\n' :: more) = '\n' :: visible := by
        have split := withoutNewlines_append ['\n'] more
        rw [List.singleton_append] at split
        split at split
        · exact absurd (split.trans (by decide)) nothing
        · exact ⟨_, split⟩
      rw [same]
      exact ⟨_, lines_append front (visible ++ ['\n'])⟩

end Adocify.Text
