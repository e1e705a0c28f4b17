import Mathlib.Data.List.TakeWhile
import Adocify.Markdown.PipeTable
import Adocify.Proofs.PipeRows

/-! The rows in the body of a pipe table. The lines of the body are those with a pipe, up to the first without one. A
newline ends each of them, and each makes one row, unless another boundary stands inside it: that splits the line further,
and every part is a row of its own. -/

namespace Adocify

namespace Text

variable {c : Char} {line rest first : Text} {others : List Text}

theorem boundaryParts_newline (rest : Text) : boundaryParts ('\n' :: rest) = [] :: boundaryParts rest := rfl

/-- A carriage return and the newline behind it are one boundary. -/
theorem boundaryParts_boundary (ends : isLineBoundary c = true) (alone : c = '\r' → rest.head? ≠ some '\n') :
    boundaryParts (c :: rest) = [] :: boundaryParts rest := by
  rw [boundaryParts]
  · exact if_pos ends
  · rintro more rfl rfl
    exact alone rfl rfl

theorem boundaryParts_inside (inside : isLineBoundary c = false) (parts : boundaryParts rest = first :: others) :
    boundaryParts (c :: rest) = (c :: first) :: others := by
  rw [boundaryParts, if_neg (by simp [inside]), parts]
  rintro more rfl
  exact absurd inside (by decide)

theorem boundaryParts_ne_nil (text : Text) : boundaryParts text ≠ [] := by
  fun_cases boundaryParts text <;> exact List.cons_ne_nil _ _

/-- The parts of a line that a newline ends. -/
def lineParts (line : Text) : List Text := boundedLines (line ++ ['\n'])

/-- A newline stands behind the character, whatever follows it on the line. -/
theorem alone_on_line (apart : ∀ more, c = '\r' → line = '\n' :: more → False) (more : c = '\r' → line ≠ []) :
    c = '\r' → (line ++ '\n' :: rest).head? ≠ some '\n' := by
  rintro same newline
  cases line with
  | nil => exact more same rfl
  | cons d line =>
    obtain rfl := Option.some.inj newline
    exact apart line same rfl

/-- What follows the newline begins another part. -/
theorem boundaryParts_append (line : Text) :
    ∃ first others, ∀ rest, boundaryParts (line ++ '\n' :: rest) = first :: others ++ boundaryParts rest := by
  fun_induction boundaryParts line with
  | case1 => exact ⟨[], [], boundaryParts_newline⟩
  | case2 line ih =>
    obtain ⟨first, others, split⟩ := ih
    exact ⟨[], first :: others, fun rest => congrArg ([] :: ·) (split rest)⟩
  | case3 c line apart ends ih =>
    obtain ⟨first, others, split⟩ := ih
    by_cases last : c = '\r' ∧ line = []
    · obtain ⟨rfl, rfl⟩ := last
      exact ⟨[], [], fun _ => rfl⟩
    · refine ⟨[], first :: others, fun rest => ?_⟩
      have alone : c = '\r' → (line ++ '\n' :: rest).head? ≠ some '\n' :=
        alone_on_line apart fun same none => last ⟨same, none⟩
      rw [List.cons_append, boundaryParts_boundary ends alone, split rest]
      rfl
  | case4 c line apart inside none => exact absurd none (boundaryParts_ne_nil line)
  | case5 c line apart inside first others split ih =>
    obtain ⟨first, others, split⟩ := ih
    refine ⟨c :: first, others, fun rest => ?_⟩
    exact boundaryParts_inside (Bool.not_eq_true _ ▸ inside) (split rest)

theorem lineParts_append (line rest : Text) :
    boundaryParts (line ++ '\n' :: rest) = lineParts line ++ boundaryParts rest := by
  obtain ⟨first, others, split⟩ := boundaryParts_append line
  have closed : boundaryParts (line ++ ['\n']) = first :: others ++ [[]] := split []
  have parts : lineParts line = first :: others := by
    rw [lineParts, boundedLines, closed, List.getLast?_concat, if_pos rfl, List.dropLast_concat]
  rw [split, parts]

theorem lineParts_ne_nil (line : Text) : lineParts line ≠ [] := by
  obtain ⟨first, others, split⟩ := boundaryParts_append line
  have parts := (lineParts_append line []).symm.trans (split [])
  rw [List.append_cancel_right parts]
  exact List.cons_ne_nil _ _

/-- No character ends the line before the newline does; a carriage return directly before that only ends it together
with it. -/
def Whole (line : Text) : Prop :=
  ∀ front c behind, line = front ++ c :: behind → isLineBoundary c = true → c = '\r' ∧ behind = []

theorem whole_nil : Whole [] := by
  intro front c behind same
  exact absurd same.symm (List.append_ne_nil_of_right_ne_nil _ (List.cons_ne_nil _ _))

theorem whole_cons : Whole (c :: line) ↔ (isLineBoundary c = true → c = '\r' ∧ line = []) ∧ Whole line := by
  constructor
  · intro whole
    refine ⟨whole [] c line rfl, ?_⟩
    rintro front d behind rfl
    exact whole (c :: front) d behind rfl
  · rintro ⟨here, later⟩ front d behind same ends
    cases front with
    | nil =>
      obtain ⟨rfl, rfl⟩ := List.cons.inj same
      exact here ends
    | cons e front => exact later front d behind (List.cons.inj same).2 ends

instance : (line : Text) → Decidable (Whole line)
  | [] => isTrue whole_nil
  | c :: line =>
    have : Decidable (Whole line) := instDecidableWhole line
    decidable_of_iff ((isLineBoundary c = true → c = '\r' ∧ line = []) ∧ Whole line) whole_cons.symm

theorem lineParts_closed (line : Text) : boundaryParts (line ++ ['\n']) = lineParts line ++ [[]] :=
  lineParts_append line []

theorem lineParts_inside (inside : isLineBoundary c = false) (parts : lineParts line = first :: others) :
    lineParts (c :: line) = (c :: first) :: others := by
  have closed := lineParts_closed line
  rw [parts] at closed
  apply (List.append_left_inj [[]]).mp
  exact (lineParts_closed (c :: line)).symm.trans (boundaryParts_inside inside closed)

/-- A whole line is one part, but for the carriage return at its end. -/
theorem Whole.single (whole : Whole line) : ∃ part, lineParts line = [part] ∧ (line = part ∨ line = part ++ ['\r']) := by
  induction line with
  | nil => exact ⟨[], rfl, .inl rfl⟩
  | cons c line ih =>
    obtain ⟨here, later⟩ := whole_cons.mp whole
    by_cases ends : isLineBoundary c = true
    · obtain ⟨rfl, rfl⟩ := here ends
      exact ⟨[], rfl, .inr rfl⟩
    · obtain ⟨part, parts, same⟩ := ih later
      refine ⟨c :: part, lineParts_inside (Bool.not_eq_true _ ▸ ends) parts, ?_⟩
      rcases same with rfl | rfl
      · exact .inl rfl
      · exact .inr rfl

/-- Any other boundary has a part on both of its sides. -/
theorem lineParts_broken (ends : isLineBoundary c = true) (inner : ¬(c = '\r' ∧ line = [])) :
    ∃ below, lineParts (c :: line) = [] :: below ∧ below ≠ [] := by
  by_cases pair : c = '\r' ∧ ∃ more, line = '\n' :: more
  · obtain ⟨rfl, more, rfl⟩ := pair
    refine ⟨lineParts more, ?_, lineParts_ne_nil more⟩
    apply (List.append_left_inj [[]]).mp
    exact (lineParts_closed _).symm.trans (congrArg ([] :: ·) (lineParts_closed more))
  · have alone : c = '\r' → (line ++ '\n' :: []).head? ≠ some '\n' :=
      alone_on_line (fun more same next => pair ⟨same, more, next⟩) fun same none => inner ⟨same, none⟩
    refine ⟨lineParts line, ?_, lineParts_ne_nil line⟩
    apply (List.append_left_inj [[]]).mp
    rw [← lineParts_closed, List.cons_append, boundaryParts_boundary ends alone, lineParts_closed]
    rfl

theorem whole_of_single (single : (lineParts line).length = 1) : Whole line := by
  induction line with
  | nil => exact whole_nil
  | cons c line ih =>
    by_cases ends : isLineBoundary c = true
    · by_cases last : c = '\r' ∧ line = []
      · obtain ⟨rfl, rfl⟩ := last
        exact whole_cons.mpr ⟨fun _ => ⟨rfl, rfl⟩, whole_nil⟩
      · obtain ⟨below, parts, more⟩ := lineParts_broken ends last
        rw [parts, List.length_cons, Nat.succ.injEq, List.length_eq_zero_iff] at single
        exact absurd single more
    · obtain ⟨first, others, parts⟩ := List.exists_cons_of_ne_nil (lineParts_ne_nil line)
      rw [lineParts_inside (Bool.not_eq_true _ ▸ ends) parts] at single
      rw [parts] at ih
      exact whole_cons.mpr ⟨fun boundary => absurd boundary ends, ih single⟩

end Text

namespace Markdown

open Text (lineParts Whole)

theorem boundedLines_terminated (lines : List Text) : Text.boundedLines (terminated lines) = lines.flatMap lineParts := by
  have closed : Text.boundaryParts (terminated lines) = lines.flatMap lineParts ++ [[]] := by
    induction lines with
    | nil => rfl
    | cons line lines ih =>
      have first : terminated (line :: lines) = line ++ '\n' :: terminated lines := by simp [terminated]
      rw [first, Text.lineParts_append, ih, List.flatMap_cons, List.append_assoc]
  rw [Text.boundedLines, closed, List.getLast?_concat, if_pos rfl, List.dropLast_concat]

namespace PipeTable

variable {lines body after : List Text} {header delimiters line : Text} {columns : Nat}

/-- The lines are those of a table and what follows it: a header, the line under it, and all lines with a pipe up to the
first without one. -/
structure Matches (lines : List Text) (header delimiters : Text) (body after : List Text) : Prop where
  lines : lines = header :: delimiters :: (body ++ after)
  header : isHeader header = true
  delimiters : isDelimiterRow delimiters = true
  body : ∀ line ∈ body, hasPipe line = true
  longest : ∀ line ∈ after.head?, hasPipe line = false

theorem Matches.taken (matched : Matches lines header delimiters body after) :
    (body ++ after).takeWhile hasPipe = body ∧ (body ++ after).dropWhile hasPipe = after := by
  rw [List.takeWhile_append_of_pos matched.body, List.dropWhile_append_of_pos matched.body]
  cases after with
  | nil => exact ⟨List.append_nil body, rfl⟩
  | cons line after =>
    have bare : ¬hasPipe line = true := Bool.not_eq_true _ ▸ matched.longest line rfl
    rw [List.takeWhile_cons_of_neg bare, List.dropWhile_cons_of_neg bare]
    exact ⟨List.append_nil body, rfl⟩

/-- Each part of a line is a row of its own. -/
theorem bodyRows_eq (columns : Nat) (body : List Text) :
    bodyRows columns body = body.flatMap fun line => (lineParts line).map (rowCells columns) := by
  rw [bodyRows, boundedLines_terminated, List.map_flatMap]

theorem whole_row (whole : Whole line) : (lineParts line).map (rowCells columns) = [rowCells columns line] := by
  obtain ⟨part, parts, same⟩ := whole.single
  rw [parts, List.map_singleton]
  rcases same with rfl | rfl
  · rfl
  · rw [rowCells, rowCells, splitRow, splitRow, Text.strip_concat (by decide)]

theorem bodyRows_length (columns : Nat) (body : List Text) : body.length ≤ (bodyRows columns body).length := by
  rw [bodyRows_eq]
  induction body with
  | nil => exact Nat.le_refl 0
  | cons line body ih =>
    have filled := List.length_pos_iff.mpr (Text.lineParts_ne_nil line)
    rw [List.flatMap_cons, List.length_append, List.length_map, List.length_cons]
    omega

/-- One row for each line, exactly if nothing ends any of them early. -/
theorem bodyRows_lines : bodyRows columns body = body.map (rowCells columns) ↔ ∀ line ∈ body, Whole line := by
  constructor
  · intro same
    have lengths : (bodyRows columns body).length = body.length := by rw [same, List.length_map]
    clear same
    induction body with
    | nil => exact List.forall_mem_nil _
    | cons line body ih =>
      have filled := List.length_pos_iff.mpr (Text.lineParts_ne_nil line)
      have others := bodyRows_length columns body
      rw [bodyRows_eq, List.flatMap_cons, ← bodyRows_eq, List.length_append, List.length_map, List.length_cons] at lengths
      exact List.forall_mem_cons.mpr ⟨Text.whole_of_single (by omega), ih (by omega)⟩
  · intro whole
    rw [bodyRows_eq]
    induction body with
    | nil => rfl
    | cons line body ih =>
      obtain ⟨here, later⟩ := List.forall_mem_cons.mp whole
      rw [List.flatMap_cons, whole_row here, List.singleton_append, List.map_cons, ih later]

/-- A header and a line under it that agree in the number of cells make a table. Each line of its body is one row, with as
many cells as there are columns at most, exactly if no boundary stands inside any of them; each part of a line that has one
is a row of its own. -/
theorem rows_are_lines_iff (matched : Matches lines header delimiters body after)
    (alike : (splitRow header).length = (splitRow delimiters).length) :
    ∃ table, ofLines? lines = some (table, after) ∧ table.header = splitRow header ∧
      (table.rows = body.map (fun line => (splitRow line).take (splitRow header).length) ↔ ∀ line ∈ body, Whole line) ∧
      table.rows = body.flatMap fun line =>
        (lineParts line).map fun part => (splitRow part).take (splitRow header).length := by
  obtain ⟨taken, left⟩ := matched.taken
  have begins : beginsAt (header :: delimiters :: (body ++ after)) = true := by
    rw [beginsAt, matched.header, matched.delimiters]
    rfl
  have fits : (splitRow header).length == ((splitRow delimiters).map cellAlignment).length := by
    rw [List.length_map, alike, beq_self_eq_true]
  refine ⟨⟨splitRow header, (splitRow delimiters).map cellAlignment, bodyRows (splitRow header).length body⟩, ?_, rfl,
    bodyRows_lines, bodyRows_eq _ _⟩
  rw [matched.lines, ofLines?, begins, fits, taken, left]
  rfl

/-- Rows that are too short and too long, and a line behind them that is none. -/
def unevenRows : List Text := ["| 1 |".toList, "| 1 | 2 | 3".toList]

theorem rows_are_lines_iff_uneven :
    Matches ("| A | B |".toList :: "|---|---|".toList :: (unevenRows ++ ["end".toList])) "| A | B |".toList
        "|---|---|".toList unevenRows ["end".toList] ∧
      (splitRow "| A | B |".toList).length = (splitRow "|---|---|".toList).length ∧
      ∃ table, ofLines? ("| A | B |".toList :: "|---|---|".toList :: (unevenRows ++ ["end".toList])) =
          some (table, ["end".toList]) ∧
        table.rows = [[['1']], [['1'], ['2']]] := by
  have matched : Matches ("| A | B |".toList :: "|---|---|".toList :: (unevenRows ++ ["end".toList])) "| A | B |".toList
      "|---|---|".toList unevenRows ["end".toList] :=
    ⟨rfl, by decide, by decide, by decide, by decide⟩
  have alike : (splitRow "| A | B |".toList).length = (splitRow "|---|---|".toList).length := by decide
  obtain ⟨table, found, -, lines, -⟩ := rows_are_lines_iff matched alike
  refine ⟨matched, alike, table, found, ?_⟩
  rw [lines.mpr (by decide)]
  decide

/-- A line separator inside a line makes two rows of it. -/
theorem separator_splits_row :
    Matches ["| A | B |".toList, "|---|---|".toList, "| x\u2028y | z |".toList] "| A | B |".toList "|---|---|".toList
        ["| x\u2028y | z |".toList] [] ∧
      (ofLines? ["| A | B |".toList, "|---|---|".toList, "| x\u2028y | z |".toList]).map (·.1.rows) =
        some [[['x']], [['y'], ['z']]] :=
  ⟨⟨rfl, by decide, by decide, by decide, by decide⟩, by decide⟩

end PipeTable

end Markdown

end Adocify
