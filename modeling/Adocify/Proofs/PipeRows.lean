import Adocify.Markdown.PipeRow
import Adocify.Proofs.TextSearch
import Adocify.Proofs.TextTrimming

/-! Rows of pipe tables, written and read. A row is written with a pipe and a blank on both sides of each cell. Reading
it gives back the cells that can stand in a row at all, and the cells of any line can. -/

namespace Adocify.Markdown

variable {text behind cell part : Text} {before : Option Char} {c : Char} {cells parts : List Text}

/-- Every pipe of the text has a backslash directly before it, where `before` stands before the text. -/
def PipesEscaped (before : Option Char) (text : Text) : Prop :=
  ∀ front behind, text = front ++ '|' :: behind → front.getLast?.or before = some '\\'

theorem pipesEscaped_nil : PipesEscaped before [] := by
  intro front behind same
  exact absurd same.symm (List.append_ne_nil_of_right_ne_nil _ (List.cons_ne_nil _ _))

theorem pipesEscaped_cons :
    PipesEscaped before (c :: text) ↔ (c = '|' → before = some '\\') ∧ PipesEscaped (some c) text := by
  constructor
  · intro escaped
    refine ⟨?_, ?_⟩
    · rintro rfl
      exact escaped [] text rfl
    · rintro front rest rfl
      exact Text.getLast?_behind front ▸ escaped (c :: front) rest rfl
  · rintro ⟨here, later⟩ front rest same
    cases front with
    | nil => exact here (List.cons.inj same).1
    | cons d front =>
      obtain ⟨rfl, rfl⟩ := List.cons.inj same
      exact Text.getLast?_behind front ▸ later front rest rfl

theorem pipesEscaped_append :
    PipesEscaped before (text ++ behind) ↔
      PipesEscaped before text ∧ PipesEscaped (text.getLast?.or before) behind := by
  induction text generalizing before with
  | nil => simp [pipesEscaped_nil]
  | cons c rest ih =>
    rw [List.cons_append, pipesEscaped_cons, pipesEscaped_cons, ih, and_assoc, Text.getLast?_behind]

/-- What stands before a text only counts if it is a backslash. -/
theorem pipesEscaped_behind (other : before ≠ some '\\') : PipesEscaped before text ↔ PipesEscaped none text := by
  cases text with
  | nil => exact iff_of_true pipesEscaped_nil pipesEscaped_nil
  | cons c rest => simp [pipesEscaped_cons, other]

theorem PipesEscaped.strip (escaped : PipesEscaped none text) : PipesEscaped none (Text.strip text) := by
  have ended : PipesEscaped none (Text.stripLeft text) := by
    induction text with
    | nil => exact escaped
    | cons c rest ih =>
      obtain ⟨-, later⟩ := pipesEscaped_cons.mp escaped
      by_cases blank : Text.isBlank c = true
      · have other : some c ≠ some '\\' := by
          rintro ⟨⟩
          exact absurd blank (by decide)
        rw [Text.stripLeft_cons blank]
        exact ih ((pipesEscaped_behind other).mp later)
      · rwa [Text.stripLeft, List.dropWhile_cons_of_neg blank]
  obtain ⟨more, same⟩ : Text.strip text <+: Text.stripLeft text := Text.stripRight_prefix _
  rw [← same, pipesEscaped_append] at ended
  exact ended.1

/-- A cell that can stand in a row: no blanks are around it, and each of its pipes has a backslash directly before it. -/
structure FitsRow (cell : Text) : Prop where
  trimmed : Text.strip cell = cell
  escaped : ∀ front behind, cell = front ++ '|' :: behind → front.getLast? = some '\\'

theorem fitsRow_iff : FitsRow cell ↔ Text.strip cell = cell ∧ PipesEscaped none cell := by
  simp only [PipesEscaped, Option.or_none]
  exact ⟨fun fits => ⟨fits.trimmed, fits.escaped⟩, fun ⟨trimmed, escaped⟩ => ⟨trimmed, escaped⟩⟩

def writtenRow (cells : List Text) : Text := "| ".toList ++ Text.join " | ".toList cells ++ " |".toList

/-! ### Splitting -/

theorem splitAtPipes_ne_nil (escaped : Bool) (text : Text) : splitAtPipes escaped text ≠ [] := by
  cases text with
  | nil => exact List.cons_ne_nil _ _
  | cons c rest =>
    rw [splitAtPipes]
    split
    · exact List.cons_ne_nil _ _
    · split <;> exact List.cons_ne_nil _ _

theorem splitAtPipes_pipe (rest : Text) : splitAtPipes false ('|' :: rest) = [] :: splitAtPipes false rest := rfl

theorem splitAtPipes_other {escaped : Bool} (other : c = '|' → escaped = true) {rest first : Text} {others : List Text}
    (split : splitAtPipes (c = '\\') rest = first :: others) :
    splitAtPipes escaped (c :: rest) = (c :: first) :: others := by
  have inside : ¬(c = '|' && !escaped) = true := by
    rw [Bool.and_eq_true, decide_eq_true_iff]
    rintro ⟨pipe, bare⟩
    rw [other pipe] at bare
    cases bare
  rw [splitAtPipes, if_neg inside, split]

/-- A text whose pipes are escaped is one part, up to the end or up to a pipe that is not. -/
theorem splitAtPipes_escaped (escaped : PipesEscaped before text) :
    splitAtPipes (before = some '\\') text = [text] ∧
      (text.getLast?.or before ≠ some '\\' → ∀ rest,
        splitAtPipes (before = some '\\') (text ++ '|' :: rest) = text :: splitAtPipes false rest) := by
  induction text generalizing before with
  | nil =>
    refine ⟨rfl, fun bare rest => ?_⟩
    have bare : before ≠ some '\\' := bare
    rw [decide_eq_false bare]
    rfl
  | cons c text ih =>
    obtain ⟨here, later⟩ := pipesEscaped_cons.mp escaped
    have other : c = '|' → decide (before = some '\\') = true := fun pipe => decide_eq_true (here pipe)
    obtain ⟨whole, upTo⟩ := ih later
    simp only [Option.some.injEq] at whole upTo
    refine ⟨splitAtPipes_other other whole, fun bare rest => ?_⟩
    rw [Text.getLast?_behind] at bare
    exact splitAtPipes_other other (upTo bare rest)

theorem splitAtPipes_join (filled : parts ≠ []) (escaped : ∀ part ∈ parts, PipesEscaped none part)
    (bare : ∀ part ∈ parts, part.getLast? ≠ some '\\') : splitAtPipes false (Text.join ['|'] parts) = parts := by
  induction parts with
  | nil => exact absurd rfl filled
  | cons first others ih =>
    obtain ⟨here, later⟩ := List.forall_mem_cons.mp escaped
    obtain ⟨bareHere, bareLater⟩ := List.forall_mem_cons.mp bare
    obtain ⟨whole, upTo⟩ := splitAtPipes_escaped here
    rw [Text.join_cons]
    cases others with
    | nil => rwa [Text.continued, List.append_nil]
    | cons second others =>
      rw [Text.continued_cons, List.singleton_append]
      exact (upTo (by rwa [Option.or_none]) _).trans (congrArg _ (ih (List.cons_ne_nil _ _) later bareLater))

/-- No pipe that is not escaped is left in a part. -/
theorem escaped_splitAtPipes (text : Text) (before : Option Char) :
    ∃ first others, splitAtPipes (before = some '\\') text = first :: others ∧ PipesEscaped before first ∧
      ∀ part ∈ others, PipesEscaped none part := by
  induction text generalizing before with
  | nil => exact ⟨[], [], rfl, pipesEscaped_nil, List.forall_mem_nil _⟩
  | cons c rest ih =>
    by_cases separates : c = '|' ∧ before ≠ some '\\'
    · obtain ⟨rfl, bare⟩ := separates
      obtain ⟨first, others, split, escaped, later⟩ := ih none
      refine ⟨[], first :: others, ?_, pipesEscaped_nil, List.forall_mem_cons.mpr ⟨escaped, later⟩⟩
      rw [decide_eq_false bare, splitAtPipes_pipe, List.cons_inj_right]
      exact split
    · have other : c = '|' → before = some '\\' := fun pipe => not_not.mp fun bare => separates ⟨pipe, bare⟩
      obtain ⟨first, others, split, escaped, later⟩ := ih (some c)
      simp only [Option.some.injEq] at split
      exact ⟨c :: first, others, splitAtPipes_other (fun pipe => decide_eq_true (other pipe)) split,
        pipesEscaped_cons.mpr ⟨other, escaped⟩, later⟩

/-! ### Rows -/

theorem splitRow_ne_nil (line : Text) : splitRow line ≠ [] := by
  rw [splitRow, Ne, List.map_eq_nil_iff]
  exact splitAtPipes_ne_nil _ _

theorem splitRow_fits {line : Text} (member : cell ∈ splitRow line) : FitsRow cell := by
  obtain ⟨part, inside, rfl⟩ := List.mem_map.mp member
  obtain ⟨first, others, split, escaped, later⟩ :=
    escaped_splitAtPipes (withoutTrailingPipe (withoutLeadingPipe (Text.strip line))) none
  have split : splitAtPipes false _ = first :: others := split
  rw [split] at inside
  have all : ∀ part ∈ first :: others, PipesEscaped none part := List.forall_mem_cons.mpr ⟨escaped, later⟩
  exact fitsRow_iff.mpr ⟨Text.strip_again part, (all part inside).strip⟩

/-- A cell with the blanks around it. -/
def spaced (cell : Text) : Text := ' ' :: (cell ++ [' '])

theorem strip_spaced (cell : Text) : Text.strip (spaced cell) = Text.strip cell := by
  rw [spaced, Text.strip_cons (by decide), Text.strip_concat (by decide)]

theorem spaced_escaped (escaped : PipesEscaped none cell) : PipesEscaped none (spaced cell) := by
  refine pipesEscaped_cons.mpr ⟨nofun, pipesEscaped_append.mpr ⟨(pipesEscaped_behind (by decide)).mpr escaped, ?_⟩⟩
  exact pipesEscaped_cons.mpr ⟨nofun, pipesEscaped_nil⟩

theorem writtenRow_eq (filled : cells ≠ []) : writtenRow cells = '|' :: (Text.join ['|'] (cells.map spaced) ++ ['|']) := by
  have joined : ' ' :: (Text.join " | ".toList cells ++ [' ']) = Text.join ['|'] (cells.map spaced) := by
    induction cells with
    | nil => exact absurd rfl filled
    | cons first others ih =>
      rw [List.map_cons, Text.join_cons, Text.join_cons]
      cases others with
      | nil => simp [Text.continued, spaced]
      | cons second others =>
        have rest := ih (List.cons_ne_nil _ _)
        rw [List.map_cons] at rest ⊢
        rw [Text.continued_cons, Text.continued_cons, ← rest]
        simp [spaced]
  rw [← joined]
  simp [writtenRow]

theorem withoutTrailingPipe_spaced (front : Text) : withoutTrailingPipe (front ++ " |".toList) = front ++ [' '] := by
  simp [withoutTrailingPipe]

theorem splitRow_writtenRow (filled : cells ≠ []) :
    splitRow (writtenRow cells) = (splitAtPipes false (Text.join ['|'] (cells.map spaced))).map Text.strip := by
  have front : ∃ front, Text.join ['|'] (cells.map spaced) = front ++ [' '] := by
    induction cells with
    | nil => exact absurd rfl filled
    | cons first others ih =>
      rw [List.map_cons, Text.join_cons]
      cases others with
      | nil => exact ⟨' ' :: first, by simp [Text.continued, spaced]⟩
      | cons second others =>
        obtain ⟨front, same⟩ := ih (List.cons_ne_nil _ _)
        rw [List.map_cons] at same ⊢
        exact ⟨spaced first ++ ('|' :: front), by rw [Text.continued_cons, same]; simp⟩
  obtain ⟨front, same⟩ := front
  rw [splitRow, writtenRow_eq filled, Text.strip_visible (by decide) (by decide), withoutLeadingPipe, same]
  exact congrArg (fun row => (splitAtPipes false row).map Text.strip)
    (by rw [List.append_assoc]; exact withoutTrailingPipe_spaced front)

theorem splitRow_written (filled : cells ≠ []) (fits : ∀ cell ∈ cells, FitsRow cell) :
    splitRow (writtenRow cells) = cells := by
  have split : splitAtPipes false (Text.join ['|'] (cells.map spaced)) = cells.map spaced := by
    apply splitAtPipes_join (List.map_eq_nil_iff.not.mpr filled)
    · intro part member
      obtain ⟨cell, inside, rfl⟩ := List.mem_map.mp member
      exact spaced_escaped (fitsRow_iff.mp (fits cell inside)).2
    · intro part member
      obtain ⟨cell, -, rfl⟩ := List.mem_map.mp member
      rw [spaced, ← List.cons_append, List.getLast?_concat]
      decide
  rw [splitRow_writtenRow filled, split, List.map_map]
  conv_rhs => rw [← List.map_id cells]
  exact List.map_congr_left fun cell member => (strip_spaced cell).trans (fits cell member).trimmed

/-- A row is read back exactly if all of its cells can stand in one, and the cells of every line can. -/
theorem row_read_back :
    (∀ cells, splitRow (writtenRow cells) = cells ↔ cells ≠ [] ∧ ∀ cell ∈ cells, FitsRow cell) ∧
      ∀ line, splitRow line ≠ [] ∧ (∀ cell ∈ splitRow line, FitsRow cell) ∧
        splitRow (writtenRow (splitRow line)) = splitRow line := by
  refine ⟨fun cells => ⟨fun same => ?_, fun ⟨filled, fits⟩ => splitRow_written filled fits⟩, fun line => ?_⟩
  · exact same ▸ ⟨splitRow_ne_nil _, fun _ member => splitRow_fits member⟩
  · have fits : ∀ cell ∈ splitRow line, FitsRow cell := fun _ member => splitRow_fits member
    exact ⟨splitRow_ne_nil line, fits, splitRow_written (splitRow_ne_nil line) fits⟩

/-- Cells that are empty, that end in a backslash, and that hold a pipe. -/
def roughCells : List Text := [[], "a\\".toList, "x\\|y".toList, []]

theorem row_read_back_rough : roughCells ≠ [] ∧ (∀ cell ∈ roughCells, FitsRow cell) ∧
    splitRow "|  | a\\ | x\\|y |  |".toList = roughCells := by
  have trimmed : ∀ cell ∈ roughCells, Text.strip cell = cell := by decide
  have escaped : ∀ cell ∈ roughCells, PipesEscaped none cell := by
    simp [roughCells, pipesEscaped_cons, pipesEscaped_nil]
  have fits : ∀ cell ∈ roughCells, FitsRow cell := fun cell member =>
    fitsRow_iff.mpr ⟨trimmed cell member, escaped cell member⟩
  have filled : roughCells ≠ [] := List.cons_ne_nil _ _
  have whole : writtenRow roughCells = "|  | a\\ | x\\|y |  |".toList := by decide
  exact ⟨filled, fits, whole ▸ (row_read_back.1 roughCells).mpr ⟨filled, fits⟩⟩

end Adocify.Markdown
