import Mathlib.Data.List.TakeWhile
import Adocify.FrontMatter.Metadata
import Adocify.Proofs.TextLines

/-! Where the metadata of a text end. The block is bounded by the first line and by the next line that is the same
delimiter, unless a blank line comes before that. What is left of the text begins with a visible line. -/

namespace Adocify.Text

theorem unlines_cons {line : Text} {others : List Text} (some : others ≠ []) :
    unlines (line :: others) = line ++ '\n' :: unlines others := by
  obtain ⟨second, others, rfl⟩ := List.exists_cons_of_ne_nil some
  rw [unlines, join_cons, continued_cons]
  rfl

/-- The last lines of a text are its end. -/
theorem unlines_suffix {lines below : List Text} (ends : below <:+ lines) : unlines below <:+ unlines lines := by
  obtain ⟨above, rfl⟩ := ends
  by_cases none : below = []
  · rw [none]
    exact List.nil_suffix
  induction above with
  | nil => exact List.suffix_refl _
  | cons line above ih =>
    rw [List.cons_append, unlines_cons (List.append_ne_nil_of_right_ne_nil _ none)]
    exact (ih.trans (List.suffix_cons _ _)).trans (List.suffix_append _ _)

end Adocify.Text

namespace Adocify.FrontMatter

namespace Block

/-- Blanks behind the delimiter do not count. -/
def Bounds (style : Style) (line : Text) : Prop := Text.stripRight line = style.delimiter

instance (style : Style) (line : Text) : Decidable (Bounds style line) := inferInstanceAs (Decidable (_ = _))

/-- The lines begin with the block: it lies between two lines of its delimiter and has no blank line in it. -/
def Heads (block : Block) (lines : List Text) : Prop :=
  ∃ opening closing, lines = opening :: (block.content ++ closing :: block.after) ∧ Bounds block.style opening ∧
    Bounds block.style closing ∧ ∀ line ∈ block.content, Text.isBlankText line = false

/-- The block ends at the first line that can close it. -/
def ClosedFirst (block : Block) : Prop := ∀ line ∈ block.content, ¬Bounds block.style line

instance (block : Block) : Decidable block.ClosedFirst :=
  inferInstanceAs (Decidable (∀ line ∈ block.content, ¬Bounds block.style line))

end Block

open Block (Bounds)

section

variable {style : Style} {lines content after : List Text} {line : Text} {block : Block}

theorem ofLine?_iff : Style.ofLine? line = some style ↔ Bounds style line := by
  constructor
  · intro found
    have same := List.find?_some found
    exact (beq_iff_eq.mp same).symm
  · intro bounds
    rw [Bounds] at bounds
    rw [Style.ofLine?, bounds]
    cases style <;> rfl

theorem splitAtClosing_iff : splitAtClosing style lines = some (content, after) ↔
    ∃ closing, lines = content ++ closing :: after ∧ Bounds style closing ∧
      ∀ line ∈ content, ¬Bounds style line ∧ Text.isBlankText line = false := by
  induction lines generalizing content with
  | nil => simp [splitAtClosing]
  | cons line rest ih =>
    by_cases closes : Bounds style line
    · rw [splitAtClosing, if_pos (show Text.stripRight line = style.delimiter from closes)]
      constructor
      · rintro ⟨⟩
        exact ⟨line, rfl, closes, fun _ member => absurd member List.not_mem_nil⟩
      · rintro ⟨closing, same, -, inside⟩
        cases content with
        | nil => cases same; rfl
        | cons first content =>
          cases same
          exact absurd closes (inside line List.mem_cons_self).1
    · rw [splitAtClosing, if_neg (show ¬Text.stripRight line = style.delimiter from closes)]
      constructor
      · intro split
        by_cases blank : Text.isBlankText line = true
        · rw [if_pos blank] at split
          cases split
        · rw [if_neg blank, Option.map_eq_some_iff] at split
          obtain ⟨⟨below, _⟩, found, ⟨⟩⟩ := split
          obtain ⟨closing, rfl, bounds, inside⟩ := ih.mp found
          exact ⟨closing, rfl, bounds, List.forall_mem_cons.mpr ⟨⟨closes, Bool.not_eq_true _ ▸ blank⟩, inside⟩⟩
      · rintro ⟨closing, same, bounds, inside⟩
        cases content with
        | nil =>
          cases same
          exact absurd bounds closes
        | cons first content =>
          cases same
          obtain ⟨⟨-, visible⟩, inside⟩ := List.forall_mem_cons.mp inside
          rw [visible, if_neg Bool.false_ne_true, ih.mpr ⟨closing, rfl, bounds, inside⟩]
          rfl

theorem splitAtClosing_isSome {closing : Text} (closes : Bounds style closing)
    (visible : ∀ line ∈ content, Text.isBlankText line = false) :
    (splitAtClosing style (content ++ closing :: after)).isSome := by
  induction content with
  | nil =>
    rw [List.nil_append, splitAtClosing, if_pos (show Text.stripRight closing = style.delimiter from closes)]
    rfl
  | cons line content ih =>
    obtain ⟨here, below⟩ := List.forall_mem_cons.mp visible
    rw [List.cons_append, splitAtClosing]
    split
    · rfl
    · rw [here, if_neg Bool.false_ne_true, Option.isSome_map]
      exact ih below

end

namespace Block

variable {text : Text} {block : Block}

theorem ofText?_iff : ofText? text = some block ↔ block.Heads (Text.lines text) ∧ block.ClosedFirst := by
  rw [ofText?]
  constructor
  · intro found
    cases lines : Text.lines text with
    | nil => exact absurd lines (Text.lines_ne_nil text)
    | cons opening rest =>
      rw [lines, ofLines?] at found
      obtain ⟨style, opens, found⟩ := Option.bind_eq_some_iff.mp found
      obtain ⟨⟨content, after⟩, split, ⟨⟩⟩ := Option.bind_eq_some_iff.mp found
      obtain ⟨closing, rfl, closes, inside⟩ := splitAtClosing_iff.mp split
      exact ⟨⟨opening, closing, rfl, ofLine?_iff.mp opens, closes, fun line member => (inside line member).2⟩,
        fun line member => (inside line member).1⟩
  · rintro ⟨⟨opening, closing, lines, opens, closes, visible⟩, first⟩
    have split : splitAtClosing block.style (block.content ++ closing :: block.after) = some (block.content, block.after) :=
      splitAtClosing_iff.mpr ⟨closing, rfl, closes, fun line member => ⟨first line member, visible line member⟩⟩
    rw [lines, ofLines?, ofLine?_iff.mpr opens, Option.bind_eq_bind, Option.bind_some, split]
    rfl

/-- A line that can close the block need not be the first: the text then begins with a shorter block. -/
theorem ofText?_isSome : (ofText? text).isSome ↔ ∃ block : Block, block.Heads (Text.lines text) := by
  constructor
  · intro found
    obtain ⟨block, found⟩ := Option.isSome_iff_exists.mp found
    exact ⟨block, (ofText?_iff.mp found).1⟩
  · rintro ⟨block, opening, closing, lines, opens, closes, visible⟩
    have closed : (splitAtClosing block.style (block.content ++ closing :: block.after)).isSome :=
      splitAtClosing_isSome closes visible
    obtain ⟨split, found⟩ := Option.isSome_iff_exists.mp closed
    rw [ofText?, lines, ofLines?, ofLine?_iff.mpr opens, Option.bind_eq_bind, Option.bind_some, found]
    rfl

theorem Heads.suffix (heads : block.Heads (Text.lines text)) : block.body <:+ text := by
  obtain ⟨opening, closing, lines, -⟩ := heads
  have ends : block.after.dropWhile Text.isBlankText <:+ Text.lines text := by
    rw [lines, ← List.cons_append, List.append_cons]
    exact (List.dropWhile_suffix _).trans (List.suffix_append _ _)
  have ends := Text.unlines_suffix ends
  rwa [Text.unlines_lines] at ends

theorem Heads.single (heads : block.Heads (Text.lines text)) {line : Text} (member : line ∈ block.after) :
    '\n' ∉ line := by
  obtain ⟨opening, closing, lines, -⟩ := heads
  have inside : line ∈ Text.lines text := by
    rw [lines]
    exact List.mem_cons_of_mem _ (List.mem_append_right _ (List.mem_cons_of_mem _ member))
  exact Text.single_of_mem_lines inside

theorem Heads.body_begins (heads : block.Heads (Text.lines text)) :
    block.body = [] ∨ ∃ first others, Text.lines block.body = first :: others ∧ Text.isBlankText first = false := by
  rw [body]
  cases left : block.after.dropWhile Text.isBlankText with
  | nil => exact .inl rfl
  | cons first others =>
    have single : ∀ line ∈ first :: others, '\n' ∉ line := fun line member =>
      heads.single ((List.dropWhile_suffix _).subset (left ▸ member))
    refine .inr ⟨first, others, (Text.lines_unlines_iff (List.cons_ne_nil _ _)).mpr single, ?_⟩
    have visible := List.head?_dropWhile_not Text.isBlankText block.after
    rwa [left, List.head?_cons] at visible

end Block

/-- What is left of a text that begins with the block: what its lines mean to the loader, and the text behind it from
the first visible line on. -/
structure Cut (loader : Loader) (block : Block) (text : Text) (parsed : Parsed) : Prop where
  loaded : metadataOf (loader block.style (Text.unlines block.content)) = .ok (parsed.metadata, parsed.log)
  body : parsed.body = Text.unlines (block.after.dropWhile Text.isBlankText)
  suffix : parsed.body <:+ text
  begins : parsed.body = [] ∨
    ∃ first others, Text.lines parsed.body = first :: others ∧ Text.isBlankText first = false

section

variable {loader : Loader} {text : Text} {parsed : Parsed} {block : Block}

theorem parse_cut (found : Block.ofText? text = some block) (returned : parse loader text = .ok parsed) :
    Cut loader block text parsed := by
  have heads := (Block.ofText?_iff.mp found).1
  rw [parse, found] at returned
  cases loaded : metadataOf (loader block.style block.source) with
  | error failure =>
    simp only [loaded] at returned
    cases returned
  | ok kept =>
    simp only [loaded] at returned
    cases returned
    exact ⟨loaded, rfl, heads.suffix, heads.body_begins⟩

theorem parse_kept (none : Block.ofText? text = none) : parse loader text = .ok { metadata := [], body := text } := by
  rw [parse, none]

/-- A text that begins with a block is cut behind the first line that can close it; any other stays whole. -/
theorem parse_cuts_exactly (returned : parse loader text = .ok parsed) :
    ((Block.ofText? text).isSome ↔ ∃ block : Block, block.Heads (Text.lines text)) ∧
      (∀ block : Block, block.Heads (Text.lines text) → block.ClosedFirst → Cut loader block text parsed) ∧
      ((∃ block : Block, block.Heads (Text.lines text)) →
        ∃! block : Block, block.Heads (Text.lines text) ∧ block.ClosedFirst) ∧
      ((¬∃ block : Block, block.Heads (Text.lines text)) → parsed = { metadata := [], body := text }) := by
  refine ⟨Block.ofText?_isSome, fun block heads first => parse_cut (Block.ofText?_iff.mpr ⟨heads, first⟩) returned,
    fun some => ?_, fun none => ?_⟩
  · obtain ⟨block, found⟩ := Option.isSome_iff_exists.mp (Block.ofText?_isSome.mpr some)
    refine ⟨block, Block.ofText?_iff.mp found, fun other heads => ?_⟩
    exact Option.some.inj ((Block.ofText?_iff.mpr heads).symm.trans found)
  · have none := Option.not_isSome_iff_eq_none.mp (Block.ofText?_isSome.not.mpr none)
    exact Except.ok.inj (returned.symm.trans (parse_kept none))

def cutPage : Text := "+++ \t\n# ---\ntitle = 'A'\n+++\u000c\n \t\n\n  Body\n+++\n".toList

def cutBlock : Block where
  style := .toml
  content := ["# ---".toList, "title = 'A'".toList]
  after := [" \t".toList, [], "  Body".toList, "+++".toList, []]

theorem parse_cuts_exactly_page :
    ∃ parsed, parse .usual cutPage = .ok parsed ∧ Cut .usual cutBlock cutPage parsed ∧ parsed.metadata.length = 1 ∧
      parsed.body = "  Body\n+++\n".toList := by
  have heads : cutBlock.Heads (Text.lines cutPage) :=
    ⟨"+++ \t".toList, "+++\u000c".toList, by decide +kernel, by decide +kernel, by decide +kernel, by decide +kernel⟩
  have first : cutBlock.ClosedFirst := by decide +kernel
  have read : (parse .usual cutPage).toOption.map (fun parsed => (parsed.metadata.length, parsed.body)) =
      some (1, "  Body\n+++\n".toList) := by
    decide +kernel
  cases returned : parse .usual cutPage with
  | error failure =>
    rw [returned] at read
    cases read
  | ok parsed =>
    rw [returned] at read
    obtain ⟨held, body⟩ := Prod.mk.inj (Option.some.inj read)
    exact ⟨parsed, rfl, (parse_cuts_exactly returned).2.1 cutBlock heads first, held, body⟩

end

end Adocify.FrontMatter
