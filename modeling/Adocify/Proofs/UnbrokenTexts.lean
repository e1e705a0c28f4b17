import Adocify.Proofs.LiteralTexts
import Adocify.Proofs.TextLines

/-! Line breaks in the texts that lines are made of. To escape a text, to mark it or to put it into a macro neither
takes a line break out of it nor brings one in. -/

namespace Adocify

namespace Text

variable {text : Text}

theorem mem_substitute {c old : Char} {new : Text} :
    c ∈ substitute old new text ↔ (c ∈ text ∧ c ≠ old) ∨ (old ∈ text ∧ c ∈ new) := by
  simp only [substitute, List.mem_flatMap]
  constructor
  · rintro ⟨d, member, inside⟩
    split at inside
    next same => exact .inr ⟨same ▸ member, inside⟩
    next other =>
      obtain rfl := List.mem_singleton.mp inside
      exact .inl ⟨member, other⟩
  · rintro (⟨member, other⟩ | ⟨member, inside⟩)
    · exact ⟨c, member, by simp [other]⟩
    · exact ⟨old, member, by simpa using inside⟩

/-- To put a backslash before another character changes nothing about the lines. -/
theorem newline_substitute {old : Char} {new : Text} (apart : old ≠ '\n') (plain : '\n' ∉ new) :
    '\n' ∈ substitute old new text ↔ '\n' ∈ text := by
  rw [mem_substitute]
  constructor
  · rintro (⟨member, -⟩ | ⟨-, inside⟩)
    · exact member
    · exact absurd inside plain
  · intro member
    exact .inl ⟨member, apart.symm⟩

theorem newline_join {separator : Text} (plain : '\n' ∉ separator) {parts : List Text} :
    '\n' ∈ join separator parts ↔ ∃ part ∈ parts, '\n' ∈ part := by
  induction parts with
  | nil => simp [join]
  | cons first others ih =>
    rw [join_cons]
    cases others with
    | nil => simp [continued]
    | cons second others =>
      rw [continued_cons, List.mem_append, List.mem_append, ih, List.exists_mem_cons_iff]
      simp [plain]

theorem mem_of_mem_dropEndWhile {c : Char} {drop : Char → Bool} (member : c ∈ dropEndWhile drop text) : c ∈ text := by
  have inside := List.mem_reverse.mp member
  exact List.mem_reverse.mp ((List.dropWhile_sublist drop).subset inside)

theorem mem_of_mem_strip {c : Char} (member : c ∈ strip text) : c ∈ text :=
  (List.dropWhile_sublist isBlank).subset (mem_of_mem_dropEndWhile member)

theorem mem_of_mem_splitOn {c separator : Char} {part : Text} (member : part ∈ splitOn separator text)
    (inside : c ∈ part) : c ∈ text := by
  induction text generalizing part with
  | nil =>
    obtain rfl := List.mem_singleton.mp member
    cases inside
  | cons d rest ih =>
    simp only [splitOn] at member
    split at member
    · rcases List.mem_cons.mp member with rfl | later
      · cases inside
      · exact .tail _ (ih later inside)
    split at member
    next none =>
      obtain rfl := List.mem_singleton.mp member
      exact List.mem_singleton.mp inside ▸ List.mem_cons_self
    next first others split =>
      rw [split] at ih
      rcases List.mem_cons.mp member with rfl | later
      · rcases List.mem_cons.mp inside with rfl | inside
        · exact List.mem_cons_self
        · exact .tail _ (ih List.mem_cons_self inside)
      · exact .tail _ (ih (.tail _ later) inside)

end Text

namespace AsciiDoc

variable {options : Options} {text : Text}

theorem single_ofInt (number : Int) : '\n' ∉ Text.ofInt number := by
  have digits (n : Nat) : '\n' ∉ Text.ofNat n := fun member =>
    absurd (Nat.isDigit_of_mem_toDigits (by decide) (by decide) member) (by decide)
  cases number with
  | ofNat n => exact digits n
  | negSucc n => exact List.not_mem_cons_of_ne_of_not_mem (by decide) (digits (n + 1))

theorem newline_escapeMacroText : '\n' ∈ escapeMacroText text ↔ '\n' ∈ text :=
  Text.newline_substitute (by decide) (by decide)

theorem newline_escapeAttributeValue : '\n' ∈ escapeAttributeValue text ↔ '\n' ∈ text :=
  Text.newline_substitute (by decide) (by decide)

theorem flattened_single (blocks : List Text) : '\n' ∉ flattened blocks := by
  rw [flattened, Text.newline_join (by decide)]
  rintro ⟨block, member, broken⟩
  obtain ⟨own, -, rfl⟩ := List.mem_map.mp member
  rcases Text.mem_substitute.mp broken with ⟨-, other⟩ | ⟨-, blank⟩
  · exact other rfl
  · simp at blank

theorem literalText_single (single : '\n' ∉ text) : '\n' ∉ literalText options text :=
  fun inside => ((literalText_backslashed options text).mem inside).elim (by decide) single

theorem code_single (single : '\n' ∉ text) : '\n' ∉ code text := by
  simp only [code]
  split
  · simpa using single
  · simpa using single

theorem keyboardMacro_single {keys : List Text} (single : ∀ key ∈ keys, '\n' ∉ key) : '\n' ∉ keyboardMacro keys := by
  have joined : '\n' ∉ escapeMacroText (Text.join ['+'] keys) := by
    rw [newline_escapeMacroText, Text.newline_join (by decide)]
    rintro ⟨key, member, broken⟩
    exact single key member broken
  change '\n' ∉ "kbd:[".toList ++ escapeMacroText (Text.join ['+'] keys) ++ [']']
  simpa using joined

theorem newline_lineBreak (options : Options) (soft : Bool) :
    '\n' ∈ lineBreak options soft ↔ soft = false ∨ options.wrap = .preserve := by
  cases soft with
  | false => simp [lineBreak, hardBreak]
  | true => by_cases kept : options.wrap = .preserve <;> simp [lineBreak, kept]

/-- Marks are doubled around a span that begins with one. -/
theorem newline_doubleMarks (before : Option Char) (pieces : List Piece) :
    '\n' ∈ (doubleMarks before pieces).flatten ↔ '\n' ∈ (pieces.map (·.text)).flatten := by
  induction pieces generalizing before with
  | nil => rfl
  | cons piece rest ih =>
    simp only [doubleMarks, List.flatten_cons, List.map_cons, List.mem_append, ih]
    apply or_congr_left
    split
    next mark given =>
      split
      next doubled =>
        have first : piece.text.head? = some mark := by
          simp only [Piece.isMarked, Bool.and_eq_true, decide_eq_true_eq] at doubled
          exact doubled.1.1
        have inside := List.mem_of_head? first
        constructor
        · intro member
          rcases List.mem_cons.mp member with rfl | member
          · exact inside
          rcases List.mem_append.mp member with member | last
          · exact member
          · exact List.mem_singleton.mp last ▸ inside
        · intro member
          exact .tail _ (List.mem_append_left _ member)
      next => rfl
    next => rfl

theorem endsInMarkdownSuffix?_mem {c : Char} {path name : Text} (found : endsInMarkdownSuffix? path = some name)
    (member : c ∈ name) : c ∈ path := by
  simp only [endsInMarkdownSuffix?] at found
  split at found
  next d m last rest reversed =>
    split at found
    · obtain rfl := Option.some.inj found
      have inside : c ∈ path.reverse := by
        rw [reversed]
        exact .tail _ (.tail _ (.tail _ (List.mem_reverse.mp member)))
      exact List.mem_reverse.mp inside
    · cases found
  next => cases found

theorem mem_of_mem_withoutFinalNewline {c : Char} (member : c ∈ Text.withoutFinalNewline text) : c ∈ text := by
  simp only [Text.withoutFinalNewline] at member
  split at member
  · exact (List.dropLast_sublist _).subset member
  · exact member

theorem markdownTarget?_mem {c : Char} {url path fragment : Text}
    (found : markdownTarget? url = some (path, fragment)) :
    (c ∈ path → c ∈ url) ∧ (c ∈ fragment → c = '#' ∨ c ∈ url) := by
  have front {d : Char} (member : d ∈ url.takeWhile fun c => c ≠ '#' && c ≠ '?') : d ∈ url :=
    (List.takeWhile_sublist _).subset member
  simp only [markdownTarget?] at found
  split at found
  · cases found
  split at found
  next =>
    split at found
    next name named =>
      obtain ⟨rfl, rfl⟩ := Prod.mk.inj (Option.some.inj found)
      exact ⟨fun member => front (endsInMarkdownSuffix?_mem named member), nofun⟩
    next =>
      obtain ⟨name, named, same⟩ := Option.map_eq_some_iff.mp found
      obtain ⟨rfl, rfl⟩ := Prod.mk.inj same
      refine ⟨fun member => front ?_, nofun⟩
      exact mem_of_mem_withoutFinalNewline (endsInMarkdownSuffix?_mem named member)
  next fragment behind =>
    split at found
    · cases found
    obtain ⟨name, named, same⟩ := Option.map_eq_some_iff.mp found
    obtain ⟨rfl, rfl⟩ := Prod.mk.inj same
    refine ⟨fun member => front (endsInMarkdownSuffix?_mem named member), ?_⟩
    intro member
    rcases List.mem_cons.mp member with rfl | member
    · exact .inl rfl
    · have whole : c ∈ url.dropWhile fun c => c ≠ '#' && c ≠ '?' := by
        rw [behind]
        exact .tail _ (mem_of_mem_withoutFinalNewline member)
      exact .inr ((List.dropWhile_sublist _).subset whole)
  next => cases found

theorem newline_macroText {title : Option Text} (single : ∀ words ∈ title, '\n' ∉ words) :
    '\n' ∈ macroText text title ↔ '\n' ∈ text := by
  simp only [macroText]
  split
  next words given =>
    have plain : '\n' ∉ escapeAttributeValue words := by
      rw [newline_escapeAttributeValue]
      exact single words (Option.filter_eq_some_iff.mp given).1
    simp [newline_escapeAttributeValue, plain]
  next => exact newline_escapeMacroText

/-- A link brings no line break into its line but those of its content, and none of these if it is written bare. -/
theorem newline_linkText {url plain : Text} {title : Option Text} (address : '\n' ∉ url)
    (single : ∀ words ∈ title, '\n' ∉ words) (bare : '\n' ∉ plain) :
    '\n' ∈ linkText url text plain title ↔ ¬(!isPresent title && isBareUrl url plain) = true ∧ '\n' ∈ text := by
  have bracketed : '\n' ∈ '[' :: macroText text title ++ [']'] ↔ '\n' ∈ text := by
    simp [newline_macroText single]
  simp only [linkText]
  split
  next written => simp [written, bare]
  next written =>
    rw [and_iff_right written]
    split
    next fragment _ =>
      have inside : '\n' ∉ fragment := fun member => address (.tail _ member)
      cases text <;> simp [inside]
    next =>
      split
      next path fragment found =>
        have inPath : '\n' ∉ path := fun member => address ((markdownTarget?_mem found).1 member)
        have inFragment : '\n' ∉ fragment := by
          intro member
          exact ((markdownTarget?_mem found).2 member).elim (by decide) address
        simp only [List.mem_append, bracketed]
        simp [inPath, inFragment]
      next =>
        split
        · simp only [List.mem_append, bracketed]
          simp [address]
        split
        · simp only [List.mem_append, bracketed]
          simp [address]
        · simp only [List.mem_append, bracketed]
          simp [address]

end AsciiDoc

end Adocify
