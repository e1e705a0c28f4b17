import Adocify.Proofs.ConversionStages
import Adocify.Proofs.EncodedTexts
import Adocify.Proofs.TextSqueezing
import Adocify.Proofs.UnbrokenTexts

/-! The canonical text of a source. However lines end and however the text is delivered, the same text is read. A byte
order mark is removed once where a text is delivered, and twice where its UTF-8 bytes are. -/

namespace Adocify

namespace Text

variable {text rest : Text} {c : Char}

theorem normalizeNewlines_other (other : c ≠ '\r') : normalizeNewlines (c :: rest) = c :: normalizeNewlines rest := by
  rw [normalizeNewlines]
  · rw [if_neg other]
  · intro more same
    exact absurd same other

theorem normalizeNewlines_return (alone : rest.head? ≠ some '\n') :
    normalizeNewlines ('\r' :: rest) = '\n' :: normalizeNewlines rest := by
  rw [normalizeNewlines]
  · rw [if_pos rfl]
  · rintro more - rfl
    exact alone rfl

theorem normalizeNewlines_bare (bare : '\r' ∉ text) : normalizeNewlines text = text := by
  induction text with
  | nil => rfl
  | cons c rest ih =>
    rw [List.mem_cons, not_or] at bare
    rw [normalizeNewlines_other (Ne.symm bare.1), ih bare.2]

/-- A carriage return becomes a newline, and takes a newline behind it along. -/
theorem normalizeNewlines_returned (rest : Text) :
    ∃ more, more <:+ rest ∧ normalizeNewlines ('\r' :: rest) = '\n' :: normalizeNewlines more := by
  by_cases next : rest.head? = some '\n'
  · obtain ⟨more, rfl⟩ := List.head?_eq_some_iff.mp next
    exact ⟨more, List.suffix_cons _ _, rfl⟩
  · exact ⟨rest, List.suffix_refl rest, normalizeNewlines_return next⟩

theorem bare_normalizeNewlines (text : Text) : '\r' ∉ normalizeNewlines text := by
  -- By the length of the text, for a newline may be taken along.
  induction measured : text.length using Nat.strong_induction_on generalizing text with
  | h length ih =>
    cases text with
    | nil => exact List.not_mem_nil
    | cons c rest =>
      rw [List.length_cons] at measured
      by_cases same : c = '\r'
      · subst same
        obtain ⟨more, within, returned⟩ := normalizeNewlines_returned rest
        have shorter := within.length_le
        rw [returned, List.mem_cons, not_or]
        exact ⟨by decide, ih more.length (by omega) more rfl⟩
      · rw [normalizeNewlines_other same, List.mem_cons, not_or]
        exact ⟨Ne.symm same, ih rest.length (by omega) rest rfl⟩

/-- Only line ends change, so that what begins a text begins it still. -/
theorem head?_normalizeNewlines (text : Text) (visible : c ≠ '\n') (other : c ≠ '\r') :
    (normalizeNewlines text).head? = some c ↔ text.head? = some c := by
  cases text with
  | nil => rfl
  | cons d rest =>
    by_cases same : d = '\r'
    · subst same
      obtain ⟨more, -, returned⟩ := normalizeNewlines_returned rest
      simp [returned, visible.symm, other.symm]
    · rw [normalizeNewlines_other same, List.head?_cons, List.head?_cons]

end Text

/-- The ways to end a line. -/
inductive LineEnding where
  | newline
  | returnNewline
  | carriageReturn
  deriving Repr, DecidableEq

namespace LineEnding

/-- The text with each of its newlines written in this way. -/
def write : LineEnding → Text → Text
  | .newline, text => text
  | .returnNewline, text => Text.substitute '\n' "\r\n".toList text
  | .carriageReturn, text => Text.substitute '\n' "\r".toList text

variable {text rest : Text} {c : Char}

theorem write_cons (ending : LineEnding) (visible : c ≠ '\n') : ending.write (c :: rest) = c :: ending.write rest := by
  cases ending with
  | newline => rfl
  | returnNewline | carriageReturn => rw [write, Text.substitute_cons, if_neg visible]; rfl

theorem normalizeNewlines_write (ending : LineEnding) (bare : '\r' ∉ text) :
    Text.normalizeNewlines (ending.write text) = text := by
  induction text with
  | nil => cases ending <;> rfl
  | cons c rest ih =>
    obtain ⟨here, later⟩ := not_or.mp (List.mem_cons.not.mp bare)
    have others := ih later
    by_cases newline : c = '\n'
    · subst newline
      cases ending with
      | newline => exact congrArg ('\n' :: ·) others
      | returnNewline => exact congrArg ('\n' :: ·) others
      | carriageReturn =>
        -- The next line end is a carriage return too, so that this one stands alone.
        have alone : (LineEnding.carriageReturn.write rest).head? ≠ some '\n' := by
          intro next
          have member := List.mem_of_mem_head? next
          simp [write, Text.mem_substitute] at member
        exact (Text.normalizeNewlines_return alone).trans (congrArg ('\n' :: ·) others)
    · rw [write_cons ending newline, Text.normalizeNewlines_other (Ne.symm here), others]

end LineEnding

namespace Source

variable {text rest result : Text} {source : Source} {encoding : Option Text} {log after : List LogRecord}

def byteOrderMark : Char := '\ufeff'

theorem withoutMark_marked (rest : Text) : withoutMark (byteOrderMark :: rest) = rest := rfl

theorem withoutMark_unmarked (unmarked : text.head? ≠ some byteOrderMark) : withoutMark text = text := by
  cases text with
  | nil => rfl
  | cons c rest =>
    have other : ¬(c.toNat == 0xfeff) = true := by
      intro same
      have equal : c = byteOrderMark := Char.toNat_inj.mp (eq_of_beq same)
      exact unmarked (congrArg some equal)
    rw [withoutMark, if_neg other]

theorem marked_cases (text : Text) : (∃ rest, text = byteOrderMark :: rest) ∨ text.head? ≠ some byteOrderMark := by
  cases text with
  | nil => exact .inr nofun
  | cons c rest =>
    by_cases marked : c = byteOrderMark
    · exact .inl ⟨rest, congrArg (· :: rest) marked⟩
    · exact .inr fun same => marked (Option.some.inj same)

theorem encodeChar_mark : Utf8.encodeChar byteOrderMark = Utf8.mark := by decide

theorem encode_marked (rest : Text) : Utf8.encode (byteOrderMark :: rest) = Utf8.mark ++ Utf8.encode rest := by
  rw [Utf8.encode_cons, encodeChar_mark]

/-- The bytes of a text begin with those of a mark exactly if the text begins with one. -/
theorem decodeMarked_encode (text : Text) : Utf8.decodeMarked (Utf8.encode text) = .ok (withoutMark text) := by
  rcases marked_cases text with ⟨rest, rfl⟩ | unmarked
  · have marked : Utf8.mark.isPrefixOf (Utf8.mark ++ Utf8.encode rest) = true :=
      List.isPrefixOf_iff_prefix.mpr (List.prefix_append _ _)
    rw [Utf8.decodeMarked, encode_marked, if_pos marked]
    exact Utf8.decode_encode rest
  · have bare : ¬Utf8.mark.isPrefixOf (Utf8.encode text) = true := by
      intro marked
      obtain ⟨more, bytes⟩ := List.isPrefixOf_iff_prefix.mp marked
      have whole := Utf8.decode_encode text
      rw [← bytes, ← encodeChar_mark, Utf8.decode, Utf8.decodeFrom_char] at whole
      cases decoded : Utf8.decodeFrom (0 + (Utf8.encodeChar byteOrderMark).length) more with
      | error problem =>
        rw [decoded] at whole
        cases whole
      | ok rest =>
        rw [decoded] at whole
        cases whole
        exact unmarked rfl
    rw [Utf8.decodeMarked, if_neg bare, withoutMark_unmarked unmarked, Utf8.decode_encode]

/-- The sources that deliver a text. -/
def deliveries (text : Text) : List Source := [.text text, .textStream text]

/-- The sources that deliver the UTF-8 bytes of a text. -/
def encodedDeliveries (text : Text) : List Source := [.bytes (Utf8.encode text), .byteStream (Utf8.encode text)]

theorem read_delivered (delivers : source ∈ deliveries text) (encoding : Option Text) (detection : Option Detection) :
    (source.read encoding detection).Gives log result after ↔ canonical text = result ∧ log = after := by
  simp only [deliveries, List.mem_cons, List.not_mem_nil, or_false] at delivers
  rcases delivers with rfl | rfl <;> exact Logged.gives_pure

/-- No detector is asked for bytes that are UTF-8. -/
theorem read_encoded (delivers : source ∈ encodedDeliveries text) (detection : Option Detection) :
    (source.read none detection).Gives log result after ↔ canonical (withoutMark text) = result ∧ log = after := by
  have decoded : decode Charset.codecs none detection (Utf8.encode text) = pure (withoutMark text) := by
    rw [decode, decodeUndeclared, decodeMarked_encode]
  simp only [encodedDeliveries, List.mem_cons, List.not_mem_nil, or_false] at delivers
  rcases delivers with rfl | rfl
  all_goals
    rw [read, readWith, decoded, pure_bind]
    exact Logged.gives_pure

theorem withoutMark_suffix (text : Text) : withoutMark text <:+ text := by
  rcases marked_cases text with ⟨rest, rfl⟩ | unmarked
  · exact List.suffix_cons _ _
  · rw [withoutMark_unmarked unmarked]

theorem bare_withoutMark (bare : '\r' ∉ text) : '\r' ∉ withoutMark text :=
  fun member => bare ((withoutMark_suffix text).subset member)

theorem count_withoutMark (text : Text) : (withoutMark text).count '\n' = text.count '\n' := by
  rcases marked_cases text with ⟨rest, rfl⟩ | unmarked
  · rw [withoutMark_marked, List.count_cons_of_ne (by decide)]
  · rw [withoutMark_unmarked unmarked]

/-- A mark stays in front of the first line, however lines end. -/
theorem withoutMark_write (ending : LineEnding) (text : Text) :
    withoutMark (ending.write text) = ending.write (withoutMark text) := by
  rcases marked_cases text with ⟨rest, rfl⟩ | unmarked
  · rw [ending.write_cons (by decide), withoutMark_marked, withoutMark_marked]
  · have kept : (ending.write text).head? ≠ some byteOrderMark := by
      cases text with
      | nil => cases ending <;> exact nofun
      | cons c rest =>
        by_cases newline : c = '\n'
        · subst newline
          cases ending <;> exact ne_of_beq_false rfl
        · rwa [ending.write_cons newline]
    rw [withoutMark_unmarked unmarked, withoutMark_unmarked kept]

theorem canonical_write (ending : LineEnding) (bare : '\r' ∉ text) : canonical (ending.write text) = withoutMark text := by
  rw [canonical, withoutMark_write, ending.normalizeNewlines_write (bare_withoutMark bare)]

/-- A text is read alike however its lines end, with as many newlines as it has. So are its UTF-8 bytes, unless the text
begins with a mark, and a declared character set only counts for bytes. -/
theorem line_endings_alike (bare : '\r' ∉ text) :
    '\r' ∉ withoutMark text ∧ (withoutMark text).count '\n' = text.count '\n' ∧
    ∀ (ending : LineEnding) (detection : Option Detection) (log : List LogRecord),
      (∀ source ∈ deliveries (ending.write text), ∀ encoding,
        (source.read encoding detection).Gives log (withoutMark text) log) ∧
      (text.head? ≠ some byteOrderMark → ∀ source ∈ encodedDeliveries (ending.write text),
        (source.read none detection).Gives log (withoutMark text) log) := by
  refine ⟨bare_withoutMark bare, count_withoutMark text, ?_⟩
  intro ending detection log
  constructor
  · intro source delivers encoding
    exact (read_delivered delivers encoding detection).mpr ⟨canonical_write ending bare, rfl⟩
  · intro unmarked source delivers
    apply (read_encoded delivers detection).mpr
    refine ⟨?_, rfl⟩
    rw [withoutMark_write, withoutMark_unmarked unmarked, canonical_write ending bare, withoutMark_unmarked unmarked]

/-- With an empty line, and a character of two bytes. -/
def gappedText : Text := "a\n\n\u00e9\n".toList

theorem line_endings_alike_gapped : '\r' ∉ gappedText ∧ gappedText.head? ≠ some byteOrderMark ∧
    ((Source.text "a\r\n\r\n\u00e9\r\n".toList).read none none).Gives [] gappedText [] ∧
    ((Source.byteStream (Utf8.encode "a\r\r\u00e9\r".toList)).read none none).Gives [] gappedText [] := by
  have bare : '\r' ∉ gappedText := by decide
  have unmarked : gappedText.head? ≠ some byteOrderMark := by decide
  obtain ⟨-, -, reads⟩ := line_endings_alike bare
  refine ⟨bare, unmarked, ?_, ?_⟩
  · exact (reads .returnNewline none []).1 _ List.mem_cons_self none
  · exact (reads .carriageReturn none []).2 unmarked _ (List.mem_cons_of_mem _ List.mem_cons_self)

/-! ### Marks -/

/-- Two byte order marks begin the text. -/
def MarkedTwice (text : Text) : Prop := [byteOrderMark, byteOrderMark] <+: text

theorem MarkedTwice.canonical_eq (twice : MarkedTwice text) :
    canonical text = byteOrderMark :: canonical (withoutMark text) := by
  obtain ⟨rest, rfl⟩ := twice
  exact Text.normalizeNewlines_other (by decide)

theorem head?_withoutMark (text : Text) : (withoutMark text).head? = some byteOrderMark ↔ MarkedTwice text := by
  rcases marked_cases text with ⟨rest, rfl⟩ | unmarked
  · rw [withoutMark_marked, MarkedTwice, List.cons_prefix_cons, List.singleton_prefix_iff_head?_eq_some]
    simp
  · rw [withoutMark_unmarked unmarked]
    refine iff_of_false unmarked ?_
    intro twice
    obtain ⟨rest, rfl⟩ := twice
    exact unmarked rfl

theorem head?_canonical (text : Text) : (canonical text).head? = some byteOrderMark ↔ MarkedTwice text :=
  (Text.head?_normalizeNewlines _ (by decide) (by decide)).trans (head?_withoutMark text)

theorem canonical_self (unmarked : text.head? ≠ some byteOrderMark) (bare : '\r' ∉ text) : canonical text = text := by
  rw [canonical, withoutMark_unmarked unmarked, Text.normalizeNewlines_bare bare]

theorem canonical_again_iff (text : Text) : canonical (canonical text) = canonical text ↔ ¬MarkedTwice text := by
  have bare (text : Text) : '\r' ∉ canonical text := Text.bare_normalizeNewlines _
  constructor
  · intro same twice
    have again : canonical (canonical text) = canonical (withoutMark text) := by
      rw [twice.canonical_eq]
      exact Text.normalizeNewlines_bare (bare _)
    rw [again, twice.canonical_eq] at same
    exact List.cons_ne_self _ _ same.symm
  · intro once
    exact canonical_self ((head?_canonical text).not.mpr once) (bare text)

theorem canonical_withoutMark_iff (text : Text) : canonical (withoutMark text) = canonical text ↔ ¬MarkedTwice text := by
  constructor
  · intro same twice
    rw [twice.canonical_eq] at same
    exact List.cons_ne_self _ _ same.symm
  · intro once
    rw [canonical, withoutMark_unmarked ((head?_withoutMark text).not.mpr once), canonical]

/-- Every text is read, and so are its bytes. What is read of the text does not begin with a mark, is the same when it is
read again, and is the same as what is read of the bytes: each of these unless the text begins with two marks, and then
none. -/
theorem canonical_unless_marked_twice (text : Text) :
    ∃ result encodedResult,
      (∀ source ∈ deliveries text, ∀ encoding detection log, (source.read encoding detection).Gives log result log) ∧
      (∀ source ∈ encodedDeliveries text, ∀ detection log, (source.read none detection).Gives log encodedResult log) ∧
      (result.head? ≠ some byteOrderMark ↔ ¬MarkedTwice text) ∧
      (∀ source ∈ deliveries result, ∀ encoding detection log,
        (source.read encoding detection).Gives log result log ↔ ¬MarkedTwice text) ∧
      (encodedResult = result ↔ ¬MarkedTwice text) := by
  refine ⟨canonical text, canonical (withoutMark text), ?_, ?_, (head?_canonical text).not, ?_,
    canonical_withoutMark_iff text⟩
  · intro source delivers encoding detection log
    exact (read_delivered delivers encoding detection).mpr ⟨rfl, rfl⟩
  · intro source delivers detection log
    exact (read_encoded delivers detection).mpr ⟨rfl, rfl⟩
  · intro source delivers encoding detection log
    rw [read_delivered delivers encoding detection, and_iff_left rfl]
    exact canonical_again_iff text

/-- Of two marks one is left in the text, and none where its bytes are read. -/
theorem second_mark_left :
    ((Source.text "\ufeff\ufeffa".toList).read none none).Gives [] "\ufeffa".toList [] ∧
      ((Source.text "\ufeffa".toList).read none none).Gives [] ['a'] [] ∧
      ((Source.bytes (Utf8.encode "\ufeff\ufeffa".toList)).read none none).Gives [] ['a'] [] :=
  ⟨rfl, rfl, rfl⟩

end Source

end Adocify
