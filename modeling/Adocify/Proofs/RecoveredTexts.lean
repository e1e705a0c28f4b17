import Adocify.Proofs.LiteralTexts
import Mathlib.Data.List.Chain

/-! What the written form of a literal text tells of the text. The escapes put backslashes before marks and opening
braces, and leave those that the text has there as they are. Of a text that has none there the written form tells all;
of another one it does not tell which of these backslashes are the text's own. -/

namespace Adocify.AsciiDoc

variable {text rest out left right : Text} {allowed : Char → Nat} {c d : Char} {count : Nat}

/-- A character that the escapes may put a backslash in front of. -/
def IsEscapable (c : Char) : Prop := c ∈ formattingMarks ∨ c = '\x7b'

instance (c : Char) : Decidable (IsEscapable c) := inferInstanceAs (Decidable (_ ∨ _))

theorem literalAllowance_other (other : ¬IsEscapable c) : literalAllowance c = 0 := by
  obtain ⟨unmarked, closed⟩ := not_or.mp other
  have plus : c ≠ '+' := by
    rintro rfl
    exact unmarked (by decide)
  rw [literalAllowance, markAllowance, referenceAllowance, if_neg plus, if_neg unmarked, if_neg closed]

/-- The first character that is no backslash. -/
def firstOther (text : Text) : Option Char := (text.dropWhile (· = '\\')).head?

theorem firstOther_slash (rest : Text) : firstOther ('\\' :: rest) = firstOther rest := rfl

theorem firstOther_other (other : c ≠ '\\') (rest : Text) : firstOther (c :: rest) = some c := by
  rw [firstOther, List.dropWhile_cons_of_neg (by simpa using other)]
  rfl

theorem firstOther_slashes (count : Nat) (rest : Text) :
    firstOther (List.replicate count '\\' ++ rest) = firstOther rest := by
  induction count with
  | zero => rfl
  | succ count ih => rw [List.replicate_succ, List.cons_append, firstOther_slash, ih]

theorem Backslashed.firstOther_eq (escaped : Backslashed allowed text out) : firstOther out = firstOther text := by
  induction escaped with
  | nil => rfl
  | @cons count c rest out _ _ ih =>
    rw [firstOther_slashes]
    by_cases slash : c = '\\'
    · rw [slash, firstOther_slash, firstOther_slash, ih]
    · rw [firstOther_other slash, firstOther_other slash]

/-- The text without the backslashes that stand directly before a mark or an opening brace. -/
def withoutEscapes : Text → Text
  | [] => []
  | c :: rest =>
    if c = '\\' ∧ (firstOther rest).any (IsEscapable ·) then withoutEscapes rest else c :: withoutEscapes rest

theorem withoutEscapes_slashes (escapable : IsEscapable c) (other : c ≠ '\\') (count : Nat) (rest : Text) :
    withoutEscapes (List.replicate count '\\' ++ c :: rest) = c :: withoutEscapes rest := by
  induction count with
  | zero => rw [List.replicate_zero, List.nil_append, withoutEscapes, if_neg fun taken => other taken.1]
  | succ count ih =>
    have taken : (firstOther (List.replicate count '\\' ++ c :: rest)).any (IsEscapable ·) := by
      rw [firstOther_slashes, firstOther_other other]
      exact decide_eq_true escapable
    rw [List.replicate_succ, List.cons_append, withoutEscapes, if_pos ⟨rfl, taken⟩, ih]

/-- Backslashes before marks and braces are taken out whoever has put them there. -/
theorem Backslashed.withoutEscapes_eq (escaped : Backslashed literalAllowance text out) :
    withoutEscapes out = withoutEscapes text := by
  induction escaped with
  | nil => rfl
  | @cons count c rest out few others ih =>
    by_cases escapable : IsEscapable c
    · have other : c ≠ '\\' := by
        rintro rfl
        exact absurd escapable (by decide)
      rw [withoutEscapes_slashes escapable other, ih, ← withoutEscapes_slashes escapable other 0 rest]
      rfl
    · obtain rfl := Nat.le_zero.mp (literalAllowance_other escapable ▸ few)
      rw [List.replicate_zero, List.nil_append, withoutEscapes, withoutEscapes, others.firstOther_eq, ih]

/-- No backslash stands directly before a mark or an opening brace. -/
def Unescaped (text : Text) : Prop := text.IsChain fun c d => c = '\\' → ¬IsEscapable d

instance (text : Text) : Decidable (Unescaped text) := inferInstanceAs (Decidable (List.IsChain _ _))

theorem Unescaped.tail (plain : Unescaped (c :: rest)) : Unescaped rest := List.IsChain.tail plain

theorem Unescaped.firstOther (plain : Unescaped ('\\' :: rest)) : ∀ d ∈ firstOther rest, ¬IsEscapable d := by
  induction rest with
  | nil => simp [AsciiDoc.firstOther]
  | cons c rest ih =>
    by_cases slash : c = '\\'
    · subst slash
      exact ih plain.tail
    · intro d first
      obtain rfl := Option.some.inj ((firstOther_other slash rest).symm.trans first)
      exact (List.isChain_cons_cons.mp plain).1 rfl

theorem withoutEscapes_unescaped (plain : Unescaped text) : withoutEscapes text = text := by
  induction text with
  | nil => rfl
  | cons c rest ih =>
    rw [withoutEscapes, if_neg, ih plain.tail]
    rintro ⟨rfl, taken⟩
    obtain ⟨d, first, escapable⟩ := (Option.any_eq_true ..).mp taken
    exact plain.firstOther d first (of_decide_eq_true escapable)

/-- A text is backslashes alone, or some of them before its first other character. -/
theorem slashes_first (text : Text) :
    (∃ count, text = List.replicate count '\\') ∨
      ∃ count c rest, c ≠ '\\' ∧ text = List.replicate count '\\' ++ c :: rest := by
  induction text with
  | nil => exact .inl ⟨0, rfl⟩
  | cons c rest ih =>
    by_cases slash : c = '\\'
    · subst slash
      rcases ih with ⟨count, rfl⟩ | ⟨count, d, behind, other, rfl⟩
      · exact .inl ⟨count + 1, rfl⟩
      · exact .inr ⟨count + 1, d, behind, other, rfl⟩
    · exact .inr ⟨0, c, rest, slash, rfl⟩

theorem slashes_same (left : c ≠ '\\') (right : d ≠ '\\') {first second : Text} {count number : Nat}
    (same : List.replicate count '\\' ++ c :: first = List.replicate number '\\' ++ d :: second) :
    count = number ∧ c = d ∧ first = second := by
  induction count generalizing number with
  | zero =>
    cases number with
    | zero => exact ⟨rfl, List.cons.inj same⟩
    | succ number => exact absurd (List.cons.inj same).1 left
  | succ count ih =>
    cases number with
    | zero => exact absurd (List.cons.inj same).1.symm right
    | succ number =>
      obtain ⟨rfl, rest⟩ := ih (List.cons.inj same).2
      exact ⟨rfl, rest⟩

theorem slashes_alone (other : d ≠ '\\') (count number : Nat) (rest : Text) :
    List.replicate count '\\' ≠ List.replicate number '\\' ++ d :: rest := by
  intro same
  have member : d ∈ List.replicate count '\\' := same ▸ List.mem_append_right _ List.mem_cons_self
  exact other (List.eq_of_mem_replicate member)

namespace Backslashed

/-- To the backslashes before a character more of them are added. -/
theorem added (few : count ≤ allowed c) (escaped : Backslashed allowed rest out) (own : Nat) :
    Backslashed allowed (List.replicate own '\\' ++ c :: rest) (List.replicate (own + count) '\\' ++ c :: out) := by
  rw [← List.replicate_append_replicate, List.append_assoc]
  exact (refl _).append (.cons few escaped)

variable (plain : allowed '\\' = 0)

include plain

theorem slashes (escaped : Backslashed allowed (List.replicate count '\\') out) :
    out = List.replicate count '\\' := by
  apply escaped.untouched
  intro c member
  rw [List.eq_of_mem_replicate member, plain]

/-- Two texts that are escaped alike come from one text by such backslashes. -/
theorem common (first : Backslashed allowed left out) (second : Backslashed allowed right out) :
    ∃ shared, Backslashed allowed shared left ∧ Backslashed allowed shared right := by
  induction size : left.length using Nat.strongRecOn generalizing left right out with
  | ind length ih =>
    subst size
    rcases slashes_first left with ⟨own, rfl⟩ | ⟨own, c, rest, visible, rfl⟩
    · obtain rfl := slashes plain first
      rcases slashes_first right with ⟨others, rfl⟩ | ⟨others, d, behind, visible, rfl⟩
      · rw [slashes plain second]
        exact ⟨_, refl _, refl _⟩
      · obtain ⟨more, final, -, -, same⟩ := of_replicate plain second
        exact (slashes_alone visible _ _ _ same).elim
    · obtain ⟨added, final, few, later, rfl⟩ := of_replicate plain first
      rcases slashes_first right with ⟨others, rfl⟩ | ⟨others, d, behind, other, rfl⟩
      · exact (slashes_alone visible _ _ _ (slashes plain second).symm).elim
      · obtain ⟨more, last, enough, after, same⟩ := of_replicate plain second
        obtain ⟨total, rfl, rfl⟩ := slashes_same visible other same
        have shorter : rest.length < (List.replicate own '\\' ++ c :: rest).length := by
          simp only [List.length_append, List.length_cons]
          omega
        obtain ⟨shared, left, right⟩ := ih _ shorter later after rfl
        -- the text that both come from has the fewer backslashes of the two
        have fewest : ∃ least low high, own = least + low ∧ others = least + high ∧ low ≤ allowed c ∧ high ≤ allowed c :=
          ⟨min own others, own - min own others, others - min own others, by omega⟩
        obtain ⟨least, low, high, rfl, rfl, short, long⟩ := fewest
        exact ⟨_, .added short left least, .added long right least⟩

end Backslashed

/-- The written text tells a literal text up to the backslashes before marks and opening braces. Two texts that are
written alike differ in at most as many of these at each place as the escapes may put there, and not at all if neither
has any. -/
theorem literal_text_recovered (options : Options) :
    (∀ text, withoutEscapes (literalText options text) = withoutEscapes text) ∧
    (∀ first second, literalText options first = literalText options second →
      ∃ shared, Backslashed literalAllowance shared first ∧ Backslashed literalAllowance shared second) ∧
    (∀ text, Unescaped text → withoutEscapes (literalText options text) = text) ∧
    ∀ first second, Unescaped first → Unescaped second → first ≠ second →
      literalText options first ≠ literalText options second := by
  have told (text : Text) : withoutEscapes (literalText options text) = withoutEscapes text :=
    (literalText_backslashed options text).withoutEscapes_eq
  have recovered (text : Text) (plain : Unescaped text) : withoutEscapes (literalText options text) = text := by
    rw [told, withoutEscapes_unescaped plain]
  refine ⟨told, ?_, recovered, ?_⟩
  · intro first second same
    have escaped := literalText_backslashed options second
    rw [← same] at escaped
    exact (literalText_backslashed options first).common rfl escaped
  · intro first second plain other different same
    apply different
    rw [← recovered first plain, same, recovered second other]

/-- A backslash before a letter does no harm. One before a brace may be the text's own or not. -/
theorem literal_text_recovered_path :
    let path := "*see* C:\\b \x7bc\x7d".toList
    let other := "*see C:\\b* \x7bc\x7d".toList
    let guarded := '\\' :: reference ['a']
    (Unescaped path ∧ withoutEscapes (literalText {} path) = path) ∧
      (Unescaped other ∧ path ≠ other ∧ literalText {} path ≠ literalText {} other) ∧
      literalText {} (reference ['a']) = literalText {} guarded ∧
      ∃ shared, Backslashed literalAllowance shared (reference ['a']) ∧ Backslashed literalAllowance shared guarded := by
  intro path other guarded
  obtain ⟨-, alike, recovered, apart⟩ := literal_text_recovered {}
  have plain : Unescaped path := by decide
  have free : Unescaped other := by decide
  have different : path ≠ other := by decide
  have same : literalText {} (reference ['a']) = literalText {} guarded := by decide
  exact ⟨⟨plain, recovered path plain⟩, ⟨free, different, apart path other plain free different⟩, same,
    alike _ _ same⟩

/-- A text that has the backslash of the escape itself is written as the text without it. -/
theorem own_backslashes_lost :
    let name := reference "name".toList
    let strong := "*strong*".toList
    name ≠ '\\' :: name ∧ literalText {} name = '\\' :: name ∧ literalText {} ('\\' :: name) = '\\' :: name ∧
      strong ≠ '\\' :: strong ∧ literalText {} strong = '\\' :: strong ∧
      literalText {} ('\\' :: strong) = '\\' :: strong := by
  intro name strong
  refine ⟨?_, ?_, ?_, ?_, ?_, ?_⟩ <;> decide

end Adocify.AsciiDoc
