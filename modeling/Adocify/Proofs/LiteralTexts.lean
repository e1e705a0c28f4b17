import Adocify.AsciiDoc.Render
import Adocify.Proofs.AttributeReferences
import Adocify.Proofs.MarkPairs
import Adocify.Proofs.RenderLogic

/-! Literal text as it is written. Its formatting marks are escaped first and its attribute references after that, so that
a mark escaped within a name hides the reference from the second escape. -/

namespace Adocify.AsciiDoc

variable {text out : Text}

/-- How many backslashes the escapes may put in front of a character of literal text: two in front of a mark, one in
front of a plus sign or an opening brace, none elsewhere. -/
def literalAllowance (c : Char) : Nat := markAllowance c + referenceAllowance c

theorem escapeFormattingMarks_backslashed (text : Text) :
    Backslashed markAllowance text (escapeFormattingMarks text) :=
  (escapeMarks_backslashed (by decide) text).mono fun c => Nat.le_of_eq (allowance_marks c)

theorem literalText_backslashed (options : Options) (text : Text) :
    Backslashed literalAllowance text (literalText options text) := by
  have marks := escapeFormattingMarks_backslashed text
  simp only [literalText]
  split
  · exact marks.trans rfl escapeReferencesFrom_backslashed
  · exact marks.mono fun c => Nat.le_add_right _ _

/-- The escape of references goes on behind the front with the front's last character before it. -/
theorem escapeReferencesFrom_append (before : Option Char) (front rest : Text) :
    ∃ out, Backslashed referenceAllowance front out ∧
      escapeReferencesFrom before (front ++ rest) = out ++ escapeReferencesFrom (front.getLast?.or before) rest := by
  induction front generalizing before with
  | nil => exact ⟨[], .nil, rfl⟩
  | cons c front ih =>
    obtain ⟨out, escaped, later⟩ := ih (some c)
    rw [List.cons_append, escapeReferencesFrom_cons, later, Text.getLast?_behind]
    split
    next unguarded => exact ⟨'\\' :: c :: out, .cons unguarded.1.allowed escaped, rfl⟩
    next => exact ⟨c :: out, escaped.keep c, rfl⟩

theorem escapeReferencesFrom_plain {front : Text} (plain : '\x7b' ∉ front) (before : Option Char) (rest : Text) :
    escapeReferencesFrom before (front ++ rest) = front ++ escapeReferencesFrom (front.getLast?.or before) rest := by
  have none : ∀ c ∈ front, referenceAllowance c = 0 := by
    intro c member
    apply if_neg
    rintro rfl
    exact plain member
  obtain ⟨out, escaped, written⟩ := escapeReferencesFrom_append before front rest
  rw [written, escaped.untouched none]

section

variable {front name behind : Text}

/-- Only an underscore of a name can be escaped. -/
theorem name_untouched (named : IsReferenceName name) (plain : '_' ∉ name) : ∀ c ∈ name, markAllowance c = 0 := by
  intro c member
  have other : c ∉ formattingMarks := by
    intro mark
    rcases marks_cases mark with rfl | rfl | rfl | rfl | rfl
    · exact named.avoids rfl member
    · exact plain member
    · exact named.avoids rfl member
    · exact named.avoids rfl member
    · exact named.avoids rfl member
  rw [markAllowance, if_neg other, if_neg]
  rintro rfl
  exact other (by decide)

theorem reference_marks (front name behind : Text) :
    ∃ lead inner more, escapeFormattingMarks (front ++ reference name ++ behind) = lead ++ (reference inner ++ more) ∧
      Backslashed markAllowance front lead ∧ Backslashed markAllowance name inner ∧
      Backslashed markAllowance behind more := by
  have escaped := escapeFormattingMarks_backslashed (front ++ reference name ++ behind)
  rw [List.append_assoc, reference_append] at escaped ⊢
  obtain ⟨lead, opened, written, first, braced⟩ := escaped.split
  obtain ⟨within, rfl, named⟩ := braced.of_mark rfl
  obtain ⟨inner, closed, rfl, second, ended⟩ := named.split
  obtain ⟨more, rfl, third⟩ := ended.of_mark rfl
  exact ⟨lead, inner, more, by rw [written, reference_append], first, second, third⟩

/-- The escape of references leaves what is in the braces as it is. -/
theorem reference_written (front : Text) {inner : Text} (plain : '\x7b' ∉ inner) (behind : Text) :
    ∃ lead more, escapeAttributeReferences (front ++ (reference inner ++ behind)) = lead ++ (reference inner ++ more) ∧
      Backslashed referenceAllowance (front ++ ['\x7b']) (lead ++ ['\x7b']) ∧
      Backslashed referenceAllowance behind more ∧
      (lead.getLast? = some '\\' ↔ front.getLast? = some '\\' ∨ BeginsReference (reference inner ++ behind)) := by
  obtain ⟨out, escaped, written⟩ := escapeReferencesFrom_append none front (reference inner ++ behind)
  have inside : '\x7b' ∉ inner ++ ['\x7d'] := by simpa using plain
  let more := escapeReferencesFrom (some '\x7d') behind
  have kept : escapeReferencesFrom (some '\x7b') (inner ++ '\x7d' :: behind) = inner ++ '\x7d' :: more := by
    rw [List.append_cons, escapeReferencesFrom_plain inside, List.getLast?_concat, ← List.append_cons]
    rfl
  have same : out.getLast? = front.getLast? := escaped.getLast?_eq
  rw [Option.or_none, reference_append, escapeReferencesFrom_cons, kept, ← reference_append] at written
  split at written
  next unguarded =>
    refine ⟨out ++ ['\\'], more, ?_, ?_, escapeReferencesFrom_backslashed, ?_⟩
    · rw [escapeAttributeReferences, written, reference_append, List.append_assoc]
      rfl
    · have brace : Backslashed referenceAllowance ['\x7b'] (List.replicate 1 '\\' ++ '\x7b' :: []) :=
        .cons (by decide) .nil
      rw [List.append_assoc]
      exact escaped.append brace
    · exact iff_of_true (List.getLast?_concat ..) (.inr unguarded.1)
  next guarded =>
    refine ⟨out, more, ?_, escaped.append (.keep _ .nil), escapeReferencesFrom_backslashed, ?_⟩
    · rw [escapeAttributeReferences, written, reference_append]
    · rw [same]
      exact ⟨.inl, fun either => either.elim id fun begins => not_not.mp fun free => guarded ⟨begins, free⟩⟩

theorem upTo_brace (plain : '\x7d' ∉ name) : (name ++ '\x7d' :: behind).takeWhile (· ≠ '\x7d') = name := by
  have inside : ∀ c ∈ name, decide (c ≠ '\x7d') = true := by
    intro c member
    apply decide_eq_true
    rintro rfl
    exact plain member
  rw [List.takeWhile_append_of_pos inside, List.takeWhile_cons_of_neg (by decide), List.append_nil]

/-- The reference to a name is one still if nothing has been put into the name. -/
theorem begins_kept (named : IsReferenceName name) (escaped : Backslashed markAllowance name out) :
    BeginsReference (reference out ++ behind) ↔ out = name := by
  constructor
  · rintro ⟨other, after, still, same⟩
    have closing : '\x7d' ∉ out := fun member => (escaped.mem member).elim (by decide) (named.avoids rfl)
    have whole : out = other := by
      rw [reference_append, reference_append] at same
      rw [← upTo_brace closing, (List.cons.inj same).2, upTo_brace (still.avoids rfl)]
    exact escaped.eq_of_unescaped (whole ▸ still.avoids rfl)
  · rintro rfl
    exact ⟨out, behind, named, rfl⟩

end

/-- A reference in literal text has a backslash before it when it is written, unless it had none and one of its name's
underscores got one. -/
theorem references_guarded_unless_hidden {options : Options} (escapes : options.escapeReferences = true)
    (descend : Text → List Node → Render (List Text)) (context : Context) {front name behind : Text}
    (named : IsReferenceName name) :
    ∃ lead inner more,
      (renderNode options descend (.text (front ++ reference name ++ behind))).runIn context =
        (.ok (lead ++ reference inner ++ more), context) ∧
      Backslashed literalAllowance (front ++ ['\x7b']) (lead ++ ['\x7b']) ∧
      Backslashed literalAllowance name inner ∧ Backslashed literalAllowance behind more ∧
      (lead.getLast? = some '\\' ↔ front.getLast? = some '\\' ∨ inner = name) ∧
      ('_' ∉ name → inner = name) ∧
      ∀ place, ¬Unguarded none (lead ++ reference inner ++ more) place := by
  obtain ⟨first, inner, last, marked, before, within, behind⟩ := reference_marks front name behind
  have plain : '\x7b' ∉ inner := fun member => (within.mem member).elim (by decide) (named.avoids rfl)
  obtain ⟨lead, more, written, guarded, after, backslash⟩ := reference_written first plain last
  refine ⟨lead, inner, more, ?_, ?_, within.mono fun c => Nat.le_add_right _ _, behind.trans rfl after, ?_, ?_, ?_⟩
  · rw [renderNode, literalText, marked, if_pos escapes, written, List.append_assoc]
    rfl
  · exact (before.append (.keep _ .nil)).trans rfl guarded
  · rw [backslash, before.getLast?_eq, begins_kept named within]
  · exact fun none => within.untouched (name_untouched named none)
  · rw [List.append_assoc, ← written]
    exact fun place => escapeReferencesFrom_guarded

/-- A mark before the reference is escaped, and another reference follows. -/
theorem references_guarded_unless_hidden_plain :
    let name := "b-1".toList
    ({} : Options).escapeReferences = true ∧ IsReferenceName name ∧ '_' ∉ name ∧
    ∃ lead more, (renderNode {} (renderFootnote {} 0)
        (.text ("*a* ".toList ++ reference name ++ reference ['c']))).runIn { attributes := [] } =
          (.ok (lead ++ reference name ++ more), { attributes := [] }) ∧
      lead.getLast? = some '\\' := by
  intro name
  have escapes : ({} : Options).escapeReferences = true := rfl
  have named : IsReferenceName name := by decide
  have plain : '_' ∉ name := by decide
  obtain ⟨lead, inner, more, ran, -, -, -, guarded, kept, -⟩ :=
    references_guarded_unless_hidden escapes (renderFootnote {} 0) { attributes := [] } named
  obtain rfl := kept plain
  exact ⟨escapes, named, plain, lead, more, ran, guarded.mpr (.inr rfl)⟩

/-- The backslashes of escaped underscores stand in the name, so that the reference is not seen any more. -/
theorem hidden_references_unguarded :
    let context : Context := { attributes := [] }
    IsReferenceName "_a_".toList ∧
      (renderNode {} (renderFootnote {} 0) (.text (reference "_a_".toList))).runIn context =
        (.ok (reference "\\_a_".toList), context) ∧
      IsReferenceName "a__b__c".toList ∧
      (renderNode {} (renderFootnote {} 0) (.text (reference "a__b__c".toList))).runIn context =
        (.ok (reference "a\\\\__b__c".toList), context) := by
  intro context
  exact ⟨by decide, rfl, by decide, rfl⟩

end Adocify.AsciiDoc
