import Mathlib.Data.List.TakeWhile
import Adocify.Proofs.MarkEscapes
import Adocify.Proofs.TextSearch

/-! Attribute references in a text, a name in braces each, and their escape. A reference with a backslash directly
before its opening brace is left as it is by the escape; any other one gets a backslash there. -/

namespace Adocify.AsciiDoc

variable {text rest out : Text} {before : Option Char} {c : Char} {place : Nat}

/-- A letter, a digit or an underscore, and then any number of these and of hyphens. -/
def IsReferenceName : Text → Prop
  | [] => False
  | first :: others => startsReferenceName first = true ∧ ∀ c ∈ others, isReferenceChar c = true

instance : (name : Text) → Decidable (IsReferenceName name)
  | [] => isFalse id
  | first :: others => decidable_of_iff ((startsReferenceName first && others.all isReferenceChar) = true)
      (by simp [IsReferenceName])

/-- The reference to a name. -/
def reference (name : Text) : Text := '\x7b' :: name ++ ['\x7d']

theorem reference_append (name rest : Text) : reference name ++ rest = '\x7b' :: (name ++ '\x7d' :: rest) := by
  simp [reference]

def BeginsReference (text : Text) : Prop := ∃ name behind, IsReferenceName name ∧ text = reference name ++ behind

theorem startsReference_iff : startsReference text = true ↔ BeginsReference text := by
  constructor
  · intro starts
    simp only [startsReference] at starts
    split at starts
    next first rest =>
      simp only [Bool.and_eq_true, decide_eq_true_eq] at starts
      obtain ⟨opens, closes⟩ := starts
      obtain ⟨behind, closed⟩ := List.head?_eq_some_iff.mp closes
      refine ⟨first :: rest.takeWhile isReferenceChar, behind, ⟨opens, ?_⟩, ?_⟩
      · exact fun c member => List.mem_takeWhile_imp member
      · conv_lhs => rw [← List.takeWhile_append_dropWhile (p := isReferenceChar) (l := rest), closed]
        simp [reference]
    next => cases starts
  · rintro ⟨name, behind, named, rfl⟩
    cases name with
    | nil => exact named.elim
    | cons first others =>
      have closing : (List.dropWhile isReferenceChar (others ++ '\x7d' :: behind)).head? = some '\x7d' := by
        rw [List.dropWhile_append_of_pos named.2, List.dropWhile_cons_of_neg (by decide)]
        rfl
      simp [reference_append, startsReference, named.1, closing]

instance (text : Text) : Decidable (BeginsReference text) := decidable_of_iff _ startsReference_iff

/-- A reference begins at the place, and no backslash stands directly before it. What stands before the whole text is
`before`. -/
def Unguarded (before : Option Char) (text : Text) (place : Nat) : Prop :=
  BeginsReference (text.drop place) ∧ (text.take place).getLast?.or before ≠ some '\\'

instance : Decidable (Unguarded before text place) := inferInstanceAs (Decidable (_ ∧ _))

theorem unguarded_first : Unguarded before text 0 ↔ BeginsReference text ∧ before ≠ some '\\' := Iff.rfl

theorem unguarded_later : Unguarded before (c :: rest) (place + 1) ↔ Unguarded (some c) rest place := by
  rw [Unguarded, List.take_succ_cons, Text.getLast?_behind]
  rfl

/-- One backslash goes in front of the opening brace of each reference that has none. -/
def guardCounts (before : Option Char) (text : Text) : List Nat :=
  (List.range text.length).map fun place => if Unguarded before text place then 1 else 0

theorem guardCounts_cons : guardCounts before (c :: rest) =
    (if BeginsReference (c :: rest) ∧ before ≠ some '\\' then 1 else 0) :: guardCounts (some c) rest := by
  simp only [guardCounts, List.length_cons, List.range_succ_eq_map, List.map_cons, List.map_map, Function.comp_def,
    Nat.succ_eq_add_one, unguarded_later, unguarded_first]

/-- What the escape writes for one character, told by the references that begin. -/
theorem escapeReferencesFrom_cons : escapeReferencesFrom before (c :: rest) =
    if BeginsReference (c :: rest) ∧ before ≠ some '\\' then '\\' :: c :: escapeReferencesFrom (some c) rest
    else c :: escapeReferencesFrom (some c) rest := by
  rw [escapeReferencesFrom]
  by_cases unguarded : BeginsReference (c :: rest) ∧ before ≠ some '\\'
  · simp [startsReference_iff, unguarded]
  · simp [startsReference_iff, unguarded]

theorem escapeReferencesFrom_counts :
    escapeReferencesFrom before text = withBackslashes (guardCounts before text) text := by
  induction text generalizing before with
  | nil => rfl
  | cons c rest ih =>
    rw [escapeReferencesFrom_cons, guardCounts_cons, withBackslashes, ← ih]
    split <;> rfl

/-- A backslash may go in front of an opening brace. -/
def referenceAllowance (c : Char) : Nat := if c = '\x7b' then 1 else 0

theorem BeginsReference.opens (begins : BeginsReference (c :: rest)) : c = '\x7b' := by
  obtain ⟨name, behind, -, same⟩ := begins
  exact (List.cons.inj same).1

theorem BeginsReference.allowed (begins : BeginsReference (c :: rest)) : 1 ≤ referenceAllowance c := by
  rw [begins.opens]
  decide

theorem escapeReferencesFrom_backslashed :
    Backslashed referenceAllowance text (escapeReferencesFrom before text) := by
  induction text generalizing before with
  | nil => exact .nil
  | cons c rest ih =>
    rw [escapeReferencesFrom_cons]
    split
    next unguarded => exact .cons unguarded.1.allowed ih
    next => exact ih.keep c

theorem IsReferenceName.avoids {name : Text} (named : IsReferenceName name) (other : isReferenceChar c = false) :
    c ∉ name := by
  cases name with
  | nil => exact named.elim
  | cons first others =>
    rintro (_ | ⟨_, later⟩)
    · have outside := named.1
      simp only [startsReferenceName, isReferenceChar, Bool.or_eq_true, Bool.or_eq_false_iff] at outside other
      rcases outside with letter | under
      · cases letter.symm.trans other.1.1
      · cases under.symm.trans other.1.2
    · cases other.symm.trans (named.2 c later)

/-- Backslashes make no reference. -/
theorem BeginsReference.of_escaped {allowed : Char → Nat} (escaped : Backslashed allowed text out)
    (begins : BeginsReference out) : BeginsReference text := by
  obtain ⟨name, behind, named, rfl⟩ := begins
  have plain : '\\' ∉ reference name := by
    simpa [reference] using (named.avoids (by decide) : '\\' ∉ name)
  obtain ⟨rest, rfl, -⟩ := escaped.of_unescaped plain
  exact ⟨name, rest, named, rfl⟩

theorem escapeReferencesFrom_guarded : ¬Unguarded before (escapeReferencesFrom before text) place := by
  induction text generalizing before place with
  | nil =>
    rintro ⟨⟨name, behind, -, same⟩, -⟩
    rw [escapeReferencesFrom, List.drop_nil] at same
    cases same
  | cons c rest ih =>
    have kept : Backslashed referenceAllowance (c :: rest) (escapeReferencesFrom before (c :: rest)) :=
      escapeReferencesFrom_backslashed
    rw [escapeReferencesFrom_cons] at kept ⊢
    split at kept
    next unguarded =>
      rw [if_pos unguarded]
      match place with
      | 0 => exact fun ⟨begins, _⟩ => absurd begins.opens (by decide)
      | 1 => exact fun ⟨_, free⟩ => free rfl
      | place + 2 => exact fun later => ih (unguarded_later.mp (unguarded_later.mp later))
    next guarded =>
      rw [if_neg guarded]
      match place with
      | 0 => exact fun ⟨begins, free⟩ => guarded ⟨begins.of_escaped kept, free⟩
      | place + 1 => exact fun later => ih (unguarded_later.mp later)

theorem withBackslashes_none (counts : List Nat) (none : ∀ count ∈ counts, count = 0) :
    withBackslashes counts text = text := by
  induction counts generalizing text with
  | nil => cases text <;> rfl
  | cons count counts ih =>
    obtain ⟨rfl, others⟩ := List.forall_mem_cons.mp none
    cases text with
    | nil => rfl
    | cons c rest => rw [withBackslashes, ih others]; rfl

/-- After the escape each reference has a backslash, and escaping again adds none. The escape puts one in front of each
reference that has none and does nothing else. -/
theorem references_guarded (text : Text) :
    let escaped := escapeAttributeReferences text
    (∀ place, ¬Unguarded none escaped place) ∧
    escapeAttributeReferences escaped = escaped ∧
    escaped = withBackslashes (guardCounts none text) text := by
  intro escaped
  have guarded : ∀ place, ¬Unguarded none escaped place := fun place => escapeReferencesFrom_guarded
  refine ⟨guarded, ?_, escapeReferencesFrom_counts⟩
  rw [escapeAttributeReferences, escapeReferencesFrom_counts]
  apply withBackslashes_none
  intro count member
  obtain ⟨place, -, rfl⟩ := List.mem_map.mp member
  exact if_neg (guarded place)

/-- References in further braces, next to each other and behind a backslash. -/
example :
    escapeAttributeReferences "\x7b\x7ba\x7d\x7d \x7bb\x7d\x7bc-1\x7d \\\x7bd\x7d \x7b-e\x7d".toList =
      "\x7b\\\x7ba\x7d\x7d \\\x7bb\x7d\\\x7bc-1\x7d \\\x7bd\x7d \x7b-e\x7d".toList := by
  decide

end Adocify.AsciiDoc
