import Adocify.AsciiDoc.Escape
import Mathlib.Data.List.Basic

/-! What the escape of formatting marks does to a text. The pass for a mark goes from left to right and puts backslashes
in front of that mark only, where a span begins with it. The five passes together put at most two in front of one
character, and nothing else is changed. -/

namespace Adocify.AsciiDoc

variable {mark c : Char} {before : Option Char} {text rest : Text} {skip length : Nat} {span : EscapedSpan}

/-- What makes the scan escape a span, and how it is escaped. -/
inductive Escapes (mark : Char) (before : Option Char) : Text → EscapedSpan → Prop where
  | doubled {text : Text} {length : Nat} (free : before ≠ some '\\') (found : doubledSpan? mark text = some length) :
      Escapes mark before text ⟨false, if mark = '+' then 1 else 2, length⟩
  | first {text : Text} {length : Nat} (start : before = none) (found : singleSpan? mark text = some length) :
      Escapes mark before text ⟨false, 1, length⟩
  | behind {lead : Char} {rest : Text} {length : Nat} (found : singleSpan? mark rest = some length) :
      Escapes mark before (lead :: rest) ⟨true, 1, length⟩

theorem spanAt?_some (found : spanAt? mark before text = some span) : Escapes mark before text span := by
  simp only [spanAt?] at found
  split at found
  next length doubled =>
    obtain rfl := Option.some.inj found
    split at doubled
    · cases doubled
    next free => exact .doubled free doubled
  · split at found
    next length opening =>
      obtain rfl := Option.some.inj found
      split at opening
      next start => exact .first (Option.isNone_iff_eq_none.mp start) opening
      · cases opening
    next lead rest =>
      split at found
      · cases found
      · obtain ⟨length, single, rfl⟩ := Option.map_eq_some_iff.mp found
        exact .behind single
    · cases found

/-- Where nothing is escaped, no doubled span begins but behind a backslash. -/
theorem spanAt?_none (none : spanAt? mark before text = none) (free : before ≠ some '\\') :
    doubledSpan? mark text = Option.none := by
  simp only [spanAt?, if_neg free] at none
  split at none
  · cases none
  · assumption

theorem doubledSpan?_shape (found : doubledSpan? mark text = some length) :
    ∃ c rest inner behind, text = mark :: mark :: c :: rest ∧ Text.breakOn [mark, mark] rest = some (inner, behind) ∧
      length = inner.length + 5 := by
  match text, found with
  | a :: b :: c :: rest, found =>
    simp only [doubledSpan?] at found
    split at found
    next marks =>
      simp only [Bool.and_eq_true, decide_eq_true_eq] at marks
      obtain ⟨rfl, rfl⟩ := marks
      obtain ⟨⟨inner, behind⟩, broken, rfl⟩ := Option.map_eq_some_iff.mp found
      exact ⟨c, rest, inner, behind, rfl, broken, rfl⟩
    · cases found

theorem closingMark?_mem (found : closingMark? mark (c :: rest) = some length) : mark ∈ rest ∧ 1 ≤ length := by
  induction rest generalizing c length with
  | nil => cases found
  | cons d rest ih =>
    simp only [closingMark?] at found
    split at found
    next closes =>
      obtain rfl := Option.some.inj found
      simp only [Bool.and_eq_true, decide_eq_true_eq] at closes
      obtain rfl := closes.1.2
      exact ⟨List.mem_cons_self, Nat.le_refl 1⟩
    · obtain ⟨shorter, later, rfl⟩ := Option.map_eq_some_iff.mp found
      exact ⟨.tail _ (ih later).1, Nat.le_add_left 1 shorter⟩

theorem singleSpan?_shape (found : singleSpan? mark text = some length) :
    ∃ c rest, text = mark :: c :: rest ∧ c ≠ mark ∧ mark ∈ rest ∧ 3 ≤ length := by
  match text, found with
  | a :: c :: rest, found =>
    simp only [singleSpan?] at found
    split at found
    next opens =>
      simp only [Bool.and_eq_true, decide_eq_true_eq] at opens
      obtain ⟨⟨rfl, other⟩, -⟩ := opens
      obtain ⟨distance, closed, rfl⟩ := Option.map_eq_some_iff.mp found
      obtain ⟨member, long⟩ := closingMark?_mem closed
      exact ⟨c, rest, rfl, other, member, Nat.add_le_add_right long 2⟩
    · cases found

/-- A span has its mark at both ends. -/
theorem Escapes.marks (escapes : Escapes mark before text span) : 2 ≤ text.count mark := by
  have single {own : Text} {length : Nat} (found : singleSpan? mark own = some length) : 2 ≤ own.count mark := by
    obtain ⟨c, rest, rfl, other, member, -⟩ := singleSpan?_shape found
    rw [List.count_cons_self, List.count_cons_of_ne other]
    exact Nat.succ_le_succ (List.count_pos_iff.mpr member)
  cases escapes with
  | doubled free found =>
    obtain ⟨c, rest, inner, behind, rfl, -, -⟩ := doubledSpan?_shape found
    simp
  | first start found => exact single found
  | behind found => exact Nat.le_trans (single found) ((List.sublist_cons_self _ _).count_le mark)

theorem escapeMarkFrom_rare (rare : text.count mark < 2) : escapeMarkFrom mark 0 before text = text := by
  induction text generalizing before with
  | nil => rfl
  | cons c rest ih =>
    have none : spanAt? mark before (c :: rest) = none := by
      cases found : spanAt? mark before (c :: rest) with
      | none => rfl
      | some span => exact absurd (spanAt?_some found).marks (Nat.not_le_of_lt rare)
    have fewer : rest.count mark < 2 := Nat.lt_of_le_of_lt ((List.sublist_cons_self _ _).count_le mark) rare
    simp only [escapeMarkFrom, none, ih fewer]

/-- Passing over a mark that is rare makes no difference. -/
theorem escapeMark_eq (text : Text) (mark : Char) : escapeMark text mark = escapeMarkFrom mark 0 none text := by
  simp only [escapeMark]
  split
  next rare => exact (escapeMarkFrom_rare rare).symm
  next => rfl

/-- The text gets backslashes in front of its characters, before each at most as many as are allowed. -/
inductive Backslashed (allowed : Char → Nat) : Text → Text → Prop where
  | nil : Backslashed allowed [] []
  | cons {count : Nat} {c : Char} {rest out : Text} (few : count ≤ allowed c) (others : Backslashed allowed rest out) :
      Backslashed allowed (c :: rest) (List.replicate count '\\' ++ c :: out)

namespace Backslashed

variable {allowed others : Char → Nat} {out final : Text}

theorem keep (c : Char) (later : Backslashed allowed rest out) : Backslashed allowed (c :: rest) (c :: out) :=
  .cons (Nat.zero_le (allowed c)) later

theorem refl (text : Text) : Backslashed allowed text text := by
  induction text with
  | nil => exact .nil
  | cons c rest ih => exact ih.keep c

theorem mono (more : ∀ c, allowed c ≤ others c) (escaped : Backslashed allowed text out) :
    Backslashed others text out := by
  induction escaped with
  | nil => exact .nil
  | cons few _ ih => exact .cons (Nat.le_trans few (more _)) ih

/-- No backslash has come to stand in front of a character that has none in front of it. -/
theorem of_kept (other : c ≠ '\\') (escaped : Backslashed allowed (c :: rest) (c :: out)) :
    Backslashed allowed rest out := by
  generalize same : c :: out = whole at escaped
  cases escaped with
  | @cons count _ _ later few others =>
    cases count with
    | zero =>
      obtain rfl := (List.cons.inj same).2
      exact others
    | succ count => exact absurd (List.cons.inj same).1 other

/-- The backslashes of an earlier escape stay together. -/
theorem of_replicate (plain : others '\\' = 0) {count : Nat}
    (escaped : Backslashed others (List.replicate count '\\' ++ c :: rest) final) :
    ∃ more out, more ≤ others c ∧ Backslashed others rest out ∧
      final = List.replicate (count + more) '\\' ++ c :: out := by
  induction count generalizing final with
  | zero =>
    cases escaped with
    | @cons more _ _ out few later => exact ⟨more, out, few, later, by rw [Nat.zero_add]⟩
  | succ count ih =>
    rw [List.replicate_succ, List.cons_append] at escaped
    cases escaped with
    | cons few later =>
      obtain rfl := Nat.le_zero.mp (plain ▸ few)
      obtain ⟨more, out, few, last, rfl⟩ := ih later
      refine ⟨more, out, few, last, ?_⟩
      rw [Nat.add_right_comm, List.replicate_succ]
      rfl

/-- One escape after the other adds what both add. -/
theorem trans (plain : others '\\' = 0) (first : Backslashed allowed text out) (second : Backslashed others out final) :
    Backslashed (fun c => allowed c + others c) text final := by
  induction first generalizing final with
  | nil =>
    cases second
    exact .nil
  | cons few _ ih =>
    obtain ⟨more, out, enough, later, rfl⟩ := of_replicate plain second
    exact .cons (Nat.add_le_add few enough) (ih later)

theorem append (first : Backslashed allowed text out) {behind more : Text} (second : Backslashed allowed behind more) :
    Backslashed allowed (text ++ behind) (out ++ more) := by
  induction first with
  | nil => exact second
  | cons few _ ih =>
    rw [List.cons_append, List.append_assoc, List.cons_append]
    exact .cons few ih

theorem split {front : Text} (escaped : Backslashed allowed (front ++ rest) final) :
    ∃ out behind, final = out ++ behind ∧ Backslashed allowed front out ∧ Backslashed allowed rest behind := by
  induction front generalizing final with
  | nil => exact ⟨[], final, rfl, .nil, escaped⟩
  | cons c front ih =>
    cases escaped with
    | cons few later =>
      obtain ⟨out, behind, rfl, first, second⟩ := ih later
      exact ⟨_, behind, by rw [List.append_assoc, List.cons_append], .cons few first, second⟩

/-- What has no backslash in it has been there before. -/
theorem of_unescaped {front : Text} (free : '\\' ∉ front) (escaped : Backslashed allowed text (front ++ out)) :
    ∃ rest, text = front ++ rest ∧ Backslashed allowed rest out := by
  induction front generalizing text with
  | nil => exact ⟨text, rfl, escaped⟩
  | cons c front ih =>
    rw [List.mem_cons, not_or] at free
    generalize same : c :: front ++ out = whole at escaped
    cases escaped with
    | nil => cases same
    | @cons count d rest final few others =>
      cases count with
      | zero =>
        obtain ⟨rfl, rfl⟩ := List.cons.inj same
        obtain ⟨behind, rfl, later⟩ := ih free.2 others
        exact ⟨behind, rfl, later⟩
      | succ count => exact absurd (List.cons.inj same).1.symm free.1

theorem eq_of_unescaped (free : '\\' ∉ out) (escaped : Backslashed allowed text out) : out = text := by
  induction escaped with
  | nil => rfl
  | @cons count c rest out few _ ih =>
    rw [List.mem_append, List.mem_cons, not_or, not_or] at free
    cases count with
    | zero => rw [ih free.2.2]; rfl
    | succ count => exact absurd List.mem_cons_self free.1

theorem untouched (none : ∀ c ∈ text, allowed c = 0) (escaped : Backslashed allowed text out) : out = text := by
  induction escaped with
  | nil => rfl
  | cons few _ ih =>
    obtain ⟨here, later⟩ := List.forall_mem_cons.mp none
    obtain rfl := Nat.le_zero.mp (here ▸ few)
    rw [ih later]
    rfl

/-- Nothing but backslashes is added. -/
theorem mem (escaped : Backslashed allowed text out) (member : c ∈ out) : c = '\\' ∨ c ∈ text := by
  induction escaped with
  | nil => exact .inr member
  | cons few _ ih =>
    rcases List.mem_append.mp member with added | later
    · exact .inl (List.mem_replicate.mp added).2
    · rcases List.mem_cons.mp later with rfl | later
      · exact .inr List.mem_cons_self
      · exact (ih later).imp id (.tail _)

theorem getLast?_eq (escaped : Backslashed allowed text out) : out.getLast? = text.getLast? := by
  induction escaped with
  | nil => rfl
  | cons few _ ih => rw [List.getLast?_append, List.getLast?_cons, List.getLast?_cons, ih, Option.some_or]

end Backslashed

/-- What the pass for a mark may put in front of a character. -/
def passAllowance (mark c : Char) : Nat := if c = mark then if mark = '+' then 1 else 2 else 0

theorem one_allowed (mark : Char) : 1 ≤ passAllowance mark mark := by
  simp only [passAllowance, if_true]
  split <;> decide

theorem escapeMarkFrom_backslashed (plain : mark ≠ '\\') :
    Backslashed (passAllowance mark) text (escapeMarkFrom mark skip before text) := by
  fun_induction escapeMarkFrom mark skip before text with
  | case1 => exact .nil
  | case2 skip before c rest ih => exact ih.keep c
  | case3 before c rest none ih => exact ih.keep c
  | case4 before c rest span found backslashes behind ih =>
    cases spanAt?_some found with
    | doubled | first => cases behind
    | behind single =>
      -- the span itself is passed over, so that its first mark comes out as it is
      obtain ⟨d, others, rfl, -, -, long⟩ := singleSpan?_shape single
      obtain ⟨skip, rfl⟩ := Nat.exists_eq_add_of_le' long
      have later := ih.of_kept plain
      rw [List.cons_append]
      exact .keep c (.cons (one_allowed mark) later)
  | case5 before c rest span found backslashes here ih =>
    cases spanAt?_some found with
    | behind => exact absurd rfl here
    | doubled free doubled =>
      obtain ⟨d, others, inner, behind, same, -, -⟩ := doubledSpan?_shape doubled
      obtain ⟨rfl, -⟩ := List.cons.inj same
      refine .cons ?_ ih
      simp [passAllowance]
    | first start single =>
      obtain ⟨d, others, same, -, -, -⟩ := singleSpan?_shape single
      obtain ⟨rfl, -⟩ := List.cons.inj same
      exact .cons (one_allowed c) ih

theorem escapeMark_backslashed (plain : mark ≠ '\\') :
    Backslashed (passAllowance mark) text (escapeMark text mark) := by
  rw [escapeMark_eq]
  exact escapeMarkFrom_backslashed plain

/-- What the passes for several marks may put in front of a character. -/
def allowance : List Char → Char → Nat
  | [], _ => 0
  | mark :: others, c => passAllowance mark c + allowance others c

theorem allowance_other {marks : List Char} (other : c ∉ marks) : allowance marks c = 0 := by
  induction marks with
  | nil => rfl
  | cons mark others ih =>
    rw [List.mem_cons, not_or] at other
    rw [allowance, ih other.2, passAllowance, if_neg other.1]

theorem escapeMarks_backslashed {marks : List Char} (plain : '\\' ∉ marks) (text : Text) :
    Backslashed (allowance marks) text (marks.foldl escapeMark text) := by
  induction marks generalizing text with
  | nil => exact .refl text
  | cons mark others ih =>
    rw [List.mem_cons, not_or] at plain
    exact (escapeMark_backslashed (Ne.symm plain.1)).trans (allowance_other plain.2) (ih plain.2 _)

/-- Two backslashes may stand in front of a mark, one in front of a plus sign, none elsewhere. -/
def markAllowance (c : Char) : Nat := if c = '+' then 1 else if c ∈ formattingMarks then 2 else 0

theorem marks_cases (known : mark ∈ formattingMarks) :
    mark = '*' ∨ mark = '_' ∨ mark = '\x60' ∨ mark = '#' ∨ mark = '+' := by
  simpa [formattingMarks] using known

theorem allowance_marks (c : Char) : allowance formattingMarks c = markAllowance c := by
  by_cases known : c ∈ formattingMarks
  · rcases marks_cases known with rfl | rfl | rfl | rfl | rfl <;> decide
  · have other : c ≠ '+' := by
      rintro rfl
      exact known (by decide)
    rw [allowance_other known, markAllowance, if_neg other, if_neg known]

/-- Puts as many backslashes in front of each character as its count says. -/
def withBackslashes : List Nat → Text → Text
  | count :: counts, c :: rest => List.replicate count '\\' ++ c :: withBackslashes counts rest
  | _, text => text

/-- Takes as many characters away in front of each character that stays as its count says. -/
def withoutBackslashes : List Nat → Text → Text
  | [], text => text
  | count :: counts, text =>
    match text.drop count with
    | [] => []
    | c :: rest => c :: withoutBackslashes counts rest

theorem withoutBackslashes_with (counts : List Nat) (text : Text) :
    withoutBackslashes counts (withBackslashes counts text) = text := by
  induction counts generalizing text with
  | nil => cases text <;> rfl
  | cons count counts ih =>
    cases text with
    | nil => cases count <;> rfl
    | cons c rest =>
      simp only [withBackslashes, withoutBackslashes]
      rw [List.drop_append_of_le_length (by simp), List.drop_of_length_le (by simp), List.nil_append]
      simp only [ih]

theorem Backslashed.counts {allowed : Char → Nat} {out : Text} (escaped : Backslashed allowed text out) :
    ∃ counts, counts.length = text.length ∧ (∀ slot ∈ counts.zip text, slot.1 ≤ allowed slot.2) ∧
      withBackslashes counts text = out := by
  induction escaped with
  | nil => exact ⟨[], rfl, List.forall_mem_nil _, rfl⟩
  | @cons count c rest out few _ ih =>
    obtain ⟨counts, same, within, rfl⟩ := ih
    refine ⟨count :: counts, by simp [same], ?_, rfl⟩
    rw [List.zip_cons_cons]
    exact List.forall_mem_cons.mpr ⟨few, within⟩

/-- The escape puts backslashes in front of marks and does nothing else, and so can be undone. It makes no difference to
pass over a mark that is rare. -/
theorem escaping_adds_backslashes (text : Text) :
    (∃ counts, counts.length = text.length ∧ (∀ slot ∈ counts.zip text, slot.1 ≤ markAllowance slot.2) ∧
      escapeFormattingMarks text = withBackslashes counts text ∧
      withoutBackslashes counts (escapeFormattingMarks text) = text) ∧
    ∀ mark, escapeMark text mark = escapeMarkFrom mark 0 none text := by
  refine ⟨?_, escapeMark_eq text⟩
  have escaped : Backslashed (allowance formattingMarks) text (escapeFormattingMarks text) :=
    escapeMarks_backslashed (by decide) text
  obtain ⟨counts, same, within, written⟩ := (escaped.mono fun c => Nat.le_of_eq (allowance_marks c)).counts
  refine ⟨counts, same, within, written.symm, ?_⟩
  rw [← written, withoutBackslashes_with]

end Adocify.AsciiDoc
