import Adocify.Proofs.MarkPairs

/-! Pairs of doubled marks in an escaped text. Each pair that is found there either has a backslash directly before it,
or opens within a span that the escape has passed over behind the span's own backslashes. The pairs are read in a trace
of the pass for their mark, which tells where each character comes from. The passes for the other marks put backslashes
in front of other characters only, and do not change what is read. -/

namespace Adocify.AsciiDoc

section

variable {mark c : Char} {before : Option Char} {text rest : Text}

theorem breakOn_isSome (mark : Char) (text : Text) :
    (Text.breakOn [mark, mark] text).isSome = (behindMarks? id mark text).isSome := by
  induction text with
  | nil => rfl
  | cons c rest ih =>
    by_cases pair : c = mark ∧ rest.head? = some mark
    · obtain ⟨rfl, marked⟩ := pair
      obtain ⟨more, rfl⟩ := List.head?_eq_some_iff.mp marked
      simp [Text.breakOn, behindMarks?]
    · have other : ¬[mark, mark] <+: c :: rest := by
        rintro ⟨more, same⟩
        obtain ⟨rfl, rfl⟩ := List.cons.inj same
        exact pair ⟨rfl, rfl⟩
      rw [behindMarks?_apart (not_and_or.mp pair), ← ih, Text.breakOn, if_neg (mt List.isPrefixOf_iff_prefix.mp other),
        Option.isSome_map]

theorem doubledSpan?_isSome (mark : Char) (text : Text) :
    (doubledSpan? mark text).isSome = (behindPair? id mark text).isSome := by
  match text with
  | [] | [a] | [a, b] => rfl
  | a :: b :: c :: rest =>
    simp only [doubledSpan?, behindPair?, id, Bool.and_eq_true, decide_eq_true_eq]
    split
    · rw [Option.isSome_map, breakOn_isSome]
    · rfl

/-- Where no pair begins, the scan can only escape a span behind the next character, unless it has just begun. -/
theorem spanAt?_unpaired {span : EscapedSpan} (later : before ≠ none) (unpaired : behindPair? id mark text = none)
    (found : spanAt? mark before text = some span) :
    ∃ lead d rest, text = lead :: mark :: d :: rest ∧ d ≠ mark ∧ span.behindLead = true := by
  cases spanAt?_some found with
  | doubled free doubled =>
    have some := doubledSpan?_isSome mark text
    rw [doubled, unpaired] at some
    cases some
  | first start => exact absurd start later
  | behind single =>
    obtain ⟨d, rest, rfl, other, -, -⟩ := singleSpan?_shape single
    exact ⟨_, d, rest, rfl, other, rfl⟩

theorem escapeMarkFrom_unpaired (later : before ≠ none) (unpaired : behindPair? id mark (c :: rest) = none) :
    ∃ out, escapeMarkFrom mark 0 before (c :: rest) = c :: out := by
  simp only [escapeMarkFrom]
  split
  · exact ⟨_, rfl⟩
  next span found =>
    obtain ⟨_, _, _, -, -, behind⟩ := spanAt?_unpaired later unpaired found
    rw [if_pos behind]
    exact ⟨_, rfl⟩

/-- Between three marks in a row that begin no pair nothing is put, at least not before the third. -/
theorem escapeMarkFrom_three (later : before ≠ none) (unpaired : behindMarks? id mark (mark :: rest) = none) :
    ∃ out, escapeMarkFrom mark 0 before (mark :: mark :: mark :: rest) = mark :: mark :: out := by
  have later' := behindMarks?_none unpaired
  have first : behindPair? id mark (mark :: mark :: mark :: rest) = none := by simpa [behindPair?] using later'
  have second : behindPair? id mark (mark :: mark :: rest) = none := by
    cases rest with
    | nil => rfl
    | cons d rest => simpa [behindPair?] using behindMarks?_none later'
  have stays : spanAt? mark before (mark :: mark :: mark :: rest) = none := by
    cases found : spanAt? mark before (mark :: mark :: mark :: rest) with
    | none => rfl
    | some span =>
      obtain ⟨lead, d, others, same, other, -⟩ := spanAt?_unpaired later first found
      exact absurd (List.cons.inj (List.cons.inj (List.cons.inj same).2).2).1.symm other
  obtain ⟨out, same⟩ := escapeMarkFrom_unpaired (Option.some_ne_none mark) second
  refine ⟨out, ?_⟩
  simp only [escapeMarkFrom, stays] at same ⊢
  rw [same]

/-- The escape makes no pair where there is none. -/
theorem unpaired_escaped (plain : mark ≠ '\\') (stays : spanAt? mark before (c :: rest) = none)
    (free : before ≠ some '\\') : behindPair? id mark (c :: escapeMarkFrom mark 0 (some c) rest) = none := by
  have unpaired : behindPair? id mark (c :: rest) = none := by
    rw [← Option.isNone_iff_eq_none, ← Option.not_isSome, ← doubledSpan?_isSome, spanAt?_none stays free]
    rfl
  have escaped : Backslashed (passAllowance mark) rest (escapeMarkFrom mark 0 (some c) rest) :=
    escapeMarkFrom_backslashed plain
  by_cases pair : c = mark ∧ (escapeMarkFrom mark 0 (some c) rest).head? = some mark
  · obtain ⟨rfl, marked⟩ := pair
    obtain ⟨more, rfl⟩ := List.head?_eq_some_iff.mp (escaped.head plain marked)
    obtain ⟨out, same⟩ := List.head?_eq_some_iff.mp marked
    rw [same] at escaped ⊢
    cases escaped.of_kept plain with
    | nil => rfl
    | @cons count d rest out few others =>
      have unpaired : behindMarks? id c rest = none := by simpa [behindPair?] using unpaired
      rw [← Option.isNone_iff_eq_none, ← Option.not_isSome, Bool.not_eq_true', Bool.eq_false_iff]
      intro opens
      -- the third character is the text's own, or a backslash that was put in front of it
      cases count with
      | zero =>
        have closing := others.marks plain (by simpa [behindPair?] using opens)
        rw [unpaired] at closing
        cases closing
      | succ count =>
        have written : (behindMarks? id c (d :: out)).isSome := by
          rw [← behindMarks?_backslashes plain count]
          simpa [behindPair?, List.replicate_succ] using opens
        have closing := (others.keep d).marks plain written
        by_cases double : d = c ∧ rest.head? = some c
        · obtain ⟨rfl, doubled⟩ := double
          obtain ⟨more, rfl⟩ := List.head?_eq_some_iff.mp doubled
          obtain ⟨three, kept⟩ := escapeMarkFrom_three (Option.some_ne_none d) unpaired
          rw [same] at kept
          exact plain (List.cons.inj (List.cons.inj kept).2).1.symm
        · rw [behindMarks?_apart (not_and_or.mp double), unpaired] at closing
          cases closing
  · exact behindPair?_apart (not_and_or.mp pair)

/-- Where a character of an escaped text comes from. -/
inductive Origin where
  /-- The escape has put it there. -/
  | added
  /-- The scan stood at it, looking for a span to escape. -/
  | examined
  /-- It belongs to a span that has its backslashes already, so that the scan passes over it. -/
  | passed
  deriving DecidableEq

structure Written where
  char : Char
  origin : Origin

def addedBackslash : Written := ⟨'\\', .added⟩

/-- The pass for a mark, with the origin of each character that it writes. -/
def traceFrom (mark : Char) : Nat → Option Char → Text → List Written
  | _, _, [] => []
  | skip + 1, _, c :: rest => ⟨c, .passed⟩ :: traceFrom mark skip (some c) rest
  | 0, before, c :: rest =>
    match spanAt? mark before (c :: rest) with
    | none => ⟨c, .examined⟩ :: traceFrom mark 0 (some c) rest
    | some span =>
      if span.behindLead then
        ⟨c, .examined⟩ :: List.replicate span.backslashes addedBackslash ++ traceFrom mark span.length (some c) rest
      else
        List.replicate span.backslashes addedBackslash ++
          ⟨c, .examined⟩ :: traceFrom mark (span.length - 1) (some c) rest

theorem traceFrom_chars (skip : Nat) (before : Option Char) (text : Text) :
    (traceFrom mark skip before text).map (·.char) = escapeMarkFrom mark skip before text := by
  fun_induction escapeMarkFrom mark skip before text with
  | case1 => rfl
  | case2 skip before c rest ih => rw [traceFrom, List.map_cons, ih]
  | case3 before c rest none ih => simp only [traceFrom, none, List.map_cons, ih]
  | case4 before c rest span found backslashes behind ih =>
    simp only [traceFrom, found, if_pos behind, List.cons_append, List.map_cons, List.map_append, List.map_replicate,
      ih]
    rfl
  | case5 before c rest span found backslashes here ih =>
    simp only [traceFrom, found, if_neg here, List.map_cons, List.map_append, List.map_replicate, ih]
    rfl

/-- The scan stood at the opening of the pair, and a backslash stands directly before it. -/
def Guarded (pair : Option Written × Written) : Prop :=
  pair.2.origin = .examined ∧ pair.1.map (·.char) = some '\\'

/-- The pair opens within a span that has its backslashes, and nothing has been put in front of it. -/
def PassedOver (pair : Option Written × Written) : Prop :=
  pair.2.origin = .passed ∧ ∀ own ∈ pair.1, own.origin ≠ .added

def Accounted (pair : Option Written × Written) : Prop := Guarded pair ∨ PassedOver pair

/-- What was written last fits the state of the scan. It is a character of the text, unless the scan is about to pass
over a span behind its lead. -/
structure Fits (mark : Char) (skip : Nat) (before : Option Char) (text : Text) (last : Option Written) : Prop where
  char : skip = 0 → last.map (·.char) = before
  own : (∀ own ∈ last, own.origin ≠ .added) ∨ ∃ more c rest, skip = more + 2 ∧ text = mark :: c :: rest ∧ c ≠ mark

theorem Fits.of_own {skip : Nat} {origin : Origin} (own : origin ≠ .added) (c : Char) (text : Text) :
    Fits mark skip (some c) text (some ⟨c, origin⟩) := by
  refine ⟨fun _ => rfl, .inl ?_⟩
  intro written same
  obtain rfl := Option.some.inj same
  exact own

abbrev TraceAccounted (mark : Char) : Option Written → List Written → Prop := AtOpenings (·.char) mark Accounted

theorem traced_isSome (written : List Written) :
    (behindPair? (·.char) mark written).isSome = (behindPair? id mark (written.map (·.char))).isSome := by
  rw [behindPair?_map, Option.isSome_map]

/-- No pair opens with a backslash. -/
theorem TraceAccounted.backslash (plain : mark ≠ '\\') {last : Option Written} {written : List Written}
    (later : TraceAccounted mark (some addedBackslash) written) :
    TraceAccounted mark last (addedBackslash :: written) := by
  refine ⟨?_, later⟩
  intro opens
  have apart : behindPair? id mark (addedBackslash.char :: written.map (·.char)) = none :=
    behindPair?_apart (.inl (Ne.symm plain))
  rw [traced_isSome, List.map_cons, apart] at opens
  cases opens

theorem TraceAccounted.backslashes (plain : mark ≠ '\\') {last : Option Written} {written : List Written} (count : Nat)
    (later : TraceAccounted mark (some addedBackslash) written) :
    TraceAccounted mark last (List.replicate (count + 1) addedBackslash ++ written) := by
  induction count generalizing last with
  | zero => exact .backslash plain later
  | succ count ih => exact .backslash plain ih

theorem trace_accounted (plain : mark ≠ '\\') {skip : Nat} {last : Option Written}
    (fits : Fits mark skip before text last) : TraceAccounted mark last (traceFrom mark skip before text) := by
  fun_induction traceFrom mark skip before text generalizing last with
  | case1 => exact trivial
  | case2 skip before c rest ih =>
    refine ⟨?_, ih (.of_own (by decide) c rest)⟩
    intro opens
    refine .inr ⟨rfl, fits.own.resolve_right ?_⟩
    rintro ⟨more, d, others, number, same, other⟩
    -- the first mark of a span that stands alone opens no pair
    obtain ⟨rfl, rfl⟩ := List.cons.inj same
    obtain rfl := Nat.succ.inj number
    have apart : (escapeMarkFrom c (more + 1) (some c) (d :: others)).head? ≠ some c :=
      fun marked => other (Option.some.inj marked)
    rw [traced_isSome, List.map_cons, traceFrom_chars, behindPair?_apart (.inr apart)] at opens
    cases opens
  | case3 before c rest none ih =>
    refine ⟨?_, ih (.of_own (by decide) c rest)⟩
    intro opens
    refine .inl ⟨rfl, ?_⟩
    rw [fits.char rfl]
    by_contra free
    rw [traced_isSome, List.map_cons, traceFrom_chars, unpaired_escaped plain none free] at opens
    cases opens
  | case4 before c rest span found behind ih =>
    cases spanAt?_some found with
    | doubled | first => cases behind
    | @behind lead rest length single =>
      obtain ⟨d, others, rfl, other, -, long⟩ := singleSpan?_shape single
      refine ⟨?_, TraceAccounted.backslash plain (ih ⟨?_, .inr ?_⟩)⟩
      · intro opens
        rw [traced_isSome] at opens
        have apart :
            behindPair? id mark (c :: '\\' :: escapeMarkFrom mark length (some c) (mark :: d :: others)) = none :=
          behindPair?_apart (.inr fun marked => plain (Option.some.inj marked).symm)
        rw [← traceFrom_chars] at apart
        cases opens.symm.trans (congrArg Option.isSome apart)
      · intro short
        exact absurd (short ▸ long : 3 ≤ 0) (by decide)
      · obtain ⟨more, rfl⟩ := Nat.exists_eq_add_of_le' long
        exact ⟨more + 1, d, others, rfl, rfl, other⟩
  | case5 before c rest span found here ih =>
    have opened : TraceAccounted mark (some addedBackslash)
        (⟨c, .examined⟩ :: traceFrom mark (span.length - 1) (some c) rest) :=
      ⟨fun _ => .inl ⟨rfl, rfl⟩, ih (.of_own (by decide) c rest)⟩
    obtain ⟨count, number⟩ : ∃ count, span.backslashes = count + 1 := by
      cases spanAt?_some found with
      | behind => exact absurd rfl here
      | first => exact ⟨0, rfl⟩
      | doubled =>
        by_cases plus : mark = '+'
        · exact ⟨0, if_pos plus⟩
        · exact ⟨1, if_neg plus⟩
    rw [number]
    exact .backslashes plain count opened

end

/-- The text as the pass for a mark gets it. -/
def passInput (mark : Char) (text : Text) : Text := (formattingMarks.takeWhile (· ≠ mark)).foldl escapeMark text

def laterMarks (mark : Char) : List Char := (formattingMarks.dropWhile (· ≠ mark)).tail

section

variable {mark : Char} (known : mark ∈ formattingMarks)

include known

theorem formattingMarks_split :
    formattingMarks = formattingMarks.takeWhile (· ≠ mark) ++ mark :: laterMarks mark ∧
      mark ∉ laterMarks mark ∧ '\\' ∉ laterMarks mark ∧ mark ≠ '\\' := by
  rcases marks_cases known with rfl | rfl | rfl | rfl | rfl <;> decide

theorem escapeFormattingMarks_split (text : Text) :
    escapeFormattingMarks text = (laterMarks mark).foldl escapeMark (escapeMark (passInput mark text) mark) := by
  rw [escapeFormattingMarks, (formattingMarks_split known).1, List.foldl_append, List.foldl_cons]
  rfl

end

/-- A doubled pair in the escaped text has a backslash before it, unless it opens within a span that was passed over. -/
theorem pairs_guarded_unless_passed_over (text : Text) {mark : Char} (known : mark ∈ formattingMarks) :
    let scan := traceFrom mark 0 none (passInput mark text)
    let found := pairsFrom (·.char) mark none scan
    let pairs := pairsFrom id mark none (escapeFormattingMarks text)
    scan.map (·.char) = escapeMark (passInput mark text) mark ∧
    pairs = found.map (fun (before, opening) => (before.map (·.char), opening.char)) ∧
    (∀ pair ∈ found, Guarded pair ∨ PassedOver pair) ∧
    ((∀ pair ∈ pairs, pair.1 = some '\\') ↔
      ∀ pair ∈ found, pair.2.origin = .passed → pair.1.map (·.char) = some '\\') := by
  intro scan found pairs
  obtain ⟨-, other, unescaped, plain⟩ := formattingMarks_split known
  have chars : scan.map (·.char) = escapeMark (passInput mark text) mark := by
    rw [escapeMark_eq]
    exact traceFrom_chars 0 none (passInput mark text)
  have same : pairs = found.map fun (before, opening) => (before.map (·.char), opening.char) := by
    have later := escapeMarks_backslashed unescaped (escapeMark (passInput mark text) mark)
    rw [← escapeFormattingMarks_split known] at later
    rw [← pairsFrom_map (·.char) mark none scan, chars]
    exact (later.pairs plain (allowance_other other) none).symm
  have accounted : ∀ pair ∈ found, Guarded pair ∨ PassedOver pair :=
    (trace_accounted plain ⟨fun _ => rfl, .inl (by simp)⟩).found
  refine ⟨chars, same, accounted, ?_⟩
  rw [same, List.forall_mem_map]
  constructor
  · intro all pair member _
    exact all pair member
  · intro passed pair member
    rcases accounted pair member with guarded | within
    · exact guarded.2
    · exact passed pair member within.1

/-- Doubled marks behind one another and within another mark's span. -/
theorem pairs_guarded_unless_passed_over_nested :
    let text := "**a** _b **c** d_ x**y**".toList
    '*' ∈ formattingMarks ∧ escapeFormattingMarks text = "\\\\**a** \\_b \\\\**c** d_ x\\\\**y**".toList ∧
      ∀ pair ∈ pairsFrom id '*' none (escapeFormattingMarks text), pair.1 = some '\\' := by
  intro text
  have known : '*' ∈ formattingMarks := by decide
  obtain ⟨-, -, -, guarded⟩ := pairs_guarded_unless_passed_over text known
  exact ⟨known, by decide, guarded.mpr (by decide +kernel)⟩

/-- A doubled pair within a span of single marks is passed over, and stays live. So does one that opens with the end of
an escaped pair, where a backslash of the text's own makes the reader find other pairs than the scan. -/
theorem enclosed_pair_unescaped :
    let enclosed := "*a **b** c*".toList
    let shifted := "\\** a **b** c **d**".toList
    escapeFormattingMarks enclosed = "\\*a **b** c*".toList ∧
      pairsFrom id '*' none (escapeFormattingMarks enclosed) = [(some ' ', '*')] ∧
      ∃ pair ∈ pairsFrom id '*' none (escapeFormattingMarks shifted), pair.1 ≠ some '\\' := by
  intro enclosed shifted
  exact ⟨by decide, by decide +kernel, (some 'b', '*'), by decide +kernel, by decide⟩

end Adocify.AsciiDoc
