import Adocify.Proofs.CourseTrees

/-! The marks of spans. A span is left with single marks if the pieces next to it do not touch it with a word character.
A reader, however, looks at the characters next to it, whichever piece they come from, and single marks open nothing
behind some characters that are not of words. -/

namespace Adocify.AsciiDoc

/-- What is shown of a piece between two characters: a span that touches a word takes doubled marks. -/
def shownBetween (before after : Option Char) (piece : Piece) : Text :=
  match piece.mark with
  | some mark =>
    if piece.isMarked mark && (before.any Text.isWord || after.any Text.isWord) then mark :: piece.text ++ [mark]
    else piece.text
  | none => piece.text

/-- The last character of the piece directly before a span, and the first one of the piece directly behind it. -/
def lastBefore (above : List Piece) : Option Char := above.getLast?.bind fun piece => piece.text.getLast?

def firstBehind (below : List Piece) : Option Char := below.head?.bind fun piece => piece.text.head?

def ownTexts (pieces : List Piece) : Text := (pieces.map (·.text)).flatten

section

variable {before after : Option Char} {piece : Piece} {above below : List Piece}

theorem doubleMarks_cons : doubleMarks before (piece :: below) =
    shownBetween before (firstBehind below) piece :: doubleMarks piece.text.getLast? below := rfl

/-- Doubling repeats the characters at the edges of a piece. -/
theorem shownBetween_edges :
    (shownBetween before after piece).head? = piece.text.head? ∧
      (shownBetween before after piece).getLast? = piece.text.getLast? := by
  rw [shownBetween]
  split
  next mark _ =>
    split
    next doubled =>
      simp only [Piece.isMarked, Bool.and_eq_true, decide_eq_true_eq] at doubled
      obtain ⟨⟨opened, closed⟩, -⟩ := doubled
      exact ⟨opened.symm, List.getLast?_concat.trans closed.symm⟩
    · exact ⟨rfl, rfl⟩
  · exact ⟨rfl, rfl⟩

theorem ownTexts_cons : ownTexts (piece :: below) = piece.text ++ ownTexts below := rfl

theorem head?_doubleMarks (before : Option Char) (pieces : List Piece) :
    (doubleMarks before pieces).flatten.head? = (ownTexts pieces).head? := by
  induction pieces generalizing before with
  | nil => rfl
  | cons piece rest ih =>
    rw [doubleMarks_cons, List.flatten_cons, List.head?_append, ih, shownBetween_edges.1, ownTexts_cons,
      List.head?_append]

/-- What is shown of a piece depends on the edges of its neighbours, and on nothing else around it. -/
theorem doubleMarks_split (before : Option Char) (above : List Piece) :
    ∃ front, doubleMarks before (above ++ piece :: below) =
        front ++ shownBetween (if above.isEmpty then before else lastBefore above) (firstBehind below) piece ::
          doubleMarks piece.text.getLast? below ∧
      front.length = above.length ∧ front.flatten.getLast? = (ownTexts above).getLast? := by
  induction above generalizing before with
  | nil => exact ⟨[], rfl, rfl, rfl⟩
  | cons first rest ih =>
    obtain ⟨front, split, same, last⟩ := ih first.text.getLast?
    refine ⟨shownBetween before (firstBehind (rest ++ piece :: below)) first :: front, ?_, congrArg (· + 1) same, ?_⟩
    · rw [List.cons_append, doubleMarks_cons, split, List.cons_append]
      cases rest <;> rfl
    · rw [List.flatten_cons, List.getLast?_append, last, shownBetween_edges.2, ownTexts_cons, List.getLast?_append]

/-- No piece next to a span touches it with a character of a word. -/
def Untouched (above below : List Piece) : Prop :=
  (∀ c ∈ lastBefore above, Text.isWord c = false) ∧ ∀ c ∈ firstBehind below, Text.isWord c = false

/-- Between these texts single marks are read as marks: the first one opens a span behind what stands before it, and
the other one closes it before what follows. -/
def MarksRecognised (front behind : Text) : Prop :=
  (∀ c ∈ front.getLast?, blocksOpening c = false) ∧ ∀ c ∈ behind.head?, Text.isWord c = false

/-- The pieces next to a span show what it stands between: no other character that blocks a mark stands before it, and
no word is hidden by a piece without text. -/
structure PiecesTell (above below : List Piece) (front behind : Text) : Prop where
  lead : ∀ c ∈ front.getLast?, c ≠ ';' ∧ c ≠ ':' ∧ c ≠ '\x7d' ∧ c ≠ '\\'
  before : ∀ piece ∈ above.getLast?, piece.text = [] → ∀ c ∈ front.getLast?, Text.isWord c = false
  behind : ∀ piece ∈ below.head?, piece.text = [] → ∀ c ∈ behind.head?, Text.isWord c = false

/-- A piece with text ends as all up to it does, and begins as all from it on does. -/
theorem edge_seen {text others : Text} {c : Char} (filled : text ≠ []) :
    (c ∈ text.getLast?.or others.getLast? → c ∈ text.getLast?) ∧ (c ∈ text.head?.or others.head? → c ∈ text.head?) := by
  obtain ⟨d, rest, rfl⟩ := List.exists_cons_of_ne_nil filled
  rw [List.getLast?_cons]
  exact ⟨id, id⟩

theorem marksRecognised_iff {front behind : Text} (untouched : Untouched above below)
    (last : front.getLast? = (ownTexts above).getLast?) (first : behind.head? = (ownTexts below).head?) :
    MarksRecognised front behind ↔ PiecesTell above below front behind := by
  constructor
  · rintro ⟨opens, closes⟩
    have parts : ∀ c ∈ front.getLast?, (Text.isWord c = false ∧ c ≠ ';' ∧ c ≠ ':' ∧ c ≠ '\x7d' ∧ c ≠ '\\') := by
      intro c member
      simpa [blocksOpening, and_assoc] using opens c member
    exact ⟨fun c member => (parts c member).2, fun _ _ _ c member => (parts c member).1, fun _ _ _ => closes⟩
  · intro tell
    constructor
    · intro c member
      have word : Text.isWord c = false := by
        rcases List.eq_nil_or_concat above with rfl | ⟨others, piece, rfl⟩
        · rw [last] at member
          cases member
        rw [List.concat_eq_append] at *
        by_cases empty : piece.text = []
        · exact tell.before piece List.getLast?_concat empty c member
        · have joined : ownTexts (others ++ [piece]) = ownTexts others ++ piece.text := by simp [ownTexts]
          rw [last, joined, List.getLast?_append] at member
          refine untouched.1 c ?_
          rw [lastBefore, List.getLast?_concat]
          exact (edge_seen empty).1 member
      obtain ⟨semicolon, colon, brace, backslash⟩ := tell.lead c member
      simp [blocksOpening, word, semicolon, colon, brace, backslash]
    · intro c member
      rcases below with _ | ⟨piece, others⟩
      · rw [first] at member
        cases member
      by_cases empty : piece.text = []
      · exact tell.behind piece rfl empty c member
      · rw [first, ownTexts_cons, List.head?_append] at member
        exact untouched.2 c ((edge_seen empty).2 member)

end

/-- The pieces that the content of a line is rendered to. -/
def linePieces (options : Options) (children : List Child) : Render (List Piece) := do
  reportDroppedComments children
  piecesFrom 0 (mergeTexts (·.node) (Child.ofText options) children)

theorem inlineContent_eq (options : Options) (children : List Child) :
    inlineContent options children = do
      let pieces ← linePieces options children
      return (doubleMarks none pieces).flatten := by
  simp only [inlineContent, linePieces, bind_assoc]

namespace Stage

variable {stage : Stage} {nodes : List Node} {before left : Context}

/-- Of the elements outside key combinations each has its piece, with the mark of its kind. -/
theorem piecesFrom_marks {skip : Nat} {pieces : List Piece}
    (ran : (piecesFrom skip (nodes.map stage.child)).runIn before = (.ok pieces, left)) :
    pieces.filterMap (·.mark) = (outsideKeys skip nodes).filterMap markOf := by
  fun_induction outsideKeys skip nodes generalizing before left pieces with
  | case1 skip =>
    have none : pieces = [] := by
      cases skip <;> exact (Render.runIn_pure_ok.mp ran).1.symm
    rw [none]
    rfl
  | case2 skip node rest ih => exact ih ran
  | case3 node rest after taken ih =>
    obtain ⟨text, between, later, -, there, rfl⟩ := piecesFrom_element_ok taken ran
    rw [List.filterMap_cons, List.filterMap_cons, ih there]
  | case4 node rest keys after some taken ih =>
    obtain ⟨between, later, -, there, rfl⟩ := piecesFrom_keys_ok (fun none => some none) taken ran
    rw [List.filterMap_cons, ih there]

theorem linePieces_marks {content : List Node} {pieces : List Piece}
    (ran : (linePieces stage.options (content.map stage.child)).runIn before = (.ok pieces, left)) :
    pieces.filterMap (·.mark) = (inlineParts content).filterMap markOf := by
  rw [linePieces, mergeTexts_children] at ran
  obtain ⟨_, between, -, ran⟩ := Render.runIn_bind_ok.mp ran
  exact piecesFrom_marks ran

end Stage

/-- How a span is shown between these texts: with doubled marks if a piece next to it touches it, and with single ones
otherwise, which are recognised if and only if the pieces tell what it stands between. -/
inductive SpanShown (above below : List Piece) (mark : Char) (own front behind : Text) : Text → Prop where
  | single (untouched : Untouched above below)
      (recognised : MarksRecognised front behind ↔ PiecesTell above below front behind) :
      SpanShown above below mark own front behind own
  | doubled (touched : ¬Untouched above below) : SpanShown above below mark own front behind (mark :: own ++ [mark])

section

variable {piece : Piece} {above below : List Piece} {mark : Char}

theorem untouched_iff : Untouched above below ↔
    ((lastBefore above).any Text.isWord || (firstBehind below).any Text.isWord) = false := by
  rw [Bool.or_eq_false_iff, Option.any_eq_false, Option.any_eq_false]
  simp [Untouched]

theorem span_shown (spanned : piece.mark = some mark) (marked : piece.isMarked mark = true) :
    ∃ front shown behind, doubleMarks none (above ++ piece :: below) = front ++ shown :: behind ∧
      front.length = above.length ∧ SpanShown above below mark piece.text front.flatten behind.flatten shown := by
  have edge : (if above.isEmpty then none else lastBefore above) = lastBefore above := by
    cases above <;> rfl
  obtain ⟨front, split, same, last⟩ := doubleMarks_split none above
  rw [edge] at split
  refine ⟨front, shownBetween (lastBefore above) (firstBehind below) piece, _, split, same, ?_⟩
  simp only [shownBetween, spanned, marked, Bool.true_and]
  split
  next touched => exact .doubled fun free => by simp [untouched_iff.mp free] at touched
  next free =>
    have untouched := untouched_iff.mpr ((Bool.not_eq_true _).mp free)
    exact .single untouched (marksRecognised_iff untouched last (head?_doubleMarks _ below))

end

/-- A span that is left with single marks stands where they are read as marks if and only if the pieces next to it tell
what it stands between. -/
theorem single_marks_recognised_iff (options : Options) (depth : Nat) {content : List Node} {before left : Context}
    {text : Text}
    (ran : (inlineContent options (renderChildren options (renderFootnote options depth) content)).runIn before =
      (.ok text, left)) :
    ∃ pieces, (linePieces options (renderChildren options (renderFootnote options depth) content)).runIn before =
        (.ok pieces, left) ∧
      pieces.filterMap (·.mark) = (inlineParts content).filterMap markOf ∧ text = (doubleMarks none pieces).flatten ∧
      ∀ above piece below mark, pieces = above ++ piece :: below → piece.mark = some mark → piece.isMarked mark = true →
        ∃ front shown behind, doubleMarks none pieces = front ++ shown :: behind ∧ front.length = above.length ∧
          SpanShown above below mark piece.text front.flatten behind.flatten shown := by
  rw [inlineContent_eq] at ran
  obtain ⟨pieces, last, line, ran⟩ := Render.runIn_bind_ok.mp ran
  obtain ⟨rfl, rfl⟩ := Render.runIn_pure_ok.mp ran
  refine ⟨pieces, line, ?_, rfl, ?_⟩
  · have children : renderChildren options (renderFootnote options depth) content =
        content.map (Stage.plain options depth).child := Stage.renderChildren_eq (.plain options depth) content
    rw [children] at line
    exact Stage.linePieces_marks line
  · rintro above piece below mark rfl spanned marked
    exact span_shown spanned marked

/-- The emphasis stands behind a blank and before a full stop; the strong text inside a word takes doubled marks. -/
theorem single_marks_recognised_iff_word :
    let content : List Node :=
      [.text "un".toList, .strong [.text "bold".toList], .text "ed ".toList, .emphasis [.text ['x']], .text ['.']]
    let line := inlineContent {} (renderChildren {} (renderFootnote {} 0) content)
    let above : List Piece := [⟨none, "un".toList⟩, ⟨some '*', "*bold*".toList⟩, ⟨none, "ed ".toList⟩]
    let span : Piece := ⟨some '_', "_x_".toList⟩
    let below : List Piece := [⟨none, ['.']⟩]
    (line.runIn { attributes := [] }).1 = .ok "un**bold**ed _x_.".toList ∧ span.isMarked '_' = true ∧
      ∃ front shown behind, doubleMarks none (above ++ span :: below) = front ++ shown :: behind ∧
        front.length = above.length ∧ SpanShown above below '_' span.text front.flatten behind.flatten shown := by
  intro content line above span below
  have ran : line.runIn { attributes := [] } = (.ok "un**bold**ed _x_.".toList, { attributes := [] }) := rfl
  have marked : span.isMarked '_' = true := rfl
  obtain ⟨pieces, rendered, -, -, spans⟩ := single_marks_recognised_iff {} 0 ran
  have known : (linePieces {} (renderChildren {} (renderFootnote {} 0) content)).runIn { attributes := [] } =
      (.ok (above ++ span :: below), { attributes := [] }) := rfl
  obtain rfl : pieces = above ++ span :: below := by simpa [known] using rendered.symm
  exact ⟨congrArg Prod.fst ran, marked, spans above span below '_' rfl rfl marked⟩

/-- HTML that is dropped hides the word before a span, and behind a colon single marks open nothing. -/
theorem single_marks_misplaced :
    (render { dropHtml := true } []
        (.document [.paragraph [.text ['a'], .htmlInline "<i>".toList, .strong [.text ['b']]]])).outcome =
      .ok "a*b*\n".toList ∧
    (render {} [] (.document [.paragraph [.text "see:".toList, .strong [.text ['b']]]])).outcome =
      .ok "see:*b*\n".toList ∧
    ¬MarksRecognised ['a'] [] ∧ ¬MarksRecognised "see:".toList [] := by
  refine ⟨rfl, rfl, fun recognised => ?_, fun recognised => ?_⟩
  · exact absurd (recognised.1 'a' rfl) (by decide)
  · exact absurd (recognised.1 ':' rfl) (by decide)

end Adocify.AsciiDoc
