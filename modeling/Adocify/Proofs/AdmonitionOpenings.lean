import Adocify.Proofs.RecoveredTexts
import Adocify.Proofs.SpanMarks

/-! How an admonition paragraph opens. Its label, a colon and a blank are followed by what is left of the paragraph.
Blanks and colons are taken off one text directly behind the label, and off nothing else, so that it depends on what is
shown first of the rest whether a visible character follows the blank. -/

namespace Adocify.AsciiDoc

/-- How something that is shown begins. What a block begins with that stands within a line is left open. -/
inductive Opening where
  | white
  | visible
  | block
  deriving Repr, DecidableEq

def textOpening (text : Text) : Option Opening :=
  text.head?.map fun c => if Text.isBlank c then .white else .visible

/-- How an element of a line begins; none if it shows nothing. -/
def openingOf (options : Options) : Node → Option Opening
  | .text content => textOpening content
  | .lineBreak _ => some .white
  | .htmlInline content =>
    if isBreakTag (Text.strip content) then some .white
    else if isInlineComment content || options.dropHtml then none
    else some .visible
  | .link url content title =>
    if !isPresent title && isBareUrl url (Node.plainTexts content) then textOpening (Node.plainTexts content)
    else some .visible
  | .emphasis _ | .strong _ | .strikethrough _ | .code _ | .image .. | .footnoteReference _ => some .visible
  | _ => some .block

/-- The first element that shows anything decides, and a key combination is visible. -/
def lineOpening (options : Options) : List Node → Option Opening
  | [] => none
  | node :: rest =>
    if (takeKeys id (node :: rest)).1.isEmpty then (openingOf options node).or (lineOpening options rest)
    else some .visible

section

variable {options : Options} {text rest url : Text} {c letter : Char}

theorem textOpening_append : textOpening (text ++ rest) = (textOpening text).or (textOpening rest) := by
  rw [textOpening, textOpening, textOpening, List.head?_append]
  cases text.head? <;> rfl

theorem textOpening_visible :
    textOpening text = some .visible ↔ ∃ c rest, text = c :: rest ∧ Text.isBlank c = false := by
  cases text with
  | nil => exact ⟨nofun, nofun⟩
  | cons c rest => cases blank : Text.isBlank c <;> simp [textOpening, blank]

/-- Backslashes are put in front of visible characters only. -/
theorem textOpening_literal (options : Options) (content : Text) :
    textOpening (literalText options content) = textOpening content := by
  have escaped := literalText_backslashed options content
  generalize literalText options content = out at escaped
  cases escaped with
  | nil => rfl
  | @cons count c rest out few later =>
    cases count with
    | zero => rfl
    | succ count =>
      have escapable : IsEscapable c := by
        by_contra other
        exact absurd (literalAllowance_other other ▸ few) (Nat.not_succ_le_zero count)
      have marks : ('\x7b' :: formattingMarks).all (!Text.isBlank ·) = true := by decide
      have visible : Text.isBlank c = false := by
        simpa using List.all_eq_true.mp marks c (List.mem_cons.mpr escapable.symm)
      have slash : Text.isBlank '\\' = false := by decide
      simp [textOpening, List.replicate_succ, visible, slash]

theorem letter_visible (visible : Text.isBlank letter = false) (same : isLetter letter c = true) :
    Text.isBlank c = false := by
  simp only [isLetter, Bool.or_eq_true, Bool.and_eq_true, decide_eq_true_eq, beq_iff_eq] at same
  rcases same with ((same | ⟨-, same⟩) | ⟨-, same⟩) | ⟨-, same | same⟩
  · by_cases upper : c.val ≥ 'A'.val ∧ c.val ≤ 'Z'.val
    · have least : 65 ≤ c.toNat := UInt32.le_iff_toNat_le.mp upper.1
      have most : c.toNat ≤ 90 := UInt32.le_iff_toNat_le.mp upper.2
      simp [Text.isBlank]
      omega
    · have kept : c.toLower = c := dif_neg upper
      rw [kept] at same
      exact same ▸ visible
  all_goals
    rw [Text.isBlank, same]
    decide

theorem scheme_visible (found : hasUrlScheme url = true) : textOpening url = some .visible := by
  obtain ⟨scheme, listed, starts⟩ := List.any_eq_true.mp found
  have named : ∀ scheme ∈ recognizedSchemes, textOpening scheme = some .visible := by decide
  obtain ⟨letter, word, rfl, visible⟩ := textOpening_visible.mp (named scheme listed)
  cases url with
  | nil => cases starts
  | cons c rest =>
    simp only [afterWord] at starts
    split at starts
    next same => exact textOpening_visible.mpr ⟨c, rest, rfl, letter_visible visible same⟩
    next => cases starts

theorem linkText_opening_shown (label : Text) {plain : Text} {title : Option Text}
    (shown : ¬(!isPresent title && isBareUrl url plain) = true) :
    textOpening (linkText url label plain title) = some .visible := by
  simp only [linkText, if_neg shown]
  split
  · rfl
  split
  · rfl
  split
  · rfl
  split
  next found => rw [textOpening_append, scheme_visible found, Option.some_or]
  next => rfl

/-- A reference begins with the word for it, whether or not it carries the footnote's text. -/
theorem footnoteReference_named {descend : Text → List Node → Render (List Text)} {identifier : Text}
    {before left : Context} (ran : (footnoteReference descend identifier).runIn before = (.ok text, left)) :
    ∃ rest, text = "footnote:".toList ++ rest := by
  simp only [footnoteReference, Render.runIn_bind, Render.runIn_get] at ran
  split at ran
  · obtain ⟨rfl, -⟩ := Render.runIn_pure_ok.mp ran
    exact ⟨_, List.append_assoc ..⟩
  split at ran
  · obtain ⟨_, between, -, ran⟩ := Render.runIn_bind_ok.mp ran
    obtain ⟨rfl, -⟩ := Render.runIn_pure_ok.mp ran
    exact ⟨_, List.append_assoc ..⟩
  · obtain ⟨blocks, between, -, ran⟩ := Render.runIn_bind_ok.mp ran
    obtain ⟨_, later, -, ran⟩ := Render.runIn_bind_ok.mp ran
    obtain ⟨rfl, -⟩ := Render.runIn_pure_ok.mp ran
    exact ⟨_, by simp only [List.append_assoc]; rfl⟩

/-- An element that is no block begins in its line as its kind tells. -/
theorem element_opening {descend : Text → List Node → Render (List Text)} {node : Node} {before left : Context}
    (inline : openingOf options node ≠ some .block)
    (ran : (renderNode options descend node).runIn before = (.ok text, left)) :
    textOpening text = openingOf options node := by
  cases node with
  | text content =>
    rw [renderNode] at ran
    obtain ⟨rfl, -⟩ := Render.runIn_pure_ok.mp ran
    exact textOpening_literal options content
  | emphasis content | strikethrough content =>
    rw [renderNode] at ran
    obtain ⟨inner, between, -, ran⟩ := Render.runIn_bind_ok.mp ran
    obtain ⟨rfl, -⟩ := Render.runIn_pure_ok.mp ran
    rfl
  | strong content =>
    rw [renderNode, strong] at ran
    split at ran
    all_goals
      obtain ⟨_, between, -, ran⟩ := Render.runIn_bind_ok.mp ran
      obtain ⟨rfl, -⟩ := Render.runIn_pure_ok.mp ran
      rfl
  | code content =>
    rw [renderNode] at ran
    obtain ⟨rfl, -⟩ := Render.runIn_pure_ok.mp ran
    rw [code]
    split <;> rfl
  | link url content title =>
    rw [renderNode] at ran
    obtain ⟨label, between, -, ran⟩ := Render.runIn_bind_ok.mp ran
    obtain ⟨rfl, -⟩ := Render.runIn_pure_ok.mp ran
    rw [openingOf]
    split
    next bare => rw [linkText, if_pos bare]
    next shown => exact linkText_opening_shown label shown
  | image url alternative title =>
    rw [renderNode] at ran
    obtain ⟨target, between, -, ran⟩ := Render.runIn_bind_ok.mp ran
    obtain ⟨rfl, -⟩ := Render.runIn_pure_ok.mp ran
    rfl
  | lineBreak soft =>
    rw [renderNode] at ran
    obtain ⟨rfl, -⟩ := Render.runIn_pure_ok.mp ran
    rw [lineBreak]
    split
    · rfl
    · split <;> rfl
  | htmlInline content =>
    rw [renderNode, htmlInline] at ran
    rw [openingOf]
    split at ran
    next broken =>
      obtain ⟨rfl, -⟩ := Render.runIn_pure_ok.mp ran
      rw [if_pos broken]
      rfl
    next other =>
      rw [if_neg other]
      split at ran
      next comment =>
        obtain ⟨_, between, -, ran⟩ := Render.runIn_bind_ok.mp ran
        obtain ⟨rfl, -⟩ := Render.runIn_pure_ok.mp ran
        rw [comment, Bool.true_or, if_pos rfl]
        rfl
      next kind =>
        rw [Bool.eq_false_iff.mpr kind, Bool.false_or]
        split at ran
        next dropped =>
          obtain ⟨_, between, -, ran⟩ := Render.runIn_bind_ok.mp ran
          obtain ⟨rfl, -⟩ := Render.runIn_pure_ok.mp ran
          rw [if_pos dropped]
          rfl
        next passed =>
          obtain ⟨rfl, -⟩ := Render.runIn_pure_ok.mp ran
          rw [if_neg passed]
          rfl
  | footnoteReference identifier =>
    rw [renderNode] at ran
    obtain ⟨rest, rfl⟩ := footnoteReference_named ran
    rfl
  | _ => exact absurd rfl inline

theorem textOpening_ventilate (text : Text) : textOpening (ventilate text) = textOpening text := by
  cases text <;> rfl

/-- A joined text begins as the text that was read first. -/
theorem mergeFrom_pending (items : List Node) (afterComment : Bool) :
    ∃ more others, mergeFrom id .text (some text) afterComment items = .text (text ++ more) :: others := by
  have passed (text : Text) (others : List Node) :
      ∃ more rest, ((some text).map Node.text).toList ++ others = .text (text ++ more) :: rest :=
    ⟨[], others, by rw [List.append_nil]; rfl⟩
  induction items generalizing text afterComment with
  | nil => exact ⟨[], [], by rw [List.append_nil]; rfl⟩
  | cons item rest ih =>
    cases item with
    | text content =>
      obtain ⟨more, others, same⟩ := @ih
        (text ++ if afterComment && endsInBlank text then content.dropWhile isSpaceOrTab else content) false
      exact ⟨_, others, same.trans (by rw [List.append_assoc])⟩
    | htmlInline raw =>
      simp only [mergeFrom, id_eq]
      split
      · exact ih true
      · exact passed text _
    | _ => exact passed text _

theorem lineOpening_text (visible : Text.isBlank c = false) (others : List Node) :
    lineOpening options (.text (c :: text) :: others) = some .visible := by
  have apart : takeKeys id (.text (c :: text) :: others) = ([], .text (c :: text) :: others) := rfl
  rw [lineOpening, apart, if_pos List.isEmpty_nil, openingOf, textOpening_visible.mpr ⟨c, text, rfl, visible⟩,
    Option.some_or]

/-- What is left of a text behind a label is visible, and what is joined to it does not change that. -/
theorem mergeTexts_opening (more : behindLabel text ≠ []) (others : List Node) :
    lineOpening options (mergeTexts id .text (.text (behindLabel text) :: others)) = some .visible := by
  obtain ⟨added, merged, same⟩ := @mergeFrom_pending (behindLabel text) others false
  change lineOpening options (mergeFrom id .text (some (behindLabel text)) false others) = some .visible
  have visible : Text.isBlank ((behindLabel text).head more) = false := List.head_dropWhile_not Text.isBlank more
  rw [same, ← List.cons_head_tail more]
  exact lineOpening_text visible merged

theorem splitAdmonition_text {marked rest remainder : List Node} {label written : Text}
    (split : splitAdmonition id .text (.strong marked :: .text written :: rest) = some (label, remainder))
    (more : behindLabel written ≠ []) : remainder = .text (behindLabel written) :: rest := by
  simp only [splitAdmonition, id_eq] at split
  split at split
  · split at split
    · cases split
    · rw [if_neg (List.isEmpty_iff.not.mpr more)] at split
      exact (Prod.mk.inj (Option.some.inj split)).2.symm
  · cases split

namespace Stage

variable {stage : Stage} {nodes content : List Node} {before left : Context} {pieces : List Piece} {body : Text}

theorem piecesFrom_opening (inline : lineOpening stage.options nodes ≠ some .block)
    (ran : (piecesFrom 0 (nodes.map stage.child)).runIn before = (.ok pieces, left)) :
    textOpening (ownTexts pieces) = lineOpening stage.options nodes := by
  induction nodes generalizing before pieces with
  | nil =>
    obtain ⟨rfl, -⟩ := Render.runIn_pure_ok.mp ran
    rfl
  | cons node rest ih =>
    rw [lineOpening] at inline ⊢
    cases taken : takeKeys id (node :: rest) with
    | mk keys after =>
      rw [taken] at inline
      cases keys with
      | nil =>
        rw [if_pos List.isEmpty_nil] at inline ⊢
        obtain ⟨text, between, others, here, there, rfl⟩ := piecesFrom_element_ok taken ran
        have own : textOpening text = openingOf stage.options node :=
          element_opening (fun blocked => inline (by rw [blocked, Option.some_or])) here
        rw [ownTexts_cons, textOpening_append, own]
        cases shown : openingOf stage.options node with
        | none =>
          rw [shown, Option.none_or] at inline
          exact ih inline there
        | some opening => rfl
      | cons key keys =>
        obtain ⟨between, others, -, -, rfl⟩ := piecesFrom_keys_ok (List.cons_ne_nil key keys) taken ran
        rfl

/-- A paragraph's text begins as the first of its elements does that shows anything. -/
theorem paragraphText_opening (inline : lineOpening stage.options (mergeTexts id .text content) ≠ some .block)
    (ran : (paragraphText stage.options (content.map stage.child)).runIn before = (.ok body, left)) :
    textOpening body = lineOpening stage.options (mergeTexts id .text content) := by
  simp only [paragraphText, inlineContent, mergeTexts_children] at ran
  obtain ⟨line, last, ran, wrapped⟩ := Render.runIn_bind_ok.mp ran
  obtain ⟨_, noted, -, ran⟩ := Render.runIn_bind_ok.mp ran
  obtain ⟨pieces, later, shown, joined⟩ := Render.runIn_bind_ok.mp ran
  obtain ⟨rfl, rfl⟩ := Render.runIn_pure_ok.mp joined
  obtain ⟨rfl, rfl⟩ := Render.runIn_pure_ok.mp wrapped
  have own := piecesFrom_opening inline shown
  split
  · rw [textOpening_ventilate, textOpening, head?_doubleMarks]
    exact own
  · rw [textOpening, head?_doubleMarks]
    exact own

end Stage

/-- The label, a colon, one blank, and a character that is no blank. -/
def OpensWithText (label text : Text) : Prop :=
  ∃ c rest, text = label ++ ": ".toList ++ c :: rest ∧ Text.isBlank c = false

theorem opensWithText_iff {label body : Text} :
    OpensWithText label (label ++ ": ".toList ++ body) ↔ textOpening body = some .visible := by
  simp only [OpensWithText, textOpening_visible, List.append_cancel_left_eq]

end

/-- An admonition paragraph opens with its label and its text if and only if what is shown first of the rest is visible.
That is so if the label is followed by a text with more than colons and blanks. -/
theorem admonition_opens_iff (options : Options) (depth : Nat) {content remainder : List Node} {label text : Text}
    {before left : Context} (split : splitAdmonition id .text content = some (label, remainder))
    (ran : (renderNode options (renderFootnote options depth) (.paragraph content)).runIn before = (.ok text, left)) :
    label ∈ admonitionLabels.map (·.2) ∧
      ∃ body, (paragraphText options (renderChildren options (renderFootnote options depth) remainder)).runIn before =
          (.ok body, left) ∧ text = label ++ ": ".toList ++ body ∧
        (lineOpening options (mergeTexts id .text remainder) ≠ some .block →
          (OpensWithText label text ↔ lineOpening options (mergeTexts id .text remainder) = some .visible)) ∧
        ∀ marked written rest, content = .strong marked :: .text written :: rest → behindLabel written ≠ [] →
          OpensWithText label text := by
  have children (nodes : List Node) : renderChildren options (renderFootnote options depth) nodes =
      nodes.map (Stage.plain options depth).child := Stage.renderChildren_eq (.plain options depth) nodes
  have apart : blockImage? content = none := by
    obtain ⟨marked, second, rest, rfl, -⟩ := splitAdmonition_shape split
    rfl
  have divided := (Stage.plain options depth).splitAdmonition_eq content
  rw [split, Option.map_some] at divided
  simp only [renderNode, children, paragraph, Stage.nodes_eq, apart] at ran ⊢
  simp only [show Child.ofText options = Child.ofText (Stage.plain options depth).options from rfl, divided] at ran
  obtain ⟨body, between, shown, ran⟩ := Render.runIn_bind_ok.mp ran
  obtain ⟨rfl, rfl⟩ := Render.runIn_pure_ok.mp ran
  have opens : lineOpening options (mergeTexts id .text remainder) ≠ some .block →
      textOpening body = lineOpening options (mergeTexts id .text remainder) :=
    fun inline => @Stage.paragraphText_opening (.plain options depth) _ _ _ _ inline shown
  refine ⟨label_known split, body, shown, rfl, ?_, ?_⟩
  · intro inline
    rw [opensWithText_iff, opens inline]
  · rintro marked written rest rfl more
    have visible : lineOpening options (mergeTexts id .text remainder) = some .visible :=
      splitAdmonition_text split more ▸ mergeTexts_opening more rest
    refine opensWithText_iff.mpr ((opens ?_).trans visible)
    rw [visible]
    decide

/-- The text behind the label holds a colon and blanks alone, and a span follows. -/
theorem admonition_opens_iff_span :
    let content : List Node := [.strong [.text "Tip".toList], .text ":  ".toList, .emphasis [.text "Read".toList]]
    let remainder : List Node := [.emphasis [.text "Read".toList]]
    let shown := renderNode {} (renderFootnote {} 0) (.paragraph content)
    splitAdmonition id .text content = some ("TIP".toList, remainder) ∧
      (shown.runIn { attributes := [] }).1 = .ok "TIP: _Read_".toList ∧
      OpensWithText "TIP".toList "TIP: _Read_".toList := by
  intro content remainder shown
  have split : splitAdmonition id .text content = some ("TIP".toList, remainder) := rfl
  have ran : shown.runIn { attributes := [] } = (.ok "TIP: _Read_".toList, { attributes := [] }) := rfl
  obtain ⟨-, body, -, -, opens, -⟩ := admonition_opens_iff {} 0 split ran
  exact ⟨split, congrArg Prod.fst ran, (opens (by decide)).mpr rfl⟩

/-- The colon stands in the label and the text on the next line, or both stand in texts of their own. -/
theorem admonition_opens_late :
    let broken : List Node := [.strong [.text "Note:".toList], .lineBreak true, .text ['x']]
    let parted : List Node := [.strong [.text "Note".toList], .text [':'], .text " x".toList]
    (render {} [] (.document [.paragraph broken])).outcome = .ok "NOTE: \nx\n".toList ∧
      (render {} [] (.document [.paragraph parted])).outcome = .ok "NOTE:  x\n".toList ∧
      ¬OpensWithText "NOTE".toList "NOTE: \nx".toList ∧ ¬OpensWithText "NOTE".toList "NOTE:  x".toList := by
  refine ⟨rfl, rfl, ?_, ?_⟩
  · exact fun opens => absurd (opensWithText_iff.mp opens) (by decide)
  · exact fun opens => absurd (opensWithText_iff.mp opens) (by decide)

end Adocify.AsciiDoc
