import Adocify.Proofs.RenderLogic
import Adocify.Proofs.TextSearch

/-! Inline literals: code and HTML that is passed through. A reader takes such a literal from its opening mark to the
first closing one. Code between backticks holds none; what is passed through is copied as it is, and is read back whole
if and only if it does not hold the closing mark, nor makes one together with it. -/

namespace Adocify.AsciiDoc

section Marks

variable {closing content text before after : Text}

/-- Wherever the closing mark stands in the content with the mark behind it, it stands at the end. -/
def ClosesLast (closing content : Text) : Prop :=
  ∀ front behind, content ++ closing = front ++ closing ++ behind → behind = []

/-- A mark closes early if it stands in the content, or if the content ends like the mark. -/
theorem closesLast_iff (filled : closing ≠ []) :
    ClosesLast closing content ↔ ¬closing <:+: content ++ closing.dropLast := by
  have shorter : content ++ closing = content ++ closing.dropLast ++ [closing.getLast filled] := by
    rw [List.append_assoc, List.dropLast_append_getLast]
  constructor
  · rintro last ⟨front, behind, held⟩
    have early := last front (behind ++ [closing.getLast filled]) (by rw [shorter, ← held, List.append_assoc])
    exact absurd early (List.append_ne_nil_of_right_ne_nil _ (List.cons_ne_nil _ _))
  · intro free front behind split
    rcases List.eq_nil_or_concat behind with none | ⟨inner, c, rfl⟩
    · exact none
    · rw [shorter, List.concat_eq_append, ← List.append_assoc] at split
      exact absurd ⟨front, inner, (List.append_inj_left' split rfl).symm⟩ free

theorem suffix_concat {c d : Char} : before ++ [c] <:+ text ++ [d] ↔ c = d ∧ before <:+ text := by
  rw [← List.reverse_prefix, List.reverse_concat, List.reverse_concat, List.cons_prefix_cons, List.reverse_prefix]

theorem breakOn_whole_iff (filled : closing ≠ []) :
    Text.breakOn closing (content ++ closing) = some (content, []) ↔ ClosesLast closing content := by
  constructor
  · intro found front behind split
    have first := (Text.breakOn_first filled found).2 front behind split
    have lengths := congrArg List.length split
    simp only [List.length_append] at lengths
    exact List.eq_nil_of_length_eq_zero (by omega)
  · intro last
    obtain ⟨⟨before, after⟩, found⟩ := Option.isSome_iff_exists.mp (Text.breakOn_found filled content [])
    rw [List.append_nil] at found
    have split := (Text.breakOn_first filled found).1
    obtain rfl := last before after split
    rw [List.append_nil] at split
    rw [found, List.append_cancel_right split]

end Marks

/-- How a literal is written. -/
inductive LiteralForm where
  | plain
  | passthrough
  | html
  deriving Repr, DecidableEq

namespace LiteralForm

def opening : LiteralForm → Text
  | .plain => "`".toList
  | .passthrough => "`+".toList
  | .html => "+++".toList

def closing : LiteralForm → Text
  | .plain => "`".toList
  | .passthrough => "+`".toList
  | .html => "+++".toList

def write (form : LiteralForm) (content : Text) : Text := form.opening ++ content ++ form.closing

/-- The content neither holds the closing mark nor makes one together with it. Plain code never does. -/
def Sound : LiteralForm → Text → Prop
  | .plain, _ => True
  | .passthrough, content => ¬"+`".toList <:+: content
  | .html, content => ¬"+++".toList <:+: content ∧ content.getLast? ≠ some '+'

instance (form : LiteralForm) (content : Text) : Decidable (form.Sound content) :=
  match form with
  | .plain => inferInstanceAs (Decidable True)
  | .passthrough => inferInstanceAs (Decidable ¬"+`".toList <:+: content)
  | .html => inferInstanceAs (Decidable (¬"+++".toList <:+: content ∧ content.getLast? ≠ some '+'))

end LiteralForm

/-- A literal as it is read, with what stands behind it. -/
structure InlineLiteral where
  form : LiteralForm
  content : Text
  behind : Text
  deriving Repr, DecidableEq

def readUpTo (form : LiteralForm) (text : Text) : Option InlineLiteral :=
  (Text.breakOn form.closing text).map fun (content, behind) => ⟨form, content, behind⟩

/-- The opening mark tells the closing one, and the first of those ends the literal. -/
def readLiteral : Text → Option InlineLiteral
  | '\x60' :: '+' :: rest => readUpTo .passthrough rest
  | '\x60' :: rest => readUpTo .plain rest
  | '+' :: '+' :: '+' :: rest => readUpTo .html rest
  | _ => none

/-- The form that code is written in. -/
def codeForm (content : Text) : LiteralForm := if codeNeedsPassthrough content then .passthrough else .plain

section

variable {form : LiteralForm} {content : Text}

theorem readUpTo_whole_iff :
    readUpTo form (content ++ form.closing) = some ⟨form, content, []⟩ ↔ ClosesLast form.closing content := by
  have filled : form.closing ≠ [] := by cases form <;> exact List.cons_ne_nil _ _
  rw [← breakOn_whole_iff filled, readUpTo, Option.map_eq_some_iff]
  constructor
  · rintro ⟨⟨inner, behind⟩, found, same⟩
    simp only [InlineLiteral.mk.injEq, true_and] at same
    obtain ⟨rfl, rfl⟩ := same
    exact found
  · intro found
    exact ⟨_, found, rfl⟩

theorem readLiteral_whole_iff (distinct : form = .plain → content.head? ≠ some '+') :
    readLiteral (form.write content) = some ⟨form, content, []⟩ ↔ ClosesLast form.closing content := by
  rw [← readUpTo_whole_iff, LiteralForm.write, List.append_assoc]
  cases form with
  | plain =>
    rcases content with _ | ⟨c, rest⟩
    · exact Iff.rfl
    · have other : c ≠ '+' := fun same => distinct rfl (congrArg some same)
      have skipped : readLiteral ('\x60' :: (c :: rest ++ "`".toList)) = readUpTo .plain (c :: rest ++ "`".toList) := by
        simp [readLiteral, other]
      exact iff_of_eq (congrArg (· = _) skipped)
  | passthrough => exact Iff.rfl
  | html => exact Iff.rfl

/-- Plain code holds no mark that could end it, nor does it begin like code that is passed through. -/
theorem plain_free (plain : codeNeedsPassthrough content = false) : '\x60' ∉ content ∧ content.head? ≠ some '+' := by
  have others : ∀ c ∈ content, isCodeSpecial c = false := by
    simp only [codeNeedsPassthrough, Bool.or_eq_false_iff, List.any_eq_false] at plain
    simpa using plain.1
  have special : isCodeSpecial '\x60' = true ∧ isCodeSpecial '+' = true := by decide
  constructor
  · intro member
    exact Bool.noConfusion ((others _ member).symm.trans special.1)
  · intro first
    exact Bool.noConfusion ((others _ (List.mem_of_mem_head? first)).symm.trans special.2)

theorem closesLast_sound (own : form = .plain → codeNeedsPassthrough content = false) :
    ClosesLast form.closing content ↔ form.Sound content := by
  cases form with
  | plain =>
    have free : ¬['\x60'] <:+: content ++ [] := by
      rw [List.append_nil, List.singleton_infix_iff]
      exact (plain_free (own rfl)).1
    exact iff_of_true ((closesLast_iff (List.cons_ne_nil _ _)).mpr free) trivial
  | passthrough =>
    have ended : ¬['+'] ++ ['\x60'] <:+ content ++ ['+'] := fun ended => absurd (suffix_concat.mp ended).1 (by decide)
    refine (closesLast_iff (List.cons_ne_nil _ _)).trans (not_congr ?_)
    exact List.infix_concat_iff.trans (or_iff_right ended)
  | html =>
    -- The content's last characters and the mark's first ones may make a mark between them.
    have once : ['+', '+'] ++ ['+'] <:+ content ++ ['+'] ++ ['+'] ↔ content.getLast? = some '+' := by
      rw [suffix_concat, and_iff_right rfl, ← List.singleton_append, suffix_concat, and_iff_right rfl,
        List.singleton_suffix_iff_getLast?_eq_some]
    have twice : ['+', '+'] ++ ['+'] <:+ content ++ ['+'] → content.getLast? = some '+' := by
      intro ended
      rw [← List.singleton_suffix_iff_getLast?_eq_some]
      exact (List.suffix_append ['+'] ['+']).trans (suffix_concat.mp ended).2
    have marks : content ++ "+++".toList.dropLast = content ++ ['+'] ++ ['+'] :=
      (List.append_assoc content ['+'] ['+']).symm
    have last : ClosesLast "+++".toList content ↔ _ := closesLast_iff (List.cons_ne_nil _ _)
    refine last.trans ?_
    rw [marks, List.infix_concat_iff, List.infix_concat_iff, ← or_assoc, not_or, and_comm]
    refine and_congr_right fun _ => not_congr ?_
    exact ⟨fun ended => ended.elim once.mp twice, fun last => .inl (once.mpr last)⟩

end

/-- The text is the literal, and its closing mark is found at the end and nowhere before, so that it is read back whole,
if and only if the content is sound. -/
structure ClosedIfSound (form : LiteralForm) (content text : Text) : Prop where
  written : text = form.write content
  last : ClosesLast form.closing content ↔ form.Sound content
  whole : readLiteral text = some ⟨form, content, []⟩ ↔ form.Sound content

theorem closedIfSound {form : LiteralForm} {content : Text}
    (own : form = .plain → codeNeedsPassthrough content = false) :
    ClosedIfSound form content (form.write content) where
  written := rfl
  last := closesLast_sound own
  whole := (readLiteral_whole_iff fun plain => (plain_free (own plain)).2).trans (closesLast_sound own)

/-- Inline HTML that is neither a line break nor a comment, and is not dropped. -/
def PassedThrough (options : Options) (content : Text) : Prop :=
  isBreakTag (Text.strip content) = false ∧ isInlineComment content = false ∧ options.dropHtml = false

/-- Plain code always ends at its own end. Code that is passed through does unless it holds the closing mark, and HTML
unless it holds three plus signs or ends in one. -/
theorem literals_closed_iff (options : Options) (descend : Text → List Node → Render (List Text)) (context : Context) :
    (∀ content, ∃ text, (renderNode options descend (.code content)).runIn context = (.ok text, context) ∧
      ClosedIfSound (codeForm content) content text) ∧
    ∀ content, PassedThrough options content →
      ∃ text, (renderNode options descend (.htmlInline content)).runIn context = (.ok text, context) ∧
        ClosedIfSound .html content text := by
  constructor
  · intro content
    refine ⟨(codeForm content).write content, ?_, closedIfSound ?_⟩
    · rw [renderNode, Render.runIn_pure, code, codeForm]
      split <;> rfl
    · rw [codeForm]
      split
      · exact nofun
      next plain => exact fun _ => Bool.not_eq_true _ ▸ plain
  · rintro content ⟨tag, remark, kept⟩
    refine ⟨LiteralForm.html.write content, ?_, closedIfSound nofun⟩
    rw [renderNode, htmlInline, if_neg (by simp [tag]), if_neg (by simp [remark]), if_neg (by simp [kept])]
    rfl

/-- The code begins with a backtick and ends like its closing mark; the tag holds two plus signs. -/
theorem literals_closed_iff_nearly :
    let content := "`a` b+".toList
    let tag := "<a title=\"++\">".toList
    let before : Context := { attributes := [] }
    (∃ text, (renderNode {} (renderFootnote {} 0) (.code content)).runIn before = (.ok text, before) ∧
      readLiteral text = some ⟨.passthrough, content, []⟩) ∧
    PassedThrough {} tag ∧
      ∃ text, (renderNode {} (renderFootnote {} 0) (.htmlInline tag)).runIn before = (.ok text, before) ∧
        readLiteral text = some ⟨.html, tag, []⟩ := by
  intro content tag before
  have passed : PassedThrough {} tag := ⟨by decide, by decide, rfl⟩
  have code : (codeForm content).Sound content := by decide
  have html : LiteralForm.html.Sound tag := by decide
  obtain ⟨codes, tags⟩ := literals_closed_iff {} (renderFootnote {} 0) before
  obtain ⟨text, ran, closed⟩ := codes content
  obtain ⟨other, otherRan, otherClosed⟩ := tags tag passed
  exact ⟨⟨text, ran, closed.whole.mpr code⟩, passed, other, otherRan, otherClosed.whole.mpr html⟩

/-- The code and the tag hold their closing marks, and the rest of them is left outside. -/
theorem literals_end_early :
    (render {} [] (.document [.paragraph [.code "a+`b".toList]])).outcome = .ok "`+a+`b+`\n".toList ∧
      readLiteral "`+a+`b+`".toList = some ⟨.passthrough, ['a'], "b+`".toList⟩ ∧
      (render {} [] (.document [.paragraph [.htmlInline "<a title=\"+++\">".toList]])).outcome =
        .ok "+++<a title=\"+++\">+++\n".toList ∧
      readLiteral "+++<a title=\"+++\">+++".toList = some ⟨.html, "<a title=\"".toList, "\">+++".toList⟩ :=
  ⟨rfl, rfl, rfl, rfl⟩

end Adocify.AsciiDoc
