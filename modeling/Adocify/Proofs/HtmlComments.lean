import Adocify.Markdown.Tree
import Adocify.Proofs.TextTrimming

/-! Which blocks of HTML are comments. A block is taken for one if it begins and ends like one. So a block that goes on
behind a comment and ends with another is taken for one comment too, with the marks between in its text. -/

namespace Adocify.Markdown

variable {content text inside front behind : Text}

def writtenComment (inside : Text) : Text := commentOpening ++ inside ++ commentClosing

/-- The text is one comment and nothing besides: the mark that closes it ends the text and stands nowhere before. -/
structure IsSingleComment (text : Text) : Prop where
  opens : commentOpening <+: text
  closes : commentClosing <:+ text
  once : ∀ inside behind, text.drop commentOpening.length = inside ++ commentClosing ++ behind → behind = []

/-- The comment that begins the text is closed, and a closing mark ends the text nevertheless. -/
def ClosedTwice (text : Text) : Prop := ∃ inside more, text = writtenComment inside ++ more ++ commentClosing

/-- The text of a comment: what stands between the marks, without newlines before it and without blanks behind it. -/
def IsCommentText (inside text : Text) : Prop :=
  ∃ newlines blanks, inside = newlines ++ text ++ blanks ∧ (∀ c ∈ newlines, c = '\n') ∧
    (∀ c ∈ blanks, Text.isBlank c = true) ∧ text.head? ≠ some '\n' ∧ ∀ c ∈ text.getLast?, Text.isBlank c = false

/-- Closing marks do not overlap. -/
theorem closing_behind (filled : behind ≠ []) (closes : commentClosing <:+ front ++ commentClosing ++ behind) :
    commentClosing <:+ behind := by
  rcases Nat.lt_or_ge behind.length commentClosing.length with short | long
  · have overlap : commentClosing <:+ commentClosing ++ behind :=
      List.suffix_of_suffix_length_le closes ⟨front, (List.append_assoc _ _ _).symm⟩ (by simp)
    match behind, filled, short with
    | [c], _, _ => simp [commentClosing, List.suffix_cons_iff] at overlap
    | [c, d], _, _ => simp [commentClosing, List.suffix_cons_iff] at overlap
  · exact List.suffix_of_suffix_length_le closes (List.suffix_append _ _) long

theorem single_or_twice (opens : commentOpening <+: text) (closes : commentClosing <:+ text) :
    IsSingleComment text ∨ ClosedTwice text := by
  by_cases once : ∀ inside behind, text.drop commentOpening.length = inside ++ commentClosing ++ behind → behind = []
  · exact .inl ⟨opens, closes, once⟩
  · simp only [not_forall] at once
    obtain ⟨inside, behind, split, filled⟩ := once
    have whole : writtenComment inside ++ behind = text := by
      rw [List.prefix_iff_eq_append.mp opens |>.symm, split, writtenComment]
      simp
    subst whole
    obtain ⟨more, rfl⟩ := closing_behind filled closes
    exact .inr ⟨inside, more, (List.append_assoc _ _ _).symm⟩

theorem writtenComment_edges (inside : Text) :
    commentOpening <+: writtenComment inside ∧ commentClosing <:+ writtenComment inside :=
  ⟨⟨inside ++ commentClosing, (List.append_assoc _ _ _).symm⟩, List.suffix_append _ _⟩

theorem ClosedTwice.edges (twice : ClosedTwice text) : commentOpening <+: text ∧ commentClosing <:+ text := by
  obtain ⟨inside, more, rfl⟩ := twice
  have opens := (writtenComment_edges inside).1
  exact ⟨opens.trans ⟨more ++ commentClosing, (List.append_assoc _ _ _).symm⟩, List.suffix_append _ _⟩

theorem ClosedTwice.not_single (twice : ClosedTwice text) : ¬IsSingleComment text := by
  obtain ⟨inside, more, rfl⟩ := twice
  intro single
  have ended := single.once inside (more ++ commentClosing) (by simp [writtenComment])
  exact absurd ended (List.append_ne_nil_of_right_ne_nil _ (List.cons_ne_nil _ _))

theorem writtenComment_single_iff : IsSingleComment (writtenComment inside) ↔ ¬commentClosing <:+: inside := by
  constructor
  · intro single within
    obtain ⟨before, after, rfl⟩ := within
    exact ClosedTwice.not_single ⟨before, after, by simp [writtenComment]⟩ single
  · intro free
    obtain ⟨opens, closes⟩ := writtenComment_edges inside
    refine (single_or_twice opens closes).resolve_right ?_
    intro twice
    obtain ⟨before, after, split⟩ := twice
    have whole : commentOpening ++ inside ++ commentClosing =
        commentOpening ++ (before ++ commentClosing ++ after) ++ commentClosing := by
      rw [← writtenComment, split, writtenComment]
      simp only [List.append_assoc]
    have same := List.append_cancel_left (List.append_cancel_right whole)
    exact free ⟨before, after, same.symm⟩

theorem isHtmlComment_iff : isHtmlComment content = true ↔
    commentOpening <+: Text.strip content ∧ commentClosing <:+ Text.strip content := by
  rw [isHtmlComment, Bool.and_eq_true, List.isPrefixOf_iff_prefix, List.isSuffixOf_iff_suffix]

theorem htmlBlock_comment_iff : (∃ text, htmlBlock content = .comment text) ↔ isHtmlComment content = true := by
  rw [htmlBlock]
  split
  next taken => exact iff_of_true ⟨_, rfl⟩ taken
  next other => exact iff_of_false nofun other

theorem strip_writtenComment (inside : Text) : Text.strip (writtenComment inside) = writtenComment inside := by
  have edges : writtenComment inside = '<' :: (("!--".toList ++ inside ++ "--".toList) ++ ['>']) := by
    simp [writtenComment, commentOpening, commentClosing]
  rw [edges]
  exact Text.strip_visible (by decide) (by decide) _

theorem htmlCommentText_written (written : Text.strip content = writtenComment inside) :
    IsCommentText inside (htmlCommentText content) := by
  have between : ((writtenComment inside).take ((writtenComment inside).length - commentClosing.length)).drop
      commentOpening.length = inside := by
    rw [writtenComment, List.length_append, Nat.add_sub_cancel, List.take_left, List.drop_left]
  simp only [htmlCommentText, written, between, Text.dropAround, Text.stripRight]
  -- First the newlines go, before and behind, and then whatever blanks are left at the end.
  have parts : inside.takeWhile (· == '\n') ++ inside.dropWhile (· == '\n') = inside := List.takeWhile_append_dropWhile
  have begins := List.head?_dropWhile_not (· == '\n') inside
  generalize inside.dropWhile (· == '\n') = opened at parts begins ⊢
  obtain ⟨newlines, rest, broken, -⟩ := Text.dropEndWhile_parts (· == '\n') opened
  generalize Text.dropEndWhile (· == '\n') opened = ended at rest ⊢
  obtain ⟨blanks, shown, blank, last⟩ := Text.dropEndWhile_parts Text.isBlank ended
  generalize Text.dropEndWhile Text.isBlank ended = text at shown last ⊢
  subst shown rest
  refine ⟨inside.takeWhile (· == '\n'), blanks ++ newlines, ?_, ?_, ?_, ?_, last⟩
  · simpa only [List.append_assoc] using parts.symm
  · intro c member
    exact eq_of_beq (@List.mem_takeWhile_imp _ (· == '\n') _ _ member)
  · intro c member
    rcases List.mem_append.mp member with inner | outer
    · exact blank c inner
    · rw [eq_of_beq (broken c outer)]
      decide
  · intro head
    cases text with
    | nil => cases head
    | cons c more =>
      obtain rfl := Option.some.inj head
      simp at begins

theorem htmlBlock_kept (other : isHtmlComment content = false) : ∃ kept newlines, htmlBlock content = .htmlBlock kept ∧
    content = kept ++ newlines ∧ (∀ c ∈ newlines, c = '\n') ∧ kept.getLast? ≠ some '\n' := by
  obtain ⟨newlines, split, broken, last⟩ := Text.dropEndWhile_parts (· == '\n') content
  refine ⟨Text.dropEndWhile (· == '\n') content, newlines, ?_, split, fun c member => eq_of_beq (broken c member), ?_⟩
  · rw [htmlBlock, if_neg (Bool.eq_false_iff.mp other)]
  · intro newline
    exact absurd (last '\n' newline) (by decide)

/-- A block is taken for a comment if it is a single one, and also if its first comment is closed before the mark that
ends the block. Otherwise it stays a block with its content, newlines at its end apart. A comment that is written around
a text is a single one exactly if nothing closes it in the text, and the text is what it holds, without newlines around
it and without blanks at its end. -/
theorem comment_unless_closed_twice (content : Text) :
    ((∃ text, htmlBlock content = .comment text) ↔
      IsSingleComment (Text.strip content) ∨ ClosedTwice (Text.strip content)) ∧
    (ClosedTwice (Text.strip content) → ¬IsSingleComment (Text.strip content)) ∧
    (¬(IsSingleComment (Text.strip content) ∨ ClosedTwice (Text.strip content)) →
      ∃ kept newlines, htmlBlock content = .htmlBlock kept ∧
        content = kept ++ newlines ∧ (∀ c ∈ newlines, c = '\n') ∧ kept.getLast? ≠ some '\n') ∧
    ∀ inside, (IsSingleComment (writtenComment inside) ↔ ¬commentClosing <:+: inside) ∧
      ∃ text, htmlBlock (writtenComment inside) = .comment text ∧ IsCommentText inside text := by
  have taken : isHtmlComment content = true ↔
      IsSingleComment (Text.strip content) ∨ ClosedTwice (Text.strip content) := by
    rw [isHtmlComment_iff]
    constructor
    · intro ⟨opens, closes⟩
      exact single_or_twice opens closes
    · rintro (single | twice)
      · exact ⟨single.opens, single.closes⟩
      · exact twice.edges
  refine ⟨htmlBlock_comment_iff.trans taken, ClosedTwice.not_single, ?_, ?_⟩
  · intro other
    exact htmlBlock_kept (Bool.eq_false_iff.mpr (taken.not.mpr other))
  · intro inside
    have stripped := strip_writtenComment inside
    have whole : isHtmlComment (writtenComment inside) = true := by
      rw [isHtmlComment_iff, stripped]
      exact writtenComment_edges inside
    refine ⟨writtenComment_single_iff, _, ?_, htmlCommentText_written stripped⟩
    rw [htmlBlock, if_pos whole]

/-- Two comments with markup between them are taken for one comment. -/
theorem markup_between_comments_taken :
    ¬IsSingleComment (Text.strip "<!-- a --><b>x</b><!-- b -->\n".toList) ∧
      htmlBlock "<!-- a --><b>x</b><!-- b -->\n".toList = .comment " a --><b>x</b><!-- b".toList :=
  ⟨ClosedTwice.not_single ⟨" a ".toList, "<b>x</b><!-- b ".toList, by decide⟩, rfl⟩

end Adocify.Markdown
