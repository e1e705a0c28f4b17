import Adocify.Proofs.CourseTrees
import Adocify.Proofs.HeaderLines

/-! The title of a document. A heading of the first level behind the leading comments is the title; only a document
that does not open with one takes its title from the mapping. -/

namespace Adocify.AsciiDoc

variable {options : Options} {attributes : Attributes} {nodes : List Node} {text title : Text}

/-- A heading of the first level with this content stands behind the leading comments. -/
def OpensWith (nodes content : List Node) : Prop :=
  ∃ comments level rest, nodes = comments ++ .heading level content :: rest ∧
    (∀ node ∈ comments, node.isComment) ∧ level.toInt = 1

theorem openingTitle_iff {content : List Node} (titleGiven : Bool) :
    (DocumentStructure.ofChildren nodes titleGiven).title = some content ↔ OpensWith nodes content := by
  constructor
  · intro promoted
    have whole : nodes.takeWhile (·.isComment) ++ nodes.dropWhile (·.isComment) = nodes :=
      List.takeWhile_append_dropWhile
    simp only [DocumentStructure.ofChildren] at promoted
    split at promoted
    next level inside body behind =>
      by_cases top : level.toInt = 1
      · simp only [top, if_true, Option.some.injEq] at promoted
        subst promoted
        rw [behind] at whole
        exact ⟨_, level, body, whole.symm, fun node member => List.mem_takeWhile_imp member, top⟩
      · simp [top] at promoted
    next => cases promoted
  · rintro ⟨comments, level, rest, rfl, leading, top⟩
    have behind :
        (comments ++ .heading level content :: rest).dropWhile (·.isComment) = .heading level content :: rest := by
      rw [List.dropWhile_append_of_pos leading]
      rfl
    simp only [DocumentStructure.ofChildren, behind, top, if_true]

/-- The title that a document has: its opening heading, or what the mapping supplies to a document without one. -/
inductive Titled (options : Options) (attributes : Attributes) (nodes : List Node) : Text → Prop where
  | opening {content : List Node} {title : Text} {after : Context} : OpensWith nodes content →
    (inlineContent options (renderChildren options (noteBlocks options nodes) content)).runIn (opened nodes attributes) =
      (.ok title, after) →
    title ≠ [] → Titled options attributes nodes title
  | supplied {title : Text} : (∀ content, ¬OpensWith nodes content) → attributes.get? doctitle = some (.text title) →
    title ≠ [] → Titled options attributes nodes title

/-- The title of the heading that was promoted is rendered before anything else. -/
theorem treeParts_title {decision : DocumentStructure} {opening : Option (List Child)} {children : List Child}
    {context : Context} {own : TreeParts}
    (yielded : ((treeParts options decision opening children).runIn context).1 = .ok own) :
    ((promotedTitle options decision opening).runIn context).1 = .ok own.title := by
  simp only [treeParts, Render.runIn_bind] at yielded
  rcases titled : (promotedTitle options decision opening).runIn context with ⟨failure | title, between⟩
  · simp only [titled, reduceCtorEq] at yielded
  rcases leading : (Child.renderPresent (children.take decision.prologue.length)).runIn between with
    ⟨failure | prologue, later⟩
  · simp only [titled, leading, reduceCtorEq] at yielded
  rcases ending : (Child.renderPresent (children.drop (children.length - decision.body.length))).runIn later with
    ⟨failure | body, last⟩
  · simp only [titled, leading, ending, reduceCtorEq] at yielded
  · simp only [titled, leading, ending, Render.runIn_pure, Except.ok.injEq] at yielded
    rw [← yielded]

theorem opening_title {content : List Node} (opens : OpensWith nodes content) {own : TreeParts}
    (yielded : (renderTreeParts options attributes nodes).1 = .ok own) :
    ∃ title after,
      (inlineContent options (renderChildren options (noteBlocks options nodes) content)).runIn (opened nodes attributes) =
        (.ok title, after) ∧ own.title = some title := by
  have first := treeParts_title yielded
  have promoted := (openingTitle_iff (suppliedTitle attributes).isSome).mpr opens
  obtain ⟨comments, level, rest, whole, leading, -⟩ := opens
  have heading : ∀ descend, openingHeading options descend nodes = some (renderChildren options descend content) := by
    intro descend
    rw [whole]
    exact openingHeading_comments leading
  simp only [promotedTitle, decisionFor, promoted, Option.isSome_some, heading, Render.runIn_bind] at first
  rcases written : (inlineContent options (renderChildren options (noteBlocks options nodes) content)).runIn
      (opened nodes attributes) with ⟨failure | title, after⟩
  · simp only [written, reduceCtorEq] at first
  · simp only [written, Render.runIn_pure, Except.ok.injEq] at first
    exact ⟨title, after, rfl, first.symm⟩

theorem Titled.shown (titled : Titled options attributes nodes title) {own : TreeParts}
    (yielded : (renderTreeParts options attributes nodes).1 = .ok own) :
    own.title.or ((suppliedTitle attributes).map (·.display)) = some title := by
  cases titled with
  | opening opens written some =>
    obtain ⟨shown, after, ran, same⟩ := opening_title opens yielded
    obtain rfl := Except.ok.inj (congrArg Prod.fst (written.symm.trans ran))
    rw [same, Option.some_or]
  | supplied plain supplies some =>
    have none : (decisionFor nodes attributes).title = .none := by
      apply Option.eq_none_iff_forall_ne_some.mpr
      intro content promoted
      exact plain content ((openingTitle_iff _).mp promoted)
    have first := treeParts_title yielded
    simp only [promotedTitle, none, Option.isSome_none, Render.runIn_pure, Except.ok.injEq] at first
    have given : suppliedTitle attributes = .some (.text title) := by
      simp [suppliedTitle, supplies, Value.isTruthy, some]
    rw [← first, Option.none_or, given]
    rfl

theorem head_headerLines (some : title ≠ []) (last : Attributes) :
    (headerLines (.some title) last).head? = .some (titleLine title) := by
  have filled : (Option.some title).filter (fun text => !text.isEmpty) = .some title := by
    simp [Option.filter, some]
  simp only [headerLines, filled, List.cons_append, List.head?_cons]
  rfl

theorem Titled.some (titled : Titled options attributes nodes title) : title ≠ [] := by
  cases titled with
  | opening _ _ some => exact some
  | supplied _ _ some => exact some

/-- A document with a title shows it, in a line of its own as long as it has no line break in it, directly behind the
leading comments. -/
theorem title_stands_first (rendered : (render options attributes (.document nodes)).outcome = .ok text)
    (titled : Titled options attributes nodes title) :
    ∃ (parts : DocumentParts) (behind : Text),
      (renderParts options attributes nodes).1 = .ok parts ∧ parts.header.head? = some (titleLine title) ∧
      text = Text.endWithNewline (parts.opening ++ titleLine title ++ behind) ∧
      behind.EndsLine ∧
      ('\n' ∉ title → ∃ more, Text.lines text = parts.leadingLines ++ titleLine title :: more) := by
  obtain ⟨own, parts, yielded, ended, settled, header⟩ := render_parts rendered
  rw [titled.shown yielded] at header
  obtain ⟨others, header⟩ : ∃ others, parts.header = titleLine title :: others := by
    rw [header]
    exact List.head?_eq_some_iff.mp (head_headerLines titled.some _)
  have opens : Text.unlines parts.header = titleLine title ++ Text.continued ['\n'] others := by
    rw [header, Text.unlines, Text.join_cons]
  have headed : Text.unlines parts.header ≠ [] := by
    rw [opens]
    exact List.cons_ne_nil _ _
  have ends : (Text.continued ['\n'] others ++ Text.continued blankLine parts.body).EndsLine := by
    apply Text.EndsLine.append
    · exact Text.endsLine_continued (.inr ⟨[], rfl⟩) (List.cons_ne_nil _ _) others
    · exact Text.endsLine_continued (.inr ⟨['\n'], rfl⟩) (List.cons_ne_nil _ _) parts.body
  have joined : text = Text.endWithNewline
      (parts.opening ++ titleLine title ++ (Text.continued ['\n'] others ++ Text.continued blankLine parts.body)) := by
    rw [settled, DocumentParts.join_headed headed, opens]
    simp only [List.append_assoc]
  refine ⟨parts, _, ended, congrArg List.head? header, joined, ?_, ?_⟩
  · exact ends
  · intro single
    have unbroken := single_titleLine.mpr single
    have closed : (titleLine title).Closed := Text.closed_of_single (List.cons_ne_nil _ _) unbroken
    obtain ⟨more, read⟩ := Text.lines_before (closed.behind parts.opening) ends
    refine ⟨more, ?_⟩
    rw [joined, read, DocumentParts.lines_opening, Text.lines_single unbroken, List.append_assoc]
    rfl

theorem title_stands_first_guide :
    (render {} guideAttributes (.document guideNodes)).outcome = .ok guideText ∧
    Titled {} guideAttributes guideNodes "Guide".toList ∧
    ∃ (parts : DocumentParts) (more : List Text), (renderParts {} guideAttributes guideNodes).1 = .ok parts ∧
      Text.lines guideText = parts.leadingLines ++ "= Guide".toList :: more := by
  have rendered : (render {} guideAttributes (.document guideNodes)).outcome = .ok guideText := by decide +kernel
  have opens : OpensWith guideNodes [.text "Guide".toList] := by
    refine ⟨[.comment "c".toList], .number 1, [.paragraph [.text "Body".toList]], rfl, ?_, rfl⟩
    simp [Node.isComment]
  have written : ((inlineContent {} (renderChildren {} (noteBlocks {} guideNodes) [.text "Guide".toList])).runIn
      (opened guideNodes guideAttributes)).1 = .ok "Guide".toList := by
    decide +kernel
  have titled : Titled {} guideAttributes guideNodes "Guide".toList :=
    .opening opens (Prod.ext written rfl) (List.cons_ne_nil _ _)
  obtain ⟨parts, behind, ended, -, -, -, single⟩ := title_stands_first rendered titled
  obtain ⟨more, read⟩ := single (by decide)
  exact ⟨rendered, titled, parts, more, ended, read⟩

/-- An opening heading of which nothing is left keeps the title of the mapping from being shown. -/
theorem blank_heading_hides_title :
    let attributes : Attributes := [("doctitle".toList, .text "Guide".toList)]
    let nodes : List Node :=
      [.heading (.number 1) [.htmlInline "<!-- top -->".toList], .paragraph [.text "Body".toList]]
    attributes.get? doctitle = some (.text "Guide".toList) ∧
    (render {} attributes (.document nodes)).outcome = .ok "Body\n".toList ∧
    ∀ shown, titleLine shown ∉ Text.lines "Body\n".toList := by
  intro attributes nodes
  refine ⟨rfl, by decide +kernel, ?_⟩
  intro shown
  have lines : Text.lines "Body\n".toList = ["Body".toList, []] := by decide
  rw [lines]
  simp [titleLine]

end Adocify.AsciiDoc
