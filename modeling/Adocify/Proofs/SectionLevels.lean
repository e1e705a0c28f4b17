import Mathlib.Data.List.Chain
import Adocify.Proofs.RenderFrames

/-! The hierarchy of sections. Headings are marked one after the other as they are rendered, also in quotes,
in items and in footnotes. A heading that would skip a level is left out of the hierarchy, so that along the
headings in it the level never grows by more than one. -/

namespace Adocify.AsciiDoc

/-- The headings that take part in the hierarchy. -/
def sections (marks : List HeadingMark) : List HeadingMark := marks.filter fun mark => !mark.discrete

/-- The level of the last heading; before the first one it is one. -/
def levelAfter (marks : List HeadingMark) : Int := (marks.getLast?.map (·.level.toInt)).getD 1

def markerCount (options : Options) (level : Whole) : Int := min (level.toInt + options.headingOffset) maxMarkers

theorem markerCount_gradual (options : Options) {earlier later : Whole} (step : later.toInt ≤ earlier.toInt + 1) :
    markerCount options later ≤ markerCount options earlier + 1 := by
  unfold markerCount
  omega

/-- A mark that the headings before it justify. -/
def Decided (before : List HeadingMark) (mark : HeadingMark) : Prop :=
  mark.discrete = true ↔ levelAfter (sections before) + 1 < mark.level.toInt

/-- Marks, the latest first, that were decided one after the other. -/
def Marked : List HeadingMark → Prop
  | [] => True
  | mark :: earlier => Decided earlier.reverse mark ∧ Marked earlier

theorem Marked.decided {marks : List HeadingMark} (marked : Marked marks) {before after : List HeadingMark}
    {mark : HeadingMark} (split : marks.reverse = before ++ mark :: after) : Decided before mark := by
  have whole : marks = after.reverse ++ mark :: before.reverse := by
    simpa using congrArg List.reverse split
  clear split
  -- The marks made after it are taken off one by one, the latest first.
  generalize after.reverse = later at whole
  induction later generalizing marks with
  | nil =>
    subst whole
    simpa using marked.1
  | cons first rest ih =>
    subst whole
    exact ih marked.2 rfl

/-- From one heading of the hierarchy to the next the level grows by one at most. -/
theorem Marked.gradual {marks : List HeadingMark} (marked : Marked marks) :
    (sections marks.reverse).IsChain fun earlier later => later.level.toInt ≤ earlier.level.toInt + 1 := by
  rw [sections, List.filter_reverse, List.isChain_reverse]
  induction marks with
  | nil => exact .nil
  | cons mark earlier ih =>
    obtain ⟨decided, others⟩ := marked
    cases discrete : mark.discrete with
    | true => simpa [discrete] using ih others
    | false =>
      have kept : (mark :: earlier).filter (fun mark => !mark.discrete) =
          mark :: earlier.filter fun mark => !mark.discrete := by simp [discrete]
      rw [kept, List.isChain_cons]
      refine ⟨fun previous found => ?_, ih others⟩
      have level : levelAfter (sections earlier.reverse) = previous.level.toInt := by
        rw [levelAfter, sections, List.filter_reverse, List.getLast?_reverse, Option.mem_def.mp found]
        rfl
      have bound : ¬levelAfter (sections earlier.reverse) + 1 < mark.level.toInt := by
        intro skips
        rw [decided.mpr skips] at discrete
        cases discrete
      rw [level] at bound
      exact Int.not_lt.mp bound

/-- The section level of the context is that of the marks so far, and these were decided by it. -/
structure Counted (context : Context) : Prop where
  level : context.sectionLevel.toInt = levelAfter (sections context.headings.reverse)
  marked : Marked context.headings

theorem Counted.enterSection {context : Context} (counted : Counted context) (level : Whole) :
    Counted ((Change.enterSection level).apply context) := by
  have decided : isDiscrete context.sectionLevel level = true ↔
      levelAfter (sections context.headings.reverse) + 1 < level.toInt := by
    rw [← counted.level, isDiscrete, decide_eq_true_iff]
  refine ⟨?_, decided, counted.marked⟩
  cases discrete : isDiscrete context.sectionLevel level with
  | true => simpa [Change.apply, discrete, sections] using counted.level
  | false => simp [Change.apply, discrete, sections, levelAfter]

theorem Counted.change {context : Context} (counted : Counted context) (change : Change) :
    Counted (change.apply context) := by
  cases change with
  | enterSection level => exact counted.enterSection level
  | _ => exact ⟨counted.level, counted.marked⟩

/-- A node that is come to from the root. -/
def Visited (root node : Node) : Prop := IsText node ∨ root.Contains node ∧ Reaches (notesOf root) root node

theorem Visited.inside {root node : Node} (visited : Visited root node) : Inside root node :=
  visited.imp id And.left

theorem Visited.part {root node part : Node} (visited : Visited root node) (member : part ∈ partsOf node) :
    Visited root part := by
  have inside := visited.inside.part member
  rcases visited with ⟨content, rfl⟩ | ⟨-, reaches⟩
  · cases member
  · exact inside.imp id fun contained => ⟨contained, reaches.tail (.inl member)⟩

theorem Visited.note {root node : Node} {identifier : Text} {content : List Node}
    (visited : Visited root (.footnoteReference identifier)) (found : (notesOf root).lookup identifier = some content)
    (member : node ∈ content) : Visited root node := by
  rcases visited with ⟨written, same⟩ | ⟨-, reaches⟩
  · cases same
  · have leads : Leads (notesOf root) (.footnoteReference identifier) node := .inr ⟨_, _, rfl, found, member⟩
    exact (Inside.note found member).imp id fun contained => ⟨contained, reaches.tail leads⟩

/-- Every mark is that of a heading that is come to from the root. -/
def Headed (root : Node) (marks : List HeadingMark) : Prop :=
  ∀ mark ∈ marks, ∃ content, Reaches (notesOf root) root (.heading mark.level content)

theorem Headed.change {root node : Node} {options : Options} {change : Change} {before : Context}
    (visited : Visited root node) (arises : Own options node change) (headed : Headed root before.headings) :
    Headed root (change.apply before).headings := by
  cases change with
  | enterSection level =>
    cases node with
    | heading other content =>
      obtain rfl : level = other := arises.1
      rcases visited with ⟨written, same⟩ | ⟨-, reaches⟩
      · cases same
      · exact List.forall_mem_cons.mpr ⟨⟨content, reaches⟩, headed⟩
    | _ => exact arises.1.elim
  | _ => exact headed

structure Ordered (root : Node) (context : Context) : Prop where
  counted : Counted context
  headed : Headed root context.headings

/-- What is rendered of a document keeps its marks in order. -/
def marking (root : Node) : Frame where
  node := Visited root
  context context := context.footnotes = notesOf root
  same before after := after.footnotes = before.footnotes ∧ (Ordered root before → Ordered root after)

theorem marking_lawful (root : Node) (options : Options) : (marking root).Lawful options where
  refl _ := ⟨rfl, id⟩
  trans first second := ⟨second.1.trans first.1, second.2 ∘ first.2⟩
  kept start same := same.1.trans start
  part visited member := visited.part member
  note := by
    intro before identifier content node start visited found member
    rw [show before.footnotes = notesOf root from start] at found
    exact visited.note found member
  change := by
    intro node change before visited arises start
    have steady := (steady_lawful root options).change (steady_node visited.inside) arises start
    exact ⟨steady.1, fun ordered => ⟨ordered.counted.change change, .change visited arises ordered.headed⟩⟩
  entered _ start := start
  inside := by
    -- Entering and leaving a list touches neither the level nor the marks.
    rintro before after marker - ⟨notes, kept⟩
    refine ⟨notes, fun ordered => ?_⟩
    obtain ⟨counted, headed⟩ := kept ⟨ordered.counted.change (.enterList marker), ordered.headed⟩
    exact ⟨counted.change .leaveList, headed⟩

theorem render_ordered (options : Options) (attributes : Attributes) (nodes : List Node) :
    Ordered (.document nodes) (render options attributes (.document nodes)).context := by
  obtain ⟨result, course, -⟩ := render_course options attributes nodes
  have laws := marking_lawful (.document nodes) options
  have texts : (marking (.document nodes)).Keeps (Own options (.text [])) :=
    fun arises start => laws.change (.inl ⟨[], rfl⟩) arises start
  have parts : ∀ part ∈ partsOf (.document nodes), Visited (.document nodes) part :=
    fun part member => (inside_document part member).imp id fun contained => ⟨contained, .single (.inl member)⟩
  exact (laws.course course texts parts rfl).2 ⟨⟨rfl, trivial⟩, nofun⟩

section

variable {options : Options} {level : Whole} {content : List Node} {context after : Context} {text : Text}

theorem clampMarkers_runIn (context : Context) :
    ∃ noted : Context, noted.headings = context.headings ∧ noted.sectionLevel = context.sectionLevel ∧
      (clampMarkers (level.toInt + options.headingOffset)).runIn context = (.ok (markerCount options level), noted) := by
  simp only [clampMarkers, markerCount]
  split
  next deep =>
    rw [Int.min_eq_right (Int.le_of_lt deep)]
    exact ⟨(Change.note [_]).apply context, rfl, rfl, rfl⟩
  next within =>
    rw [Int.min_eq_left (Int.not_lt.mp within)]
    exact ⟨context, rfl, rfl, rfl⟩

theorem enterSection_runIn (level : Whole) (context : Context) :
    (enterSection level).runIn context =
      (.ok (isDiscrete context.sectionLevel level), (Change.enterSection level).apply context) := rfl

def headingLines (options : Options) (mark : HeadingMark) (named : List Text) (title : Text) : List Text :=
  (if mark.discrete then ["[discrete]".toList] else []) ++ named ++
    [List.replicate (markerCount options mark.level).toNat '=' ++ ' ' :: title]

/-- The text of a heading shows how it is marked, and its mark comes behind those that its content made. -/
theorem heading_marked {children : List Child}
    (rendered : (heading options level content children).runIn context = (.ok text, after)) :
    ∃ title between named mark, (inlineContent options children).runIn context = (.ok title, between) ∧
      idLine options content = .ok named ∧ mark.level = level ∧ after.headings = mark :: between.headings ∧
      text = Text.unlines (headingLines options mark named title) := by
  simp only [heading, Render.runIn_bind] at rendered
  rcases written : (inlineContent options children).runIn context with ⟨failure | title, between⟩
  · simp [written] at rendered
  obtain ⟨noted, headings, sectionLevel, counted⟩ := @clampMarkers_runIn options level between
  cases named : idLine options content with
  | error failure => simp [written, counted, enterSection_runIn, named] at rendered
  | ok lines =>
    simp only [written, counted, enterSection_runIn, named, Render.runIn_liftM, Render.runIn_pure, Prod.mk.injEq,
      Except.ok.injEq] at rendered
    obtain ⟨rfl, rfl⟩ := rendered
    refine ⟨title, between, lines, ⟨level, isDiscrete noted.sectionLevel level⟩, rfl, rfl, rfl, ?_, rfl⟩
    exact congrArg (List.cons _) headings

end

/-- The sections of a document skip no level, wherever in it the headings are and however far they are shifted.
A heading is marked exactly if its level is above that of the last heading before it that is not marked by
more than one, and it shows in its text whether it is. -/
theorem sections_skip_no_level (options : Options) (attributes : Attributes) (nodes : List Node) :
    let marks := (render options attributes (.document nodes)).context.headings.reverse
    (∀ {before mark after}, marks = before ++ mark :: after → Decided before mark) ∧
    (sections marks).IsChain (fun earlier later => later.level.toInt ≤ earlier.level.toInt + 1 ∧
      markerCount options later.level ≤ markerCount options earlier.level + 1) ∧
    Headed (.document nodes) marks ∧
    ∀ depth level content context text after,
      (renderNode options (renderFootnote options depth) (.heading level content)).runIn context = (.ok text, after) →
      ∃ title between named mark,
        (inlineContent options (renderChildren options (renderFootnote options depth) content)).runIn context =
          (.ok title, between) ∧
        idLine options content = .ok named ∧ mark.level = level ∧ after.headings = mark :: between.headings ∧
        text = Text.unlines (headingLines options mark named title) := by
  intro marks
  obtain ⟨counted, headed⟩ := render_ordered options attributes nodes
  refine ⟨counted.marked.decided, ?_, fun mark member => headed mark (List.mem_reverse.mp member), ?_⟩
  · exact counted.marked.gradual.imp fun earlier later step => ⟨step, markerCount_gradual options step⟩
  · intro depth level content context text after rendered
    rw [renderNode] at rendered
    exact heading_marked rendered

/-- Headings in a footnote, in an item and in a quote. The first two skip a level. -/
def deepHeadings : List Node :=
  [.heading (.number 1) [.text "Title".toList],
    .heading (.number 2) [.text "One".toList, .footnoteReference ['n']],
    .footnoteDefinition ['n'] [.heading (.number 5) [.text "Note".toList]],
    .list false [.listItem [.heading (.number 4) [.text "Item".toList]] none] (.number 1) true,
    .blockQuote [.heading (.number 3) [.text "Quote".toList]],
    .heading (.number 4) [.text "Two".toList]]

theorem sections_skip_no_level_shifted :
    let marks := (render { headingOffset := 3 } [] (.document deepHeadings)).context.headings.reverse
    marks = [⟨.number 5, true⟩, ⟨.number 2, false⟩, ⟨.number 4, true⟩, ⟨.number 3, false⟩, ⟨.number 4, false⟩] ∧
    (sections marks).map (fun mark => markerCount { headingOffset := 3 } mark.level) = [5, 6, 6] ∧
    Decided [⟨.number 5, true⟩, ⟨.number 2, false⟩] ⟨.number 4, true⟩ ∧
    Headed (.document deepHeadings) marks ∧
    (render { headingOffset := 3 } [] (.document deepHeadings)).outcome = .ok
      ("= Title\n\n===== Onefootnote:n[[discrete\\] ====== Note]\n\n* {blank}\n+\n[discrete]\n====== Item\n\n".toList ++
        "____\n====== Quote\n____\n\n====== Two\n".toList) := by
  intro marks
  obtain ⟨decided, -, headed, -⟩ := sections_skip_no_level { headingOffset := 3 } [] deepHeadings
  have found : marks =
      [⟨.number 5, true⟩, ⟨.number 2, false⟩, ⟨.number 4, true⟩, ⟨.number 3, false⟩, ⟨.number 4, false⟩] := by
    decide +kernel
  have third : Decided [⟨.number 5, true⟩, ⟨.number 2, false⟩] ⟨.number 4, true⟩ := decided found
  exact ⟨found, found ▸ rfl, third, headed, by decide +kernel⟩

end Adocify.AsciiDoc
