import Adocify.Proofs.ConversionAttributes
import Adocify.Proofs.RenderCourse
import Adocify.Proofs.SessionAttributes
import Adocify.Proofs.TextEndings

/-! The lines of a document's header. The entries of a header are texts, one for the title and one for each
attribute; they are as many lines as long as none of them is broken, and then a blank line ends the header. -/

namespace Adocify.AsciiDoc

/-- The lines that blocks come to behind a blank line. -/
def followingLines (blocks : List Text) : List Text :=
  if (Text.join blankLine blocks).withoutNewlines = [] then []
  else Text.lines (Text.endWithNewline (Text.join blankLine blocks))

theorem lines_closed {front : Text} (closed : front.Closed) (blocks : List Text) :
    Text.lines (Text.endWithNewline (front ++ Text.continued blankLine blocks)) =
      Text.lines front ++ [] :: followingLines blocks := by
  have ended : Text.lines (front ++ ['\n']) = Text.lines front ++ [[]] := Text.lines_append front []
  rw [Text.endWithNewline_closed closed]
  cases blocks with
  | nil => exact ended
  | cons first others =>
    have appended := Text.withoutNewlines_append blankLine (Text.join blankLine (first :: others))
    rw [Text.continued_cons, followingLines]
    by_cases nothing : (Text.join blankLine (first :: others)).withoutNewlines = []
    · rw [if_pos nothing] at appended
      have blank : (blankLine ++ Text.join blankLine (first :: others)).withoutNewlines = [] := by
        rw [appended]
        decide
      rw [if_pos nothing, if_pos blank]
      exact ended
    · rw [if_neg nothing] at appended
      have some : (blankLine ++ Text.join blankLine (first :: others)).withoutNewlines ≠ [] := by
        rw [appended]
        exact List.cons_ne_nil _ _
      rw [if_neg some, if_neg nothing, Text.endWithNewline_some some, Text.endWithNewline_some nothing, appended,
        List.append_assoc]
      exact (Text.lines_append front _).trans (congrArg _ (Text.lines_newline _))

namespace DocumentParts

variable (parts : DocumentParts)

/-- The text before the header. -/
def opening : Text :=
  let lead := Text.join blankLine parts.prologue
  if lead = [] then [] else lead ++ ['\n']

def leadingLines : List Text :=
  let lead := Text.join blankLine parts.prologue
  if lead = [] then [] else Text.lines lead

theorem lines_opening (rest : Text) : Text.lines (parts.opening ++ rest) = parts.leadingLines ++ Text.lines rest := by
  simp only [opening, leadingLines]
  split
  · rfl
  · rw [List.append_assoc]
    exact Text.lines_append _ rest

variable {parts}

theorem join_headed (headed : Text.unlines parts.header ≠ []) :
    parts.join = parts.opening ++ Text.unlines parts.header ++ Text.continued blankLine parts.body := by
  simp only [DocumentParts.join, opening, List.isEmpty_iff, if_neg headed]
  rw [Text.join_cons]
  split
  · rfl
  · simp

/-- A header that is not broken at its end is followed by one blank line. -/
theorem lines_join (closed : (Text.unlines parts.header).Closed) :
    Text.lines (Text.endWithNewline parts.join) =
      parts.leadingLines ++ Text.lines (Text.unlines parts.header) ++ [] :: followingLines parts.body := by
  have headed : Text.unlines parts.header ≠ [] := by
    obtain ⟨body, last, same, -⟩ := closed
    simp [same]
  rw [join_headed headed, lines_closed (closed.behind _), lines_opening]

end DocumentParts

def titleLine (title : Text) : Text := "= ".toList ++ title

def entryLine (entry : Text × Value) : Text := attributeEntry entry.1 entry.2

/-- The attributes that a header shows in lines of their own, in their order there. -/
def headerEntries (attributes : Attributes) : Attributes :=
  attributes.filter (fun entry => entry.1 = doctype) ++
    attributes.filter fun entry => entry.1 ≠ doctitle && entry.1 ≠ doctype

theorem headerEntries_perm (attributes : Attributes) :
    (headerEntries attributes).Perm (attributes.filter fun entry => entry.1 ≠ doctitle) := by
  have split := List.filter_append_perm (fun entry : Text × Value => entry.1 = doctype)
    (attributes.filter fun entry => entry.1 ≠ doctitle)
  rw [List.filter_filter, List.filter_filter] at split
  have apart : doctype ≠ doctitle := by decide
  refine .trans (.of_eq ?_) split
  apply congrArg₂
  · apply List.filter_congr
    intro entry _
    by_cases same : entry.1 = doctype
    · simp [same, apart]
    · simp [same]
  · apply List.filter_congr
    intro entry _
    simp [Bool.and_comm]

theorem get?_filter {attributes : Attributes} (distinct : attributes.names.Nodup) (name : Text) :
    ((attributes.get? name).map (attributeEntry name)).toList =
      (attributes.filter fun entry => entry.1 = name).map entryLine := by
  induction attributes with
  | nil => rfl
  | cons entry rest ih =>
    obtain ⟨alone, others⟩ := List.nodup_cons.mp distinct
    obtain ⟨own, value⟩ := entry
    have later := ih others
    by_cases same : own = name
    · subst same
      have nothing : rest.filter (fun entry => entry.1 = own) = [] := by
        apply List.filter_eq_nil_iff.mpr
        intro other member
        have different : other.1 ≠ own := fun equal => alone (List.mem_map.mpr ⟨other, member, equal⟩)
        simpa using different
      simp [Attributes.get?, nothing, entryLine]
    · have test : (name == own) = false := beq_eq_false_iff_ne.mpr fun equal => same equal.symm
      simp only [Attributes.get?] at later
      simp [Attributes.get?, List.lookup_cons, test, later, same]

theorem headerLines_eq (title : Option Text) {attributes : Attributes} (distinct : attributes.names.Nodup) :
    headerLines title attributes =
      (title.filter fun text => !text.isEmpty).toList.map titleLine ++ (headerEntries attributes).map entryLine := by
  simp only [headerLines, headerEntries, get?_filter distinct, List.map_append, List.append_assoc]
  apply congrArg₂
  · cases title.filter fun text => !text.isEmpty <;> rfl
  · rfl

theorem single_titleLine {title : Text} : '\n' ∉ titleLine title ↔ '\n' ∉ title := by
  have plain : '\n' ∉ "= ".toList := by decide
  simp only [titleLine, List.mem_append, plain, false_or]

theorem single_entryLine {entry : Text × Value} :
    '\n' ∉ entryLine entry ↔ '\n' ∉ entry.1 ∧ '\n' ∉ entry.2.display := by
  obtain ⟨name, value⟩ := entry
  have nothing : '\n' ∉ Value.null.display := by decide
  have plain : ∀ flag, '\n' ∉ (Value.bool flag).display := by decide
  simp only [entryLine, attributeEntry]
  split
  · simpa using fun _ => nothing
  · simpa using fun _ => plain false
  · simpa using fun _ => plain true
  · simp [Value.display]
  · simp

theorem entryLine_some (entry : Text × Value) : entryLine entry ≠ [] := by
  simp only [entryLine, attributeEntry]
  split <;> exact List.cons_ne_nil _ _

theorem headerLines_some {title : Option Text} {entries : Attributes} {line : Text}
    (member : line ∈ title.toList.map titleLine ++ entries.map entryLine) : line ≠ [] := by
  rcases List.mem_append.mp member with first | later
  · obtain ⟨shown, -, rfl⟩ := List.mem_map.mp first
    exact List.cons_ne_nil _ _
  · obtain ⟨entry, -, rfl⟩ := List.mem_map.mp later
    exact entryLine_some entry

/-- No line break stands in what a header shows. -/
def Unbroken (title : Option Text) (entries : Attributes) : Prop :=
  (∀ shown ∈ title, '\n' ∉ shown) ∧ ∀ entry ∈ entries, '\n' ∉ entry.1 ∧ '\n' ∉ entry.2.display

theorem unbroken_iff {title : Option Text} {entries : Attributes} :
    Unbroken title entries ↔ ∀ line ∈ title.toList.map titleLine ++ entries.map entryLine, '\n' ∉ line := by
  simp only [Unbroken, List.forall_mem_append, List.forall_mem_map, Option.mem_toList, Option.mem_def, single_entryLine,
    single_titleLine]

theorem DocumentParts.header_read {parts : DocumentParts} {title : Option Text} {entries : Attributes}
    (shown : parts.header = title.toList.map titleLine ++ entries.map entryLine) (some : parts.header ≠ []) :
    (Text.lines (Text.unlines parts.header) = parts.header ↔ Unbroken title entries) ∧
    (Unbroken title entries →
      Text.lines (Text.endWithNewline parts.join) =
        parts.leadingLines ++ parts.header ++ [] :: followingLines parts.body) := by
  have read : Text.lines (Text.unlines parts.header) = parts.header ↔ Unbroken title entries := by
    rw [Text.lines_unlines_iff some, unbroken_iff, shown]
  refine ⟨read, ?_⟩
  intro unbroken
  have same := read.mpr unbroken
  have single := (Text.lines_unlines_iff some).mp same
  have closed : (Text.unlines parts.header).Closed := by
    apply Text.unlines_closed some
    intro line member
    exact ⟨headerLines_some (shown ▸ member), single line member⟩
  rw [lines_join closed, same]

/-- The parts of a rendered document, the header being that of the attributes at the end. -/
theorem render_parts {options : Options} {attributes : Attributes} {nodes : List Node} {text : Text}
    (rendered : (render options attributes (.document nodes)).outcome = .ok text) :
    ∃ (own : TreeParts) (parts : DocumentParts),
      (renderTreeParts options attributes nodes).1 = .ok own ∧ (renderParts options attributes nodes).1 = .ok parts ∧
      text = Text.endWithNewline parts.join ∧
      parts.header = headerLines (own.title.or ((suppliedTitle attributes).map (·.display)))
        (render options attributes (.document nodes)).context.attributes := by
  rw [render_document] at rendered ⊢
  obtain ⟨parts, ended, rfl⟩ := map_ok rendered
  have completed := ended
  rw [renderParts_eq] at completed
  obtain ⟨own, yielded, rfl⟩ := map_ok completed
  refine ⟨own, _, yielded, ended, rfl, ?_⟩
  rw [renderParts_eq, ← suppliedTitle_opened nodes attributes]
  rfl

/-- A mapping with every name once: the caller's, or what the front matter of a text makes of it. -/
inductive Supplied : Attributes → Prop where
  | given {attributes : Attributes} : attributes.names.Nodup → Supplied attributes
  | seeded {loader : FrontMatter.Loader} {text : Text} {attributes seeded : Attributes}
      {extracted : FrontMatter.Extracted} :
    attributes.names.Nodup → FrontMatter.extract loader text (some attributes) = .ok extracted →
    extracted.attributes = some seeded → Supplied seeded

theorem Supplied.distinct {attributes : Attributes} (supplied : Supplied attributes) : attributes.names.Nodup := by
  cases supplied with
  | given distinct => exact distinct
  | seeded distinct extracts left =>
    obtain ⟨parsed, entries, -, -, -, registered⟩ := FrontMatter.extract_ok extracts
    obtain rfl := Option.some.inj (registered.symm.trans left)
    exact Attributes.registerAll_nodup distinct entries

/-- The header of a document is a title line, if there is a title, and one line for each attribute but the title, the
document type first. If no entry has a line break in it, those are the lines between the leading comments and
the blank line before the body; otherwise the lines of the header are not its entries. -/
theorem header_entry_lines (options : Options) {attributes : Attributes} (supplied : Supplied attributes)
    {nodes : List Node} {text : Text} (rendered : (render options attributes (.document nodes)).outcome = .ok text) :
    ∃ (parts : DocumentParts) (title : Option Text) (last added : Attributes),
      (renderParts options attributes nodes).1 = .ok parts ∧ text = Text.endWithNewline parts.join ∧
      (render options attributes (.document nodes)).context.attributes = last ∧ last = attributes ++ added ∧
      last.names.Nodup ∧ (headerEntries last).Perm (last.filter fun entry => entry.1 ≠ doctitle) ∧
      (∀ shown ∈ title, shown ≠ []) ∧
      parts.header = title.toList.map titleLine ++ (headerEntries last).map entryLine ∧
      (parts.header ≠ [] →
        (Text.lines (Text.unlines parts.header) = parts.header ↔ Unbroken title (headerEntries last)) ∧
        (Unbroken title (headerEntries last) →
          Text.lines text = parts.leadingLines ++ parts.header ++ [] :: followingLines parts.body)) := by
  obtain ⟨entries, -, registers⟩ := render_appends options attributes (.document nodes)
  obtain ⟨added, appended, -, -⟩ := Attributes.registerAll_appends attributes entries
  have distinct := Attributes.registerAll_nodup supplied.distinct entries
  rw [← registers] at appended distinct
  obtain ⟨own, parts, -, ended, settled, header⟩ := render_parts rendered
  rw [headerLines_eq _ distinct] at header
  refine ⟨parts, _, _, added, ended, settled, rfl, appended, distinct, headerEntries_perm _, ?_, header, ?_⟩
  · intro shown member
    have visible := (Option.filter_eq_some_iff.mp member).2
    simpa using visible
  · intro some
    rw [settled]
    exact DocumentParts.header_read header some

def guideAttributes : Attributes :=
  [("author".toList, .text "Jane".toList), ("doctype".toList, .text "article".toList), ("draft".toList, .bool false)]

def guideNodes : List Node :=
  [.comment "c".toList, .heading (.number 1) [.text "Guide".toList], .paragraph [.text "Body".toList]]

def guideText : Text := "// c\n= Guide\n:doctype: article\n:author: Jane\n:draft!:\n\nBody\n".toList

theorem header_entry_lines_guide :
    Supplied guideAttributes ∧ (render {} guideAttributes (.document guideNodes)).outcome = .ok guideText ∧
    ∃ parts, (renderParts {} guideAttributes guideNodes).1 = .ok parts ∧ parts.header.length = 4 ∧
      Text.lines guideText = parts.leadingLines ++ parts.header ++ [] :: followingLines parts.body := by
  have supplied : Supplied guideAttributes := .given (by decide)
  have rendered : (render {} guideAttributes (.document guideNodes)).outcome = .ok guideText := by decide +kernel
  obtain ⟨parts, title, last, added, ended, -, -, -, -, -, -, -, reads⟩ := header_entry_lines {} supplied rendered
  have shown : (renderParts {} guideAttributes guideNodes).1.map (·.header) =
      .ok ["= Guide".toList, ":doctype: article".toList, ":author: Jane".toList, ":draft!:".toList] := by
    decide +kernel
  rw [ended] at shown
  have header : parts.header = _ := Except.ok.inj shown
  have some : parts.header ≠ [] := by
    rw [header]
    exact List.cons_ne_nil _ _
  obtain ⟨read, follows⟩ := reads some
  have unbroken := read.mp (by rw [header]; decide)
  refine ⟨supplied, rendered, parts, ended, ?_, follows unbroken⟩
  rw [header]
  rfl

def describedAttributes : Attributes :=
  [("description".toList, .text "one\ntwo\n".toList), ("tags".toList, .text "x".toList)]

/-- A description of two lines breaks the header: the blank line that ends it comes before the last entry. -/
theorem description_breaks_header :
    let nodes : List Node := [.paragraph [.text "Body".toList]]
    let page : Text := "---\ndescription: |\n  one\n  two\ntags: x\n---\nBody\n".toList
    let result : Text := ":description: one\ntwo\n\n:tags: x\n\nBody\n".toList
    (convert { source := .text page } {}).outcome = .ok (some result) ∧
    Supplied describedAttributes ∧ (render {} describedAttributes (.document nodes)).outcome = .ok result ∧
    ((renderParts {} describedAttributes nodes).1.map fun parts => parts.header.length) = .ok 2 ∧
    ((renderParts {} describedAttributes nodes).1.map fun parts => Text.lines (Text.unlines parts.header)) =
      .ok [":description: one".toList, "two".toList, [], ":tags: x".toList] := by
  intro nodes page result
  refine ⟨by decide +kernel, .given (by decide), by decide +kernel, by decide +kernel, by decide +kernel⟩

end Adocify.AsciiDoc
