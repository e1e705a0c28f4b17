import Mathlib.Data.List.Nodup
import Mathlib.Logic.Relation
import Adocify.Proofs.RenderLogic
import Adocify.Proofs.TextEndings

/-! Blocks between two equal lines. A reader takes such a block up to the first line that equals the opening one. A
listing looks for a delimiter that is no line of its content, so that it is read back whole whatever it holds. HTML that
is passed through and comments have the same delimiter always, and are read back whole if and only if it is no line of
theirs. -/

namespace Adocify.AsciiDoc

open Relation (ReflTransGen)

/-- A block as it is read: its delimiter, the lines inside, and the lines behind it. -/
structure DelimitedBlock where
  delimiter : Text
  inner : List Text
  behind : List Text

/-- The first line opens a block, and the next one that equals it closes it. -/
def readDelimited : List Text → Option DelimitedBlock
  | [] => none
  | delimiter :: rest =>
    match rest.dropWhile (· ≠ delimiter) with
    | [] => none
    | _ :: behind => some ⟨delimiter, rest.takeWhile (· ≠ delimiter), behind⟩

variable {delimiter : Text} {inner lines : List Text}

theorem readDelimited_whole_iff :
    readDelimited (delimiter :: inner ++ [delimiter]) = some ⟨delimiter, inner, []⟩ ↔ delimiter ∉ inner := by
  simp only [List.cons_append, readDelimited]
  constructor
  · intro read taken
    split at read
    · cases read
    · have whole : (inner ++ [delimiter]).takeWhile (· ≠ delimiter) = inner :=
        congrArg DelimitedBlock.inner (Option.some.inj read)
      have inside : delimiter ∈ (inner ++ [delimiter]).takeWhile (· ≠ delimiter) := by
        rw [whole]
        exact taken
      have other := List.mem_takeWhile_imp inside
      simp at other
  · intro free
    have others : ∀ line ∈ inner, decide (line ≠ delimiter) = true := by
      intro line member
      exact decide_eq_true fun same => free (same ▸ member)
    rw [List.dropWhile_append_of_pos others, List.takeWhile_append_of_pos others]
    simp

/-- One turn of the search for a delimiter: one that is a line of the content gets a hyphen more. -/
inductive Lengthened (lines : List Text) : Text → Text → Prop where
  | turn {delimiter : Text} (taken : delimiter ∈ lines) : Lengthened lines delimiter (delimiter ++ ['-'])

/-- The search begins with four hyphens, comes to the delimiter, and cannot go on. -/
def SearchEnds (lines : List Text) (delimiter : Text) : Prop :=
  ReflTransGen (Lengthened lines) "----".toList delimiter ∧ ∀ longer, ¬Lengthened lines delimiter longer

def hyphens (count : Nat) : Text := List.replicate count '-'

/-- The delimiter is the shortest run of at least four hyphens that is none of the lines. -/
structure ShortestFree (lines : List Text) (delimiter : Text) : Prop where
  run : ∃ count, 4 ≤ count ∧ delimiter = hyphens count
  free : delimiter ∉ lines
  shortest : ∀ count, 4 ≤ count → hyphens count ∉ lines → delimiter.length ≤ count

theorem hyphens_succ (count : Nat) : hyphens count ++ ['-'] = hyphens (count + 1) :=
  List.replicate_succ'.symm

theorem hyphens_length (count : Nat) : (hyphens count).length = count := List.length_replicate

theorem ShortestFree.single (found : ShortestFree lines delimiter) : '\n' ∉ delimiter := by
  obtain ⟨count, -, rfl⟩ := found.run
  intro member
  exact absurd (List.eq_of_mem_replicate member) (by decide)

theorem hyphens_filled {count : Nat} (long : 4 ≤ count) : hyphens count ≠ [] := by
  apply List.ne_nil_of_length_pos
  rw [hyphens_length]
  exact Nat.lt_of_lt_of_le (by decide) long

theorem ShortestFree.congr {others : List Text} (same : ∀ line ≠ [], line ∈ lines ↔ line ∈ others)
    (found : ShortestFree lines delimiter) : ShortestFree others delimiter := by
  obtain ⟨count, long, run⟩ := found.run
  refine ⟨⟨count, long, run⟩, ?_, ?_⟩
  · rw [← same delimiter (run ▸ hyphens_filled long)]
    exact found.free
  · intro other enough free
    rw [← same _ (hyphens_filled enough)] at free
    exact found.shortest other enough free

/-- Every delimiter that is passed over is a line, and the search gives up on a line only if it has no tries left. -/
theorem codeDelimiter_passes (lines : List Text) (tries count : Nat) :
    ∃ more, codeDelimiter lines tries (hyphens count) = hyphens (count + more) ∧
      (∀ fewer < more, hyphens (count + fewer) ∈ lines) ∧ (hyphens (count + more) ∈ lines → more = tries) := by
  induction tries generalizing count with
  | zero => exact ⟨0, rfl, nofun, fun _ => rfl⟩
  | succ tries ih =>
    simp only [codeDelimiter]
    split
    next found =>
      have taken : hyphens count ∈ lines := List.contains_iff_mem.mp found
      obtain ⟨more, same, passed, ended⟩ := ih (count + 1)
      refine ⟨more + 1, ?_, ?_, ?_⟩
      · rw [hyphens_succ, same, Nat.add_right_comm, Nat.add_assoc]
      · intro fewer below
        cases fewer with
        | zero => exact taken
        | succ fewer =>
          rw [← Nat.add_assoc, Nat.add_right_comm]
          exact passed fewer (Nat.lt_of_succ_lt_succ below)
      · intro last
        rw [← Nat.add_assoc, Nat.add_right_comm] at last
        rw [ended last]
    next missing =>
      have free : hyphens count ∉ lines := fun taken => missing (List.contains_iff_mem.mpr taken)
      exact ⟨0, rfl, nofun, fun taken => absurd taken free⟩

/-- No content has room for all the delimiters that as many tries as it has lines pass over. -/
theorem not_all_taken (lines : List Text) (count : Nat) :
    ¬∀ fewer < lines.length + 1, hyphens (count + fewer) ∈ lines := by
  intro taken
  have distinct : ((List.range (lines.length + 1)).map fun fewer => hyphens (count + fewer)).Nodup := by
    refine List.nodup_range.map_on ?_
    intro first _ second _ same
    have lengths := congrArg List.length same
    rw [hyphens_length, hyphens_length] at lengths
    exact Nat.add_left_cancel lengths
  have inside : ((List.range (lines.length + 1)).map fun fewer => hyphens (count + fewer)) ⊆ lines := by
    intro line member
    obtain ⟨fewer, below, rfl⟩ := List.mem_map.mp member
    exact taken fewer (List.mem_range.mp below)
  have bounded := distinct.length_le_of_subset inside
  rw [List.length_map, List.length_range] at bounded
  exact Nat.not_succ_le_self _ bounded

theorem codeDelimiter_free (lines : List Text) (count : Nat) :
    ∃ more, codeDelimiter lines lines.length (hyphens count) = hyphens (count + more) ∧
      (∀ fewer < more, hyphens (count + fewer) ∈ lines) ∧ hyphens (count + more) ∉ lines := by
  obtain ⟨more, same, passed, ended⟩ := codeDelimiter_passes lines lines.length count
  refine ⟨more, same, passed, ?_⟩
  intro taken
  apply not_all_taken lines count
  intro fewer below
  obtain rfl := ended taken
  rcases Nat.lt_succ_iff_lt_or_eq.mp below with earlier | rfl
  · exact passed fewer earlier
  · exact taken

theorem lengthened_run {count more : Nat} (passed : ∀ fewer < more, hyphens (count + fewer) ∈ lines) :
    ReflTransGen (Lengthened lines) (hyphens count) (hyphens (count + more)) := by
  induction more with
  | zero => exact .refl
  | succ more ih =>
    have turn := Lengthened.turn (passed more (Nat.lt_succ_self more))
    rw [hyphens_succ] at turn
    exact (ih fun fewer below => passed fewer (Nat.lt_succ_of_lt below)).tail turn

/-- The delimiter that a listing of the code gets. -/
def listingDelimiter (code : Text) : Text := codeDelimiter (Text.lines code) (Text.lines code).length "----".toList

theorem listingDelimiter_found (code : Text) :
    SearchEnds (Text.lines code) (listingDelimiter code) ∧ ShortestFree (Text.lines code) (listingDelimiter code) := by
  obtain ⟨more, same, passed, free⟩ := codeDelimiter_free (Text.lines code) 4
  have same : listingDelimiter code = hyphens (4 + more) := same
  rw [same]
  refine ⟨⟨lengthened_run passed, ?_⟩, ⟨4 + more, Nat.le_add_right 4 more, rfl⟩, free, ?_⟩
  · intro longer turned
    cases turned with
    | turn taken => exact free taken
  · intro count long other
    rw [hyphens_length]
    by_contra shorter
    obtain ⟨fewer, rfl⟩ := Nat.exists_eq_add_of_le long
    exact other (passed fewer (by omega))

def listingStyle (options : Options) : Text := if options.sourceStyle then "source".toList else []

/-- A listing as it is read. The label holds a style and a language. -/
structure Listing where
  label : Option (Text × Text)
  delimiter : Text
  code : Text
  behind : List Text

/-- Reads a line `[style,language]`. -/
def readLabel : Text → Option (Text × Text)
  | '[' :: rest =>
    match Text.cut ',' rest.dropLast with
    | (style, some language) => if rest.getLast? = some ']' then some (style, language) else none
    | (_, none) => none
  | _ => none

def readListing (text : Text) : Option Listing :=
  match Text.lines text with
  | [] => none
  | first :: rest =>
    let label := readLabel first
    let block? := readDelimited (if label.isSome then rest else first :: rest)
    block?.map fun block => ⟨label, block.delimiter, Text.unlines block.inner, block.behind⟩

theorem readLabel_written {style : Text} (plain : ',' ∉ style) (language : Text) :
    readLabel ('[' :: style ++ ',' :: language ++ [']']) = some (style, language) := by
  have others : ∀ c ∈ style, (c != ',') = true := by
    intro c member
    exact bne_iff_ne.mpr fun same => plain (same ▸ member)
  have split : Text.cut ',' (style ++ ',' :: language) = (style, some language) := by
    simp only [Text.cut]
    rw [List.dropWhile_append_of_pos others, List.takeWhile_append_of_pos others]
    simp
  have shape : '[' :: style ++ ',' :: language ++ [']'] = '[' :: ((style ++ ',' :: language) ++ [']']) := rfl
  rw [shape, readLabel, List.dropLast_concat, split]
  simp only [List.getLast?_concat, if_true]

section

variable {text line : Text} {label : Text × Text} (free : delimiter ∉ inner)

include free

theorem readListing_unlabelled (unlabelled : readLabel delimiter = none)
    (written : Text.lines text = delimiter :: inner ++ [delimiter]) :
    readListing text = some ⟨none, delimiter, Text.unlines inner, []⟩ := by
  simp only [readListing, written, List.cons_append, unlabelled, Option.isSome_none, Bool.false_eq_true, if_false]
  rw [← List.cons_append, readDelimited_whole_iff.mpr free, Option.map_some]

theorem readListing_labelled (labelled : readLabel line = some label)
    (written : Text.lines text = line :: (delimiter :: inner ++ [delimiter])) :
    readListing text = some ⟨some label, delimiter, Text.unlines inner, []⟩ := by
  simp only [readListing, written, labelled, Option.isSome_some, if_true]
  rw [readDelimited_whole_iff.mpr free, Option.map_some]

end

theorem listingStyle_plain (options : Options) : ',' ∉ listingStyle options ∧ '\n' ∉ listingStyle options := by
  simp only [listingStyle]
  split <;> decide

def labelLine (options : Options) (language : Text) : Text := '[' :: listingStyle options ++ ',' :: language ++ [']']

theorem labelLine_single (options : Options) {name : Text} (single : '\n' ∉ name) : '\n' ∉ labelLine options name := by
  have style := (listingStyle_plain options).2
  simp [labelLine, single, style]

theorem readLabel_hyphens {count : Nat} (long : 4 ≤ count) : readLabel (hyphens count) = none := by
  obtain ⟨more, rfl⟩ := Nat.exists_eq_add_of_le' long
  rfl

/-- The lines of a listing between its delimiters. -/
def codeLines (code : Text) : List Text := if code.isEmpty then [] else Text.lines code

theorem unlines_codeLines (code : Text) : Text.unlines (codeLines code) = code := by
  simp only [codeLines]
  split
  next empty => rw [List.isEmpty_iff.mp empty]; rfl
  next => exact Text.unlines_lines code

theorem mem_codeLines {code line : Text} (filled : line ≠ []) : line ∈ codeLines code ↔ line ∈ Text.lines code := by
  simp only [codeLines]
  split
  next empty =>
    rw [List.isEmpty_iff.mp empty]
    exact iff_of_false List.not_mem_nil fun member => filled (List.mem_singleton.mp member)
  next => exact Iff.rfl

variable (options : Options) {language : Option Text}

theorem codeBlock_parts (named : ∀ name ∈ language, name ≠ []) (content : Text) :
    let code := content.withoutNewlines
    codeBlock options content language = Text.unlines ((language.map (labelLine options)).toList ++
      (listingDelimiter code :: (if code.isEmpty then [] else [code]) ++ [listingDelimiter code])) := by
  cases language with
  | none => rfl
  | some name =>
    have filled : (!name.isEmpty) = true := by simpa using named name rfl
    have kept : (some name).filter (fun name => !name.isEmpty) = some name := by
      rw [Option.filter_some, if_pos filled]
    simp only [codeBlock, kept]
    rfl

theorem codeBlock_lines (named : ∀ name ∈ language, name ≠ [] ∧ '\n' ∉ name) (content : Text) :
    Text.lines (codeBlock options content language) = (language.map (labelLine options)).toList ++
      (listingDelimiter content.withoutNewlines :: codeLines content.withoutNewlines ++
        [listingDelimiter content.withoutNewlines]) := by
  have alone (code : Text) : Text.lines (listingDelimiter code) = [listingDelimiter code] :=
    Text.lines_single (listingDelimiter_found code).2.single
  have label :
      (language.map (labelLine options)).toList.flatMap Text.lines = (language.map (labelLine options)).toList := by
    cases language with
    | none => rfl
    | some name => simp [Text.lines_single (labelLine_single options (named name rfl).2)]
  have inside (code : Text) : (if code.isEmpty then [] else [code]).flatMap Text.lines = codeLines code := by
    simp only [codeLines]
    split
    · rfl
    · exact List.flatMap_singleton ..
  rw [codeBlock_parts options (fun name given => (named name given).1) content, Text.lines_unlines (by simp),
    List.flatMap_append, label, List.flatMap_append, List.flatMap_cons, inside, List.flatMap_singleton, alone]
  rfl

/-- A listing is read back whatever it holds. -/
theorem listing_read_back (options : Options) (descend : Text → List Node → Render (List Text)) (content : Text)
    {language : Option Text} (remainder : Option Text) (context : Context)
    (named : ∀ name ∈ language, name ≠ [] ∧ '\n' ∉ name) :
    ∃ text delimiter,
      (renderNode options descend (.codeBlock content language remainder)).runIn context = (.ok text, context) ∧
      SearchEnds (Text.lines content.withoutNewlines) delimiter ∧ ShortestFree (Text.lines content) delimiter ∧
      readListing text =
        some ⟨language.map fun name => (listingStyle options, name), delimiter, content.withoutNewlines, []⟩ := by
  have written := codeBlock_lines options named content
  obtain ⟨ends, found⟩ := listingDelimiter_found content.withoutNewlines
  generalize listingDelimiter content.withoutNewlines = delimiter at written ends found
  obtain ⟨count, long, run⟩ := found.run
  have free : delimiter ∉ codeLines content.withoutNewlines :=
    (mem_codeLines (run ▸ hyphens_filled long)).not.mpr found.free
  refine ⟨codeBlock options content language, delimiter, rfl, ends,
    found.congr fun line some => Text.mem_lines_withoutNewlines some, ?_⟩
  rw [← unlines_codeLines content.withoutNewlines]
  cases language with
  | none => exact readListing_unlabelled free (run ▸ readLabel_hyphens long) written
  | some name =>
    exact readListing_labelled free (readLabel_written (listingStyle_plain options).1 name) written

/-- Four hyphens and five are taken, and the content begins with an empty line. -/
theorem listing_read_back_taken :
    let content := "\n----\n-----\na\n\n".toList
    let language := some "c,d]".toList
    (∀ name ∈ language, name ≠ [] ∧ '\n' ∉ name) ∧
    ∃ text, (renderNode {} (renderFootnote {} 0) (.codeBlock content language none)).runIn { attributes := [] } =
        (.ok text, { attributes := [] }) ∧
      readListing text = some ⟨some ([], "c,d]".toList), "------".toList, "\n----\n-----\na".toList, []⟩ := by
  intro content language
  have named : ∀ name ∈ language, name ≠ [] ∧ '\n' ∉ name := by
    intro name given
    obtain rfl := Option.some.inj given
    decide
  obtain ⟨text, delimiter, ran, -, found, read⟩ :=
    listing_read_back {} (renderFootnote {} 0) content none { attributes := [] } named
  have short : delimiter.length ≤ 6 := found.shortest 6 (by decide) (by decide)
  obtain ⟨count, long, rfl⟩ := found.run
  have free := found.free
  rw [hyphens_length] at short
  obtain rfl : count = 6 := by
    by_contra other
    obtain rfl | rfl : count = 4 ∨ count = 5 := by omega
    · exact free (by decide)
    · exact free (by decide)
  exact ⟨named, text, ran, read⟩

theorem lines_enclosed (single : '\n' ∉ delimiter) (body : Text) :
    Text.lines (delimiter ++ '\n' :: (body ++ '\n' :: delimiter)) = delimiter :: Text.lines body ++ [delimiter] := by
  rw [Text.lines_append, Text.lines_append, Text.lines_single single]
  rfl

/-- The text has the inner lines between its delimiters. No line among them closes the block early, and it is read back
whole, if and only if the delimiter is none of the lines that the content has. -/
structure ClosedUnlessTaken (delimiter : Text) (own inner : List Text) (text : Text) : Prop where
  lines : Text.lines text = delimiter :: inner ++ [delimiter]
  free : delimiter ∉ inner ↔ delimiter ∉ own
  whole : readDelimited (Text.lines text) = some ⟨delimiter, inner, []⟩ ↔ delimiter ∉ own

theorem closedUnlessTaken {own : List Text} {text : Text}
    (written : Text.lines text = delimiter :: inner ++ [delimiter])
    (same : delimiter ∈ inner ↔ delimiter ∈ own) : ClosedUnlessTaken delimiter own inner text := by
  refine ⟨written, same.not, ?_⟩
  rw [written, readDelimited_whole_iff]
  exact same.not

theorem mem_dropWhile_empty {line : Text} (filled : line ≠ []) :
    line ∈ lines.dropWhile (·.isEmpty) ↔ line ∈ lines := by
  induction lines with
  | nil => exact Iff.rfl
  | cons first others ih =>
    cases first with
    | nil => rw [List.dropWhile_cons_of_pos rfl, List.mem_cons, or_iff_right filled, ih]
    | cons c rest => rw [List.dropWhile_cons_of_neg Bool.noConfusion]

theorem mem_commentLines {content line : Text} (filled : line ≠ []) :
    line ∈ commentLines content ↔ line ∈ (Text.lines content).map Text.stripLeft := by
  rw [commentLines, List.mem_reverse, mem_dropWhile_empty filled, List.mem_reverse, mem_dropWhile_empty filled]

theorem commentLines_single (content : Text) : ∀ line ∈ commentLines content, '\n' ∉ line := by
  intro line member broken
  have own : line ∈ (Text.lines content).map Text.stripLeft :=
    (mem_commentLines (List.ne_nil_of_mem broken)).mp member
  obtain ⟨whole, inside, rfl⟩ := List.mem_map.mp own
  exact Text.single_of_mem_lines inside ((List.dropWhile_sublist _).subset broken)

theorem comment_lines {content : Text} (long : 2 ≤ (commentLines content).length) :
    Text.lines (comment content) = "////".toList :: commentLines content ++ ["////".toList] := by
  obtain ⟨first, second, others, split⟩ : ∃ first second others, commentLines content = first :: second :: others := by
    match commentLines content, long with
    | first :: second :: others, _ => exact ⟨first, second, others, rfl⟩
  have single := commentLines_single content
  have written : comment content =
      "////".toList ++ '\n' :: (Text.unlines (commentLines content) ++ '\n' :: "////".toList) := by
    simp only [comment, split, List.append_assoc]
    rfl
  rw [written, lines_enclosed (by decide), (Text.lines_unlines_iff (by simp [split])).mpr single]

/-- HTML that is passed through and comments of several lines have the same delimiter whatever they hold. -/
theorem raw_blocks_closed_iff (options : Options) (descend : Text → List Node → Render (List Text))
    (context : Context) :
    (∀ content, options.dropHtml = false →
      ∃ text, (renderNode options descend (.htmlBlock content)).runIn context = (.ok text, context) ∧
        ClosedUnlessTaken "++++".toList (Text.lines content) (Text.lines (Text.dropAround (· = '\n') content)) text) ∧
    ∀ content, 2 ≤ (commentLines content).length →
      ∃ text, (renderNode options descend (.comment content)).runIn context = (.ok text, context) ∧
        ClosedUnlessTaken "////".toList ((Text.lines content).map Text.stripLeft) (commentLines content) text := by
  constructor
  · intro content kept
    let body := Text.dropAround (· = '\n') content
    refine ⟨"++++".toList ++ '\n' :: (body ++ '\n' :: "++++".toList), ?_, ?_⟩
    · simp only [renderNode, htmlBlock, kept]
      rfl
    · apply closedUnlessTaken (lines_enclosed (by decide) body)
      exact (Text.mem_lines_withoutNewlines (by decide)).trans (Text.mem_lines_dropWhile (by decide))
  · intro content long
    refine ⟨comment content, rfl, ?_⟩
    exact closedUnlessTaken (comment_lines long) (mem_commentLines (by decide))

/-- Lines that only hold the delimiters, longer ones and shorter ones do not close the blocks. -/
theorem raw_blocks_closed_iff_nearly :
    let html := "\n<pre>\n+++ ++++\n+++++\n</pre>\n".toList
    let remark := "a\n  ///\n\t//// b\n".toList
    (({} : Options).dropHtml = false ∧ "++++".toList ∉ Text.lines html ∧
      ∃ text, (renderNode {} (renderFootnote {} 0) (.htmlBlock html)).runIn { attributes := [] } =
          (.ok text, { attributes := [] }) ∧
        readDelimited (Text.lines text) =
          some ⟨"++++".toList, ["<pre>".toList, "+++ ++++".toList, "+++++".toList, "</pre>".toList], []⟩) ∧
    2 ≤ (commentLines remark).length ∧ "////".toList ∉ (Text.lines remark).map Text.stripLeft ∧
      ∃ text, (renderNode {} (renderFootnote {} 0) (.comment remark)).runIn { attributes := [] } =
          (.ok text, { attributes := [] }) ∧
        readDelimited (Text.lines text) = some ⟨"////".toList, [['a'], "///".toList, "//// b".toList], []⟩ := by
  intro html remark
  have kept : ({} : Options).dropHtml = false := rfl
  have long : 2 ≤ (commentLines remark).length := by decide
  have passed : "++++".toList ∉ Text.lines html := by decide
  have left : "////".toList ∉ (Text.lines remark).map Text.stripLeft := by decide
  obtain ⟨htmlClosed, remarkClosed⟩ := raw_blocks_closed_iff {} (renderFootnote {} 0) { attributes := [] }
  obtain ⟨text, ran, closed⟩ := htmlClosed html kept
  obtain ⟨other, otherRan, otherClosed⟩ := remarkClosed remark long
  exact ⟨⟨kept, passed, text, ran, closed.whole.mpr passed⟩, long, left, other, otherRan, otherClosed.whole.mpr left⟩

/-- A line of the content that is the delimiter closes the block, and the rest of the content is left outside. -/
theorem raw_blocks_end_early :
    let html := "<pre>\n++++\n</pre>".toList
    let remark := "a\n  ////\nb".toList
    (render {} [] (.document [.htmlBlock html])).outcome = .ok "++++\n<pre>\n++++\n</pre>\n++++\n".toList ∧
      readDelimited (Text.lines "++++\n<pre>\n++++\n</pre>\n++++".toList) =
        some ⟨"++++".toList, ["<pre>".toList], ["</pre>".toList, "++++".toList]⟩ ∧
      2 ≤ (commentLines remark).length ∧
      (render {} [] (.document [.comment remark])).outcome = .ok "////\na\n////\nb\n////\n".toList ∧
      readDelimited (Text.lines "////\na\n////\nb\n////".toList) =
        some ⟨"////".toList, [['a']], [['b'], "////".toList]⟩ :=
  ⟨rfl, rfl, by decide, rfl, rfl⟩

end Adocify.AsciiDoc
