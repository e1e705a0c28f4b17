import Mathlib.Data.List.TakeWhile
import Adocify.Proofs.ReachedNodes
import Adocify.Proofs.SectionLevels
import Adocify.Proofs.TextLines

/-! The ids of sections. An id is made of the words of its title and of nothing else, and no id is made different from
another one. Headings share an anchor if their words read the same once they are joined, which a separator that is not
made of word characters alone leaves to headings with the same words. -/

namespace Adocify

namespace Text

variable {separator word other behind : Text} {words others : List Text}

/-- Word characters only, and at least one. -/
def OneWord (text : Text) : Prop := text ≠ [] ∧ ∀ c ∈ text, isWord c = true

/-- Some character of it is in no word. -/
def SetsApart (separator : Text) : Prop := ∃ c ∈ separator, isWord c = false

theorem OneWord.ends_at (one : OneWord word) (apart : SetsApart separator) :
    (word ++ (separator ++ behind)).takeWhile isWord = word ++ separator.takeWhile isWord := by
  have ends : (separator.takeWhile isWord).length ≠ separator.length := by
    intro whole
    obtain ⟨c, member, foreign⟩ := apart
    rw [← (List.takeWhile_prefix isWord).eq_of_length whole] at member
    rw [List.mem_takeWhile_imp member] at foreign
    cases foreign
  rw [List.takeWhile_append_of_pos one.2, List.takeWhile_append, if_neg ends]

theorem OneWord.ne_separated (one : OneWord word) (apart : SetsApart separator) :
    word ≠ other ++ (separator ++ behind) := by
  rintro rfl
  obtain ⟨c, member, foreign⟩ := apart
  have letter := one.2 c (List.mem_append_right _ (List.mem_append_left _ member))
  rw [foreign] at letter
  cases letter

/-- Words are told from what is joined of them. -/
theorem join_words_inj (apart : SetsApart separator) (read : ∀ word ∈ words, OneWord word)
    (readOthers : ∀ word ∈ others, OneWord word) (same : join separator words = join separator others) :
    words = others := by
  induction words generalizing others with
  | nil =>
    cases others with
    | nil => rfl
    | cons other more =>
      rw [join_cons] at same
      exact absurd (List.append_eq_nil_iff.mp same.symm).1 (readOthers other List.mem_cons_self).1
  | cons word rest ih =>
    have one := read word List.mem_cons_self
    cases others with
    | nil =>
      rw [join_cons] at same
      exact absurd (List.append_eq_nil_iff.mp same).1 one.1
    | cons other more =>
      have otherOne := readOthers other List.mem_cons_self
      rw [join_cons, join_cons] at same
      cases rest with
      | nil =>
        cases more with
        | nil => simpa [continued] using same
        | cons second more =>
          rw [continued_cons, continued, List.append_nil] at same
          exact absurd same (one.ne_separated apart)
      | cons following rest =>
        cases more with
        | nil =>
          rw [continued_cons, continued, List.append_nil] at same
          exact absurd same.symm (otherOne.ne_separated apart)
        | cons second more =>
          rw [continued_cons, continued_cons] at same
          have first := congrArg (List.takeWhile isWord) same
          rw [one.ends_at apart, otherOne.ends_at apart] at first
          obtain rfl := List.append_cancel_right first
          have later := List.append_cancel_left (List.append_cancel_left same)
          rw [ih (List.forall_mem_of_forall_mem_cons read) (List.forall_mem_of_forall_mem_cons readOthers) later]

end Text

namespace AsciiDoc

open Text (OneWord SetsApart)

variable {options : Options} {content other : List Node} {named : List Text} {current text : Text}

theorem wordsFrom_words (read : ∀ c ∈ current, Text.isWord c = true) :
    ∀ word ∈ wordsFrom current text, OneWord word := by
  have ended (some : ¬current.isEmpty = true) : OneWord current.reverse :=
    ⟨by simpa using some, fun c member => read c (List.mem_reverse.mp member)⟩
  induction text generalizing current with
  | nil =>
    simp only [wordsFrom]
    split
    · exact List.forall_mem_nil _
    next some => exact List.forall_mem_singleton.mpr (ended some)
  | cons c rest ih =>
    simp only [wordsFrom]
    split
    next letter =>
      have longer : ∀ d ∈ c :: current, Text.isWord d = true := List.forall_mem_cons.mpr ⟨letter, read⟩
      exact ih longer fun some => ⟨by simp, fun d member => longer d (List.mem_reverse.mp member)⟩
    have later : ∀ word ∈ wordsFrom [] rest, OneWord word :=
      ih (List.forall_mem_nil _) fun some => absurd rfl some
    split
    · exact later
    next some => exact List.forall_mem_cons.mpr ⟨ended some, later⟩

theorem titleWords_words (content : List Node) : ∀ word ∈ titleWords content, OneWord word :=
  wordsFrom_words (List.forall_mem_nil _)

/-- What tells one id from another. -/
def joinedWords (options : Options) (content : List Node) : Text :=
  Text.join (options.idSeparator.getD []) (titleWords content)

/-- The id that a heading receives, if it receives one. -/
def anchor? (options : Options) (content : List Node) : Option Text :=
  let id := options.idStart.getD [] ++ joinedWords options content
  if titleWords content = [] ∨ options.lazyIds = true ∧ id = defaultId content then none else some id

def anchorLine (id : Text) : Text := "[#".toList ++ id ++ [']']

theorem idLine_anchor (wanted : options.autoIds = true) (ended : idLine options content = .ok named) :
    named = ((anchor? options content).map anchorLine).toList := by
  rw [idLine, wanted, Bool.not_true, if_neg Bool.false_ne_true] at ended
  obtain ⟨found, made, rfl⟩ := map_ok ended
  rw [sectionId?] at made
  split at made
  next none =>
    obtain rfl := Except.ok.inj made
    rw [anchor?, if_pos (.inl none)]
    rfl
  next some =>
    split at made
    · cases made
    · cases made
    next separator start separated started =>
      obtain rfl := Except.ok.inj made
      simp only [anchor?, joinedWords, separated, started, Option.getD_some, Bool.and_eq_true, beq_iff_eq]
      have words : titleWords content ≠ [] := some
      by_cases left : options.lazyIds = true ∧ start ++ Text.join separator (titleWords content) = defaultId content
      · rw [if_pos left, if_pos (.inr left)]
        rfl
      · rw [if_neg left, if_neg (not_or.mpr ⟨words, left⟩)]
        rfl

/-- Both headings receive an id, and it is the same. -/
def SharesAnchor (options : Options) (content other : List Node) : Prop :=
  ∃ id, anchor? options content = some id ∧ anchor? options other = some id

theorem anchor?_words {id : Text} (received : anchor? options content = some id) :
    id = options.idStart.getD [] ++ joinedWords options content := by
  rw [anchor?] at received
  split at received
  · cases received
  · exact (Option.some.inj received).symm

theorem sharesAnchor_iff : SharesAnchor options content other ↔
    (anchor? options content).isSome ∧ (anchor? options other).isSome ∧
      joinedWords options content = joinedWords options other := by
  constructor
  · rintro ⟨id, received, otherReceived⟩
    refine ⟨Option.isSome_of_mem received, Option.isSome_of_mem otherReceived, ?_⟩
    exact List.append_cancel_left ((anchor?_words received).symm.trans (anchor?_words otherReceived))
  · rintro ⟨some, otherSome, same⟩
    obtain ⟨id, received⟩ := Option.isSome_iff_exists.mp some
    obtain ⟨otherId, otherReceived⟩ := Option.isSome_iff_exists.mp otherSome
    have equal : otherId = id := by rw [anchor?_words received, anchor?_words otherReceived, same]
    exact ⟨id, received, equal ▸ otherReceived⟩

theorem anchor?_congr (same : titleWords content = titleWords other) : anchor? options content = anchor? options other := by
  rw [anchor?, anchor?, joinedWords, joinedWords, defaultId, defaultId, same]

theorem sharesAnchor_iff_words (apart : SetsApart (options.idSeparator.getD [])) :
    SharesAnchor options content other ↔ (anchor? options content).isSome ∧ titleWords content = titleWords other := by
  rw [sharesAnchor_iff]
  constructor
  · rintro ⟨some, -, same⟩
    exact ⟨some, Text.join_words_inj apart (titleWords_words content) (titleWords_words other) same⟩
  · rintro ⟨some, same⟩
    exact ⟨some, anchor?_congr same ▸ some, by rw [joinedWords, joinedWords, same]⟩

/-- In a rendering that succeeds every heading is rendered with the anchor of its own words, or with none, whatever
other headings there are. -/
theorem anchors_by_words {attributes : Attributes} {nodes : List Node} (wanted : options.autoIds = true)
    (rendered : (render options attributes (.document nodes)).outcome = .ok text) :
    (∀ level content, Reaches (notesOf (.document nodes)) (.document nodes) (.heading level content) →
      RenderedBy options (render options attributes (.document nodes)).context.attributes (.heading level content)) ∧
    (∀ depth level content before own after,
      (renderNode options (renderFootnote options depth) (.heading level content)).runIn before = (.ok own, after) →
      ∃ mark title, mark.level = level ∧
        own = Text.unlines (headingLines options mark ((anchor? options content).map anchorLine).toList title)) ∧
    ∀ content other,
      (SharesAnchor options content other ↔ (anchor? options content).isSome ∧ (anchor? options other).isSome ∧
        joinedWords options content = joinedWords options other) ∧
      (SetsApart (options.idSeparator.getD []) →
        (SharesAnchor options content other ↔
          (anchor? options content).isSome ∧ titleWords content = titleWords other)) := by
  refine ⟨fun level content reaches => reached_rendered rendered reaches id, ?_,
    fun content other => ⟨sharesAnchor_iff, sharesAnchor_iff_words⟩⟩
  intro depth level content before own after ran
  rw [renderNode] at ran
  obtain ⟨title, between, named, mark, -, ended, same, -, rfl⟩ := heading_marked ran
  exact ⟨mark, title, same, by rw [idLine_anchor wanted ended]⟩

/-- Titles with the same words, and one with as many characters but one word. -/
def relatedHeadings : List Node :=
  [.heading (.number 2) [.text "Set up".toList],
    .heading (.number 2) [.strong [.text "Set".toList], .text "-Up?".toList],
    .heading (.number 2) [.text "Set_up".toList]]

theorem anchors_by_words_dashed :
    let options : Options := { autoIds := true, idStart := some "s-".toList, idSeparator := some ['-'] }
    (render options [] (.document relatedHeadings)).outcome = .ok
      "[#s-set-up]\n== Set up\n\n[#s-set-up]\n== *Set*-Up?\n\n[#s-set_up]\n== Set_up\n".toList ∧
    SharesAnchor options [.text "Set up".toList] [.strong [.text "Set".toList], .text "-Up?".toList] ∧
    ¬SharesAnchor options [.text "Set up".toList] [.text "Set_up".toList] := by
  intro options
  have rendered : (render options [] (.document relatedHeadings)).outcome = .ok
      "[#s-set-up]\n== Set up\n\n[#s-set-up]\n== *Set*-Up?\n\n[#s-set_up]\n== Set_up\n".toList := by decide +kernel
  obtain ⟨-, -, shares⟩ := anchors_by_words rfl rendered
  have apart : SetsApart (options.idSeparator.getD []) := ⟨'-', List.mem_singleton_self _, by decide⟩
  refine ⟨rendered, ((shares _ _).2 apart).mpr ⟨by decide +kernel, by decide +kernel⟩, ?_⟩
  intro shared
  exact absurd (((shares _ _).2 apart).mp shared).2 (by decide +kernel)

/-- With the separator that is used by default the third title has the anchor too. -/
theorem sections_share_anchor :
    (render { autoIds := true } [] (.document relatedHeadings)).outcome = .ok
      "[#_set_up]\n== Set up\n\n[#_set_up]\n== *Set*-Up?\n\n[#_set_up]\n== Set_up\n".toList := by
  decide +kernel

end AsciiDoc

end Adocify
