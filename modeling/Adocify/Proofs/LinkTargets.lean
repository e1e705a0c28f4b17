import Adocify.Proofs.CourseTrees

/-! Links and their targets. A link that is not written bare leads to its target, in one of the forms that AsciiDoc
has for that; one that is written bare does so only if AsciiDoc takes its address for a URL by itself. -/

namespace Adocify

namespace Text

/-- Nothing beyond ASCII has a lower case in ASCII, except for the Kelvin sign. -/
theorem lowerRuns_beyond : ∀ run ∈ lowerRuns, 0x80 ≤ run.first + run.distance ∨
    run.first = run.last ∧ run.first + run.distance = 'k'.toNat := by
  decide +kernel

theorem image_beyond {run : CaseRun} {n image : Nat} (known : run ∈ lowerRuns) (moved : run.image? n = some image) :
    0x80 ≤ image ∨ image = 'k'.toNat := by
  have beyond := lowerRuns_beyond run known
  simp only [CaseRun.image?] at moved
  split at moved
  next covered =>
    simp only [Bool.and_eq_true, decide_eq_true_eq] at covered
    have same := Option.some.inj moved
    omega
  next => cases moved

/-- A character that is the lower case of none beyond ASCII. -/
def IsPlain (c : Char) : Prop := c.toNat < 0x80 ∧ c ≠ 'k' ∧ c.toNat ≠ 0

instance (c : Char) : Decidable (IsPlain c) := inferInstanceAs (Decidable (_ ∧ _ ∧ _))

theorem lowerChar_plain {c : Char} (plain : IsPlain (lowerChar c)) : c.toLower = lowerChar c := by
  obtain ⟨ascii, other, visible⟩ := plain
  by_cases small : c.toNat < 0x80
  · simp only [lowerChar, if_pos small]
  simp only [lowerChar, if_neg small] at ascii other visible ⊢
  cases found : lowerRuns.findSome? (·.image? c.toNat) with
  | none =>
    rw [found] at ascii
    exact absurd ascii small
  | some image =>
    obtain ⟨run, known, moved⟩ := List.exists_of_findSome?_eq_some found
    have beyond := image_beyond known moved
    simp only [found, Option.map_some, Option.getD_some] at ascii other visible
    by_cases valid : image.isValidChar
    · have same : (Char.ofNat image).toNat = image := by
        rw [Char.ofNat, dif_pos valid]
        rfl
      rcases beyond with beyond | rfl
      · omega
      · exact absurd (by decide) other
    · exact absurd (by simp [Char.ofNat, Char.toNat, valid]) visible

end Text

namespace AsciiDoc

open Text (IsPlain)

variable {url text address : Text}

theorem isLetter_lower (c : Char) : isLetter c.toLower c = true := by
  simp [isLetter]

/-- A word that the lower case of a text begins with is found whatever case the text is in. -/
theorem afterWord_lower {word before : Text} (plain : ∀ c ∈ word, IsPlain c)
    (starts : word <+: Text.lowerFrom before text) : afterWord word text = some (text.drop word.length) := by
  induction word generalizing before text with
  | nil => rfl
  | cons letter word ih =>
    obtain ⟨here, later⟩ := List.forall_mem_cons.mp plain
    cases text with
    | nil => cases List.prefix_nil.mp starts
    | cons c rest =>
      simp only [Text.lowerFrom] at starts
      split at starts
      next =>
        -- A sigma stays beyond ASCII.
        have greek : letter = Char.ofNat 0x3c2 ∨ letter = Char.ofNat 0x3c3 := by
          split at starts
          · exact .inl (List.cons_prefix_cons.mp starts).1
          · exact .inr (List.cons_prefix_cons.mp starts).1
        rcases greek with rfl | rfl
        · exact absurd here (by decide)
        · exact absurd here (by decide)
      split at starts
      next dotted =>
        -- The dotted capital I leaves a dot behind, which no plain word goes on with.
        obtain ⟨rfl, behind⟩ := List.cons_prefix_cons.mp starts
        have alone : word = [] := by
          cases word with
          | nil => rfl
          | cons next word =>
            obtain ⟨rfl, -⟩ := List.cons_prefix_cons.mp behind
            exact absurd (later _ List.mem_cons_self) (by decide)
        have same : c.toNat = 0x130 := by simpa using dotted
        simp [alone, afterWord, isLetter, same]
      next =>
        obtain ⟨rfl, behind⟩ := List.cons_prefix_cons.mp starts
        have found := isLetter_lower c
        rw [Text.lowerChar_plain here] at found
        rw [afterWord, if_pos found, ih later behind]
        rfl

theorem afterWord_mailto (starts : mailto.isPrefixOf (Text.lower url) = true) :
    afterWord mailto url = some (url.drop 7) :=
  afterWord_lower (List.forall_iff_forall_mem.mp (by decide)) (List.isPrefixOf_iff_prefix.mp starts)

theorem hasUrlScheme_mailto (found : afterWord mailto url = some address) : hasUrlScheme url = true := by
  rw [hasUrlScheme, List.any_eq_true]
  exact ⟨mailto, by decide, by rw [found]; rfl⟩

theorem endsInMarkdownSuffix?_shape {path name : Text} (found : endsInMarkdownSuffix? path = some name) :
    ∃ m d, isLetter 'm' m = true ∧ isLetter 'd' d = true ∧ path = name ++ ['.', m, d] := by
  simp only [endsInMarkdownSuffix?] at found
  split at found
  next d m last rest reversed =>
    split at found
    next letters =>
      obtain rfl := Option.some.inj found
      rw [Bool.and_eq_true] at letters
      refine ⟨m, d, letters.2, letters.1, ?_⟩
      rw [← path.reverse_reverse, reversed]
      simp
    next => cases found
  next => cases found

theorem withoutFinalNewline_split (text : Text) :
    ∃ ending, (ending = [] ∨ ending = ['\n']) ∧ text = Text.withoutFinalNewline text ++ ending := by
  simp only [Text.withoutFinalNewline]
  split
  next last => exact ⟨['\n'], .inr rfl, (List.dropLast_append_getLast? '\n' last).symm⟩
  next => exact ⟨[], .inl rfl, (List.append_nil text).symm⟩

/-- A Markdown document is named by its path, the suffix in any case, and a fragment. A newline at the end does not
count. -/
theorem markdownTarget?_shape {path fragment : Text} (found : markdownTarget? url = some (path, fragment)) :
    ∃ m d ending, isLetter 'm' m = true ∧ isLetter 'd' d = true ∧ (ending = [] ∨ ending = ['\n']) ∧
      url = path ++ '.' :: m :: d :: fragment ++ ending := by
  have whole := List.takeWhile_append_dropWhile (p := fun c => c ≠ '#' && c ≠ '?') (l := url)
  simp only [markdownTarget?] at found
  generalize url.takeWhile _ = front at whole found
  generalize url.dropWhile _ = behind at whole found
  subst whole
  split at found
  · cases found
  split at found
  next =>
    split at found
    next name named =>
      obtain ⟨rfl, rfl⟩ := Prod.mk.inj (Option.some.inj found)
      obtain ⟨m, d, first, second, rfl⟩ := endsInMarkdownSuffix?_shape named
      exact ⟨m, d, [], first, second, .inl rfl, by simp⟩
    next =>
      obtain ⟨name, named, same⟩ := Option.map_eq_some_iff.mp found
      obtain ⟨rfl, rfl⟩ := Prod.mk.inj same
      obtain ⟨m, d, first, second, shape⟩ := endsInMarkdownSuffix?_shape named
      obtain ⟨ending, known, split⟩ := withoutFinalNewline_split front
      rw [shape] at split
      exact ⟨m, d, ending, first, second, known, by simpa using split⟩
  next fragment _ =>
    split at found
    · cases found
    obtain ⟨name, named, same⟩ := Option.map_eq_some_iff.mp found
    obtain ⟨rfl, rfl⟩ := Prod.mk.inj same
    obtain ⟨m, d, first, second, rfl⟩ := endsInMarkdownSuffix?_shape named
    obtain ⟨ending, known, split⟩ := withoutFinalNewline_split fragment
    refine ⟨m, d, ending, first, second, known, ?_⟩
    conv_lhs => rw [split]
    simp
  next => cases found

/-- The forms in which a link leads to its target. The first two have no brackets: AsciiDoc takes a URL for a link by
itself, and a mail address too. -/
inductive LeadsTo (url : Text) : Text → Prop where
  | bare : hasUrlScheme url = true → LeadsTo url url
  | address {address : Text} : afterWord mailto url = some address → LeadsTo url address
  | cross {fragment : Text} (label : Text) : url = '#' :: fragment →
    LeadsTo url ("<<".toList ++ fragment ++ label ++ ">>".toList)
  | document {path fragment ending : Text} {m d : Char} (label : Text) : isLetter 'm' m = true → isLetter 'd' d = true →
    ending = [] ∨ ending = ['\n'] → url = path ++ '.' :: m :: d :: fragment ++ ending →
    LeadsTo url ("xref:".toList ++ path ++ ".adoc".toList ++ fragment ++ ('[' :: label ++ [']']))
  | passed (label : Text) : ' ' ∈ url → LeadsTo url ("link:++".toList ++ url ++ "++".toList ++ ('[' :: label ++ [']']))
  | recognized (label : Text) : hasUrlScheme url = true → LeadsTo url (url ++ ('[' :: label ++ [']']))
  | other (label : Text) : LeadsTo url ("link:".toList ++ url ++ ('[' :: label ++ [']']))

/-- What is not taken for a URL by itself needs more characters than its own. -/
theorem LeadsTo.longer (leads : LeadsTo url text) (plain : hasUrlScheme url = false) : url.length < text.length := by
  cases leads with
  | bare scheme | recognized _ scheme => simp [scheme] at plain
  | address found => simp [hasUrlScheme_mailto found] at plain
  | cross label same =>
    subst same
    have opening : "<<".toList.length = 2 := rfl
    simp only [List.length_append, List.length_cons]
    omega
  | @document path fragment ending m d label _ _ known same =>
    subst same
    have opening : "xref:".toList.length = 5 := rfl
    have short : ending.length ≤ 1 := by rcases known with rfl | rfl <;> decide
    simp only [List.length_append, List.length_cons]
    omega
  | passed label blank | other label =>
    simp only [List.length_append, List.length_cons]
    omega

theorem linkText_leads {plain : Text} {title : Option Text}
    (bracketed : ¬(!isPresent title && isBareUrl url plain) = true) : LeadsTo url (linkText url text plain title) := by
  simp only [linkText, if_neg bracketed]
  split
  next fragment _ => exact .cross _ rfl
  next url _ _ _ =>
    split
    next path fragment found =>
      obtain ⟨m, d, ending, first, second, known, shape⟩ := markdownTarget?_shape found
      exact .document (macroText text title) first second known shape
    split
    next blank =>
      have inside : ' ' ∈ url := by simpa using blank
      exact .passed (macroText text title) inside
    split
    next scheme => exact .recognized (macroText text title) scheme
    next => exact .other (macroText text title)

theorem bare_leads {plain : Text} (bare : isBareUrl url plain = true) (scheme : hasUrlScheme url = true) :
    LeadsTo url plain := by
  simp only [isBareUrl, Bool.or_eq_true, Bool.and_eq_true, beq_iff_eq] at bare
  rcases bare with rfl | ⟨starts, rfl⟩
  · exact .bare scheme
  · exact .address (afterWord_mailto starts)

theorem bare_lost {plain : Text} (bare : isBareUrl url plain = true) (none : hasUrlScheme url = false) :
    ¬LeadsTo url plain := by
  intro leads
  have longer := leads.longer none
  simp only [isBareUrl, Bool.or_eq_true, Bool.and_eq_true, beq_iff_eq] at bare
  rcases bare with rfl | ⟨starts, -⟩
  · exact Nat.lt_irrefl _ longer
  · simp [hasUrlScheme_mailto (afterWord_mailto starts)] at none

/-- A link loses its target if and only if it is written bare although AsciiDoc does not take its address for a URL. -/
theorem link_leads_to_target (options : Options) (depth : Nat) {url : Text} {content : List Node} {title : Option Text}
    {before left : Context} {text : Text}
    (ran : (renderNode options (renderFootnote options depth) (.link url content title)).runIn before =
      (.ok text, left)) :
    LeadsTo url text ↔ ¬(WrittenBare (.link url content title) ∧ hasUrlScheme url = false) := by
  rw [renderNode] at ran
  obtain ⟨shown, between, -, ran⟩ := Render.runIn_bind_ok.mp ran
  obtain ⟨rfl, -⟩ := Render.runIn_pure_ok.mp ran
  by_cases bare : WrittenBare (.link url content title)
  · have alone : (!isPresent title && isBareUrl url (Node.plainTexts content)) = true := bare
    have same : linkText url shown (Node.plainTexts content) title = Node.plainTexts content := by
      simp only [linkText, if_pos alone]
    have address : isBareUrl url (Node.plainTexts content) = true := (Bool.and_eq_true _ _ ▸ alone).2
    rw [same, and_iff_right bare]
    cases scheme : hasUrlScheme url with
    | true => exact iff_of_true (bare_leads address scheme) Bool.noConfusion
    | false => exact iff_of_false (bare_lost address scheme) (not_not_intro rfl)
  · exact iff_of_true (linkText_leads bare) fun lost => bare lost.1

theorem link_leads_to_target_guide :
    let url := "Guide.MD#top".toList
    let content : List Node := [.text "the guide".toList]
    let written := "xref:Guide.adoc#top[the guide]".toList
    (renderNode {} (renderFootnote {} 0) (.link url content none)).runIn { attributes := [] } =
      (.ok written, { attributes := [] }) ∧ LeadsTo url written := by
  intro url content written
  have ran : (renderNode {} (renderFootnote {} 0) (.link url content none)).runIn { attributes := [] } =
      (.ok written, { attributes := [] }) := rfl
  refine ⟨ran, (link_leads_to_target {} 0 ran).mpr ?_⟩
  intro lost
  have bare : isBareUrl url "the guide".toList = true := lost.1
  exact absurd bare (by decide)

/-- A link to a file by its own name is written as the name alone. -/
theorem name_without_target :
    let name := "notes.txt".toList
    ((renderNode {} (renderFootnote {} 0) (.link name [.text name] none)).runIn { attributes := [] }).1 = .ok name ∧
      hasUrlScheme name = false ∧ ¬LeadsTo name name := by
  intro name
  exact ⟨rfl, by decide, bare_lost (by decide) (by decide)⟩

end AsciiDoc

end Adocify
