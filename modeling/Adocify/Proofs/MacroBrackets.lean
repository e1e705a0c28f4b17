import Adocify.Proofs.LinkTargets
import Adocify.Proofs.LiteralTexts
import Adocify.Proofs.TextSqueezing

/-! The brackets of macros. What stands in them is put together from texts with closing brackets of their own. Those of a
label are escaped; those of a quoted attribute, and of the target of a linked image, are not, and a backslash at the end
escapes the closing bracket of the macro itself. -/

namespace Adocify.AsciiDoc

variable {text rest inside : Text} {before : Option Char} {c : Char}

/-- Every closing bracket of the text has a backslash directly before it, where `before` stands before the text. -/
def BracketsGuarded (before : Option Char) (text : Text) : Prop :=
  ∀ front behind, text = front ++ ']' :: behind → front.getLast?.or before = some '\\'

theorem bracketsGuarded_nil : BracketsGuarded before [] := by
  intro front behind same
  exact absurd same.symm (List.append_ne_nil_of_right_ne_nil _ (List.cons_ne_nil _ _))

theorem bracketsGuarded_cons :
    BracketsGuarded before (c :: rest) ↔ (c = ']' → before = some '\\') ∧ BracketsGuarded (some c) rest := by
  constructor
  · intro guarded
    constructor
    · rintro rfl
      exact guarded [] rest rfl
    · rintro front behind rfl
      exact Text.getLast?_behind front ▸ guarded (c :: front) behind rfl
  · rintro ⟨here, later⟩ front behind same
    cases front with
    | nil => exact here (List.cons.inj same).1
    | cons d front =>
      obtain ⟨rfl, rfl⟩ := List.cons.inj same
      rw [Text.getLast?_behind]
      exact later front behind rfl

theorem bracketsGuarded_append {behind : Text} : BracketsGuarded before (text ++ behind) ↔
    BracketsGuarded before text ∧ BracketsGuarded (text.getLast?.or before) behind := by
  induction text generalizing before with
  | nil => simp [bracketsGuarded_nil]
  | cons c rest ih =>
    rw [List.cons_append, bracketsGuarded_cons, bracketsGuarded_cons, ih, Text.getLast?_behind, and_assoc]

/-- What stands before a text only counts if it is a backslash. -/
theorem bracketsGuarded_behind (other : before ≠ some '\\') :
    BracketsGuarded before text ↔ BracketsGuarded none text := by
  cases text with
  | nil => exact iff_of_true bracketsGuarded_nil bracketsGuarded_nil
  | cons c rest => simp [bracketsGuarded_cons, other]

theorem bracketsGuarded_single : BracketsGuarded before [c] ↔ (c = ']' → before = some '\\') := by
  rw [bracketsGuarded_cons, and_iff_left bracketsGuarded_nil]

theorem bracketsGuarded_plain (plain : ']' ∉ text) : BracketsGuarded before text := by
  rintro front behind rfl
  exact absurd (List.mem_append_right front List.mem_cons_self) plain

/-- What stands behind a name is guarded by itself. -/
theorem bracketsGuarded_named {name : Text} (plain : ']' ∉ name) (last : name.getLast? = some c) (other : c ≠ '\\') :
    BracketsGuarded before (name ++ text) ↔ BracketsGuarded none text := by
  rw [bracketsGuarded_append, and_iff_right (bracketsGuarded_plain plain), last, Option.some_or]
  exact bracketsGuarded_behind fun same => other (Option.some.inj same)

theorem escapeMacroText_guarded (before : Option Char) (text : Text) :
    BracketsGuarded before (escapeMacroText text) := by
  induction text generalizing before with
  | nil => exact bracketsGuarded_nil
  | cons c rest ih =>
    rw [escapeMacroText, Text.substitute_cons, bracketsGuarded_append]
    refine ⟨?_, ih _⟩
    split
    · simp [bracketsGuarded_cons, bracketsGuarded_nil]
    next other => exact bracketsGuarded_single.mpr fun closing => absurd closing other

/-- The escape of quotes neither guards a closing bracket nor leaves one open that is guarded. -/
theorem escapeAttributeValue_guarded :
    BracketsGuarded before (escapeAttributeValue text) ↔ BracketsGuarded before text := by
  induction text generalizing before with
  | nil => exact Iff.rfl
  | cons c rest ih =>
    rw [escapeAttributeValue, Text.substitute_cons, ← escapeAttributeValue, bracketsGuarded_append, bracketsGuarded_cons,
      ih]
    split
    next quote =>
      subst quote
      simp [bracketsGuarded_cons, bracketsGuarded_nil]
    next => rw [bracketsGuarded_single, List.getLast?_singleton, Option.some_or]

theorem getLast?_escapeMacroText (text : Text) : (escapeMacroText text).getLast? = text.getLast? := by
  induction text with
  | nil => rfl
  | cons c rest ih =>
    rw [escapeMacroText, Text.substitute_cons, ← escapeMacroText, List.getLast?_append, ih, List.getLast?_cons]
    split
    next closing => cases rest.getLast? <;> simp [closing]
    next => cases rest.getLast? <;> rfl

/-- The closing bracket behind what stands in brackets is the first one that is not escaped. -/
structure ClosesAtEnd (inside : Text) : Prop where
  guarded : ∀ front behind, inside = front ++ ']' :: behind → front.getLast? = some '\\'
  free : inside.getLast? ≠ some '\\'

theorem closesAtEnd_iff : ClosesAtEnd inside ↔ BracketsGuarded none inside ∧ inside.getLast? ≠ some '\\' := by
  simp only [BracketsGuarded, Option.or_none]
  exact ⟨fun closes => ⟨closes.guarded, closes.free⟩, fun ⟨guarded, free⟩ => ⟨guarded, free⟩⟩

/-- A value between its quotes, as an attribute is given. -/
def quoted (value : Text) : Text := '"' :: escapeAttributeValue value ++ ['"']

theorem quoted_guarded {value : Text} : BracketsGuarded before (quoted value) ↔ BracketsGuarded none value := by
  rw [quoted, ← List.singleton_append, List.append_assoc, bracketsGuarded_named (by decide) rfl (by decide),
    bracketsGuarded_append, escapeAttributeValue_guarded, and_iff_left (bracketsGuarded_plain (by decide))]

theorem getLast?_quoted (value : Text) : (quoted value).getLast? = some '"' := List.getLast?_concat

/-- The texts that stand in the brackets of a macro. -/
inductive BracketText where
  | label (text : Text)
  | titledLabel (text title : Text)
  | titledAlternative (alternative title : Text)
  | linkedAlternative (alternative target : Text)

namespace BracketText

def written : BracketText → Text
  | .label text => escapeMacroText text
  | .titledLabel text title => quoted text ++ (",title=".toList ++ quoted title)
  | .titledAlternative alternative title => escapeMacroText alternative ++ (",title=".toList ++ quoted title)
  | .linkedAlternative alternative target => escapeMacroText alternative ++ (",link=".toList ++ target)

/-- No closing bracket is left as it is, and no backslash stands at the end. -/
def Sound : BracketText → Prop
  | .label text => text.getLast? ≠ some '\\'
  | .titledLabel text title => BracketsGuarded none text ∧ BracketsGuarded none title
  | .titledAlternative _ title => BracketsGuarded none title
  | .linkedAlternative _ target => BracketsGuarded none target ∧ target.getLast? ≠ some '\\'

/-- A label by itself, or with an attribute if there is one. -/
def labelled (label : Text) (attributed : Text → Text → BracketText) (given : Option Text) : BracketText :=
  match given.filter fun value => !value.isEmpty with
  | some value => attributed label value
  | none => .label label

theorem getLast?_title (text title : Text) : (text ++ (",title=".toList ++ quoted title)).getLast? = some '"' := by
  rw [List.getLast?_append, List.getLast?_append, getLast?_quoted]
  rfl

theorem closes_iff (parts : BracketText) : ClosesAtEnd parts.written ↔ parts.Sound := by
  have titled (title : Text) (before : Option Char) :
      BracketsGuarded before (",title=".toList ++ quoted title) ↔ BracketsGuarded none title := by
    rw [bracketsGuarded_named (by decide) rfl (by decide), quoted_guarded]
  rw [closesAtEnd_iff]
  cases parts with
  | label text => rw [written, getLast?_escapeMacroText, and_iff_right (escapeMacroText_guarded none text), Sound]
  | titledLabel text title =>
    rw [written, getLast?_title, and_iff_left (by decide), bracketsGuarded_append, quoted_guarded, titled, Sound]
  | titledAlternative alternative title =>
    rw [written, getLast?_title, and_iff_left (by decide), bracketsGuarded_append, titled,
      and_iff_right (escapeMacroText_guarded none alternative), Sound]
  | linkedAlternative alternative target =>
    have last : (escapeMacroText alternative ++ (",link=".toList ++ target)).getLast? = some '\\' ↔
        target.getLast? = some '\\' := by
      rw [List.getLast?_append, List.getLast?_append]
      cases target.getLast? with
      | none => exact iff_of_false nofun nofun
      | some c => exact Iff.rfl
    rw [written, last.ne, bracketsGuarded_append, and_iff_right (escapeMacroText_guarded none alternative),
      bracketsGuarded_named (by decide) rfl (by decide), Sound]

end BracketText

/-- The elements that may be written as a macro with brackets. An image that is all of a paragraph is one block. -/
inductive MacroSource where
  | link (url : Text) (content : List Node) (title : Option Text)
  | image (url alternative : Text) (title : Option Text)
  | block (found : BlockImage)
  | note (identifier : Text)

namespace MacroSource

def rendered (options : Options) (depth : Nat) : MacroSource → Render Text
  | .link url content title => renderNode options (renderFootnote options depth) (.link url content title)
  | .image url alternative title => renderNode options (renderFootnote options depth) (.image url alternative title)
  | .block found => blockImage options found
  | .note identifier => renderNode options (renderFootnote options depth) (.footnoteReference identifier)

/-- There are brackets that something is written in: the link is neither written bare nor as a cross reference, and the
reference is the first to a footnote that is there. -/
def Bracketed (before : Context) : MacroSource → Prop
  | .link url content title =>
    ¬WrittenBare (.link url content title) ∧ (isPresent title = true ∨ url.head? ≠ some '#')
  | .image .. | .block _ => True
  | .note identifier => identifier ∉ before.emitted ∧ (before.footnotes.lookup identifier).isSome

/-- The line above a block image, if it has a title. -/
def caption (found : BlockImage) : Text :=
  match found.title.filter fun content => !content.isEmpty with
  | some title => '.' :: title ++ ['\n']
  | none => []

/-- What an element is written with: what stands before its brackets, and the texts in them. A link and a footnote take
these from what is rendered below them. -/
inductive Written (options : Options) (depth : Nat) (before : Context) : MacroSource → Text → BracketText → Prop where
  | link {url opening label : Text} {content : List Node} {title : Option Text} {left : Context} :
    (inlineContent options (renderChildren options (renderFootnote options depth) content)).runIn before =
      (.ok label, left) →
    LeadsTo url (opening ++ '[' :: (BracketText.labelled label .titledLabel title).written ++ [']']) →
    Written options depth before (.link url content title) opening (BracketText.labelled label .titledLabel title)
  | image {url target alternative : Text} {title : Option Text} {left : Context} :
    (imageTarget options url).runIn before = (.ok target, left) →
    Written options depth before (.image url alternative title) ("image:".toList ++ target)
      (.labelled alternative .titledAlternative title)
  | block {found : BlockImage} {target : Text} {left : Context} :
    (imageTarget options found.url).runIn before = (.ok target, left) →
    Written options depth before (.block found) (caption found ++ "image::".toList ++ target)
      (.labelled found.alternative .linkedAlternative found.target)
  | note {identifier : Text} {content : List Node} {blocks : List Text} {left : Context} :
    before.footnotes.lookup identifier = some content →
    (renderFootnote options depth identifier content).runIn before = (.ok blocks, left) →
    Written options depth before (.note identifier) ("footnote:".toList ++ identifier) (.label (flattened blocks))

variable {options : Options} {depth : Nat} {before left : Context} {text : Text}

theorem macroText_written (label : Text) (title : Option Text) :
    macroText label title = (BracketText.labelled label .titledLabel title).written := by
  rw [macroText, BracketText.labelled]
  cases title.filter fun content => !content.isEmpty with
  | some title => simp [BracketText.written, quoted]
  | none => rfl

theorem linkText_opening (label : Text) {url plain : Text} {title : Option Text}
    (shown : ¬(!isPresent title && isBareUrl url plain) = true) (other : isPresent title = true ∨ url.head? ≠ some '#') :
    ∃ opening, linkText url label plain title =
      opening ++ '[' :: (BracketText.labelled label .titledLabel title).written ++ [']'] := by
  simp only [linkText, if_neg shown, macroText_written]
  split
  next untitled =>
    rcases other with titled | other
    · exact absurd (untitled.symm.trans titled) Bool.noConfusion
    · exact absurd rfl other
  next url _ _ _ =>
    split
    next path fragment _ => exact ⟨"xref:".toList ++ path ++ ".adoc".toList ++ fragment, by simp⟩
    split
    · exact ⟨"link:++".toList ++ url ++ "++".toList, by simp⟩
    split
    · exact ⟨url, by simp⟩
    · exact ⟨"link:".toList ++ url, by simp⟩

/-- Every bracketed element is written with its texts in the brackets. -/
theorem written_of_ran {source : MacroSource} (bracketed : source.Bracketed before)
    (ran : (source.rendered options depth).runIn before = (.ok text, left)) :
    ∃ opening parts, source.Written options depth before opening parts ∧
      text = opening ++ '[' :: parts.written ++ [']'] := by
  cases source with
  | link url content title =>
    obtain ⟨shown, other⟩ := bracketed
    rw [rendered, renderNode] at ran
    obtain ⟨label, between, inside, ran⟩ := Render.runIn_bind_ok.mp ran
    obtain ⟨rfl, -⟩ := Render.runIn_pure_ok.mp ran
    obtain ⟨opening, same⟩ := linkText_opening label shown other
    exact ⟨opening, _, .link inside (same ▸ linkText_leads shown), same⟩
  | image url alternative title =>
    rw [rendered, renderNode] at ran
    obtain ⟨target, between, told, ran⟩ := Render.runIn_bind_ok.mp ran
    obtain ⟨rfl, -⟩ := Render.runIn_pure_ok.mp ran
    refine ⟨_, _, .image told, ?_⟩
    rw [BracketText.labelled]
    cases title.filter fun content => !content.isEmpty with
    | some title => simp [BracketText.written, quoted]
    | none => simp [BracketText.written]
  | block found =>
    obtain ⟨target, between, told, ran⟩ := Render.runIn_bind_ok.mp ran
    obtain ⟨rfl, -⟩ := Render.runIn_pure_ok.mp ran
    refine ⟨_, _, .block told, ?_⟩
    rw [BracketText.labelled, caption]
    cases found.target.filter fun url => !url.isEmpty with
    | some url => cases found.title.filter fun content => !content.isEmpty <;> simp [BracketText.written]
    | none => cases found.title.filter fun content => !content.isEmpty <;> simp [BracketText.written]
  | note identifier =>
    obtain ⟨fresh, known⟩ := bracketed
    obtain ⟨content, defined⟩ := Option.isSome_iff_exists.mp known
    have apart : ¬before.emitted.contains identifier = true := List.contains_iff_mem.not.mpr fresh
    simp only [rendered, renderNode, footnoteReference, Render.runIn_bind, Render.runIn_get, if_neg apart, defined] at ran
    cases told : (renderFootnote options depth identifier content).runIn before with
    | mk outcome between =>
      rw [told] at ran
      cases outcome with
      | error failure => cases ran
      | ok blocks =>
        obtain ⟨rfl, -⟩ := Render.runIn_pure_ok.mp ran
        exact ⟨_, _, .note defined told, rfl⟩

end MacroSource

/-- The brackets of a link, an image or a footnote close at the end and nowhere before if and only if its texts are
sound: what is escaped for a label must not end in a backslash, and what is quoted, or names the target of an image's
link, must have no closing bracket of its own without one. -/
theorem brackets_close_iff (options : Options) (depth : Nat) {source : MacroSource} {before left : Context}
    {text : Text} (bracketed : source.Bracketed before)
    (ran : (source.rendered options depth).runIn before = (.ok text, left)) :
    ∃ opening parts, source.Written options depth before opening parts ∧
      text = opening ++ '[' :: parts.written ++ [']'] ∧ (ClosesAtEnd parts.written ↔ parts.Sound) := by
  obtain ⟨opening, parts, written, same⟩ := MacroSource.written_of_ran bracketed ran
  exact ⟨opening, parts, written, same, parts.closes_iff⟩

/-- The footnote's text holds a link with a bracket of its own in the label, which is escaped twice. -/
theorem brackets_close_iff_nested :
    let content : List Node := [.paragraph [.link "https://a.org".toList [.text "b [1]".toList] none]]
    let before : Context := { attributes := [], footnotes := [(['n'], content)] }
    let source := MacroSource.note ['n']
    let inside := "https://a.org[b [1\\\\]\\]".toList
    source.Bracketed before ∧
      ((source.rendered {} 1).runIn before).1 = .ok ("footnote:n[".toList ++ inside ++ [']']) ∧
      ∃ opening parts, source.Written {} 1 before opening parts ∧
        "footnote:n[".toList ++ inside ++ [']'] = opening ++ '[' :: parts.written ++ [']'] ∧
        (ClosesAtEnd parts.written ↔ parts.Sound) := by
  intro content before source inside
  have bracketed : source.Bracketed before := ⟨List.not_mem_nil, rfl⟩
  have ran : (source.rendered {} 1).runIn before =
      (.ok ("footnote:n[".toList ++ inside ++ [']']), { before with emitted := [['n']] }) := rfl
  exact ⟨bracketed, congrArg Prod.fst ran, brackets_close_iff {} 1 bracketed ran⟩

/-- The bracket in the text of a titled link closes the macro, and the backslash at the end of a label leaves it open. -/
theorem brackets_closed_amiss :
    let titled := MacroSource.link "https://a.org".toList [.text "see [1]".toList] (some ['t'])
    let plain := MacroSource.link ['b'] [.text "a\\".toList] none
    let inside := "\"see [1]\",title=\"t\"".toList
    titled.Bracketed { attributes := [] } ∧ plain.Bracketed { attributes := [] } ∧
      ((titled.rendered {} 0).runIn { attributes := [] }).1 = .ok ("https://a.org[".toList ++ inside ++ [']']) ∧
      ((plain.rendered {} 0).runIn { attributes := [] }).1 = .ok "link:b[a\\]".toList ∧
      ¬ClosesAtEnd inside ∧ ¬ClosesAtEnd "a\\".toList := by
  intro titled plain inside
  refine ⟨⟨Bool.noConfusion, .inl rfl⟩, ⟨Bool.noConfusion, .inr (by decide)⟩, rfl, rfl, ?_, fun closes => closes.free rfl⟩
  intro closes
  have guarded := closes.guarded "\"see [1".toList "\",title=\"t\"".toList rfl
  exact absurd guarded (by decide)

end Adocify.AsciiDoc
