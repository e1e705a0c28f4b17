import Adocify.AsciiDoc.Link
import Adocify.Proofs.RenderComparison

/-! Inline content under a comparison. Merging of texts, key combinations and doubled marks look at
neighbours, but only at nodes, which are the same in both runs, and at characters that no line break
can stand for. -/

namespace Adocify.AsciiDoc

section Keys

variable {α β : Type}

theorem takeKey_map (convert : α → β) (view : β → Node) (items : List α) :
    takeKey view (items.map convert) =
      (takeKey (view ∘ convert) items).map fun found => (found.1, found.2.map convert) := by
  cases items with
  | nil => rfl
  | cons item rest =>
    simp only [List.map_cons, takeKey, List.takeWhile_map, List.length_map, List.map_map, ← List.map_drop,
      Function.comp_def]
    by_cases opening : isTag "kbd" (view (convert item)) = true
    · simp only [opening, if_true]
      cases rest.drop _ <;> rfl
    · simp only [opening]
      rfl

theorem afterPlus_map (convert : α → β) (view : β → Node) (items : List α) :
    afterPlus view (items.map convert) = (afterPlus (view ∘ convert) items).map (List.map convert) := by
  match items with
  | [] | [_] => rfl
  | plus :: next :: rest =>
    simp only [List.map_cons, afterPlus, Function.comp_apply]
    split <;> rfl

theorem takeKeysWithin_map (convert : α → β) (view : β → Node) (limit : Nat) (items : List α) :
    takeKeysWithin view limit (items.map convert) =
      ((takeKeysWithin (view ∘ convert) limit items).1, (takeKeysWithin (view ∘ convert) limit items).2.map convert) := by
  induction limit generalizing items with
  | zero => rfl
  | succ limit ih =>
    simp only [takeKeysWithin, takeKey_map]
    cases takeKey (view ∘ convert) items with
    | none => rfl
    | some found =>
      simp only [Option.map_some, afterPlus_map]
      cases afterPlus (view ∘ convert) found.2 with
      | none => rfl
      | some next => simp only [Option.map_some, ih]

/-- Which keys are taken depends on nothing but the nodes that the items stand for. -/
theorem takeKeys_same {view : α → Node} {items others : List α} (same : items.map view = others.map view) :
    (takeKeys view items).1 = (takeKeys view others).1 ∧
      (takeKeys view items).2.length = (takeKeys view others).2.length := by
  have shown (list : List α) :
      takeKeys id (list.map view) = ((takeKeys view list).1, (takeKeys view list).2.map view) := by
    simp only [takeKeys, List.length_map]
    exact takeKeysWithin_map view id list.length list
  have equal := (shown items).symm.trans (same ▸ shown others)
  simp only [Prod.mk.injEq] at equal
  exact ⟨equal.1, by simpa using congrArg List.length equal.2⟩

end Keys

namespace Interchangeable

variable {text : Text → Text → Prop} (laws : Interchangeable text) {a b : Text}

include laws

theorem behind (lead : Text) (same : text a b) : text (lead ++ a) (lead ++ b) := laws.append (laws.refl lead) same

theorem cons (c : Char) (same : text a b) : text (c :: a) (c :: b) := laws.behind [c] same

theorem before (same : text a b) (rest : Text) : text (a ++ rest) (b ++ rest) := laws.append same (laws.refl rest)

theorem flatten {first second : List Text} (texts : List.Forall₂ text first second) :
    text first.flatten second.flatten := by
  induction texts with
  | nil => exact laws.refl []
  | cons same rest ih => exact laws.append same ih

theorem join (separator : Text) {first second : List Text} (texts : List.Forall₂ text first second) :
    text (Text.join separator first) (Text.join separator second) := by
  cases texts with
  | nil => exact laws.refl _
  | @cons a b rest others same texts =>
    induction texts generalizing a b with
    | nil => simpa [Text.join] using same
    | @cons c d _ _ next texts ih =>
      have joined := laws.append (laws.before same separator) (ih next)
      simpa only [Text.join, List.intercalate_cons_cons, List.append_assoc] using joined

theorem escapeMacroText (same : text a b) : text (escapeMacroText a) (escapeMacroText b) :=
  laws.substitute same _ _ (by decide)

theorem escapeAttributeValue (same : text a b) : text (escapeAttributeValue a) (escapeAttributeValue b) :=
  laws.substitute same _ _ (by decide)

theorem flattened {first second : List Text} (texts : List.Forall₂ text first second) :
    text (flattened first) (flattened second) := by
  apply laws.join
  rw [List.forall₂_map_left_iff, List.forall₂_map_right_iff]
  have spaced : [' '] ≠ [] ∧ ∀ c ∈ [' '], Text.isBreak c = true :=
    ⟨List.cons_ne_nil _ _, List.forall_mem_singleton.mpr Text.isBreak_space⟩
  exact texts.imp fun _ _ same => laws.substitute same _ _ fun _ => spaced

end Interchangeable

namespace Comparison

/-- Children that stand for the same node in both runs. -/
structure SameChild (comparison : Comparison) (first second : Child) : Prop where
  node : first.node = second.node
  admitted : comparison.node first.node
  rendered : comparison.Agree comparison.text first.rendered second.rendered

abbrev Siblings (comparison : Comparison) : List Child → List Child → Prop := List.Forall₂ comparison.SameChild

structure SamePiece (comparison : Comparison) (first second : Piece) : Prop where
  mark : first.mark = second.mark
  visible : ∀ mark, first.mark = some mark → Text.isBreak mark = false
  text : comparison.text first.text second.text

theorem markOf_visible {node : Node} {mark : Char} (marked : markOf node = some mark) : Text.isBreak mark = false := by
  cases node <;> simp only [markOf, reduceCtorEq, Option.some.injEq] at marked
  all_goals
    subst marked
    decide

theorem word_visible (c : Char) (broken : Text.isBreak c = true) : Text.isWord c = false := by
  simp only [Text.isBreak, isSpaceOrTab, Bool.or_eq_true, beq_iff_eq] at broken
  rcases broken with (rfl | rfl) | rfl <;> decide

theorem Siblings.nodes {comparison : Comparison} {first second : List Child}
    (siblings : comparison.Siblings first second) : first.map (·.node) = second.map (·.node) := by
  induction siblings with
  | nil => rfl
  | cons same rest ih => rw [List.map_cons, List.map_cons, same.node, ih]

theorem Siblings.rendered {comparison : Comparison} {first second : List Child}
    (siblings : comparison.Siblings first second) :
    List.Forall₂ (comparison.Agree comparison.text) (first.map (·.rendered)) (second.map (·.rendered)) :=
  List.forall₂_map_left_iff.mpr <| List.forall₂_map_right_iff.mpr <| siblings.imp fun _ _ same => same.rendered

namespace Lawful

variable {comparison : Comparison} {options : Options} {wrap : Wrap} (laws : comparison.Lawful options wrap)

include laws

theorem ofText (content : Text) :
    comparison.SameChild (Child.ofText options content) (Child.ofText (options.withWrap wrap) content) :=
  ⟨rfl, laws.literal content, .pure (laws.text.refl _)⟩

theorem mergeFrom {first second : List Child} (siblings : comparison.Siblings first second) (pending : Option Text)
    (afterComment : Bool) :
    comparison.Siblings (mergeFrom (·.node) (Child.ofText options) pending afterComment first)
      (mergeFrom (·.node) (Child.ofText (options.withWrap wrap)) pending afterComment second) := by
  have flushed (text : Option Text) : comparison.Siblings (text.map (Child.ofText options)).toList
      (text.map (Child.ofText (options.withWrap wrap))).toList := by
    cases text with
    | none => exact .nil
    | some content => exact .cons (laws.ofText content) .nil
  induction siblings generalizing pending afterComment with
  | nil => exact flushed pending
  | @cons child other rest others same siblings ih =>
    obtain ⟨node, rendered⟩ := child
    obtain ⟨node', rendered'⟩ := other
    obtain rfl : node = node' := same.node
    have passed := List.rel_append (flushed pending) (.cons same (ih none false))
    cases node with
    | text content => cases pending <;> exact ih _ _
    | htmlInline content =>
      simp only [AsciiDoc.mergeFrom]
      split
      · exact ih _ _
      · exact passed
    | _ => exact passed

theorem piecesFrom {first second : List Child} (siblings : comparison.Siblings first second) (skip : Nat) :
    comparison.Agree (List.Forall₂ comparison.SamePiece) (piecesFrom skip first) (piecesFrom skip second) := by
  induction siblings generalizing skip with
  | nil => cases skip <;> exact .pure .nil
  | @cons child other rest others same siblings ih =>
    cases skip with
    | succ skip => exact ih skip
    | zero =>
      obtain ⟨keys, left⟩ := takeKeys_same (Siblings.nodes (.cons same siblings))
      rcases taken : takeKeys (·.node) (child :: rest) with ⟨found, after⟩
      rcases taken' : takeKeys (·.node) (other :: others) with ⟨found', after'⟩
      obtain rfl : found = found' := by simpa only [taken, taken'] using keys
      have passed : after.length = after'.length := by simpa only [taken, taken'] using left
      cases found with
      | nil =>
        simp only [AsciiDoc.piecesFrom, taken, taken']
        refine .bind same.rendered fun text text' agree => ?_
        refine .bind (ih 0) fun pieces pieces' fits => ?_
        exact .pure (.cons ⟨congrArg markOf same.node, fun _ => markOf_visible, agree⟩ fits)
      | cons key keys =>
        simp only [AsciiDoc.piecesFrom, taken, taken', passed, siblings.length_eq]
        refine .bind (laws.register .experimental) fun _ _ _ => ?_
        refine .bind (ih _) fun pieces pieces' fits => ?_
        exact .pure (.cons ⟨rfl, nofun, laws.text.refl _⟩ fits)

theorem isMarked {first second : Piece} (same : comparison.SamePiece first second) {mark : Char}
    (marked : first.mark = some mark) : first.isMarked mark = second.isMarked mark := by
  have unlike : ∀ c, Text.isBreak c = true → (c == mark) = false := by
    rintro c broken
    by_contra equal
    simp_all [same.visible mark marked]
  have shown (found : Option Char) : decide (found = some mark) = found.any (· == mark) := by
    cases found <;> simp [Option.any, beq_eq_decide]
  rw [Piece.isMarked, Piece.isMarked, shown, shown, shown, shown, laws.text.head same.text unlike,
    laws.text.last same.text unlike]

theorem doubleMarks {first second : List Piece} (pieces : List.Forall₂ comparison.SamePiece first second)
    {before before' : Option Char} (edge : before.any Text.isWord = before'.any Text.isWord) :
    List.Forall₂ comparison.text (doubleMarks before first) (doubleMarks before' second) := by
  induction pieces generalizing before before' with
  | nil => exact .nil
  | @cons piece other rest others same pieces ih =>
    -- Of its neighbours a piece sees only whether it touches a word, and no break belongs to one.
    have after : (rest.head?.bind fun next => next.text.head?).any Text.isWord =
        (others.head?.bind fun next => next.text.head?).any Text.isWord := by
      cases pieces with
      | nil => rfl
      | cons next _ => exact laws.text.head next.text word_visible
    refine .cons ?_ (ih (laws.text.last same.text word_visible))
    rw [← same.mark]
    cases marked : piece.mark with
    | none => exact same.text
    | some mark =>
      simp only [laws.isMarked same marked, edge, after]
      split
      · exact laws.text.before (laws.text.cons mark same.text) [mark]
      · exact same.text

/-- What both runs make of the same inline content fits together. -/
theorem inlineContent {first second : List Child} (siblings : comparison.Siblings first second) :
    comparison.Agree comparison.text (inlineContent options first) (inlineContent (options.withWrap wrap) second) := by
  have dropped : droppedComments (·.node) first = droppedComments (·.node) second := by
    have shown (children : List Child) :
        droppedComments (·.node) children = droppedComments id (children.map (·.node)) := by
      simp only [droppedComments, List.countP_map, Function.comp_def, id_eq]
    rw [shown, shown, siblings.nodes]
  simp only [AsciiDoc.inlineContent, reportDroppedComments, dropped]
  refine .bind (laws.modify (laws.literal []) (.note _) trivial) fun _ _ _ => ?_
  refine .bind (laws.piecesFrom (laws.mergeFrom siblings none false) 0) fun pieces pieces' fits => ?_
  exact .pure (laws.text.flatten (laws.doubleMarks fits rfl))

theorem paragraphText {first second : List Child} (siblings : comparison.Siblings first second) :
    comparison.Agree comparison.text (paragraphText options first) (paragraphText (options.withWrap wrap) second) :=
  .bind (laws.inlineContent siblings) fun _ _ agree => .pure (laws.wrapped agree)

theorem emphasis {first second : List Child} (siblings : comparison.Siblings first second) :
    comparison.Agree comparison.text (emphasis options first) (emphasis (options.withWrap wrap) second) :=
  .bind (laws.inlineContent siblings) fun _ _ agree => .pure (laws.text.before (laws.text.cons '_' agree) ['_'])

theorem strikethrough {first second : List Child} (siblings : comparison.Siblings first second) :
    comparison.Agree comparison.text (strikethrough options first) (strikethrough (options.withWrap wrap) second) :=
  .bind (laws.inlineContent siblings) fun _ _ agree => .pure (laws.text.before (laws.text.behind _ agree) ['#'])

theorem strong (content : List Node) {first second : List Child} (siblings : comparison.Siblings first second) :
    comparison.Agree comparison.text (strong options content first) (strong (options.withWrap wrap) content second) := by
  simp only [AsciiDoc.strong]
  split
  · exact .bind (laws.register .experimental) fun _ _ _ => .pure (laws.text.refl _)
  · exact .bind (laws.inlineContent siblings) fun _ _ agree => .pure (laws.text.before (laws.text.cons '*' agree) ['*'])

theorem htmlInline (content : Text) :
    comparison.Agree comparison.text (htmlInline options content) (htmlInline (options.withWrap wrap) content) := by
  have same : (options.withWrap wrap).dropHtml = options.dropHtml := rfl
  simp only [AsciiDoc.htmlInline, same]
  split
  · exact .pure (laws.text.refl _)
  split
  · exact .bind (laws.report _ _) fun _ _ _ => .pure (laws.text.refl _)
  split
  · exact .bind (laws.report _ _) fun _ _ _ => .pure (laws.text.refl _)
  · exact .pure (laws.text.refl _)

/-- A reference leads to the text of its footnote, so the blocks of the footnotes that may be met
have to agree as well. -/
theorem footnoteReference {descend descend' : Text → List Node → Render (List Text)} {identifier : Text}
    (admitted : comparison.node (.footnoteReference identifier))
    (blocks : ∀ content, comparison.definition identifier content →
      comparison.Agree (List.Forall₂ comparison.text) (descend identifier content) (descend' identifier content)) :
    comparison.Agree comparison.text (footnoteReference descend identifier) (footnoteReference descend' identifier) := by
  refine .bind .get fun context context' same => ?_
  have view := laws.view same
  simp only [← view.emitted, ← view.footnotes]
  split
  · exact .pure (laws.text.refl _)
  cases found : context.footnotes.lookup identifier with
  | none => exact .bind (laws.report _ _) fun _ _ _ => .pure (laws.text.refl _)
  | some content =>
    refine .bind (blocks content (laws.defined same found)) fun texts texts' agree => ?_
    refine .bind (laws.modify admitted (.emit identifier) rfl) fun _ _ _ => ?_
    have written := laws.text.escapeMacroText (laws.text.flattened agree)
    exact .pure (laws.text.before (laws.text.behind _ (laws.text.cons '[' written)) [']'])

theorem macroText {a b : Text} (same : comparison.text a b) (title : Option Text) :
    comparison.text (macroText a title) (macroText b title) := by
  simp only [AsciiDoc.macroText]
  split
  · have quoted := laws.text.cons '"' (laws.text.escapeAttributeValue same)
    exact laws.text.before (laws.text.before (laws.text.before quoted _) _) ['"']
  · exact laws.text.escapeMacroText same

theorem linkText (url plain : Text) (title : Option Text) {a b : Text} (same : comparison.text a b) :
    comparison.text (linkText url a plain title) (linkText url b plain title) := by
  have bracketed : comparison.text ('[' :: AsciiDoc.macroText a title ++ [']'])
      ('[' :: AsciiDoc.macroText b title ++ [']']) :=
    laws.text.before (laws.text.cons '[' (laws.macroText same title)) [']']
  simp only [AsciiDoc.linkText]
  split
  · exact laws.text.refl plain
  split
  · rw [laws.text.isEmpty same]
    split
    · exact laws.text.refl _
    · exact laws.text.before (laws.text.behind _ (laws.text.cons ',' same)) _
  · split
    · exact laws.text.behind _ bracketed
    split
    · exact laws.text.behind _ bracketed
    split
    · exact laws.text.behind _ bracketed
    · exact laws.text.behind _ bracketed

theorem link (url : Text) (content : List Node) (title : Option Text) {first second : List Child}
    (siblings : comparison.Siblings first second) :
    comparison.Agree comparison.text (link options url content title first)
      (link (options.withWrap wrap) url content title second) :=
  .bind (laws.inlineContent siblings) fun _ _ agree => .pure (laws.linkText url _ title agree)

theorem imageTarget (url : Text) :
    comparison.Agree Eq (imageTarget options url) (imageTarget (options.withWrap wrap) url) := by
  have same : (options.withWrap wrap).imagesDirectory = options.imagesDirectory := rfl
  simp only [AsciiDoc.imageTarget, same]
  split
  · exact .pure rfl
  · rename_i directory given
    split
    · exact .bind (laws.register (.imagesDirectory given)) fun _ _ _ => .pure rfl
    · exact .pure rfl

theorem image (url alternative : Text) (title : Option Text) :
    comparison.Agree comparison.text (image options url alternative title)
      (image (options.withWrap wrap) url alternative title) :=
  .bind (laws.imageTarget url) fun _ _ same => same ▸ .pure (laws.text.refl _)

theorem blockImage (found : BlockImage) :
    comparison.Agree comparison.text (blockImage options found) (blockImage (options.withWrap wrap) found) :=
  .bind (laws.imageTarget found.url) fun _ _ same => same ▸ .pure (laws.text.refl _)

end Lawful

end Comparison

end Adocify.AsciiDoc
