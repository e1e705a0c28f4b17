import Adocify.Proofs.RenderCourse
import Adocify.Proofs.RenderInline

/-! Courses through inline content. The text of a line holds the texts of its elements in order: nothing
that is done to neighbours takes a text away or moves it. -/

namespace Adocify.AsciiDoc

section Views

variable {α β : Type} (convert : α → β) (view : β → Node)

theorem takeKeys_map (items : List α) :
    takeKeys view (items.map convert) =
      ((takeKeys (view ∘ convert) items).1, (takeKeys (view ∘ convert) items).2.map convert) := by
  rw [takeKeys, takeKeys, List.length_map]
  exact takeKeysWithin_map convert view items.length items

theorem mergeFrom_map (ofText : Text → α) (items : List α) (pending : Option Text) (afterComment : Bool) :
    mergeFrom view (convert ∘ ofText) pending afterComment (items.map convert) =
      (mergeFrom (view ∘ convert) ofText pending afterComment items).map convert := by
  have flushed (text : Option Text) : (text.map (convert ∘ ofText)).toList = (text.map ofText).toList.map convert := by
    cases text <;> rfl
  induction items generalizing pending afterComment with
  | nil => exact flushed pending
  | cons item rest ih =>
    simp only [List.map_cons, mergeFrom, Function.comp_apply]
    split
    · split
      · exact ih _ _
      · exact ih _ _
    · split
      · exact ih _ _
      · rw [flushed, ih, List.map_append, List.map_cons]
    · rw [flushed, ih, List.map_append, List.map_cons]

theorem splitAdmonition_map (ofText : Text → α) (items : List α) :
    splitAdmonition view (convert ∘ ofText) (items.map convert) =
      (splitAdmonition (view ∘ convert) ofText items).map fun found => (found.1, found.2.map convert) := by
  match items with
  | [] | [_] => rfl
  | first :: second :: rest =>
    simp only [List.map_cons, splitAdmonition, Function.comp_apply]
    split
    · split
      · split
        · rfl
        · split
          · split <;> rfl
          · rfl
      · rfl
    · rfl

end Views

namespace Assembled

variable {texts : List Text} {text : Text}

theorem behind (lead : Text) (assembled : Assembled texts text) : Assembled texts (lead ++ text) :=
  .append (.literal lead) assembled

theorem cons (c : Char) (assembled : Assembled texts text) : Assembled texts (c :: text) := assembled.behind [c]

theorem before (assembled : Assembled texts text) (rest : Text) : Assembled texts (text ++ rest) := by
  have both := append assembled (literal rest)
  rwa [List.append_nil] at both

end Assembled

namespace Laid

variable {texts lines : List Text}

theorem single {text : Text} (assembled : Assembled texts text) : Laid texts [text] := by
  have one := Laid.cons assembled .nil
  rwa [List.append_nil] at one

theorem literals (lines : List Text) : Laid [] lines := by
  induction lines with
  | nil => exact .nil
  | cons line rest ih => exact .cons (.literal line) ih

theorem each (lines : List Text) : Laid lines lines := by
  induction lines with
  | nil => exact .nil
  | cons line rest ih => exact .cons (.whole line) ih

theorem append {others more : List Text} (laid : Laid texts lines) (rest : Laid others more) :
    Laid (texts ++ others) (lines ++ more) := by
  induction laid with
  | nil => exact rest
  | cons assembled laid ih =>
    rw [List.append_assoc]
    exact .cons assembled ih
  | drop assembled laid ih =>
    rw [List.append_assoc]
    exact .drop assembled ih

theorem followed (laid : Laid texts lines) (others : List Text) : Laid texts (lines ++ others) := by
  have both := laid.append (literals others)
  rwa [List.append_nil] at both

/-- A line that comes out empty leaves no trace. -/
theorem missing {line : Text} (assembled : Assembled texts line) (empty : line.isEmpty = true) (lines : List Text) :
    Laid texts lines := by
  rw [List.isEmpty_iff.mp empty] at assembled
  have both := drop assembled (literals lines)
  rwa [List.append_nil] at both

theorem flatten (laid : Laid texts lines) : Assembled texts lines.flatten := by
  induction laid with
  | nil => exact .literal []
  | cons assembled laid ih => exact .append assembled ih
  | drop assembled laid ih => exact .append assembled ih

theorem join (separator : Text) (laid : Laid texts lines) : Assembled texts (Text.join separator lines) := by
  induction laid with
  | nil => exact .literal _
  | @cons first others lines line assembled laid ih =>
    cases lines with
    | nil =>
      have both := Assembled.append assembled ih
      simpa [Text.join] using both
    | cons next lines =>
      have both := Assembled.append (assembled.before separator) ih
      simpa only [Text.join, List.intercalate_cons_cons, List.append_assoc] using both
  | drop assembled laid ih => exact .append assembled ih

/-- Lines without text may be left out. -/
theorem present (laid : Laid texts lines) : Laid texts (lines.filter fun line => !line.isEmpty) := by
  induction laid with
  | nil => exact .nil
  | @cons first others lines line assembled laid ih =>
    cases line with
    | nil => exact .drop assembled ih
    | cons c line => exact .cons assembled ih
  | drop assembled laid ih => exact .drop assembled ih

/-- Each line may be worded anew. -/
theorem reword {reworded : List Text} (laid : Laid texts lines)
    (each : List.Forall₂ (fun line other => ∀ texts, Assembled texts line → Assembled texts other) lines reworded) :
    Laid texts reworded := by
  induction laid generalizing reworded with
  | nil =>
    cases each
    exact .nil
  | cons assembled laid ih =>
    cases each with
    | cons here rest => exact .cons (here _ assembled) (ih rest)
  | drop assembled laid ih => exact .drop assembled (ih each)

end Laid

theorem doubleMarks_laid {texts : List Text} {pieces : List Piece} (laid : Laid texts (pieces.map (·.text)))
    (before : Option Char) : Laid texts (doubleMarks before pieces) := by
  refine laid.reword ?_
  clear laid
  induction pieces generalizing before with
  | nil => exact .nil
  | cons piece rest ih =>
    refine .cons (fun texts assembled => ?_) (ih _)
    split
    · split
      · exact (assembled.cons _).before _
      · exact assembled
    · exact assembled

namespace Stage

variable {stage : Stage} {nodes content : List Node}

def child (stage : Stage) (node : Node) : Child :=
  ⟨node, renderNode stage.options (renderFootnote stage.options stage.depth) node⟩

theorem renderChildren_eq (stage : Stage) (nodes : List Node) :
    renderChildren stage.options (renderFootnote stage.options stage.depth) nodes = nodes.map stage.child := by
  induction nodes with
  | nil => rw [renderChildren, List.map_nil]
  | cons node rest ih =>
    rw [renderChildren, ih, List.map_cons]
    rfl

theorem ofText_eq : Child.ofText stage.options = stage.child ∘ Node.text := by
  funext content
  simp only [Child.ofText, Function.comp_apply, child, renderNode]

/-- The changes that any node may make. -/
structure Common (stage : Stage) : Prop where
  note : ∀ records, stage.own (.note records)
  experimental : stage.own (.register experimental (.text []))

theorem Takes.report (common : stage.Common) (level : LogLevel) (message : Text) :
    stage.Takes [] (fun texts _ => texts = [] ∧ True) (Render.report level message) :=
  .modify (.note [⟨level, message⟩]) (common.note _)

theorem Takes.register {name : String} {value : Value} (arises : stage.own (.register name value)) :
    stage.Takes [] (fun texts _ => texts = [] ∧ True) (Render.register name value) :=
  .modify (.register name value) arises

abbrev FollowsAll (stage : Stage) (nodes : List Node) : Prop :=
  ∀ node ∈ nodes, Follows stage.options stage.depth node

theorem Takes.texts (follows : stage.FollowsAll nodes) :
    stage.Takes nodes (fun texts values => values = texts)
      (Render.sequence ((nodes.map stage.child).map (·.rendered))) := by
  induction nodes with
  | nil => exact .pure rfl
  | cons node rest ih =>
    have others := ih fun other member => follows other (.tail _ member)
    change stage.Takes ([node] ++ rest) _ _
    refine (Takes.visit (follows node List.mem_cons_self)).bind fun texts text same => ?_
    refine others.map fun more values equal => ?_
    rw [same, equal]
    rfl

theorem Takes.children (follows : stage.FollowsAll nodes) :
    stage.Takes nodes Laid (Render.sequence ((nodes.map stage.child).map (·.rendered))) :=
  (Takes.texts follows).mono fun texts _ same => same ▸ .each texts

theorem Takes.renderPresent (follows : stage.FollowsAll nodes) :
    stage.Takes nodes Laid (Child.renderPresent (nodes.map stage.child)) :=
  (Takes.children follows).map fun _ _ laid => laid.present

/-- To merge the texts of a line is to merge those of its elements. -/
theorem mergeTexts_children (content : List Node) :
    mergeTexts (·.node) (Child.ofText stage.options) (content.map stage.child) =
      (mergeTexts id .text content).map stage.child := by
  rw [ofText_eq]
  exact mergeFrom_map stage.child _ _ content none false

section Pieces

variable {node : Node} {rest after : List Node} {keys : List Text}

theorem takeKeys_children (stage : Stage) (taken : takeKeys id nodes = (keys, after)) :
    takeKeys (·.node) (nodes.map stage.child) = (keys, after.map stage.child) := by
  rw [takeKeys_map]
  exact congrArg (fun found => (found.1, found.2.map stage.child)) taken

theorem piecesFrom_element (taken : takeKeys id (node :: rest) = ([], after)) :
    piecesFrom 0 ((node :: rest).map stage.child) = do
      let text ← (stage.child node).rendered
      let others ← piecesFrom 0 (rest.map stage.child)
      return ⟨markOf node, text⟩ :: others := by
  have none := takeKeys_children stage taken
  rw [List.map_cons] at none ⊢
  simp only [AsciiDoc.piecesFrom, none]
  rfl

theorem piecesFrom_keys (some : keys ≠ []) (taken : takeKeys id (node :: rest) = (keys, after)) :
    piecesFrom 0 ((node :: rest).map stage.child) = do
      Render.register experimental (.text [])
      let others ← piecesFrom (rest.length - after.length) (rest.map stage.child)
      return ⟨none, keyboardMacro keys⟩ :: others := by
  have found := takeKeys_children stage taken
  obtain ⟨key, others, rfl⟩ := List.exists_cons_of_ne_nil some
  rw [List.map_cons] at found ⊢
  simp only [AsciiDoc.piecesFrom, found, List.length_map]

variable {before left : Context} {pieces : List Piece}

/-- An element outside key combinations is rendered to a piece of its own. -/
theorem piecesFrom_element_ok (taken : takeKeys id (node :: rest) = ([], after))
    (ran : (piecesFrom 0 ((node :: rest).map stage.child)).runIn before = (.ok pieces, left)) :
    ∃ text between others, (stage.child node).rendered.runIn before = (.ok text, between) ∧
      (piecesFrom 0 (rest.map stage.child)).runIn between = (.ok others, left) ∧
      pieces = ⟨markOf node, text⟩ :: others := by
  rw [piecesFrom_element taken] at ran
  obtain ⟨text, between, here, ran⟩ := Render.runIn_bind_ok.mp ran
  obtain ⟨others, last, there, ran⟩ := Render.runIn_bind_ok.mp ran
  obtain ⟨rfl, rfl⟩ := Render.runIn_pure_ok.mp ran
  exact ⟨text, between, others, here, there, rfl⟩

theorem piecesFrom_keys_ok (some : keys ≠ []) (taken : takeKeys id (node :: rest) = (keys, after))
    (ran : (piecesFrom 0 ((node :: rest).map stage.child)).runIn before = (.ok pieces, left)) :
    ∃ between others, (Render.register experimental (.text [])).runIn before = (.ok (), between) ∧
      (piecesFrom (rest.length - after.length) (rest.map stage.child)).runIn between = (.ok others, left) ∧
      pieces = ⟨none, keyboardMacro keys⟩ :: others := by
  rw [piecesFrom_keys some taken] at ran
  obtain ⟨_, between, here, ran⟩ := Render.runIn_bind_ok.mp ran
  obtain ⟨others, last, there, ran⟩ := Render.runIn_bind_ok.mp ran
  obtain ⟨rfl, rfl⟩ := Render.runIn_pure_ok.mp ran
  exact ⟨between, others, here, there, rfl⟩

end Pieces

theorem Takes.piecesFrom (common : stage.Common) (skip : Nat) (follows : stage.FollowsAll (outsideKeys skip nodes)) :
    stage.Takes (outsideKeys skip nodes) (fun texts pieces => Laid texts (pieces.map (·.text)))
      (piecesFrom skip (nodes.map stage.child)) := by
  fun_induction outsideKeys skip nodes with
  | case1 skip => cases skip <;> exact .pure .nil
  | case2 skip node rest ih => exact ih follows
  | case3 node rest after taken ih =>
    rw [piecesFrom_element taken]
    refine (Takes.visit (follows node List.mem_cons_self)).bind fun texts text same => ?_
    refine (ih fun other member => follows other (.tail _ member)).map fun more pieces laid => ?_
    rw [same]
    exact .cons (.whole text) laid
  | case4 node rest keys after some taken ih =>
    rw [piecesFrom_keys (fun none => some none) taken]
    refine (Takes.register common.experimental).before fun _ _ => ?_
    exact (ih follows).map fun texts pieces laid => .cons (.literal _) laid

theorem Takes.inlineContent (common : stage.Common) (follows : stage.FollowsAll (inlineParts content)) :
    stage.Takes (inlineParts content) Assembled (inlineContent stage.options (content.map stage.child)) := by
  simp only [AsciiDoc.inlineContent, mergeTexts_children]
  refine (Takes.modify (.note _) (common.note _)).before fun _ _ => ?_
  exact (Takes.piecesFrom common 0 follows).map fun texts pieces laid => (doubleMarks_laid laid none).flatten

theorem Takes.paragraphText (common : stage.Common) (follows : stage.FollowsAll (inlineParts content)) :
    stage.Takes (inlineParts content) Assembled (paragraphText stage.options (content.map stage.child)) := by
  refine (Takes.inlineContent common follows).map fun texts text assembled => ?_
  split
  · exact assembled.settle .sentences
  · exact assembled

theorem Takes.emphasis (common : stage.Common) (follows : stage.FollowsAll (inlineParts content)) :
    stage.Takes (inlineParts content) Assembled (emphasis stage.options (content.map stage.child)) :=
  (Takes.inlineContent common follows).map fun _ _ assembled => (assembled.cons '_').before ['_']

theorem Takes.strikethrough (common : stage.Common) (follows : stage.FollowsAll (inlineParts content)) :
    stage.Takes (inlineParts content) Assembled (strikethrough stage.options (content.map stage.child)) :=
  (Takes.inlineContent common follows).map fun _ _ assembled => (assembled.behind _).before ['#']

theorem Takes.strong (common : stage.Common) (follows : stage.FollowsAll (partsOf (.strong content))) :
    stage.Takes (partsOf (.strong content)) Assembled (strong stage.options content (content.map stage.child)) := by
  simp only [partsOf] at follows ⊢
  simp only [AsciiDoc.strong]
  cases found : menuPath content with
  | some path =>
    simp only [Option.isSome_some, if_true]
    exact (Takes.register common.experimental).before fun _ _ => .pure (.literal _)
  | none =>
    rw [found] at follows
    simp only [Option.isSome_none, Bool.false_eq_true, if_false] at follows ⊢
    exact (Takes.inlineContent common follows).map fun _ _ assembled => (assembled.cons '*').before ['*']

theorem Takes.htmlInline (common : stage.Common) (content : Text) :
    stage.Takes [] Assembled (htmlInline stage.options content) := by
  simp only [AsciiDoc.htmlInline]
  split
  · exact .pure (.literal _)
  split
  · exact (Takes.report common _ _).before fun _ _ => .pure (.literal _)
  split
  · exact (Takes.report common _ _).before fun _ _ => .pure (.literal _)
  · exact .pure (.literal _)

theorem macroText_assembled {texts : List Text} {text : Text} (assembled : Assembled texts text) (title : Option Text) :
    Assembled texts (macroText text title) := by
  simp only [macroText]
  split
  next name given =>
    have quoted := (assembled.settle .attributeValue).cons '"'
    exact ((quoted.before "\",title=\"".toList).before (escapeAttributeValue name)).before ['"']
  next => exact assembled.settle .macroText

theorem linkText_assembled {texts : List Text} {text : Text} (assembled : Assembled texts text) {url plain : Text}
    {title : Option Text} (written : ¬(!isPresent title && isBareUrl url plain) = true) :
    Assembled texts (linkText url text plain title) := by
  have bracketed : Assembled texts ('[' :: macroText text title ++ [']']) :=
    ((macroText_assembled assembled title).cons '[').before [']']
  simp only [linkText, written]
  simp only [Bool.false_eq_true, if_false]
  split
  · refine Assembled.before (Assembled.behind _ ?_) _
    split
    next empty =>
      rw [List.isEmpty_iff.mp empty] at assembled
      exact assembled
    next => exact assembled.cons ','
  · split
    · exact bracketed.behind _
    split
    · exact bracketed.behind _
    split
    · exact bracketed.behind _
    · exact bracketed.behind _

theorem Takes.link (common : stage.Common) (follows : stage.FollowsAll (inlineParts content)) (url : Text)
    (title : Option Text) :
    stage.Takes (inlineParts content)
      (fun texts text => WrittenBare (.link url content title) ∨ Assembled texts text)
      (link stage.options url content title (content.map stage.child)) := by
  refine (Takes.inlineContent common follows).map fun texts text assembled => ?_
  by_cases bare : WrittenBare (.link url content title)
  · exact .inl bare
  · exact .inr (linkText_assembled assembled bare)

/-- The stage may say where this image is. -/
def Locates (stage : Stage) (url : Text) : Prop :=
  ∀ directory, stage.options.imagesDirectory = some directory → trimSlashes directory ++ ['/'] <+: url →
    stage.own (.register "imagesdir" (.text (trimSlashes directory)))

theorem Takes.imageTarget {url : Text} (locates : stage.Locates url) :
    stage.Takes [] (fun texts _ => texts = [] ∧ True) (imageTarget stage.options url) := by
  simp only [AsciiDoc.imageTarget]
  cases given : stage.options.imagesDirectory with
  | none => exact .pure ⟨rfl, trivial⟩
  | some directory =>
    simp only
    split
    next under =>
      have located := locates directory given (List.isPrefixOf_iff_prefix.mp under)
      exact (Takes.register located).before fun _ _ => .pure ⟨rfl, trivial⟩
    next => exact .pure ⟨rfl, trivial⟩

theorem Takes.image {url : Text} (locates : stage.Locates url) (alternative : Text) (title : Option Text) :
    stage.Takes [] Assembled (image stage.options url alternative title) :=
  (Takes.imageTarget locates).before fun _ _ => .pure (.literal _)

theorem Takes.blockImage {found : BlockImage} (locates : stage.Locates found.url) :
    stage.Takes [] Assembled (blockImage stage.options found) :=
  (Takes.imageTarget locates).before fun _ _ => .pure (.literal _)

end Stage

end Adocify.AsciiDoc
