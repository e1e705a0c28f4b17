import Adocify.Proofs.OutlineReading
import Adocify.Proofs.UnbrokenTexts
import Adocify.Proofs.RenderFrames

/-! The markers of a list show how it is nested. A list of paragraphs with further lists below them is
rendered in step with its outline, whose texts are what the paragraphs are rendered to; and that outline
is what reading the lines gives. -/

namespace Adocify.AsciiDoc

open Comparison (Agree)

/-- Items of one paragraph each, with at most one list below it, of items like these. -/
inductive NestedItems : List Node → Prop where
  | nil : NestedItems []
  | plain {content taskStatus rest} (others : NestedItems rest) :
      NestedItems (.listItem [.paragraph content] taskStatus :: rest)
  | nested {content ordered items start tight taskStatus rest} (filled : items ≠ []) (below : NestedItems items)
      (others : NestedItems rest) :
      NestedItems (.listItem [.paragraph content, .list ordered items start tight] taskStatus :: rest)

/-- What stands behind the marker: the box of a task, and the line. -/
def boxed (taskStatus : Option Text) (line : Text) : Text :=
  match taskStatus.filter fun status => !status.isEmpty with
  | some status => (if status == "checked".toList then "[x] " else "[ ] ").toList ++ line
  | none => line

section

variable (options : Options) (descend : Text → List Node → Render (List Text))

mutual

/-- The outline of the items, with the texts that their paragraphs are rendered to. -/
def outlineItems (earlier : Items) : List Node → Render Items
  | [] => return earlier
  | item :: rest => do
    let added ← outlineItem earlier item
    outlineItems added rest

def outlineItem (earlier : Items) : Node → Render Items
  | .listItem [.paragraph content] taskStatus => do
    let line ← paragraphText options (renderChildren options descend content)
    return .plain earlier (boxed taskStatus line)
  | .listItem [.paragraph content, .list ordered items _ _] taskStatus => do
    let line ← paragraphText options (renderChildren options descend content)
    let below ← Render.insideList (markerOf ordered) (outlineItems .none items)
    return .nested earlier (boxed taskStatus line) ordered below
  | _ => return earlier

end

def outlineList (ordered : Bool) (items : List Node) : Render Outline := do
  let items ← Render.insideList (markerOf ordered) (outlineItems options descend .none items)
  return ⟨ordered, items⟩

end

theorem taskMarker_boxed (marker : Text) (taskStatus : Option Text) (line : Text) :
    taskMarker marker taskStatus ++ ' ' :: line = marker ++ ' ' :: boxed taskStatus line := by
  simp only [taskMarker, boxed]
  cases taskStatus.filter fun status => !status.isEmpty with
  | none => rfl
  | some status =>
    by_cases checked : (status == "checked".toList) = true
    · simp only [if_pos checked]
      exact List.append_assoc marker " [x]".toList (' ' :: line)
    · simp only [if_neg checked]
      exact List.append_assoc marker " [ ]".toList (' ' :: line)

theorem single_boxed {taskStatus : Option Text} {line : Text} :
    '\n' ∉ boxed taskStatus line ↔ '\n' ∉ line := by
  have behind {box : Text} (other : '\n' ∉ box) : '\n' ∉ box ++ line ↔ '\n' ∉ line := by
    rw [List.mem_append, not_or]
    exact and_iff_right other
  simp only [boxed]
  split
  · split
    · exact behind (by decide)
    · exact behind (by decide)
  · rfl

theorem single_start (start : Whole) : '\n' ∉ start.toValue.display := by
  cases start with
  | number n => exact single_ofInt n
  | flag b => cases b <;> decide

/-- The text of an item shows what it adds to the items before it. -/
structure Adds (outer : List Char) (ordered : Bool) (earlier : Items) (text : Text) (added : Items) : Prop where
  filled : text ≠ []
  some : added ≠ .none
  full : earlier.Full → added.Full
  single : added.Single → earlier.Single
  reads : added.Single → ∃ entries, Reads (Text.lines text) entries ∧
    added.entries outer ordered = earlier.entries outer ordered ++ entries

/-- The texts of items show what they add one after the other. -/
inductive Shows (outer : List Char) (ordered : Bool) : Items → List Node → List Text → Items → Prop where
  | nil {earlier} : Shows outer ordered earlier [] [] earlier
  | cons {earlier item rest text texts added found} (adds : Adds outer ordered earlier text added)
      (others : Shows outer ordered added rest texts found) :
      Shows outer ordered earlier (item :: rest) (text :: texts) found

/-- The text of a whole list shows its items. -/
structure Lists (outer : List Char) (ordered : Bool) (text : Text) (found : Items) : Prop where
  filled : text ≠ []
  some : found ≠ .none
  full : found.Full
  reads : found.Single → Reads (Text.lines text) (found.entries outer ordered)

section

variable {outer : List Char} {ordered : Bool} {earlier added found : Items} {text : Text} {texts : List Text}
  {items : List Node}

theorem Shows.some (shows : Shows outer ordered earlier items texts found) (before : earlier ≠ .none) :
    found ≠ .none := by
  induction shows with
  | nil => exact before
  | cons adds _ ih => exact ih adds.some

theorem Shows.full (shows : Shows outer ordered earlier items texts found) (before : earlier.Full) : found.Full := by
  induction shows with
  | nil => exact before
  | cons adds _ ih => exact ih (adds.full before)

theorem Shows.single (shows : Shows outer ordered earlier items texts found) (single : found.Single) :
    earlier.Single := by
  induction shows with
  | nil => exact single
  | cons adds _ ih => exact adds.single (ih single)

theorem Shows.reads (shows : Shows outer ordered earlier items texts found) (single : found.Single) :
    ∃ entries, Reads (texts.flatMap Text.lines) entries ∧
      found.entries outer ordered = earlier.entries outer ordered ++ entries := by
  induction shows with
  | nil => exact ⟨[], .nil, (List.append_nil _).symm⟩
  | cons adds others ih =>
    obtain ⟨first, here, start⟩ := adds.reads (others.single single)
    obtain ⟨more, rest, whole⟩ := ih single
    refine ⟨first ++ more, here.append rest, ?_⟩
    rw [whole, start, List.append_assoc]

theorem Shows.lists (shows : Shows outer ordered .none items texts found) (filled : items ≠ []) :
    Lists outer ordered (Text.unlines texts) found := by
  have full := shows.full trivial
  have reads := shows.reads
  cases shows with
  | nil => exact absurd rfl filled
  | @cons _ _ _ text texts added _ adds others =>
    refine ⟨?_, others.some adds.some, full, fun single => ?_⟩
    · cases texts with
      | nil => simpa [Text.unlines, Text.join] using adds.filled
      | cons next texts => simp [Text.unlines, Text.join, List.intercalate_cons_cons]
    · obtain ⟨entries, read, whole⟩ := reads single
      rw [Text.lines_unlines (List.cons_ne_nil text texts), whole]
      exact read

theorem Lists.behindStart (lists : Lists outer ordered text found) (start : Whole) :
    Lists outer ordered
      ((if ordered && start.toInt ≠ 1 then "[start=".toList ++ start.toValue.display ++ "]\n".toList else []) ++ text)
      found := by
  split
  · have single : '\n' ∉ "[start=".toList ++ (start.toValue.display ++ [']']) := by
      simp [single_start start]
    have line : "[start=".toList ++ start.toValue.display ++ "]\n".toList ++ text =
        "[start=".toList ++ (start.toValue.display ++ [']']) ++ '\n' :: text := by simp
    refine ⟨by simp, lists.some, lists.full, fun plain => ?_⟩
    rw [line, Text.lines_append, Text.lines_single single]
    exact (Reads.start _).append (lists.reads plain)
  · exact lists

theorem markerOf_known (ordered : Bool) : markerOf ordered = '*' ∨ markerOf ordered = '.' := by
  cases ordered
  · exact .inl rfl
  · exact .inr rfl

theorem reads_line {line : Text} (single : '\n' ∉ line) (taskStatus : Option Text) :
    Reads (Text.lines (taskMarker (listMarker outer (markerOf ordered)) taskStatus ++ ' ' :: line))
      [(listMarker outer (markerOf ordered), boxed taskStatus line)] := by
  have whole : '\n' ∉ listMarker outer (markerOf ordered) ++ ' ' :: boxed taskStatus line := by
    have other : '\n' ≠ markerOf ordered := by cases ordered <;> decide
    simp [listMarker, other, single_boxed.mpr single]
  rw [taskMarker_boxed, Text.lines_single whole]
  exact .item (markerOf_known ordered) _ _

theorem Adds.plain (earlier : Items) (taskStatus : Option Text) (line : Text) :
    Adds outer ordered earlier
      (Text.unlines [taskMarker (listMarker outer (markerOf ordered)) taskStatus ++ ' ' :: line])
      (.plain earlier (boxed taskStatus line)) := by
  have alone : Text.unlines [taskMarker (listMarker outer (markerOf ordered)) taskStatus ++ ' ' :: line] =
      taskMarker (listMarker outer (markerOf ordered)) taskStatus ++ ' ' :: line := by
    simp only [Text.unlines, Text.join, List.intercalate_singleton]
  rw [alone]
  refine ⟨?_, Items.noConfusion, id, And.left, fun single => ⟨_, ?_, rfl⟩⟩
  · exact List.append_ne_nil_of_right_ne_nil _ (List.cons_ne_nil _ _)
  · exact reads_line (single_boxed.mp single.2) taskStatus

theorem Adds.nested {inner : Bool} {below : Items} (earlier : Items) (taskStatus : Option Text) (line : Text)
    (lists : Lists (markerOf ordered :: outer) inner text below) :
    Adds outer ordered earlier
      (Text.unlines [taskMarker (listMarker outer (markerOf ordered)) taskStatus ++ ' ' :: line, text])
      (.nested earlier (boxed taskStatus line) inner below) where
  filled := by simp [Text.unlines, Text.join, List.intercalate_cons_cons]
  some := Items.noConfusion
  full before := ⟨before, lists.some, lists.full⟩
  single single := single.1
  reads := by
    rintro ⟨-, single, singleBelow⟩
    refine ⟨_, ?_, rfl⟩
    rw [Text.lines_unlines (List.cons_ne_nil _ _)]
    have first : Reads (Text.lines (taskMarker (listMarker outer (markerOf ordered)) taskStatus ++ ' ' :: line)) _ :=
      reads_line (single_boxed.mp single) taskStatus
    rw [List.flatMap_cons, List.flatMap_cons, List.flatMap_nil, List.append_nil]
    exact first.append (lists.reads singleBelow)

end

/-- A computation in step with another, from the same context within the given lists. -/
abbrev onLevel (outer : List Char) : Comparison := .within fun context => context.listStack = outer

section

variable {options : Options} {depth : Nat} {outer : List Char}

theorem paragraphText_onLevel (options : Options) (depth : Nat) (outer : List Char) (content : List Node) :
    (onLevel outer).Agree Eq (paragraphText options (renderChildren options (renderFootnote options depth) content))
      (paragraphText options (renderChildren options (renderFootnote options depth) content)) := by
  have laws := Frame.levels_lawful options
  refine .itself fun before level => ?_
  have kept : Context.listStack _ = before.listStack := laws.takes (takes_paragraphText options depth content)
    (fun arises => laws.change trivial arises) (fun _ _ => trivial) trivial
  exact kept.trans level

theorem insideList_onLevel {α β : Type} {value : α → β → Prop} {first : Render α} {second : Render β} {marker : Char}
    (agree : (onLevel (marker :: outer)).Agree value first second) :
    (onLevel outer).Agree value (Render.insideList marker first) (Render.insideList marker second) := by
  rintro before before' ⟨rfl, level⟩
  have met := agree ((Change.enterList marker).apply before) _ ⟨rfl, congrArg (marker :: ·) level⟩
  rw [Render.runIn_insideList, Render.runIn_insideList]
  simp only [Change.apply] at met
  generalize Render.runIn first _ = here at met ⊢
  generalize Render.runIn second _ = there at met ⊢
  cases met with
  | ok same context =>
    obtain ⟨rfl, inside⟩ := context
    exact .ok same ⟨rfl, congrArg List.tail inside⟩
  | error allowed context =>
    obtain ⟨rfl, inside⟩ := context
    exact .error allowed ⟨rfl, congrArg List.tail inside⟩

theorem mapLeft {comparison : Comparison} {α β γ : Type} {value : α → β → Prop} {whole : γ → β → Prop}
    {first : Render α} {second : Render β} (agree : comparison.Agree value first second) {compute : α → γ}
    (implies : ∀ x y, value x y → whole (compute x) y) :
    comparison.Agree whole (first >>= fun x => pure (compute x)) second := by
  have both : comparison.Agree whole (first >>= fun x => pure (compute x)) (second >>= pure) :=
    agree.bind fun x y same => .pure (implies x y same)
  rwa [bind_pure] at both

/-- A list is rendered in step with its outline if its items are. -/
theorem list_onLevel {ordered : Bool} {items : List Node} {computations : List (Text → Render Text)}
    {outlined : Render Items}
    (filled : items ≠ []) (start : Whole)
    (agree : (onLevel (markerOf ordered :: outer)).Agree (Shows outer ordered .none items)
      (Render.sequence (computations.map fun item => item (listMarker outer (markerOf ordered)))) outlined) :
    (onLevel outer).Agree (Lists outer ordered) (list ordered start computations)
      (Render.insideList (markerOf ordered) outlined) := by
  rintro before before' ⟨rfl, level⟩
  have whole := mapLeft (insideList_onLevel agree) fun texts found shows => (shows.lists filled).behindStart start
  have met := whole before before ⟨rfl, level⟩
  simp only [list, Render.runIn_bind, Render.runIn_get, level] at met ⊢
  exact met

theorem items_onLevel {ordered : Bool} {items : List Node} (nested : NestedItems items) (earlier : Items) :
    (onLevel (markerOf ordered :: outer)).Agree (Shows outer ordered earlier items)
      (Render.sequence ((renderItems options (renderFootnote options depth) items).map
        fun item => item (listMarker outer (markerOf ordered))))
      (outlineItems options (renderFootnote options depth) earlier items) := by
  induction nested generalizing earlier outer ordered with
  | nil =>
    simp only [renderItems, outlineItems]
    exact .pure .nil
  | @plain content taskStatus rest others ih =>
    simp only [renderItems, outlineItems, outlineItem, renderChildren, List.map_cons, Render.sequence, listItem,
      itemParts, bind_assoc, pure_bind]
    refine (paragraphText_onLevel options depth _ content).bind fun line line' same => ?_
    subst same
    exact mapLeft (ih _) fun texts found shows => .cons (.plain earlier taskStatus line) shows
  | @nested content inner items start tight taskStatus rest filled below others ih ihOthers =>
    simp only [renderItems, outlineItems, outlineItem, renderChildren, List.map_cons, Render.sequence, listItem,
      itemParts,
      bind_assoc, pure_bind, renderNode]
    refine (paragraphText_onLevel options depth _ content).bind fun line line' same => ?_
    subst same
    refine (list_onLevel filled start (ih .none)).bind fun text below lists => ?_
    simp only [List.isEmpty_eq_false_iff.mpr lists.filled, isList, Bool.false_eq_true, if_false, if_true, pure_bind]
    exact mapLeft (ihOthers _) fun texts found shows => .cons (.nested earlier taskStatus line lists) shows

/-- Rendering a nested list and reading its lines gives the kinds of its lists and the texts of its
items. The list and its outline are rendered from the same context, with the same effect. -/
theorem nesting_read_back (options : Options) (depth : Nat) (ordered : Bool) {items : List Node} (start : Whole)
    (tight : Bool) (nested : NestedItems items) (filled : items ≠ []) (context : Context) :
    let rendered := (renderNode options (renderFootnote options depth) (.list ordered items start tight)).runIn context
    let original := (outlineList options (renderFootnote options depth) ordered items).runIn context
    rendered.2 = original.2 ∧
      Completes (fun text outline => outline.items.Single → readOutline text = some outline) rendered.1 original.1 := by
  have inStep : (onLevel context.listStack).Agree (Lists context.listStack ordered)
      (renderNode options (renderFootnote options depth) (.list ordered items start tight))
      (Render.insideList (markerOf ordered) (outlineItems options (renderFootnote options depth) .none items)) := by
    simp only [renderNode]
    exact list_onLevel filled start (items_onLevel nested .none)
  have agree : (onLevel context.listStack).Agree
      (fun text outline => outline.items.Single → readOutline text = some outline)
      (renderNode options (renderFootnote options depth) (.list ordered items start tight) >>= pure)
      (outlineList options (renderFootnote options depth) ordered items) :=
    inStep.bind fun text found lists => .pure fun single =>
      readOutline_entries lists.full lists.some (lists.reads single)
  rw [bind_pure] at agree
  have met := agree context context ⟨rfl, rfl⟩
  intro rendered original
  change Comparison.Meet _ _ rendered original at met
  generalize rendered = here at met ⊢
  generalize original = there at met ⊢
  cases met with
  | ok reads same => exact ⟨same.1, reads⟩
  | error allowed same => exact ⟨same.1, rfl⟩

/-- A numbered list with a list of tasks in it, and a numbered list in that. -/
def errands : List Node :=
  let line (name : Char) : Node := .paragraph [.text [name]]
  let steps : Node := .list true [.listItem [line 'c'] none] (.number 3) true
  let tasks : Node :=
    .list false [.listItem [line 'b', steps] (some "checked".toList), .listItem [line 'd'] none] (.number 1) true
  [.listItem [line 'a', tasks] none, .listItem [line 'e'] none]

theorem errands_nested : NestedItems errands :=
  .nested (List.cons_ne_nil _ _) (.nested (List.cons_ne_nil _ _) (.plain .nil) (.plain .nil)) (.plain .nil)

theorem nesting_read_back_errands :
    NestedItems errands ∧ errands ≠ [] ∧ ∃ text outline,
      ((renderNode {} (renderFootnote {} 0) (.list true errands (.number 2) true)).runIn { attributes := [] }).1 =
        .ok text ∧
      text = "[start=2]\n. a\n* [x] b\n[start=3]\n.. c\n* d\n. e".toList ∧
      ((outlineList {} (renderFootnote {} 0) true errands).runIn { attributes := [] }).1 = .ok outline ∧
      outline.items.Single ∧ readOutline text = some outline := by
  have filled : errands ≠ [] := List.cons_ne_nil _ _
  have back := nesting_read_back {} 0 true (.number 2) true errands_nested filled { attributes := [] }
  have single : Items.Single (.plain (.nested .none ['a'] false
      (.plain (.nested .none "[x] b".toList true (.plain .none ['c'])) ['d'])) ['e']) := by
    simp only [Items.Single]
    decide
  exact ⟨errands_nested, filled, _, ⟨true, _⟩, rfl, rfl, rfl, single, back.2 single⟩

end

end Adocify.AsciiDoc
