import Adocify.Proofs.RenderLogic
import Adocify.Proofs.TextLines

/-! What an item of a list is made of: its first line, and behind it those of its blocks that come out with any text,
each with what attaches it. -/

namespace Adocify.AsciiDoc

section

variable (options : Options) (descend : Text → List Node → Render (List Text))

/-- The first line of an item. It is the first paragraph, if the item begins with one. -/
def itemLine : List Node → Render Text
  | .paragraph content :: _ => paragraphText options (renderChildren options descend content)
  | _ => return blankFirstLine

/-- The blocks of an item behind its first line. -/
def itemBlocks : List Node → List Node
  | .paragraph _ :: rest => rest
  | blocks => blocks

def renderItem (blocks : List Node) (taskStatus : Option Text) (marker : Text) : Render Text :=
  listItem (itemLine options descend blocks) (renderChildren options descend (itemBlocks blocks)) taskStatus marker

/-- What stands in a list, waiting for its marker. -/
def itemOf : Node → Text → Render Text
  | .listItem blocks taskStatus => renderItem options descend blocks taskStatus
  | _ => fun _ => throw .misplaced

/-- The marker of the items of a list that begins in the context. -/
def markersIn (ordered : Bool) (context : Context) : Text :=
  List.replicate (context.listStack.count (markerOf ordered) + 1) (markerOf ordered)

def Context.within (ordered : Bool) (context : Context) : Context :=
  { context with listStack := markerOf ordered :: context.listStack }

/-- The items of a list, to be rendered within it. -/
def itemsIn (ordered : Bool) (items : List Node) (context : Context) : Render (List Text) :=
  Render.sequence (items.map fun item => itemOf options descend item (markersIn ordered context))

def startLine (ordered : Bool) (start : Whole) : Text :=
  if ordered && start.toInt ≠ 1 then "[start=".toList ++ start.toValue.display ++ "]\n".toList else []

/-- A block that comes out with some text, with the context that it is rendered in. -/
structure ShownBlock where
  block : Node
  context : Context
  text : Text

/-- The blocks that come out with some text when all of them are rendered in turn. -/
def shownBlocks : List Node → Context → List ShownBlock
  | [], _ => []
  | block :: rest, context =>
    match (renderNode options descend block).runIn context with
    | (.ok text, after) =>
      if text.isEmpty then shownBlocks rest after else ⟨block, context, text⟩ :: shownBlocks rest after
    | (.error _, _) => []

end

/-- The texts of the blocks with what attaches them to their item. -/
def attached : Nat → List ShownBlock → List Text
  | _, [] => []
  | openLevels, shown :: rest =>
    if isList shown.block then shown.text :: attached (trailingDepth shown.block) rest
    else (List.replicate openLevels '\n' ++ "+\n".toList ++ shown.text) :: attached 0 rest

section

variable {options : Options} {descend : Text → List Node → Render (List Text)} {blocks : List Node}
  {taskStatus : Option Text} {before left : Context} {text marker : Text}

theorem attached_list {nested : ShownBlock} (list : isList nested.block = true) (openLevels : Nat)
    (rest : List ShownBlock) :
    attached openLevels (nested :: rest) = nested.text :: attached (trailingDepth nested.block) rest :=
  if_pos list

theorem attached_block {shown : ShownBlock} (other : isList shown.block = false) (openLevels : Nat)
    (rest : List ShownBlock) : attached openLevels (shown :: rest) =
      (List.replicate openLevels '\n' ++ "+\n".toList ++ shown.text) :: attached 0 rest :=
  if_neg (Bool.not_eq_true _ ▸ other)

/-- A block is attached by a plus, behind a blank line for each open level. -/
theorem lines_continuation (openLevels : Nat) (text : Text) :
    Text.lines (List.replicate openLevels '\n' ++ "+\n".toList ++ text) =
      List.replicate openLevels [] ++ ['+'] :: Text.lines text := by
  rw [List.append_assoc]
  induction openLevels with
  | zero => exact Text.lines_append ['+'] text
  | succ levels ih =>
    rw [List.replicate_succ, List.cons_append, Text.lines_newline, ih, List.replicate_succ, List.cons_append]

theorem mem_itemBlocks {block : Node} (member : block ∈ itemBlocks blocks) : block ∈ blocks := by
  simp only [itemBlocks] at member
  split at member
  · exact .tail _ member
  · exact member

theorem renderNode_listItem :
    renderNode options descend (.listItem blocks taskStatus) = renderItem options descend blocks taskStatus ['*'] := by
  rcases blocks with _ | ⟨first, rest⟩
  · simp only [renderNode]
    rfl
  · cases first <;> simp only [renderNode] <;> rfl

theorem renderItems_eq (items : List Node) : renderItems options descend items = items.map (itemOf options descend) := by
  induction items with
  | nil => rw [renderItems, List.map_nil]
  | cons item rest ih =>
    rw [List.map_cons, ← ih]
    cases item with
    | listItem blocks taskStatus =>
      rcases blocks with _ | ⟨first, others⟩
      · simp only [renderItems]
        rfl
      · cases first <;> simp only [renderItems] <;> rfl
    | _ =>
      simp only [renderItems]
      rfl

theorem list_ran {ordered tight : Bool} {items : List Node} {start : Whole}
    (ran : (renderNode options descend (.list ordered items start tight)).runIn before = (.ok text, left)) :
    ∃ texts after, (itemsIn options descend ordered items before).runIn (before.within ordered) = (.ok texts, after) ∧
      text = startLine ordered start ++ Text.unlines texts ∧ left = { after with listStack := after.listStack.tail } := by
  rw [renderNode, renderItems_eq] at ran
  obtain ⟨context, between, got, ran⟩ := Render.runIn_bind_ok.mp ran
  obtain ⟨same, rfl⟩ := Prod.mk.inj got
  obtain rfl := Except.ok.inj same
  obtain ⟨texts, last, inside, ran⟩ := Render.runIn_bind_ok.mp ran
  obtain ⟨rfl, rfl⟩ := Render.runIn_pure_ok.mp ran
  rw [Render.runIn_insideList, List.map_map] at inside
  obtain ⟨completed, rfl⟩ := Prod.mk.inj inside
  exact ⟨texts, _, Prod.ext completed rfl, rfl, rfl⟩

theorem mem_shownBlocks {shown : ShownBlock} (member : shown ∈ shownBlocks options descend blocks before) :
    shown.block ∈ blocks ∧ shown.text ≠ [] ∧
      ∃ after, (renderNode options descend shown.block).runIn shown.context = (.ok shown.text, after) := by
  induction blocks generalizing before with
  | nil => cases member
  | cons block rest ih =>
    simp only [shownBlocks] at member
    split at member
    next text after ran =>
      split at member
      · obtain ⟨inside, holds⟩ := ih member
        exact ⟨.tail _ inside, holds⟩
      next some =>
        rcases List.mem_cons.mp member with rfl | later
        · exact ⟨List.mem_cons_self, by simpa using some, after, ran⟩
        · obtain ⟨inside, holds⟩ := ih later
          exact ⟨.tail _ inside, holds⟩
    next => cases member

/-- What becomes of the first block, and of those behind it with the levels that it leaves open. -/
theorem itemParts_cons {block : Node} {openLevels : Nat} {parts : List Text}
    (ran : (itemParts openLevels (renderChildren options descend (block :: blocks))).runIn before =
      (.ok parts, left)) :
    ∃ text between levels others, (renderNode options descend block).runIn before = (.ok text, between) ∧
      (itemParts levels (renderChildren options descend blocks)).runIn between = (.ok others, left) ∧
      ∀ shown, others = attached levels shown →
        parts = attached openLevels (if text.isEmpty then shown else ⟨block, before, text⟩ :: shown) := by
  rw [renderChildren, itemParts] at ran
  obtain ⟨text, between, first, ran⟩ := Render.runIn_bind_ok.mp ran
  split at ran
  next empty =>
    refine ⟨text, between, openLevels, parts, first, ran, ?_⟩
    intro shown same
    rw [if_pos empty, same]
  next some =>
    split at ran
    next list =>
      obtain ⟨others, last, behind, ran⟩ := Render.runIn_bind_ok.mp ran
      obtain ⟨rfl, rfl⟩ := Render.runIn_pure_ok.mp ran
      refine ⟨text, between, trailingDepth block, others, first, behind, ?_⟩
      intro shown same
      rw [if_neg some, attached_list list, same]
    next other =>
      obtain ⟨others, last, behind, ran⟩ := Render.runIn_bind_ok.mp ran
      obtain ⟨rfl, rfl⟩ := Render.runIn_pure_ok.mp ran
      refine ⟨text, between, 0, others, first, behind, ?_⟩
      intro shown same
      rw [if_neg some, attached_block (Bool.not_eq_true _ ▸ other), same]

/-- Blocks without text leave no trace in an item. -/
theorem itemParts_shown {openLevels : Nat} {parts : List Text}
    (ran : (itemParts openLevels (renderChildren options descend blocks)).runIn before = (.ok parts, left)) :
    parts = attached openLevels (shownBlocks options descend blocks before) := by
  induction blocks generalizing openLevels before parts with
  | nil =>
    obtain ⟨rfl, -⟩ := Render.runIn_pure_ok.mp ran
    rfl
  | cons block rest ih =>
    obtain ⟨text, between, levels, others, first, behind, made⟩ := itemParts_cons ran
    simp only [shownBlocks, first]
    exact made _ (ih behind)

/-- The blocks are rendered in turn, and those without text are passed over. -/
theorem itemParts_ran {openLevels : Nat} {parts : List Text}
    (ran : (itemParts openLevels (renderChildren options descend blocks)).runIn before = (.ok parts, left)) :
    ∃ texts,
      (Render.sequence ((renderChildren options descend blocks).map (·.rendered))).runIn before = (.ok texts, left) ∧
      (shownBlocks options descend blocks before).map (·.text) = texts.filter fun text => !text.isEmpty := by
  induction blocks generalizing openLevels before parts with
  | nil =>
    obtain ⟨rfl, rfl⟩ := Render.runIn_pure_ok.mp ran
    exact ⟨[], rfl, rfl⟩
  | cons block rest ih =>
    obtain ⟨text, between, levels, others, first, behind, -⟩ := itemParts_cons ran
    obtain ⟨texts, sequenced, shown⟩ := ih behind
    refine ⟨text :: texts, ?_, ?_⟩
    · rw [renderChildren, List.map_cons]
      exact Render.sequence_cons_ok.mpr ⟨text, between, texts, first, sequenced, rfl⟩
    · simp only [shownBlocks, first]
      cases empty : text.isEmpty with
      | true => simpa [empty] using shown
      | false => simpa [empty] using shown

theorem renderItem_shown
    (ran : (renderItem options descend blocks taskStatus marker).runIn before = (.ok text, left)) :
    ∃ line within, (itemLine options descend blocks).runIn before = (.ok line, within) ∧
      text = Text.unlines ((taskMarker marker taskStatus ++ ' ' :: line) ::
        attached 0 (shownBlocks options descend (itemBlocks blocks) within)) := by
  obtain ⟨line, within, first, ran⟩ := Render.runIn_bind_ok.mp ran
  obtain ⟨parts, last, behind, ran⟩ := Render.runIn_bind_ok.mp ran
  obtain ⟨rfl, -⟩ := Render.runIn_pure_ok.mp ran
  exact ⟨line, within, first, by rw [itemParts_shown behind]⟩

end

end Adocify.AsciiDoc
