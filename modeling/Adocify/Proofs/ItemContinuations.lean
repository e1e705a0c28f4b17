import Adocify.Proofs.ListItems
import Adocify.Proofs.TreeContainment

/-! Blocks behind a nested list. What attaches such a block to its own item, and not to one of the items that are still
open, is a continuation line behind one blank line for each of the levels that the nested list leaves open. -/

namespace Adocify.AsciiDoc

section

variable (options : Options) (descend : Text → List Node → Render (List Text))

/-- The last block of the last item. -/
def lastBlock? : Node → Option Node
  | .list _ items _ _ =>
    match items.getLast? with
    | some (.listItem blocks _) => blocks.getLast?
    | _ => none
  | _ => none

/-- The last block that the last item shows, when the list is rendered in the context. -/
def lastShown (node : Node) (context : Context) : Option ShownBlock :=
  match node with
  | .list ordered items _ _ =>
    match items.getLast? with
    | some (.listItem blocks _) =>
      let above := ((itemsIn options descend ordered items.dropLast context).runIn (context.within ordered)).2
      let within := ((itemLine options descend blocks).runIn above).2
      (shownBlocks options descend (itemBlocks blocks) within).getLast?
    | _ => none
  | _ => none

end

section

variable {options : Options} {descend : Text → List Node → Render (List Text)} {node : Node} {blocks : List Node}
  {taskStatus : Option Text} {before left context : Context} {last : ShownBlock} {text marker : Text}

theorem unlines_ends (others : List Text) (part : Text) : part <:+ Text.unlines (others ++ [part]) := by
  induction others with
  | nil => simp [Text.unlines, Text.join]
  | cons first rest ih =>
    rw [Text.unlines, List.cons_append, Text.join_cons]
    have behind : Text.unlines (rest ++ [part]) <:+ Text.continued ['\n'] (rest ++ [part]) := by
      cases rest <;> exact List.suffix_append _ _
    exact (ih.trans behind).trans (List.suffix_append _ _)

theorem attached_ends (openLevels : Nat) {shown : List ShownBlock} (ends : shown.getLast? = some last) :
    ∃ others part, attached openLevels shown = others ++ [part] ∧ last.text <:+ part := by
  induction shown generalizing openLevels with
  | nil => cases ends
  | cons first rest ih =>
    cases rest with
    | nil =>
      obtain rfl : first = last := Option.some.inj ends
      cases list : isList first.block with
      | true => exact ⟨[], first.text, attached_list list _ [], List.suffix_refl _⟩
      | false => exact ⟨[], _, attached_block list _ [], List.suffix_append _ _⟩
    | cons second rest =>
      rw [List.getLast?_cons_cons] at ends
      cases list : isList first.block with
      | true =>
        obtain ⟨others, part, same, suffix⟩ := ih _ ends
        exact ⟨first.text :: others, part, by rw [attached_list list, same, List.cons_append], suffix⟩
      | false =>
        obtain ⟨others, part, same, suffix⟩ := ih _ ends
        exact ⟨_ :: others, part, by rw [attached_block list, same, List.cons_append], suffix⟩

/-- What the list shows last is what its text ends with. -/
theorem list_ends_shown (shown : lastShown options descend node before = some last)
    (ran : (renderNode options descend node).runIn before = (.ok text, left)) : last.text <:+ text := by
  simp only [lastShown] at shown
  split at shown
  next ordered items start tight =>
    split at shown
    next blocks taskStatus ended =>
      -- The last item is rendered in the context that the items before it leave.
      obtain ⟨others, rfl⟩ := List.getLast?_eq_some_iff.mp ended
      obtain ⟨texts, after, rendered, rfl, -⟩ := list_ran ran
      simp only [itemsIn, List.map_append] at rendered
      obtain ⟨above, between, below, first, rest, rfl⟩ := Render.sequence_append_ok rendered
      obtain ⟨item, final, more, own, ended, rfl⟩ := Render.sequence_cons_ok.mp rest
      obtain ⟨rfl, -⟩ := Render.runIn_pure_ok.mp ended
      obtain ⟨line, within, begun, rfl⟩ := renderItem_shown own
      rw [List.dropLast_concat, itemsIn, first, begun] at shown
      obtain ⟨parts, part, same, suffix⟩ := attached_ends 0 shown
      rw [same]
      apply suffix.trans
      apply (unlines_ends (_ :: parts) part).trans
      exact (unlines_ends above _).trans (List.suffix_append _ _)
    next => cases shown
  next => cases shown

theorem lastShown_smaller (shown : lastShown options descend node context = some last) :
    sizeOf last.block < sizeOf node := by
  simp only [lastShown] at shown
  split at shown
  next ordered items start tight =>
    split at shown
    next blocks taskStatus ended =>
      have inside := mem_itemBlocks (mem_shownBlocks (List.mem_of_getLast? shown)).1
      have own : sizeOf last.block < sizeOf (Node.listItem blocks taskStatus) := Node.child_smaller inside
      have item : sizeOf (Node.listItem blocks taskStatus) < sizeOf (Node.list ordered items start tight) :=
        Node.child_smaller (List.mem_of_getLast? ended)
      exact Nat.lt_trans own item
    next => cases shown
  next => cases shown

/-- The list levels that are open at the end of what is rendered in the context: that of the list itself, and those of
the list that its last item shows last. -/
def openLevels (options : Options) (descend : Text → List Node → Render (List Text)) (node : Node) (context : Context) :
    Nat :=
  if isList node then
    match shown : lastShown options descend node context with
    | some last => openLevels options descend last.block last.context + 1
    | none => 1
  else 0
termination_by sizeOf node
decreasing_by exact lastShown_smaller shown

theorem openLevels_block (other : isList node = false) : openLevels options descend node context = 0 := by
  rw [openLevels, other]
  rfl

theorem openLevels_shown (shown : lastShown options descend node context = some last) :
    openLevels options descend node context = openLevels options descend last.block last.context + 1 := by
  have list : isList node = true := by
    cases node with
    | list => rfl
    | _ => cases shown
  rw [openLevels, if_pos list]
  split
  next found same =>
    obtain rfl := Option.some.inj (same.symm.trans shown)
    rfl
  next none => cases none.symm.trans shown

theorem openLevels_bare (list : isList node = true) (none : lastShown options descend node context = none) :
    openLevels options descend node context = 1 := by
  rw [openLevels, if_pos list]
  split
  next found same => cases same.symm.trans none
  next => rfl

theorem trailingDepth_block (other : isList node = false) : trailingDepth node = 0 := by
  cases node with
  | list => cases other
  | _ => rfl

theorem lastChildDepth_eq (blocks : List Node) :
    lastChildDepth blocks = (blocks.getLast?.map trailingDepth).getD 0 := by
  induction blocks with
  | nil => rfl
  | cons block rest ih =>
    cases rest with
    | nil => rfl
    | cons second rest =>
      rw [List.getLast?_cons_cons, ← ih]
      simp only [lastChildDepth]

theorem lastItemDepth_eq (ordered : Bool) (items : List Node) (start : Whole) (tight : Bool) :
    lastItemDepth items = ((lastBlock? (.list ordered items start tight)).map trailingDepth).getD 0 := by
  induction items with
  | nil => rfl
  | cons item rest ih =>
    cases rest with
    | nil =>
      cases item with
      | listItem blocks taskStatus => exact lastChildDepth_eq blocks
      | _ => rfl
    | cons second rest =>
      have later : lastBlock? (.list ordered (item :: second :: rest) start tight) =
          lastBlock? (.list ordered (second :: rest) start tight) := by
        simp only [lastBlock?, List.getLast?_cons_cons]
      rw [later, ← ih]
      simp only [lastItemDepth]

theorem trailingDepth_list (list : isList node = true) :
    trailingDepth node = ((lastBlock? node).map trailingDepth).getD 0 + 1 := by
  cases node with
  | list ordered items start tight => rw [trailingDepth, lastItemDepth_eq ordered items start tight]
  | _ => cases list

theorem list_of_shown (shown : lastShown options descend node context = some last) : isList node = true := by
  cases node with
  | list => rfl
  | _ => cases shown

end

/-- What a list ends with in the tree is what it ends with as it is shown: in its last item the last block is shown and
ends so in turn, or else no list is there at the end, shown or not. -/
inductive EndsAsShown (options : Options) (descend : Text → List Node → Render (List Text)) : Node → Context → Prop where
  | block {node : Node} {context : Context} (other : isList node = false) : EndsAsShown options descend node context
  | shown {node : Node} {context : Context} {last : ShownBlock} (here : lastShown options descend node context = some last)
      (same : lastBlock? node = some last.block) (inside : EndsAsShown options descend last.block last.context) :
      EndsAsShown options descend node context
  | closed {node : Node} {context : Context} (hidden : ∀ block, lastBlock? node = some block → isList block = false)
      (visible : ∀ last, lastShown options descend node context = some last → isList last.block = false) :
      EndsAsShown options descend node context

section

variable {options : Options} {descend : Text → List Node → Render (List Text)} {node : Node} {blocks : List Node}
  {taskStatus : Option Text} {before left context : Context} {text marker : Text}

theorem EndsAsShown.levels (ends : EndsAsShown options descend node context) :
    trailingDepth node = openLevels options descend node context := by
  induction ends with
  | block other => rw [trailingDepth_block other, openLevels_block other]
  | @shown node context last here same _ ih =>
    rw [trailingDepth_list (list_of_shown here), same, openLevels_shown here, ← ih]
    rfl
  | @closed node context hidden visible =>
    cases list : isList node with
    | false => rw [trailingDepth_block list, openLevels_block list]
    | true =>
      -- Only the list itself is open, in the tree as in the text.
      have tree : trailingDepth node = 1 := by
        rw [trailingDepth_list list]
        cases found : lastBlock? node with
        | none => rfl
        | some block => rw [Option.map_some, Option.getD_some, trailingDepth_block (hidden block found)]
      have shown : openLevels options descend node context = 1 := by
        cases found : lastShown options descend node context with
        | none => exact openLevels_bare list found
        | some last => rw [openLevels_shown found, openLevels_block (visible last found)]
      rw [tree, shown]

theorem attached_append (openLevels : Nat) (earlier : List ShownBlock) {nested : ShownBlock}
    (list : isList nested.block = true) (later : List ShownBlock) :
    attached openLevels (earlier ++ nested :: later) =
      attached openLevels earlier ++ nested.text :: attached (trailingDepth nested.block) later := by
  induction earlier generalizing openLevels with
  | nil => rw [List.nil_append, attached_list list, attached, List.nil_append]
  | cons first rest ih =>
    rw [List.cons_append, attached, attached]
    split
    · rw [ih, List.cons_append]
    · rw [ih, List.cons_append]

/-- A block behind a nested list is attached by a continuation line. So many blank lines stand before it as levels are
open at the end of the nested list, if the list ends in the tree as it does in the text. -/
theorem block_behind_nested_list (options : Options) (descend : Text → List Node → Render (List Text))
    {blocks : List Node} {taskStatus : Option Text} {marker : Text} {before left : Context} {text : Text}
    (ran : (renderItem options descend blocks taskStatus marker).runIn before = (.ok text, left)) :
    ∃ line within, (itemLine options descend blocks).runIn before = (.ok line, within) ∧
      ∀ earlier nested block later,
        shownBlocks options descend (itemBlocks blocks) within = earlier ++ nested :: block :: later →
        isList nested.block = true → isList block.block = false →
        Text.lines text =
          Text.lines (Text.unlines ((taskMarker marker taskStatus ++ ' ' :: line) :: attached 0 earlier)) ++
          Text.lines nested.text ++ List.replicate (trailingDepth nested.block) [] ++
          ['+'] :: (Text.lines block.text ++ (attached 0 later).flatMap Text.lines) ∧
        (∀ last, lastShown options descend nested.block nested.context = some last → last.text <:+ nested.text) ∧
        (EndsAsShown options descend nested.block nested.context →
          trailingDepth nested.block = openLevels options descend nested.block nested.context) := by
  obtain ⟨line, within, first, rfl⟩ := renderItem_shown ran
  refine ⟨line, within, first, ?_⟩
  intro earlier nested block later shown list other
  have member : nested ∈ shownBlocks options descend (itemBlocks blocks) within :=
    shown ▸ List.mem_append_right _ List.mem_cons_self
  obtain ⟨-, -, after, own⟩ := mem_shownBlocks member
  refine ⟨?_, fun last ends => list_ends_shown ends own, EndsAsShown.levels⟩
  rw [shown, attached_append 0 earlier list, Text.lines_unlines (List.cons_ne_nil _ _),
    Text.lines_unlines (List.cons_ne_nil _ _)]
  rw [attached_block other, ← List.cons_append, List.flatMap_append, List.flatMap_cons, List.flatMap_cons,
    List.flatMap_cons, lines_continuation]
  simp only [List.append_assoc, List.cons_append]

/-- An item with two levels of lists in it, which have further blocks at their ends. -/
def nestedItem (innermost others : List Node) : List Node :=
  let line (name : Char) : Node := .paragraph [.text [name]]
  let inner : Node := .list false [.listItem (line 'c' :: innermost) none] (.number 1) true
  let outer : Node := .list false [.listItem (line 'b' :: inner :: others) none] (.number 1) true
  [line 'a', outer, line 'd']

def hiddenBlock : Node := .footnoteDefinition ['n'] [.paragraph [.text ['x']]]

/-- The hidden block is in the innermost item, and all levels are counted. -/
theorem block_behind_nested_list_hidden :
    let context : Context := { attributes := [], listStack := ['*'] }
    let text := "* a\n** b\n*** c\n\n\n+\nd".toList
    ((renderItem {} (renderFootnote {} 0) (nestedItem [hiddenBlock] []) none ['*']).runIn context).1 = .ok text ∧
      ∃ nested block, shownBlocks {} (renderFootnote {} 0) (itemBlocks (nestedItem [hiddenBlock] [])) context =
        [nested, block] ∧ isList nested.block = true ∧ isList block.block = false ∧
      EndsAsShown {} (renderFootnote {} 0) nested.block nested.context ∧
      openLevels {} (renderFootnote {} 0) nested.block nested.context = 2 ∧
      Text.lines text = ["* a".toList] ++ Text.lines nested.text ++ List.replicate 2 [] ++
        ['+'] :: Text.lines block.text := by
  intro context text
  have ran : ((renderItem {} (renderFootnote {} 0) (nestedItem [hiddenBlock] []) none ['*']).runIn context).1 =
      .ok text := rfl
  obtain ⟨line, within, first, lines⟩ := block_behind_nested_list {} (renderFootnote {} 0) (Prod.ext ran rfl)
  obtain ⟨same, rfl⟩ := Prod.mk.inj first
  obtain rfl := Except.ok.inj same
  have inner : EndsAsShown {} (renderFootnote {} 0)
      (.list false [.listItem [.paragraph [.text ['c']], hiddenBlock] none] (.number 1) true)
      { attributes := [], listStack := ['*', '*'] } := by
    refine .closed ?_ ?_
    · rintro block ⟨⟩
      rfl
    · rintro block ⟨⟩
  have ends : EndsAsShown {} (renderFootnote {} 0)
      (.list false [.listItem [.paragraph [.text ['b']],
        .list false [.listItem [.paragraph [.text ['c']], hiddenBlock] none] (.number 1) true] none] (.number 1) true)
      context := .shown rfl rfl inner
  obtain ⟨written, -, levels⟩ := lines [] _ _ [] rfl rfl rfl
  exact ⟨ran, _, _, rfl, rfl, rfl, ends, (levels ends).symm, written⟩

/-- The hidden block is at the end of the outer list, and hides from the count the list that is shown there: one blank
line stands before the continuation, although two levels are open. -/
theorem level_overlooked :
    let outer : Node := .list false [.listItem [.paragraph [.text ['b']],
      .list false [.listItem [.paragraph [.text ['c']]] none] (.number 1) true, hiddenBlock] none] (.number 1) true
    (render {} [] (.document [.list false [.listItem (nestedItem [] [hiddenBlock]) none] (.number 1) true])).outcome =
      .ok "* a\n** b\n*** c\n\n+\nd\n".toList ∧
    nestedItem [] [hiddenBlock] = [.paragraph [.text ['a']], outer, .paragraph [.text ['d']]] ∧
    trailingDepth outer = 1 ∧ openLevels {} (renderFootnote {} 0) outer { attributes := [], listStack := ['*'] } = 2 := by
  intro outer
  refine ⟨rfl, rfl, rfl, ?_⟩
  have inner : lastShown {} (renderFootnote {} 0) outer { attributes := [], listStack := ['*'] } = some _ := rfl
  rw [openLevels_shown inner]
  exact congrArg (· + 1) (openLevels_bare rfl rfl)

end

end Adocify.AsciiDoc
