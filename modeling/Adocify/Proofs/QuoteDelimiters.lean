import Adocify.Proofs.CourseInline
import Adocify.Proofs.ListItems
import Adocify.Proofs.ListNesting

/-! Where a quote ends. It is delimited by the same line at both ends, and so ends at the first such line inside. That
line can stand inside for two reasons only: a quote of the same kind is nested in it, or it is a line of the text of
one of the other blocks. -/

namespace Adocify.AsciiDoc

/-- The label of a quote that is an admonition. -/
def quoteLabel : List Node → Option Text
  | .paragraph content :: _ => (splitAdmonition id .text content).map (·.1)
  | _ => none

def quoteLine (nodes : List Node) : Text := if (quoteLabel nodes).isSome then "====".toList else "____".toList

/-- A quote with the delimiter is nested in the node, directly or through lists. -/
inductive Nests (delimiter : Text) : Node → Prop where
  | here {nodes : List Node} (same : quoteLine nodes = delimiter) : Nests delimiter (.blockQuote nodes)
  | quoted {nodes : List Node} {node : Node} (member : node ∈ nodes) (inside : Nests delimiter node) :
      Nests delimiter (.blockQuote nodes)
  | listed {ordered tight : Bool} {items : List Node} {start : Whole} {item : Node} (member : item ∈ items)
      (inside : Nests delimiter item) : Nests delimiter (.list ordered items start tight)
  | item {blocks : List Node} {taskStatus : Option Text} {block : Node} (member : block ∈ blocks)
      (inside : Nests delimiter block) : Nests delimiter (.listItem blocks taskStatus)

def NestsAny (delimiter : Text) (nodes : List Node) : Prop := ∃ node ∈ nodes, Nests delimiter node

def HasLine (line : Text) (texts : List Text) : Prop := ∃ text ∈ texts, line ∈ Text.lines text

section

variable (options : Options) (descend : Text → List Node → Render (List Text))

/-- The text of the first paragraph of a quote, without its label. -/
def openingText (content : List Node) : Render Text :=
  let opening := renderChildren options descend content
  match splitAdmonition (·.node) (Child.ofText options) opening with
  | some (_, remainder) => paragraph options remainder
  | none => paragraph options opening

mutual

/-- The texts of those blocks in a node that are no quotes and lists themselves. The first line of an item is one. -/
def leafTexts : Node → Render (List Text)
  | .blockQuote (.paragraph content :: rest) => do
    let opening ← openingText options descend content
    let others ← leafTextsIn rest
    return opening :: others
  | .blockQuote nodes => leafTextsIn nodes
  | .list ordered items _ _ => do
    let context ← get
    Render.insideList (markerOf ordered) (itemLeafTexts (markersIn ordered context) items)
  | .listItem blocks taskStatus => do
    let line ← itemLine options descend blocks
    let others ← leafTextsBehind blocks
    return (taskMarker ['*'] taskStatus ++ ' ' :: line) :: others
  | node => do
    let text ← renderNode options descend node
    return [text]

def leafTextsIn : List Node → Render (List Text)
  | [] => return []
  | node :: rest => do
    let texts ← leafTexts node
    let others ← leafTextsIn rest
    return texts ++ others

/-- Those behind the first line of an item. -/
def leafTextsBehind : List Node → Render (List Text)
  | [] => return []
  | .paragraph _ :: rest => leafTextsIn rest
  | node :: rest => do
    let texts ← leafTexts node
    let others ← leafTextsIn rest
    return texts ++ others

def itemLeafTexts (marker : Text) : List Node → Render (List Text)
  | .listItem blocks taskStatus :: items => do
    let line ← itemLine options descend blocks
    let texts ← leafTextsBehind blocks
    let others ← itemLeafTexts marker items
    return (taskMarker marker taskStatus ++ ' ' :: line) :: texts ++ others
  | _ => return []

end

end

section

variable {options : Options} {descend : Text → List Node → Render (List Text)} {delimiter text line : Text}
  {texts others parts : List Text} {nodes blocks items : List Node} {taskStatus : Option Text} {before left : Context}

theorem leafTextsBehind_eq (blocks : List Node) :
    leafTextsBehind options descend blocks = leafTextsIn options descend (itemBlocks blocks) := by
  rcases blocks with _ | ⟨first, rest⟩
  · simp only [leafTextsBehind, itemBlocks, leafTextsIn]
  · cases first <;> simp only [leafTextsBehind, itemBlocks, leafTextsIn]

theorem hasLine_nil : ¬HasLine line [] := by
  intro ⟨_, member, _⟩
  cases member

theorem hasLine_cons : HasLine line (text :: others) ↔ line ∈ Text.lines text ∨ HasLine line others :=
  List.exists_mem_cons_iff _ _ _

theorem hasLine_append : HasLine line (texts ++ others) ↔ HasLine line texts ∨ HasLine line others := by
  simp only [HasLine, List.mem_append, or_and_right, exists_or]

/-- Texts without any characters have no line but the empty one. -/
theorem hasLine_present (filled : line ≠ []) : HasLine line (presentTexts texts) ↔ HasLine line texts := by
  constructor
  · intro ⟨text, member, inside⟩
    exact ⟨text, (List.mem_filter.mp member).1, inside⟩
  · intro ⟨text, member, inside⟩
    refine ⟨text, List.mem_filter.mpr ⟨member, ?_⟩, inside⟩
    cases text with
    | nil => exact absurd (List.mem_singleton.mp inside) filled
    | cons => rfl

theorem mem_lines_unlines (filled : line ≠ []) : line ∈ Text.lines (Text.unlines parts) ↔ HasLine line parts := by
  cases parts with
  | nil => exact iff_of_false (fun inside => filled (List.mem_singleton.mp inside)) hasLine_nil
  | cons first others => rw [Text.lines_unlines (List.cons_ne_nil _ _), List.mem_flatMap, HasLine]

theorem mem_lines_blocks (filled : line ≠ []) : line ∈ Text.lines (Text.join blankLine parts) ↔ HasLine line parts := by
  induction parts with
  | nil => exact iff_of_false (fun inside => filled (List.mem_singleton.mp inside)) hasLine_nil
  | cons first others ih =>
    rw [Text.join_cons, hasLine_cons, ← ih]
    cases others with
    | nil =>
      have nothing : line ∉ Text.lines (Text.join blankLine []) := fun inside => filled (List.mem_singleton.mp inside)
      simp [Text.continued, nothing]
    | cons second others =>
      have shape : first ++ Text.continued blankLine (second :: others) =
          first ++ '\n' :: '\n' :: Text.join blankLine (second :: others) := rfl
      rw [shape, Text.lines_append, Text.lines_newline, List.mem_append, List.mem_cons]
      simp [filled]

def IsDelimiter (line : Text) : Prop := line = "____".toList ∨ line = "====".toList

theorem quoteLine_delimiter (nodes : List Node) : IsDelimiter (quoteLine nodes) := by
  simp only [quoteLine]
  split
  · exact .inr rfl
  · exact .inl rfl

theorem IsDelimiter.filled (known : IsDelimiter line) : line ≠ [] := by
  rcases known with rfl | rfl <;> decide

theorem IsDelimiter.head (known : IsDelimiter line) {c : Char} {rest : Text} (same : line = c :: rest) :
    c = '_' ∨ c = '=' := by
  rcases known with rfl | rfl
  · exact .inl (List.cons.inj same).1.symm
  · exact .inr (List.cons.inj same).1.symm

theorem nests_item : Nests delimiter (.listItem blocks taskStatus) ↔ NestsAny delimiter blocks := by
  constructor
  · intro nests
    cases nests with
    | item member inside => exact ⟨_, member, inside⟩
  · intro ⟨block, member, inside⟩
    exact .item member inside

theorem nests_list {ordered tight : Bool} {start : Whole} :
    Nests delimiter (.list ordered items start tight) ↔ NestsAny delimiter items := by
  constructor
  · intro nests
    cases nests with
    | listed member inside => exact ⟨_, member, inside⟩
  · intro ⟨item, member, inside⟩
    exact .listed member inside

theorem nests_quote : Nests delimiter (.blockQuote nodes) ↔ quoteLine nodes = delimiter ∨ NestsAny delimiter nodes := by
  constructor
  · intro nests
    cases nests with
    | here same => exact .inl same
    | quoted member inside => exact .inr ⟨_, member, inside⟩
  · intro either
    cases either with
    | inl same => exact .here same
    | inr nested =>
      obtain ⟨node, member, inside⟩ := nested
      exact .quoted member inside

theorem nestsAny_cons {node : Node} : NestsAny delimiter (node :: nodes) ↔ Nests delimiter node ∨ NestsAny delimiter nodes :=
  List.exists_mem_cons_iff _ _ _

theorem nestsAny_nil : ¬NestsAny delimiter [] := by
  intro ⟨_, member, _⟩
  cases member

theorem not_nests_paragraph {content : List Node} : ¬Nests delimiter (.paragraph content) := by
  intro nests
  cases nests

theorem nestsAny_paragraph {content : List Node} :
    NestsAny delimiter (.paragraph content :: nodes) ↔ NestsAny delimiter nodes := by
  rw [nestsAny_cons]
  exact or_iff_right not_nests_paragraph

theorem nestsAny_itemBlocks : NestsAny delimiter (itemBlocks blocks) ↔ NestsAny delimiter blocks := by
  rcases blocks with _ | ⟨first, rest⟩
  · exact Iff.rfl
  · cases first with
    | paragraph content => exact nestsAny_paragraph.symm
    | _ => exact Iff.rfl

/-- The delimiter is a line of what the node is rendered to only if it delimits a quote there or is a line of a text. -/
def Accounts (options : Options) (descend : Text → List Node → Render (List Text)) (delimiter : Text) (node : Node) :
    Prop :=
  ∀ before left text, (renderNode options descend node).runIn before = (.ok text, left) →
    ∃ leaves, (leafTexts options descend node).runIn before = (.ok leaves, left) ∧
      (delimiter ∈ Text.lines text ↔ Nests delimiter node ∨ HasLine delimiter leaves)

theorem texts_account (each : ∀ node ∈ nodes, Accounts options descend delimiter node)
    (ran : (Render.sequence ((renderChildren options descend nodes).map (·.rendered))).runIn before = (.ok texts, left)) :
    ∃ leaves, (leafTextsIn options descend nodes).runIn before = (.ok leaves, left) ∧
      (HasLine delimiter texts ↔ NestsAny delimiter nodes ∨ HasLine delimiter leaves) := by
  induction nodes generalizing before texts with
  | nil =>
    obtain ⟨rfl, rfl⟩ := Render.runIn_pure_ok.mp ran
    refine ⟨[], by rw [leafTextsIn]; rfl, ?_⟩
    simp [hasLine_nil, nestsAny_nil]
  | cons node rest ih =>
    obtain ⟨here, others⟩ := List.forall_mem_cons.mp each
    rw [renderChildren, List.map_cons] at ran
    obtain ⟨text, between, more, first, behind, rfl⟩ := Render.sequence_cons_ok.mp ran
    obtain ⟨own, ownRan, ownLines⟩ := here _ _ _ first
    obtain ⟨leaves, leavesRan, lines⟩ := ih others behind
    refine ⟨own ++ leaves, ?_, ?_⟩
    · rw [leafTextsIn]
      exact Render.runIn_bind_ok.mpr ⟨own, between, ownRan, Render.runIn_bind_ok.mpr ⟨leaves, left, leavesRan, rfl⟩⟩
    · rw [hasLine_cons, ownLines, lines, nestsAny_cons, hasLine_append]
      exact or_or_or_comm

theorem hasLine_attached (known : IsDelimiter delimiter) (openLevels : Nat) (shown : List ShownBlock) :
    HasLine delimiter (attached openLevels shown) ↔ HasLine delimiter (shown.map (·.text)) := by
  induction shown generalizing openLevels with
  | nil => exact Iff.rfl
  | cons first rest ih =>
    rw [List.map_cons, hasLine_cons]
    cases list : isList first.block with
    | true => rw [attached_list list, hasLine_cons, ih]
    | false =>
      have plus : delimiter ≠ ['+'] := fun same => absurd (known.head same) (by decide)
      have blank : delimiter ∉ List.replicate openLevels [] := fun member =>
        known.filled (List.eq_of_mem_replicate member)
      rw [attached_block list, hasLine_cons, ih, lines_continuation, List.mem_append, List.mem_cons]
      simp [plus, blank]

def itemLeaves (options : Options) (descend : Text → List Node → Render (List Text)) (blocks : List Node)
    (taskStatus : Option Text) (marker : Text) : Render (List Text) := do
  let line ← itemLine options descend blocks
  let texts ← leafTextsIn options descend (itemBlocks blocks)
  return (taskMarker marker taskStatus ++ ' ' :: line) :: texts

theorem leafTexts_item :
    leafTexts options descend (.listItem blocks taskStatus) = itemLeaves options descend blocks taskStatus ['*'] := by
  simp only [leafTexts, leafTextsBehind_eq]
  rfl

theorem itemLeafTexts_cons {marker : Text} : itemLeafTexts options descend marker (.listItem blocks taskStatus :: items) = do
    let texts ← itemLeaves options descend blocks taskStatus marker
    let others ← itemLeafTexts options descend marker items
    return texts ++ others := by
  simp only [itemLeafTexts, leafTextsBehind_eq, itemLeaves, bind_assoc, pure_bind]

theorem item_accounts (known : IsDelimiter delimiter) (each : ∀ block ∈ blocks, Accounts options descend delimiter block)
    {marker : Text} (ran : (renderItem options descend blocks taskStatus marker).runIn before = (.ok text, left)) :
    ∃ leaves, (itemLeaves options descend blocks taskStatus marker).runIn before = (.ok leaves, left) ∧
      (delimiter ∈ Text.lines text ↔ NestsAny delimiter blocks ∨ HasLine delimiter leaves) := by
  obtain ⟨line, between, first, ran⟩ := Render.runIn_bind_ok.mp ran
  obtain ⟨parts, last, behind, ran⟩ := Render.runIn_bind_ok.mp ran
  obtain ⟨rfl, rfl⟩ := Render.runIn_pure_ok.mp ran
  obtain ⟨texts, sequenced, shown⟩ := itemParts_ran behind
  have inner : ∀ block ∈ itemBlocks blocks, Accounts options descend delimiter block :=
    fun block member => each block (mem_itemBlocks member)
  obtain ⟨leaves, leavesRan, lines⟩ := texts_account inner sequenced
  have present : HasLine delimiter parts ↔ HasLine delimiter texts := by
    rw [itemParts_shown behind, hasLine_attached known, shown]
    exact hasLine_present known.filled
  refine ⟨(taskMarker marker taskStatus ++ ' ' :: line) :: leaves, ?_, ?_⟩
  · exact Render.runIn_bind_ok.mpr ⟨line, between, first, Render.runIn_bind_ok.mpr ⟨leaves, _, leavesRan, rfl⟩⟩
  · rw [mem_lines_unlines known.filled, hasLine_cons, hasLine_cons, present, lines, nestsAny_itemBlocks]
    exact or_left_comm

theorem items_account (known : IsDelimiter delimiter)
    (each : ∀ item ∈ items, ∀ block ∈ item.children, Accounts options descend delimiter block) {marker : Text}
    (ran : (Render.sequence (items.map fun item => itemOf options descend item marker)).runIn before = (.ok texts, left)) :
    ∃ leaves, (itemLeafTexts options descend marker items).runIn before = (.ok leaves, left) ∧
      (HasLine delimiter texts ↔ NestsAny delimiter items ∨ HasLine delimiter leaves) := by
  induction items generalizing before texts with
  | nil =>
    obtain ⟨rfl, rfl⟩ := Render.runIn_pure_ok.mp ran
    refine ⟨[], by simp only [itemLeafTexts]; rfl, ?_⟩
    simp [hasLine_nil, nestsAny_nil]
  | cons item rest ih =>
    obtain ⟨here, others⟩ := List.forall_mem_cons.mp each
    obtain ⟨text, between, more, first, behind, rfl⟩ := Render.sequence_cons_ok.mp ran
    cases item with
    | listItem blocks taskStatus =>
      obtain ⟨own, ownRan, ownLines⟩ := item_accounts known here first
      obtain ⟨leaves, leavesRan, lines⟩ := ih others behind
      refine ⟨own ++ leaves, ?_, ?_⟩
      · rw [itemLeafTexts_cons]
        exact Render.runIn_bind_ok.mpr ⟨own, between, ownRan, Render.runIn_bind_ok.mpr ⟨leaves, left, leavesRan, rfl⟩⟩
      · rw [hasLine_cons, ownLines, lines, nestsAny_cons, nests_item, hasLine_append]
        exact or_or_or_comm
    | _ => cases first

theorem lines_behindStart (known : IsDelimiter delimiter) (ordered : Bool) (start : Whole) (rest : Text) :
    delimiter ∈ Text.lines (startLine ordered start ++ rest) ↔ delimiter ∈ Text.lines rest := by
  simp only [startLine]
  split
  next =>
    have single : '\n' ∉ "[start=".toList ++ start.toValue.display ++ [']'] := by
      simp [single_start start]
    have shape : "[start=".toList ++ start.toValue.display ++ "]\n".toList ++ rest =
        "[start=".toList ++ start.toValue.display ++ [']'] ++ '\n' :: rest := by simp
    rw [shape, Text.lines_append, Text.lines_single single, List.mem_append, List.mem_singleton]
    constructor
    · intro either
      cases either with
      | inl same => exact absurd (known.head same) (by decide)
      | inr inside => exact inside
    · exact .inr
  next => rw [List.nil_append]

theorem list_accounts (known : IsDelimiter delimiter)
    (each : ∀ item ∈ items, ∀ block ∈ item.children, Accounts options descend delimiter block) (ordered tight : Bool)
    (start : Whole) : Accounts options descend delimiter (.list ordered items start tight) := by
  intro before left text ran
  obtain ⟨texts, after, rendered, rfl, rfl⟩ := list_ran ran
  obtain ⟨leaves, leavesRan, lines⟩ := items_account known each rendered
  refine ⟨leaves, ?_, ?_⟩
  · rw [leafTexts]
    refine Render.runIn_bind_ok.mpr ⟨before, before, rfl, ?_⟩
    have inside : (itemLeafTexts options descend (markersIn ordered before) items).runIn
        { before with listStack := markerOf ordered :: before.listStack } = (.ok leaves, after) := leavesRan
    rw [Render.runIn_insideList, inside]
  · rw [lines_behindStart known, mem_lines_unlines known.filled, lines, nests_list]

/-- What a block is rendered to is its one text, unless it is made of other blocks. -/
theorem leaf_accounts {node : Node} (bare : leafTexts options descend node = do
      let text ← renderNode options descend node
      return [text]) (apart : ¬Nests delimiter node) : Accounts options descend delimiter node := by
  intro before left text ran
  refine ⟨[text], ?_, ?_⟩
  · rw [bare]
    exact Render.runIn_bind_ok.mpr ⟨text, left, ran, rfl⟩
  · rw [hasLine_cons]
    simp [apart, hasLine_nil]

theorem renderChildren_map (nodes : List Node) :
    renderChildren options descend nodes = nodes.map fun node => ⟨node, renderNode options descend node⟩ := by
  induction nodes with
  | nil => rfl
  | cons node rest ih => rw [renderChildren, List.map_cons, ih]

/-- The label of a paragraph does not depend on how what follows it is rendered. -/
theorem label_rendered (options : Options) (descend : Text → List Node → Render (List Text)) (content rest : List Node) :
    (splitAdmonition (·.node) (Child.ofText options) (renderChildren options descend content)).map (·.1) =
      quoteLabel (.paragraph content :: rest) := by
  have texts : Child.ofText options = (fun node => ⟨node, renderNode options descend node⟩) ∘ Node.text := by
    funext written
    simp only [Child.ofText, Function.comp_apply, renderNode]
  rw [renderChildren_map, texts, splitAdmonition_map, Option.map_map]
  rfl

theorem label_single {label : Text} (labelled : quoteLabel nodes = some label) : '\n' ∉ label := by
  have single : ∀ label ∈ admonitionLabels.map (·.2), '\n' ∉ label := by decide
  cases nodes with
  | nil => cases labelled
  | cons first rest =>
    cases first with
    | paragraph content =>
      obtain ⟨found, split, rfl⟩ := Option.map_eq_some_iff.mp labelled
      exact single _ (label_known split)
    | _ => cases labelled

/-- The texts of the blocks of a quote. -/
def quoteTexts (options : Options) (descend : Text → List Node → Render (List Text)) : List Node → Render (List Text)
  | .paragraph content :: rest =>
    Render.sequence (openingText options descend content :: (renderChildren options descend rest).map (·.rendered))
  | nodes => Render.sequence ((renderChildren options descend nodes).map (·.rendered))

def quoteLines (nodes : List Node) (inner : Text) : List Text :=
  (quoteLabel nodes).toList.map (fun label => '[' :: label ++ [']']) ++ [quoteLine nodes, inner, quoteLine nodes]

theorem quote_eq (nodes : List Node) : renderNode options descend (.blockQuote nodes) = do
    let texts ← quoteTexts options descend nodes
    return Text.unlines (quoteLines nodes (Text.join blankLine (presentTexts texts))) := by
  have plain (inner : Text) : "____\n".toList ++ inner ++ "\n____".toList =
      Text.unlines ["____".toList, inner, "____".toList] := by
    simp [Text.unlines, Text.join]
  have labelled (label inner : Text) : '[' :: label ++ "]\n====\n".toList ++ inner ++ "\n====".toList =
      Text.unlines ['[' :: label ++ [']'], "====".toList, inner, "====".toList] := by
    simp [Text.unlines, Text.join]
  rcases nodes with _ | ⟨first, rest⟩
  · simp only [renderNode, blockQuote, quoteTexts]
    exact congrArg _ (funext fun texts => congrArg pure (plain _))
  cases first with
  | paragraph content =>
    have same := label_rendered options descend content rest
    simp only [renderNode, blockQuote, quoteTexts, openingText, Option.bind_some]
    cases found : splitAdmonition (·.node) (Child.ofText options) (renderChildren options descend content) with
    | none =>
      have bare : quoteLabel (.paragraph content :: rest) = none := by
        rw [← same, found]
        rfl
      simp only [quoteLines, quoteLine, bare]
      exact congrArg _ (funext fun texts => congrArg pure (plain _))
    | some split =>
      obtain ⟨label, remainder⟩ := split
      have named : quoteLabel (.paragraph content :: rest) = some label := by
        rw [← same, found]
        rfl
      simp only [quoteLines, quoteLine, named]
      exact congrArg _ (funext fun texts => congrArg pure (labelled label _))
  | _ =>
    -- Only a paragraph can begin with a label.
    simp only [renderNode, blockQuote, quoteTexts]
    exact congrArg _ (funext fun texts => congrArg pure (plain _))

theorem quoteLines_inner (nodes : List Node) (inner : Text) :
    Text.lines (Text.unlines (quoteLines nodes inner)) =
      (quoteLabel nodes).toList.map (fun label => '[' :: label ++ [']']) ++
        quoteLine nodes :: Text.lines inner ++ [quoteLine nodes] := by
  have line : Text.lines (quoteLine nodes) = [quoteLine nodes] := by
    rcases quoteLine_delimiter nodes with same | same <;> rw [same] <;> rfl
  have some : quoteLines nodes inner ≠ [] := List.append_ne_nil_of_right_ne_nil _ (List.cons_ne_nil _ _)
  rw [Text.lines_unlines some, quoteLines, List.flatMap_append]
  cases named : quoteLabel nodes with
  | none => simp [line]
  | some label =>
    have own : Text.lines ('[' :: (label ++ [']'])) = ['[' :: (label ++ [']'])] :=
      Text.lines_single (by simp [label_single named])
    simp [line, own]

theorem quoteTexts_account (each : ∀ node ∈ nodes, Accounts options descend delimiter node)
    (ran : (quoteTexts options descend nodes).runIn before = (.ok texts, left)) :
    ∃ leaves, (leafTexts options descend (.blockQuote nodes)).runIn before = (.ok leaves, left) ∧
      (HasLine delimiter texts ↔ NestsAny delimiter nodes ∨ HasLine delimiter leaves) := by
  rcases nodes with _ | ⟨first, rest⟩
  · simp only [leafTexts]
    exact texts_account each ran
  cases first with
  | paragraph content =>
    obtain ⟨text, between, others, opening, behind, rfl⟩ := Render.sequence_cons_ok.mp ran
    obtain ⟨leaves, leavesRan, lines⟩ := texts_account (List.forall_mem_cons.mp each).2 behind
    refine ⟨text :: leaves, ?_, ?_⟩
    · rw [leafTexts]
      exact Render.runIn_bind_ok.mpr ⟨text, between, opening, Render.runIn_bind_ok.mpr ⟨leaves, left, leavesRan, rfl⟩⟩
    · rw [hasLine_cons, hasLine_cons, lines, nestsAny_paragraph]
      exact or_left_comm
  | _ =>
    simp only [leafTexts]
    exact texts_account each ran

theorem quote_accounts (known : IsDelimiter delimiter) (each : ∀ node ∈ nodes, Accounts options descend delimiter node) :
    Accounts options descend delimiter (.blockQuote nodes) := by
  intro before left text ran
  rw [quote_eq] at ran
  obtain ⟨texts, between, rendered, ran⟩ := Render.runIn_bind_ok.mp ran
  obtain ⟨rfl, rfl⟩ := Render.runIn_pure_ok.mp ran
  obtain ⟨leaves, leavesRan, lines⟩ := quoteTexts_account each rendered
  refine ⟨leaves, leavesRan, ?_⟩
  have label : delimiter ∉ (quoteLabel nodes).toList.map fun label => '[' :: label ++ [']'] := by
    intro member
    obtain ⟨label, -, same⟩ := List.mem_map.mp member
    exact absurd (known.head same.symm) (by decide)
  rw [quoteLines_inner, nests_quote, or_assoc, ← lines, ← hasLine_present known.filled, ← mem_lines_blocks known.filled]
  simp only [List.mem_append, List.mem_cons, label, false_or, List.not_mem_nil, or_false]
  constructor
  · intro either
    rcases either with (same | inside) | same
    · exact .inl same.symm
    · exact .inr inside
    · exact .inl same.symm
  · intro either
    rcases either with same | inside
    · exact .inr same.symm
    · exact .inl (.inr inside)

theorem accounts (options : Options) (descend : Text → List Node → Render (List Text)) (known : IsDelimiter delimiter)
    (node : Node) : Accounts options descend delimiter node := by
  -- A list needs the blocks of its items, which are two steps below, so the induction is on all that is below.
  induction node using Node.induction_below with
  | step node below =>
    have each : ∀ child ∈ node.children, Accounts options descend delimiter child :=
      fun child member => (below child member).here
    cases node with
    | blockQuote nodes => exact quote_accounts known each
    | list ordered items start tight =>
      exact list_accounts known (fun item member block inside => ((below item member).child inside).here) ordered tight
        start
    | listItem blocks taskStatus =>
      intro before left text ran
      rw [renderNode_listItem] at ran
      rw [leafTexts_item, nests_item]
      exact item_accounts known each ran
    | _ =>
      apply leaf_accounts
      · simp only [leafTexts]
      · intro nests
        cases nests

/-- A quote ends at the first line inside that is its delimiter. That is its own end if and only if no quote of the
same kind is nested in it and no text of another block has such a line. -/
theorem quote_closed_iff (options : Options) (descend : Text → List Node → Render (List Text)) {nodes : List Node}
    {before left : Context} {text : Text}
    (ran : (renderNode options descend (.blockQuote nodes)).runIn before = (.ok text, left)) :
    ∃ inner leaves, (leafTexts options descend (.blockQuote nodes)).runIn before = (.ok leaves, left) ∧
      Text.lines text = (quoteLabel nodes).toList.map (fun label => '[' :: label ++ [']']) ++
        quoteLine nodes :: Text.lines inner ++ [quoteLine nodes] ∧
      (quoteLine nodes ∉ Text.lines inner ↔
        (∀ node ∈ nodes, ¬Nests (quoteLine nodes) node) ∧ ∀ leaf ∈ leaves, quoteLine nodes ∉ Text.lines leaf) := by
  rw [quote_eq] at ran
  obtain ⟨texts, between, rendered, ran⟩ := Render.runIn_bind_ok.mp ran
  obtain ⟨rfl, rfl⟩ := Render.runIn_pure_ok.mp ran
  have known := quoteLine_delimiter nodes
  obtain ⟨leaves, leavesRan, lines⟩ := quoteTexts_account (fun node _ => accounts options descend known node) rendered
  refine ⟨_, leaves, leavesRan, quoteLines_inner nodes _, ?_⟩
  rw [mem_lines_blocks known.filled, hasLine_present known.filled, lines, not_or]
  simp only [NestsAny, HasLine, not_exists, not_and]

/-- An admonition in an item of a list in a quote. -/
def alternatingQuotes : List Node :=
  let note : Node := .blockQuote [.paragraph [.strong [.text "Note:".toList], .text " x".toList]]
  [.list false [.listItem [.paragraph [.text ['a']], note] none] (.number 1) true, .paragraph [.text ['b']]]

theorem quote_closed_iff_alternating :
    let text := "____\n* a\n+\n[NOTE]\n====\nx\n====\n\nb\n____".toList
    ((renderNode {} (renderFootnote {} 0) (.blockQuote alternatingQuotes)).runIn { attributes := [] }).1 = .ok text ∧
    (∀ node ∈ alternatingQuotes, ¬Nests "____".toList node) ∧
    ∃ inner, Text.lines text = "____".toList :: Text.lines inner ++ ["____".toList] ∧ "____".toList ∉ Text.lines inner := by
  intro text
  have ran : ((renderNode {} (renderFootnote {} 0) (.blockQuote alternatingQuotes)).runIn { attributes := [] }).1 =
      .ok text := rfl
  have apart : ∀ node ∈ alternatingQuotes, ¬Nests "____".toList node := by
    have other : quoteLine [.paragraph [.strong [.text "Note:".toList], .text " x".toList]] ≠ "____".toList := by decide
    simpa [alternatingQuotes, nests_list, nests_item, nests_quote, nestsAny_cons, nestsAny_nil,
      not_nests_paragraph] using other
  obtain ⟨inner, leaves, leavesRan, lines, closed⟩ := quote_closed_iff {} (renderFootnote {} 0) (Prod.ext ran rfl)
  obtain rfl : ["* a".toList, ['x'], ['b']] = leaves := Except.ok.inj (congrArg Prod.fst leavesRan)
  have plain : ∀ leaf ∈ ["* a".toList, ['x'], ['b']], "____".toList ∉ Text.lines leaf := by decide
  exact ⟨ran, apart, inner, lines, closed.mpr ⟨apart, plain⟩⟩

/-- The end of the inner quote is the first line that delimits the outer one. -/
theorem quote_ends_early :
    let nodes : List Node := [.blockQuote [.paragraph [.text ['a']]], .paragraph [.text ['b']]]
    let inner := "____\na\n____\n\nb".toList
    (render {} [] (.document [.blockQuote nodes])).outcome =
        .ok (Text.unlines [quoteLine nodes, inner, quoteLine nodes] ++ ['\n']) ∧
      quoteLine nodes ∈ Text.lines inner := by
  intro nodes inner
  exact ⟨rfl, by decide⟩

end

end Adocify.AsciiDoc
