import Adocify.AsciiDoc.Render
import Adocify.Proofs.ItemContinuations
import Adocify.Proofs.RenderedParts
import Adocify.Proofs.RenderInline

/-! Trees whose lines hold no two texts next to each other. Every tree has one such tree that says the same, and all
that rendering asks about a node, without rendering it, has the same answer in both. -/

namespace Adocify.Node

/-- Puts an element in front of a line. A text in front of a text becomes one with it. -/
def attach : Node → List Node → List Node
  | .text content, .text more :: rest => .text (content ++ more) :: rest
  | node, rest => node :: rest

def joinTexts (content : List Node) : List Node := content.foldr attach []

mutual

/-- The tree with the texts of each line joined. -/
def joined : Node → Node
  | .document children => .document (joinedAll children)
  | .heading level content => .heading level (joinTexts (joinedAll content))
  | .paragraph content => .paragraph (joinTexts (joinedAll content))
  | .blockQuote children => .blockQuote (joinedAll children)
  | .list ordered items start tight => .list ordered (joinedAll items) start tight
  | .listItem children taskStatus => .listItem (joinedAll children) taskStatus
  | .table header rows alignments caption => .table (joinedHeader header) (joinedAll rows) alignments caption
  | .tableRow cells => .tableRow (joinedAll cells)
  | .tableCell content span alignment => .tableCell (joinTexts (joinedAll content)) span alignment
  | .footnoteDefinition identifier content => .footnoteDefinition identifier (joinedAll content)
  | .definitionList entries => .definitionList (joinedEntries entries)
  | .definitionTerm content => .definitionTerm (joinTexts (joinedAll content))
  | .definitionDescription content => .definitionDescription (joinedAll content)
  | .emphasis content => .emphasis (joinTexts (joinedAll content))
  | .strong content => .strong (joinTexts (joinedAll content))
  | .strikethrough content => .strikethrough (joinTexts (joinedAll content))
  | .link url content title => .link url (joinTexts (joinedAll content)) title
  | .foreign kind content location => .foreign kind (joinedAll content) location
  | node => node

def joinedHeader : Option Node → Option Node
  | none => none
  | some header => some (joined header)

def joinedAll : List Node → List Node
  | [] => []
  | node :: rest => joined node :: joinedAll rest

def joinedEntries : List (Node × List Node) → List (Node × List Node)
  | [] => []
  | (term, descriptions) :: rest => (joined term, joinedAll descriptions) :: joinedEntries rest

end

def joinedLine (content : List Node) : List Node := joinTexts (content.map joined)

theorem joinedAll_eq (nodes : List Node) : joinedAll nodes = nodes.map joined := by
  induction nodes with
  | nil => rw [joinedAll, List.map_nil]
  | cons node rest ih => rw [joinedAll, ih, List.map_cons]

theorem joinedHeader_eq (header : Option Node) : joinedHeader header = header.map joined := by
  cases header <;> rfl

theorem joinedLine_eq (content : List Node) : joinTexts (joinedAll content) = joinedLine content := by
  rw [joinedAll_eq, joinedLine]

theorem joined_heading (level : Whole) (content : List Node) :
    (heading level content).joined = .heading level (joinedLine content) :=
  congrArg (heading level) (joinedLine_eq content)

theorem joined_list (ordered : Bool) (items : List Node) (start : Whole) (tight : Bool) :
    (list ordered items start tight).joined = .list ordered (items.map joined) start tight :=
  congrArg (list ordered · start tight) (joinedAll_eq items)

theorem joined_listItem (children : List Node) (taskStatus : Option Text) :
    (listItem children taskStatus).joined = .listItem (children.map joined) taskStatus :=
  congrArg (listItem · taskStatus) (joinedAll_eq children)

theorem joined_tableRow (cells : List Node) : (tableRow cells).joined = .tableRow (cells.map joined) :=
  congrArg tableRow (joinedAll_eq cells)

theorem joined_tableCell (content : List Node) (span : Int) (alignment : Option Text) :
    (tableCell content span alignment).joined = .tableCell (joinedLine content) span alignment :=
  congrArg (tableCell · span alignment) (joinedLine_eq content)

theorem joined_footnoteDefinition (identifier : Text) (content : List Node) :
    (footnoteDefinition identifier content).joined = .footnoteDefinition identifier (content.map joined) :=
  congrArg (footnoteDefinition identifier) (joinedAll_eq content)

theorem joinedEntries_eq (entries : List (Node × List Node)) :
    joinedEntries entries = entries.map fun entry => (entry.1.joined, entry.2.map joined) := by
  induction entries with
  | nil => rw [joinedEntries, List.map_nil]
  | cons entry rest ih =>
    obtain ⟨term, descriptions⟩ := entry
    rw [joinedEntries, ih, joinedAll_eq, List.map_cons]

theorem joinTexts_cons (node : Node) (rest : List Node) : joinTexts (node :: rest) = attach node (joinTexts rest) := rfl

theorem attach_shape (node : Node) (rest : List Node) : attach node rest = node :: rest ∨
    ∃ content more others, node = .text content ∧ rest = .text more :: others ∧
      attach node rest = .text (content ++ more) :: others := by
  unfold attach
  split
  · exact .inr ⟨_, _, _, rfl, rfl, rfl⟩
  · exact .inl rfl

theorem attach_ne_nil (node : Node) (rest : List Node) : attach node rest ≠ [] := by
  rcases attach_shape node rest with same | ⟨content, more, others, -, -, same⟩ <;>
    exact same ▸ List.cons_ne_nil _ _

theorem attach_attach (first second : Text) (rest : List Node) :
    attach (.text first) (attach (.text second) rest) = attach (.text (first ++ second)) rest := by
  cases rest with
  | nil => rfl
  | cons node others =>
    cases node with
    | text content => simp only [attach, List.append_assoc]
    | _ => rfl

theorem joinTexts_attach (node : Node) (rest : List Node) :
    joinTexts (attach node rest) = attach node (joinTexts rest) := by
  rcases attach_shape node rest with same | ⟨content, more, others, rfl, rfl, same⟩
  · rw [same, joinTexts_cons]
  · rw [same, joinTexts_cons, joinTexts_cons, attach_attach]

/-- In a joined line there is nothing left to join. -/
theorem joinTexts_joinTexts (content : List Node) : joinTexts (joinTexts content) = joinTexts content := by
  induction content with
  | nil => rfl
  | cons node rest ih => rw [joinTexts_cons, joinTexts_attach, ih]

theorem attach_joined (node : Node) (rest : List Node) :
    attach node.joined (rest.map joined) = (attach node rest).map joined := by
  cases node with
  | text content =>
    cases rest with
    | nil => rfl
    | cons next others => cases next <;> rfl
  | _ => rfl

theorem joinedLine_map (content : List Node) : joinedLine content = (joinTexts content).map joined := by
  rw [joinedLine]
  induction content with
  | nil => rfl
  | cons node rest ih => rw [List.map_cons, joinTexts_cons, ih, attach_joined, joinTexts_cons]

/-- A text in several parts is joined to one text. -/
theorem joinTexts_parts {parts : List Text} (some : parts ≠ []) (below : List Node) :
    joinTexts (parts.map .text ++ below) = joinTexts (.text parts.flatten :: below) := by
  induction parts with
  | nil => exact absurd rfl some
  | cons part rest ih =>
    cases rest with
    | nil => rw [List.map_singleton, List.singleton_append, List.flatten_singleton]
    | cons next rest =>
      rw [List.map_cons, List.cons_append, joinTexts_cons, ih (List.cons_ne_nil next rest), joinTexts_cons,
        attach_attach]
      rfl

theorem flatMap_joinTexts {α : Type} {shown : Node → List α}
    (additive : ∀ first second, shown (.text (first ++ second)) = shown (.text first) ++ shown (.text second))
    (content : List Node) : (joinTexts content).flatMap shown = content.flatMap shown := by
  induction content with
  | nil => rfl
  | cons node rest ih =>
    rw [joinTexts_cons, List.flatMap_cons, ← ih]
    rcases attach_shape node (joinTexts rest) with same | ⟨content, more, others, rfl, there, same⟩
    · rw [same, List.flatMap_cons]
    · rw [same, there, List.flatMap_cons, List.flatMap_cons, additive, List.append_assoc]

/-- The children of a node are joined each for itself, and those of a line with their neighbours as well. -/
theorem children_joined (node : Node) :
    node.joined.children = node.children.map joined ∨ node.joined.children = joinedLine node.children := by
  cases node with
  | table header rows alignments caption =>
    simp [joined, joinedHeader_eq, joinedAll_eq, children, Option.toList_map]
  | definitionList entries =>
    refine .inl ?_
    simp only [joined, children]
    induction entries with
    | nil => rw [joinedEntries, entryChildren, List.map_nil]
    | cons entry rest ih =>
      obtain ⟨term, descriptions⟩ := entry
      simp only [joinedEntries, entryChildren, joinedAll_eq, ih, List.map_cons, List.map_append]
  | _ => first
    | exact .inl rfl
    | exact .inl (joinedAll_eq _)
    | exact .inr (joinedLine_eq _)

theorem flatMap_children_joined {α : Type} {shown : Node → List α}
    (additive : ∀ first second, shown (.text (first ++ second)) = shown (.text first) ++ shown (.text second))
    (node : Node) : node.joined.children.flatMap shown = (node.children.map joined).flatMap shown := by
  rcases children_joined node with same | same
  · rw [same]
  · rw [same, joinedLine, flatMap_joinTexts additive]

/-- What a node says by itself. -/
def ownText : Node → Text
  | .text content | .code content => content
  | .image _ alternative _ => alternative
  | .lineBreak _ => [' ']
  | _ => []

theorem plainTexts_eq (nodes : List Node) : plainTexts nodes = nodes.flatMap plainText := by
  induction nodes with
  | nil => rfl
  | cons node rest ih => rw [plainTexts, ih, List.flatMap_cons]

theorem plainTextOfEntries_eq (entries : List (Node × List Node)) :
    plainTextOfEntries entries = (entryChildren entries).flatMap plainText := by
  induction entries with
  | nil => rfl
  | cons entry rest ih =>
    obtain ⟨term, descriptions⟩ := entry
    rw [plainTextOfEntries, ih, plainTexts_eq, entryChildren, List.cons_append, List.flatMap_cons, List.flatMap_append,
      List.append_assoc]

theorem plainText_eq (node : Node) : node.plainText = node.ownText ++ node.children.flatMap plainText := by
  cases node with
  | table header rows alignments caption =>
    cases header <;> simp [plainText, plainTexts_eq, ownText, children]
  | _ => simp [plainText, plainTexts_eq, plainTextOfEntries_eq, ownText, children]

theorem ownText_joined (node : Node) : node.joined.ownText = node.ownText := by
  cases node <;> rfl

theorem plainText_joined (node : Node) : node.joined.plainText = node.plainText := by
  induction node using induction_below with
  | step node ih =>
    have below : (node.children.map joined).flatMap plainText = node.children.flatMap plainText := by
      rw [List.flatMap_map]
      exact List.flatMap_congr fun child member => (ih child member).here
    have additive (first second : Text) :
        (text (first ++ second)).plainText = (text first).plainText ++ (text second).plainText := rfl
    rw [plainText_eq, plainText_eq node, ownText_joined, flatMap_children_joined additive, below]

theorem plainTexts_joined (nodes : List Node) : plainTexts (nodes.map joined) = plainTexts nodes := by
  rw [plainTexts_eq, plainTexts_eq, List.flatMap_map]
  exact List.flatMap_congr fun node _ => plainText_joined node

theorem plainTexts_joinedLine (content : List Node) : plainTexts (joinedLine content) = plainTexts content := by
  rw [joinedLine, plainTexts_eq, flatMap_joinTexts fun _ _ => rfl, ← plainTexts_eq, plainTexts_joined]

theorem definition_joined (node : Node) :
    node.joined.definition = node.definition.map fun note => (note.1, note.2.map joined) := by
  cases node with
  | footnoteDefinition identifier content => simp [joined_footnoteDefinition, definition]
  | _ => rfl

theorem footnotes_joined (node : Node) :
    node.joined.footnotes = node.footnotes.map fun note => (note.1, note.2.map joined) := by
  induction node using induction_below with
  | step node ih =>
    have below : (node.children.map joined).flatMap footnotes =
        (node.children.flatMap footnotes).map fun note => (note.1, note.2.map joined) := by
      rw [List.flatMap_map, List.map_flatMap]
      exact List.flatMap_congr fun child member => (ih child member).here
    have additive (first second : Text) :
        (text (first ++ second)).footnotes = (text first).footnotes ++ (text second).footnotes := rfl
    rw [footnotes_eq, footnotes_eq node, definition_joined, flatMap_children_joined additive, below, List.map_append,
      Option.toList_map]

end Adocify.Node

namespace Adocify.DocumentStructure

open Node (joinedLine)

/-- The same decision about the joined document. -/
def joined (decision : DocumentStructure) : DocumentStructure :=
  ⟨decision.prologue.map Node.joined, decision.title.map joinedLine, decision.body.map Node.joined, decision.partCount⟩

theorem ofChildren_joined (nodes : List Node) (titleGiven : Bool) :
    ofChildren (nodes.map Node.joined) titleGiven = (ofChildren nodes titleGiven).joined := by
  have comment : (fun node : Node => node.isComment) ∘ Node.joined = fun node => node.isComment := by
    funext node
    cases node <;> rfl
  have part : (fun node : Node => node.isPart) ∘ Node.joined = fun node => node.isPart := by
    funext node
    cases node <;> rfl
  simp only [ofChildren, joined, List.takeWhile_map, List.dropWhile_map, List.countP_map, comment, part]
  cases nodes.dropWhile fun node => node.isComment with
  | nil => rfl
  | cons first body =>
    cases first with
    | heading level content =>
      by_cases top : level.toInt = 1
      · simp [Node.joined_heading, top]
      · simp [Node.joined_heading, top]
    | _ => rfl

end Adocify.DocumentStructure

namespace Adocify.FootnoteTable

def joined (table : FootnoteTable) : FootnoteTable := table.map fun note => (note.1, note.2.map Node.joined)

variable {table : FootnoteTable}

theorem lookup_joined (identifier : Text) :
    table.joined.lookup identifier = (table.lookup identifier).map (·.map Node.joined) := by
  induction table with
  | nil => rfl
  | cons note rest ih =>
    obtain ⟨name, content⟩ := note
    simp only [joined, List.map_cons, List.lookup_cons] at ih ⊢
    split
    · rfl
    · exact ih

theorem add_joined (note : Text × List Node) :
    table.joined.add (note.1, note.2.map Node.joined) = (table.add note).joined := by
  simp only [add, lookup_joined, Option.isSome_map]
  split
  · rfl
  · simp [joined]

theorem collect_joined (node : Node) : table.joined.collect node.joined = (table.collect node).joined := by
  simp only [collect, Node.footnotes_joined]
  generalize node.footnotes = notes
  induction notes generalizing table with
  | nil => rfl
  | cons note rest ih => rw [List.map_cons, List.foldl_cons, add_joined, ih, List.foldl_cons]

end Adocify.FootnoteTable

namespace Adocify.AsciiDoc

open Node (joined joinedLine joinTexts attach attach_shape attach_ne_nil)

section

variable {nodes content : List Node} {node : Node}

theorem isTag_joined (name : String) (node : Node) : isTag name node.joined = isTag name node := by
  cases node <;> rfl

theorem isPlus_joined (node : Node) : isPlus node.joined = isPlus node := by
  cases node <;> rfl

theorem markOf_joined (node : Node) : markOf node.joined = markOf node := by
  cases node <;> rfl

theorem isList_joined (node : Node) : isList node.joined = isList node := by
  cases node <;> rfl

theorem takeKey_joined (nodes : List Node) : takeKey joined nodes = takeKey id nodes := by
  cases nodes with
  | nil => rfl
  | cons node rest => simp only [takeKey, isTag_joined, Node.plainTexts_joined, id_eq, List.map_id]

theorem afterPlus_joined (nodes : List Node) : afterPlus joined nodes = afterPlus id nodes := by
  match nodes with
  | [] | [_] => rfl
  | plus :: next :: rest => simp only [afterPlus, isTag_joined, isPlus_joined, id_eq]

theorem takeKeysWithin_joined (limit : Nat) (nodes : List Node) :
    takeKeysWithin joined limit nodes = takeKeysWithin id limit nodes := by
  induction limit generalizing nodes with
  | zero => rfl
  | succ limit ih => simp only [takeKeysWithin, takeKey_joined, afterPlus_joined, ih]

/-- Key combinations end where they did. -/
theorem takeKeys_joined {keys : List Text} {after : List Node} (taken : takeKeys id nodes = (keys, after)) :
    takeKeys id (nodes.map joined) = (keys, after.map joined) := by
  have same := takeKeysWithin_map joined id nodes.length nodes
  rw [Function.id_comp, takeKeysWithin_joined, ← takeKeys, taken] at same
  rw [takeKeys, List.length_map, same]

/-- Without comments, merging joins what is read with what is pending, and does nothing else. -/
theorem mergeFrom_joins {pending : Option Text}
    (shown : ∀ text, .htmlInline text ∈ content → isInlineComment text = false) :
    mergeFrom id .text pending false content = joinTexts ((pending.map Node.text).toList ++ content) := by
  induction content generalizing pending with
  | nil => cases pending <;> rfl
  | cons node rest ih =>
    have later {pending : Option Text} := @ih pending fun text member => shown text (.tail _ member)
    have passed (solid : ∀ others, attach node others = node :: others) :
        (pending.map Node.text).toList ++ node :: mergeFrom id .text none false rest =
          joinTexts ((pending.map Node.text).toList ++ node :: rest) := by
      rw [later]
      cases pending with
      | none => exact (solid _).symm
      | some before =>
        change .text before :: node :: joinTexts rest = attach (.text before) (attach node (joinTexts rest))
        rw [solid]
        rcases attach_shape (.text before) (node :: joinTexts rest) with same | ⟨_, more, others, -, first, -⟩
        · exact same.symm
        · -- A text in front of a text would not be left by itself.
          obtain ⟨rfl, -⟩ := List.cons.inj first
          exact absurd (congrArg List.length (solid [.text []])) (by simp [attach])
    cases node with
    | text text =>
      cases pending with
      | none => exact later
      | some before =>
        change mergeFrom id .text (some (before ++ text)) false rest =
          attach (.text before) (attach (.text text) (joinTexts rest))
        rw [later, Node.attach_attach]
        rfl
    | htmlInline text =>
      simp only [mergeFrom, id_eq, shown text List.mem_cons_self, Bool.false_eq_true, if_false]
      exact passed fun _ => rfl
    | _ => exact passed fun _ => rfl

theorem lastBlock?_joined (node : Node) : lastBlock? node.joined = (lastBlock? node).map joined := by
  cases node with
  | list ordered items start tight =>
    simp only [Node.joined_list, lastBlock?, List.getLast?_map]
    cases items.getLast? with
    | none => rfl
    | some item =>
      cases item with
      | listItem blocks taskStatus => simp only [Option.map_some, Node.joined_listItem, List.getLast?_map]
      | _ => rfl
  | _ => rfl

theorem lastBlock?_below {block : Node} (last : lastBlock? node = some block) :
    ∃ item ∈ node.children, block ∈ item.children := by
  cases node with
  | list ordered items start tight =>
    simp only [lastBlock?] at last
    split at last
    next blocks taskStatus ended =>
      exact ⟨_, List.mem_of_getLast? ended, List.mem_of_getLast? last⟩
    next => cases last
  | _ => cases last

theorem trailingDepth_joined (node : Node) : trailingDepth node.joined = trailingDepth node := by
  induction node using Node.induction_below with
  | step node ih =>
    cases list : isList node with
    | false => rw [trailingDepth_block list, trailingDepth_block ((isList_joined node).trans list)]
    | true =>
      rw [trailingDepth_list list, trailingDepth_list ((isList_joined node).trans list), lastBlock?_joined]
      cases last : lastBlock? node with
      | none => rfl
      | some block =>
        obtain ⟨item, member, inside⟩ := lastBlock?_below last
        have same : trailingDepth block.joined = trailingDepth block := ((ih item member).child inside).here
        simp only [Option.map_some, Option.getD_some, same]

theorem rowSpan_joined (cells : List Node) : rowSpan (cells.map joined) = rowSpan cells := by
  induction cells with
  | nil => rfl
  | cons cell rest ih =>
    cases cell with
    | tableCell content span alignment => simp only [List.map_cons, Node.joined_tableCell, rowSpan, ih]
    | _ => rfl

theorem rowSpans_joined (rows : List Node) : rowSpans (rows.map joined) = rowSpans rows := by
  induction rows with
  | nil => rfl
  | cons row rest ih =>
    cases row with
    | tableRow cells => simp only [List.map_cons, Node.joined_tableRow, rowSpans, rowSpan_joined, ih]
    | _ => rfl

theorem tableWidth_joined (rows : List Node) : tableWidth (rows.map joined) = tableWidth rows := by
  rw [tableWidth, tableWidth, rowSpans_joined]

theorem idLine_joined (options : Options) (content : List Node) :
    idLine options (joinedLine content) = idLine options content := by
  have words : titleWords (joinedLine content) = titleWords content := by
    rw [titleWords, titleWords, Node.plainTexts_joinedLine]
  have generated : defaultId (joinedLine content) = defaultId content := by rw [defaultId, defaultId, words]
  have wanted : sectionId? options (joinedLine content) = sectionId? options content := by
    rw [sectionId?, sectionId?, words]
  rw [idLine, idLine, wanted, generated]

theorem onlyText_text {rest : List Node} (some : rest ≠ []) (text : Text) :
    onlyText (.text text :: rest) = (onlyText rest).map (text ++ ·) := by
  obtain ⟨next, others, rfl⟩ := List.exists_cons_of_ne_nil some
  rfl

theorem onlyText_attach (node : Node) (rest : List Node) : onlyText (attach node rest) = onlyText (node :: rest) := by
  rcases attach_shape node rest with same | ⟨content, more, others, rfl, rfl, same⟩
  · rw [same]
  · rw [same]
    cases others with
    | nil => rfl
    | cons next others =>
      simp only [onlyText, Option.map_map]
      congr 1
      funext text
      exact List.append_assoc ..

theorem onlyText_joined (content : List Node) : onlyText (joinedLine content) = onlyText content := by
  induction content with
  | nil => rfl
  | cons node rest ih =>
    rw [joinedLine, List.map_cons, Node.joinTexts_cons, onlyText_attach]
    cases node with
    | text content =>
      cases rest with
      | nil => rfl
      | cons next rest =>
        have several : joinedLine (next :: rest) ≠ [] := attach_ne_nil _ _
        change onlyText (.text content :: joinedLine (next :: rest)) = _
        rw [onlyText_text several, onlyText_text (List.cons_ne_nil next rest), ih]
    | _ => rfl

theorem menuPath_joined (content : List Node) : menuPath (joinedLine content) = menuPath content := by
  rw [menuPath, menuPath, onlyText_joined]

/-- Of several elements several are left, unless they are texts. -/
theorem joinedLine_several (first second : Node) (rest : List Node) :
    (∃ above next below, joinedLine (first :: second :: rest) = above :: next :: below) ∨
      ∃ text, joinedLine (first :: second :: rest) = [.text text] := by
  obtain ⟨next, below, more⟩ := List.exists_cons_of_ne_nil (attach_ne_nil second.joined (joinedLine rest))
  have line : joinedLine (first :: second :: rest) = attach first.joined (next :: below) := by
    rw [← more]
    rfl
  rcases attach_shape first.joined (next :: below) with same | ⟨text, more, others, -, -, same⟩
  · exact .inl ⟨_, _, _, line.trans same⟩
  · cases others with
    | nil => exact .inr ⟨_, line.trans same⟩
    | cons last others => exact .inl ⟨_, _, _, line.trans same⟩

theorem blockImage?_several (first second : Node) (rest : List Node) :
    blockImage? (first :: second :: rest) = none := by
  cases first <;> simp only [blockImage?]

theorem blockImage?_linked (url : Text) (first second : Node) (rest : List Node) (title : Option Text) :
    blockImage? [.link url (first :: second :: rest) title] = none := by
  cases first <;> simp only [blockImage?]

/-- Only an image by itself becomes a block, and it has no texts to join. -/
theorem blockImage?_joined (content : List Node) : blockImage? (joinedLine content) = blockImage? content := by
  match content with
  | [] => rfl
  | first :: second :: rest =>
    rw [blockImage?_several]
    rcases joinedLine_several first second rest with ⟨above, next, below, same⟩ | ⟨text, same⟩
    · rw [same, blockImage?_several]
    · rw [same]
      rfl
  | [node] =>
    cases node with
    | link url content title =>
      change blockImage? [.link url (joinTexts (Node.joinedAll content)) title] = _
      rw [Node.joinedLine_eq]
      match content with
      | [] => rfl
      | first :: second :: rest =>
        rw [blockImage?_linked]
        rcases joinedLine_several first second rest with ⟨above, next, below, same⟩ | ⟨text, same⟩
        · rw [same, blockImage?_linked]
        · rw [same]
          rfl
      | [node] => cases node <;> rfl
    | _ => rfl

def opensStrong : List Node → Bool
  | .strong _ :: _ => true
  | _ => false

theorem opensStrong_joined (content : List Node) : opensStrong (joinedLine content) = opensStrong content := by
  cases content with
  | nil => rfl
  | cons node rest =>
    change opensStrong (attach node.joined (joinedLine rest)) = _
    cases node with
    | text content =>
      rcases attach_shape (.text content) (joinedLine rest) with same | ⟨_, more, others, -, -, same⟩ <;>
        exact (congrArg opensStrong same).trans rfl
    | _ => rfl

theorem splitAdmonition_apart (apart : opensStrong content = false) : splitAdmonition id .text content = none := by
  match content with
  | [] | [_] => rfl
  | first :: second :: rest =>
    cases first with
    | strong marked => cases apart
    | _ => rfl

end

end Adocify.AsciiDoc
