import Adocify.Proofs.CourseInline
import Adocify.Proofs.UnbrokenTexts

/-! Line breaks in rendered lines. What an element itself is made of brings none into its line, as long as its own
texts have none; those that are there come from the breaks among the elements. -/

namespace Adocify

namespace Node

/-- An inline element whose own texts have no line break in them. -/
def IsStraight : Node → Prop
  | .text content | .code content | .htmlInline content => '\n' ∉ content
  | .image url alternative title => '\n' ∉ url ∧ '\n' ∉ alternative ∧ ∀ words ∈ title, '\n' ∉ words
  | .link url _ title => '\n' ∉ url ∧ ∀ words ∈ title, '\n' ∉ words
  | .footnoteReference identifier => '\n' ∉ identifier
  | .emphasis _ | .strong _ | .strikethrough _ | .lineBreak _ => True
  | _ => False

abbrev Straight : Node → Prop := Everywhere IsStraight

theorem plainTexts_single {nodes : List Node} (single : ∀ node ∈ nodes, '\n' ∉ node.plainText) :
    '\n' ∉ plainTexts nodes := by
  induction nodes with
  | nil => exact List.not_mem_nil
  | cons node rest ih =>
    obtain ⟨here, later⟩ := List.forall_mem_cons.mp single
    simpa [plainTexts] using ⟨here, ih later⟩

theorem Straight.plainText {node : Node} (straight : node.Straight) : '\n' ∉ node.plainText := by
  induction node using induction_below with
  | step node ih =>
    have below {content : List Node} (own : node.children = content) : '\n' ∉ plainTexts content := by
      apply plainTexts_single
      intro child member
      rw [← own] at member
      exact (ih child member).here (straight.child member)
    have here := straight.here
    cases node with
    | emphasis | strong | strikethrough | link => exact below rfl
    | text | code => exact here
    | image => exact here.2.1
    | lineBreak => simp [Node.plainText]
    | htmlInline | footnoteReference => exact List.not_mem_nil
    | _ => exact here.elim

end Node

open Node (Straight)

namespace AsciiDoc

variable {options : Options} {node : Node} {content nodes : List Node} {text : Text}

/-- The element is a line break that is kept. -/
def IsBreak (options : Options) : Node → Prop
  | .lineBreak soft => soft = false ∨ options.wrap = .preserve
  | .htmlInline content => isBreakTag (Text.strip content)
  | _ => False

/-- The element breaks its line: it is a line break, or holds one in a part that is shown. -/
inductive BreaksLine (options : Options) : Node → Prop where
  | here {node : Node} : IsBreak options node → BreaksLine options node
  | inside {node part : Node} : ¬WrittenBare node → part ∈ partsOf node → BreaksLine options part →
    BreaksLine options node

/-- The content does not come to a single line. -/
def BreaksWithin (options : Options) (content : List Node) : Prop :=
  ∃ part ∈ inlineParts content, BreaksLine options part

theorem breaksLine_iff :
    BreaksLine options node ↔
      IsBreak options node ∨ ¬WrittenBare node ∧ ∃ part ∈ partsOf node, BreaksLine options part := by
  constructor
  · intro breaks
    cases breaks with
    | here own => exact .inl own
    | inside shown member part => exact .inr ⟨shown, _, member, part⟩
  · rintro (own | ⟨shown, part, member, breaks⟩)
    · exact .here own
    · exact .inside shown member breaks

theorem breaksLine_leaf (leaf : partsOf node = []) : BreaksLine options node ↔ IsBreak options node := by
  rw [breaksLine_iff, leaf]
  apply or_iff_left
  rintro ⟨-, part, member, -⟩
  cases member

theorem breaksLine_span (other : ¬IsBreak options node) (shown : ¬WrittenBare node) :
    BreaksLine options node ↔ ∃ part ∈ partsOf node, BreaksLine options part := by
  rw [breaksLine_iff, or_iff_right other, and_iff_right shown]

theorem straight_text : Straight (.text text) ↔ '\n' ∉ text := Node.everywhere_iff.trans (and_iff_left nofun)

theorem mergeFrom_straight {pending : Option Text} {afterComment : Bool} (before : ∀ text ∈ pending, '\n' ∉ text)
    (straight : ∀ node ∈ content, Straight node) :
    ∀ node ∈ mergeFrom id .text pending afterComment content, Straight node := by
  have flushed {pending : Option Text} (before : ∀ text ∈ pending, '\n' ∉ text) :
      ∀ node ∈ (pending.map Node.text).toList, Straight node := by
    intro node member
    obtain ⟨text, own, rfl⟩ := Option.map_eq_some_iff.mp (Option.mem_toList.mp member)
    exact straight_text.mpr (before text own)
  have nothing : ∀ text ∈ (none : Option Text), '\n' ∉ text := by simp
  induction content generalizing pending afterComment with
  | nil => exact flushed before
  | cons item rest ih =>
    obtain ⟨here, later⟩ := List.forall_mem_cons.mp straight
    have passed :
        ∀ node ∈ (pending.map Node.text).toList ++ item :: mergeFrom id .text none false rest, Straight node := by
      intro node member
      rcases List.mem_append.mp member with earlier | member
      · exact flushed before node earlier
      rcases List.mem_cons.mp member with rfl | member
      · exact here
      · exact ih nothing later node member
    cases item with
    | text added =>
      have single := straight_text.mp here
      cases pending with
      | none => exact ih (by simpa using single) later
      | some earlier =>
        have own := before earlier rfl
        apply ih _ later
        intro joined same
        obtain rfl := Option.some.inj same
        intro member
        rcases List.mem_append.mp member with inside | inside
        · exact own inside
        · split at inside
          · exact single ((List.dropWhile_sublist _).subset inside)
          · exact single inside
    | htmlInline raw =>
      simp only [mergeFrom, id_eq]
      split
      · exact ih before later
      · exact passed
    | _ => exact passed

theorem inlineParts_straight (straight : ∀ node ∈ content, Straight node) :
    ∀ node ∈ inlineParts content, Straight node := by
  intro node member
  exact mergeFrom_straight (by simp) straight node (mem_outsideKeys member)

theorem takeKey_single {key : Text} {after : List Node} (plain : ∀ node ∈ nodes, '\n' ∉ node.plainText)
    (taken : takeKey id nodes = some (key, after)) : '\n' ∉ key ∧ ∀ node ∈ after, '\n' ∉ node.plainText := by
  cases nodes with
  | nil => cases taken
  | cons opening rest =>
    have later := (List.forall_mem_cons.mp plain).2
    simp only [takeKey, id_eq, List.map_id_fun] at taken
    split at taken
    · split at taken
      · cases taken
      next closing behind dropped =>
        obtain ⟨rfl, rfl⟩ := Prod.mk.inj (Option.some.inj taken)
        constructor
        · intro member
          apply Node.plainTexts_single _ (Text.mem_of_mem_strip member)
          intro node inside
          exact later node ((List.takeWhile_sublist _).subset inside)
        · intro node member
          apply later node
          apply List.mem_of_mem_drop
          rw [dropped]
          exact .tail _ member
    · cases taken

theorem afterPlus_mem {next : List Node} (found : afterPlus id nodes = some next) (member : node ∈ next) :
    node ∈ nodes := by
  simp only [afterPlus] at found
  split at found
  · split at found
    · obtain rfl := Option.some.inj found
      exact .tail _ member
    · cases found
  · cases found

theorem takeKeysWithin_single {limit : Nat} (plain : ∀ node ∈ nodes, '\n' ∉ node.plainText) :
    ∀ key ∈ (takeKeysWithin id limit nodes).1, '\n' ∉ key := by
  induction limit generalizing nodes with
  | zero => exact List.forall_mem_nil _
  | succ limit ih =>
    simp only [takeKeysWithin]
    split
    · exact List.forall_mem_nil _
    next key after taken =>
      obtain ⟨single, behind⟩ := takeKey_single plain taken
      split
      next =>
        intro other member
        exact List.mem_singleton.mp member ▸ single
      next following found =>
        intro other member
        rcases List.mem_cons.mp member with rfl | later
        · exact single
        · exact ih (fun node inside => behind node (afterPlus_mem found inside)) other later

theorem menuPath_single {menu : Text} {items : List Text} (straight : ∀ node ∈ content, Straight node)
    (found : menuPath content = some (menu, items)) : '\n' ∉ menu ∧ ∀ item ∈ items, '\n' ∉ item := by
  simp only [menuPath] at found
  split at found
  · cases found
  next text only =>
    have plain : '\n' ∉ text := by
      rw [← (onlyText_shape only).2]
      exact Node.plainTexts_single fun node member => (straight node member).plainText
    have each : ∀ name ∈ (Text.splitOn '>' text).map Text.strip, '\n' ∉ name := by
      intro name member broken
      obtain ⟨part, inside, rfl⟩ := List.mem_map.mp member
      exact plain (Text.mem_of_mem_splitOn inside (Text.mem_of_mem_strip broken))
    split at found
    · cases found
    split at found
    next first second rest split =>
      rw [split] at each
      split at found
      · cases found
      · obtain ⟨rfl, rfl⟩ := Prod.mk.inj (Option.some.inj found)
        exact List.forall_mem_cons.mp each
    next => cases found

namespace Stage

variable {stage : Stage} {before left : Context}

/-- The rendered element has a line break in it if and only if it breaks its line. -/
def Accurate (stage : Stage) (node : Node) : Prop :=
  ∀ {before text after}, (stage.child node).rendered.runIn before = (.ok text, after) →
    ('\n' ∈ text ↔ BreaksLine stage.options node)

theorem piecesFrom_breaks {skip : Nat} {pieces : List Piece}
    (accurate : ∀ node ∈ outsideKeys skip nodes, stage.Accurate node)
    (plain : ∀ node ∈ nodes, '\n' ∉ node.plainText)
    (ran : (piecesFrom skip (nodes.map stage.child)).runIn before = (.ok pieces, left)) :
    '\n' ∈ (pieces.map (·.text)).flatten ↔ ∃ node ∈ outsideKeys skip nodes, BreaksLine stage.options node := by
  fun_induction outsideKeys skip nodes generalizing before left pieces with
  | case1 skip =>
    have none : pieces = [] := by
      cases skip <;> exact (Render.runIn_pure_ok.mp ran).1.symm
    simp [none]
  | case2 skip node rest ih => exact ih accurate (List.forall_mem_cons.mp plain).2 ran
  | case3 node rest after taken ih =>
    obtain ⟨first, others⟩ := List.forall_mem_cons.mp accurate
    obtain ⟨text, between, later, here, there, rfl⟩ := piecesFrom_element_ok taken ran
    rw [List.map_cons, List.flatten_cons, List.mem_append, List.exists_mem_cons_iff]
    exact or_congr (first here) (ih others (List.forall_mem_cons.mp plain).2 there)
  | case4 node rest keys after some taken ih =>
    have single : ∀ key ∈ keys, '\n' ∉ key := by
      have all : ∀ key ∈ (takeKeys id (node :: rest)).1, '\n' ∉ key := takeKeysWithin_single plain
      rwa [taken] at all
    obtain ⟨between, later, -, there, rfl⟩ := piecesFrom_keys_ok (fun none => some none) taken ran
    rw [List.map_cons, List.flatten_cons, List.mem_append, or_iff_right (keyboardMacro_single single)]
    exact ih accurate (List.forall_mem_cons.mp plain).2 there

/-- A line comes out broken if and only if one of its parts breaks it. -/
theorem inlineContent_breaks (accurate : ∀ node ∈ inlineParts content, stage.Accurate node)
    (straight : ∀ node ∈ content, Straight node)
    (ran : (inlineContent stage.options (content.map stage.child)).runIn before = (.ok text, left)) :
    '\n' ∈ text ↔ BreaksWithin stage.options content := by
  have plain : ∀ node ∈ mergeTexts id .text content, '\n' ∉ node.plainText := by
    intro node member
    exact (mergeFrom_straight (by simp) straight node member).plainText
  simp only [inlineContent, mergeTexts_children] at ran
  obtain ⟨_, between, -, ran⟩ := Render.runIn_bind_ok.mp ran
  obtain ⟨pieces, last, there, ran⟩ := Render.runIn_bind_ok.mp ran
  obtain ⟨rfl, -⟩ := Render.runIn_pure_ok.mp ran
  rw [newline_doubleMarks]
  exact piecesFrom_breaks accurate plain there

theorem imageTarget_single {url target : Text} (address : '\n' ∉ url)
    (ran : (imageTarget stage.options url).runIn before = (.ok target, left)) : '\n' ∉ target := by
  simp only [imageTarget] at ran
  split at ran
  · obtain ⟨rfl, -⟩ := Render.runIn_pure_ok.mp ran
    exact address
  · split at ran
    · obtain ⟨_, between, -, ran⟩ := Render.runIn_bind_ok.mp ran
      obtain ⟨rfl, -⟩ := Render.runIn_pure_ok.mp ran
      exact fun member => address (List.mem_of_mem_drop member)
    · obtain ⟨rfl, -⟩ := Render.runIn_pure_ok.mp ran
      exact address

theorem image_single {url alternative : Text} {title : Option Text}
    (straight : (Node.image url alternative title).IsStraight)
    (ran : (image stage.options url alternative title).runIn before = (.ok text, left)) : '\n' ∉ text := by
  obtain ⟨address, words, single⟩ := straight
  obtain ⟨target, between, here, ran⟩ := Render.runIn_bind_ok.mp ran
  obtain ⟨rfl, -⟩ := Render.runIn_pure_ok.mp ran
  have told := imageTarget_single address here
  have described : '\n' ∉ escapeMacroText alternative := newline_escapeMacroText.not.mpr words
  split
  next content given =>
    have titled : '\n' ∉ escapeAttributeValue content := by
      rw [newline_escapeAttributeValue]
      exact single content (Option.filter_eq_some_iff.mp given).1
    simp [told, described, titled]
  next => simp [told, described]

theorem htmlInline_breaks {content : Text} (single : '\n' ∉ content)
    (ran : (htmlInline stage.options content).runIn before = (.ok text, left)) :
    '\n' ∈ text ↔ isBreakTag (Text.strip content) = true := by
  simp only [htmlInline] at ran
  split at ran
  next tag =>
    obtain ⟨rfl, -⟩ := Render.runIn_pure_ok.mp ran
    simp [hardBreak, tag]
  next other =>
    have unbroken : '\n' ∉ text := by
      split at ran
      · obtain ⟨_, between, -, ran⟩ := Render.runIn_bind_ok.mp ran
        obtain ⟨rfl, -⟩ := Render.runIn_pure_ok.mp ran
        exact List.not_mem_nil
      split at ran
      · obtain ⟨_, between, -, ran⟩ := Render.runIn_bind_ok.mp ran
        obtain ⟨rfl, -⟩ := Render.runIn_pure_ok.mp ran
        exact List.not_mem_nil
      · obtain ⟨rfl, -⟩ := Render.runIn_pure_ok.mp ran
        simpa using single
    simp [unbroken, other]

/-- Whatever a footnote holds, its text stays within the line of the reference. -/
theorem footnoteReference_single {descend : Text → List Node → Render (List Text)} {identifier : Text}
    (single : '\n' ∉ identifier)
    (ran : (footnoteReference descend identifier).runIn before = (.ok text, left)) : '\n' ∉ text := by
  have bare : '\n' ∉ "footnote:".toList ++ identifier ++ "[]".toList := by simpa using single
  obtain ⟨context, between, -, ran⟩ := Render.runIn_bind_ok.mp ran
  simp only at ran
  split at ran
  · obtain ⟨rfl, -⟩ := Render.runIn_pure_ok.mp ran
    exact bare
  split at ran
  · obtain ⟨_, between, -, ran⟩ := Render.runIn_bind_ok.mp ran
    obtain ⟨rfl, -⟩ := Render.runIn_pure_ok.mp ran
    exact bare
  · obtain ⟨blocks, between, -, ran⟩ := Render.runIn_bind_ok.mp ran
    obtain ⟨_, last, -, ran⟩ := Render.runIn_bind_ok.mp ran
    obtain ⟨rfl, -⟩ := Render.runIn_pure_ok.mp ran
    have flat : '\n' ∉ escapeMacroText (flattened blocks) := newline_escapeMacroText.not.mpr (flattened_single blocks)
    simp [single, flat]

theorem strong_breaks (accurate : ∀ node ∈ inlineParts content, stage.Accurate node)
    (straight : ∀ node ∈ content, Straight node)
    (ran : (strong stage.options content (content.map stage.child)).runIn before = (.ok text, left)) :
    '\n' ∈ text ↔ ∃ part ∈ partsOf (.strong content), BreaksLine stage.options part := by
  simp only [strong] at ran
  cases found : menuPath content with
  | some path =>
    obtain ⟨menu, items⟩ := path
    simp only [found] at ran
    obtain ⟨_, between, -, ran⟩ := Render.runIn_bind_ok.mp ran
    obtain ⟨rfl, -⟩ := Render.runIn_pure_ok.mp ran
    obtain ⟨single, each⟩ := menuPath_single straight found
    have joined : '\n' ∉ escapeMacroText (Text.join " > ".toList items) := by
      rw [newline_escapeMacroText, Text.newline_join (by decide)]
      rintro ⟨item, member, broken⟩
      exact each item member broken
    generalize escapeMacroText (Text.join " > ".toList items) = path at joined ⊢
    simp [partsOf, found, single, joined]
  | none =>
    simp only [found] at ran
    obtain ⟨inner, between, here, ran⟩ := Render.runIn_bind_ok.mp ran
    obtain ⟨rfl, -⟩ := Render.runIn_pure_ok.mp ran
    have within := inlineContent_breaks accurate straight here
    simpa [partsOf, found, BreaksWithin] using within

theorem text_accurate {content : Text} (single : '\n' ∉ content) : stage.Accurate (.text content) := by
  intro before text left ran
  simp only [child, renderNode] at ran
  obtain ⟨rfl, -⟩ := Render.runIn_pure_ok.mp ran
  rw [breaksLine_leaf rfl]
  exact iff_of_false (literalText_single single) id

theorem parts_accurate (straight : ∀ node ∈ content, Straight node)
    (accurate : ∀ node ∈ content, stage.Accurate node) :
    ∀ part ∈ inlineParts content, stage.Accurate part := by
  intro part member
  rcases mem_inlineParts member with ⟨written, rfl⟩ | inside
  · exact text_accurate (straight_text.mp (inlineParts_straight straight _ member))
  · exact accurate part inside

/-- Of every inline element whose own texts are straight the rendering tells the line breaks. -/
theorem straight_accurate {node : Node} (straight : Straight node) : stage.Accurate node := by
  induction node using Node.induction_below with
  | step node ih =>
    have each : ∀ child ∈ node.children, Straight child ∧ stage.Accurate child := by
      intro child member
      have below := straight.child member
      exact ⟨below, (ih child member).here below⟩
    have within (content : List Node) (own : node.children = content) {inner : Text} {before left : Context}
        (ran : (inlineContent stage.options (content.map stage.child)).runIn before = (.ok inner, left)) :
        '\n' ∈ inner ↔ BreaksWithin stage.options content := by
      rw [own] at each
      have straight := fun node member => (each node member).1
      exact inlineContent_breaks (parts_accurate straight fun node member => (each node member).2) straight ran
    intro before text left ran
    have here := straight.here
    cases node with
    | text content => exact text_accurate here ran
    | emphasis content =>
      simp only [child, renderNode, renderChildren_eq] at ran
      obtain ⟨inner, between, line, ran⟩ := Render.runIn_bind_ok.mp ran
      obtain ⟨rfl, -⟩ := Render.runIn_pure_ok.mp ran
      rw [breaksLine_span id id]
      simpa [partsOf, BreaksWithin] using within content rfl line
    | strong content =>
      simp only [child, renderNode, renderChildren_eq] at ran
      have straight : ∀ node ∈ content, Straight node := fun node member => (each node member).1
      have parts := parts_accurate straight fun node member => (each node member).2
      rw [breaksLine_span id id]
      exact strong_breaks parts straight ran
    | strikethrough content =>
      simp only [child, renderNode, renderChildren_eq] at ran
      obtain ⟨inner, between, line, ran⟩ := Render.runIn_bind_ok.mp ran
      obtain ⟨rfl, -⟩ := Render.runIn_pure_ok.mp ran
      rw [breaksLine_span id id]
      simpa [partsOf, BreaksWithin] using within content rfl line
    | link url content title =>
      simp only [child, renderNode, renderChildren_eq] at ran
      obtain ⟨inner, between, line, ran⟩ := Render.runIn_bind_ok.mp ran
      obtain ⟨rfl, -⟩ := Render.runIn_pure_ok.mp ran
      have bare : '\n' ∉ Node.plainTexts content :=
        Node.plainTexts_single fun node member => (each node member).1.plainText
      rw [newline_linkText here.1 here.2 bare, within content rfl line, breaksLine_iff]
      exact (or_iff_right id).symm
    | code content =>
      simp only [child, renderNode] at ran
      obtain ⟨rfl, -⟩ := Render.runIn_pure_ok.mp ran
      rw [breaksLine_leaf rfl]
      exact iff_of_false (code_single here) id
    | image url alternative title =>
      simp only [child, renderNode] at ran
      rw [breaksLine_leaf rfl]
      exact iff_of_false (image_single here ran) id
    | lineBreak soft =>
      simp only [child, renderNode] at ran
      obtain ⟨rfl, -⟩ := Render.runIn_pure_ok.mp ran
      rw [breaksLine_leaf rfl]
      exact newline_lineBreak stage.options soft
    | htmlInline content =>
      simp only [child, renderNode] at ran
      rw [breaksLine_leaf rfl]
      exact htmlInline_breaks here ran
    | footnoteReference identifier =>
      simp only [child, renderNode] at ran
      rw [breaksLine_leaf rfl]
      exact iff_of_false (footnoteReference_single here ran) id
    | _ => exact here.elim

end Stage

end AsciiDoc

end Adocify
