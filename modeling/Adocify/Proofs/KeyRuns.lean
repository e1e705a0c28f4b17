import Adocify.Proofs.KeyCombinations
import Adocify.Proofs.SpanMarks

/-! How much of a line a key combination takes up. It is made of keys, each with its own tags, and of single plus signs
between them. One plus sign more is lost with it, where the tag behind that sign is never closed. -/

namespace Adocify.AsciiDoc

/-- An opening tag and all up to the next closing one, with the label of the key. -/
inductive KeyGroup : List Node → Text → Prop where
  | closed {opening closing : Node} {inner : List Node} (opens : isTag "kbd" opening = true)
      (closes : isTag "/kbd" closing = true) (first : ∀ node ∈ inner, isTag "/kbd" node = false) :
      KeyGroup (opening :: (inner ++ [closing])) (Text.strip (Node.plainTexts inner))

/-- Keys with one plus sign between neighbours, and nothing before the first or behind the last. -/
inductive KeyRun : List Node → List Text → Prop where
  | key {group : List Node} {label : Text} (here : KeyGroup group label) : KeyRun group [label]
  | joined {group others : List Node} {label : Text} {labels : List Text} {sign : Node} (here : KeyGroup group label)
      (plus : isPlus sign = true) (later : KeyRun others labels) : KeyRun (group ++ sign :: others) (label :: labels)

/-- The line goes on with an opening tag that nothing closes. -/
def OpensUnclosed (nodes : List Node) : Prop :=
  ∃ opening inner, nodes = opening :: inner ∧ isTag "kbd" opening = true ∧ ∀ node ∈ inner, isTag "/kbd" node = false

/-- What is read of a line with a combination: the combination alone, unless a plus sign behind it announces a key that
does not follow. -/
inductive RunTaken (rest : List Node) : List Node → List Text → Prop where
  | exact {run : List Node} {keys : List Text} (keyed : KeyRun run keys) : RunTaken rest run keys
  | signed {run : List Node} {keys : List Text} {sign : Node} (keyed : KeyRun run keys) (plus : isPlus sign = true)
      (unclosed : OpensUnclosed rest) : RunTaken rest (run ++ [sign]) keys

/-- The pieces of a line beside what they show: an element each outside combinations, and all that is read with one.
The contexts are those before and behind the rendering of these pieces. -/
inductive LineShown (stage : Stage) : Context → List Node → List Piece → Context → Prop where
  | none {context : Context} : LineShown stage context [] [] context
  | element {before between left : Context} {node : Node} {nodes : List Node} {text : Text} {pieces : List Piece}
      (ran : (stage.child node).rendered.runIn before = (.ok text, between))
      (others : LineShown stage between nodes pieces left) :
      LineShown stage before (node :: nodes) (⟨markOf node, text⟩ :: pieces) left
  | keys {before between left : Context} {taken rest : List Node} {keys : List Text} {pieces : List Piece}
      (combined : RunTaken rest taken keys)
      (ran : (Render.register experimental (.text [])).runIn before = (.ok (), between))
      (others : LineShown stage between rest pieces left) :
      LineShown stage before (taken ++ rest) (⟨Option.none, keyboardMacro keys⟩ :: pieces) left

section

variable {items rest inner after : List Node} {opening closing : Node} {label : Text} {keys : List Text}

theorem takeKey_closed (opens : isTag "kbd" opening = true) (closes : isTag "/kbd" closing = true)
    (first : ∀ node ∈ inner, isTag "/kbd" node = false) :
    takeKey id (opening :: (inner ++ closing :: after)) = some (Text.strip (Node.plainTexts inner), after) := by
  have inside : (inner ++ closing :: after).takeWhile (fun other => !isTag "/kbd" other) = inner := by
    rw [List.takeWhile_append_of_pos fun node member => by simp [first node member],
      List.takeWhile_cons_of_neg (by simp [closes]), List.append_nil]
  simp [takeKey, opens, inside]

theorem takeKey_unclosed (unclosed : ∀ node ∈ items, isTag "/kbd" node = false) :
    takeKey id (opening :: items) = none := by
  have whole : items.takeWhile (fun other => !isTag "/kbd" other) = items :=
    List.takeWhile_eq_self_iff.mpr fun node member => by simp [unclosed node member]
  simp [takeKey, whole]

theorem takeKey_iff :
    takeKey id items = some (label, rest) ↔ ∃ group, items = group ++ rest ∧ KeyGroup group label := by
  constructor
  · intro taken
    rcases items with _ | ⟨opening, below⟩
    · cases taken
    cases opens : isTag "kbd" opening with
    | false => simp [takeKey, opens] at taken
    | true =>
      cases found : below.find? (isTag "/kbd") with
      | none =>
        rw [takeKey_unclosed (by simpa using found)] at taken
        cases taken
      | some closing =>
        obtain ⟨closes, inner, after, rfl, first⟩ := List.find?_eq_some_iff_append.mp found
        have first : ∀ node ∈ inner, isTag "/kbd" node = false := by simpa using first
        rw [takeKey_closed opens closes first] at taken
        cases taken
        exact ⟨_, by simp, .closed opens closes first⟩
  · rintro ⟨_, rfl, ⟨opens, closes, first⟩⟩
    rw [List.cons_append, List.append_assoc, List.singleton_append]
    exact takeKey_closed opens closes first

/-- An opening tag that begins no key is never closed. -/
theorem unclosed_of_takeKey (opens : isTag "kbd" opening = true) (none : takeKey id (opening :: items) = none) :
    ∀ node ∈ items, isTag "/kbd" node = false := by
  intro node member
  by_contra closes
  rw [Bool.not_eq_false] at closes
  obtain ⟨closing, found⟩ := Option.isSome_iff_exists.mp (List.find?_isSome.mpr ⟨node, member, closes⟩)
  obtain ⟨closes, inner, after, rfl, first⟩ := List.find?_eq_some_iff_append.mp found
  rw [takeKey_closed opens closes (by simpa using first)] at none
  cases none

theorem afterPlus_iff {next : List Node} :
    afterPlus id items = some next ↔ ∃ sign opening inner, items = sign :: next ∧ next = opening :: inner ∧
      isPlus sign = true ∧ isTag "kbd" opening = true := by
  constructor
  · intro found
    match items, found with
    | sign :: opening :: inner, found =>
      simp only [afterPlus, id_eq] at found
      split at found
      next both =>
        cases found
        rw [Bool.and_eq_true] at both
        exact ⟨sign, opening, inner, rfl, rfl, both⟩
      next => cases found
  · rintro ⟨sign, opening, inner, rfl, rfl, plus, opens⟩
    simp [afterPlus, plus, opens]

theorem takeKeysWithin_nil {limit : Nat} (enough : items.length ≤ limit)
    (taken : takeKeysWithin id limit items = ([], rest)) : takeKey id items = none ∧ rest = items := by
  cases limit with
  | zero =>
    cases taken
    rw [List.length_eq_zero_iff.mp (Nat.le_zero.mp enough)]
    exact ⟨rfl, rfl⟩
  | succ limit =>
    simp only [takeKeysWithin] at taken
    cases first : takeKey id items with
    | none =>
      rw [first] at taken
      cases taken
      exact ⟨rfl, rfl⟩
    | some found =>
      obtain ⟨label, after⟩ := found
      rw [first] at taken
      cases plus : afterPlus id after <;> simp [plus] at taken

theorem RunTaken.behind {group slice : List Node} {sign : Node} (here : KeyGroup group label)
    (plus : isPlus sign = true) (taken : RunTaken rest slice keys) : RunTaken rest (group ++ sign :: slice) (label :: keys) := by
  cases taken with
  | exact keyed => exact .exact (.joined here plus keyed)
  | signed keyed last unclosed =>
    rw [← List.cons_append, ← List.append_assoc]
    exact .signed (.joined here plus keyed) last unclosed

theorem takeKeysWithin_taken {limit : Nat} (enough : items.length ≤ limit) (some : keys ≠ [])
    (taken : takeKeysWithin id limit items = (keys, rest)) :
    ∃ slice, items = slice ++ rest ∧ RunTaken rest slice keys := by
  induction limit generalizing items keys with
  | zero =>
    cases taken
    exact absurd rfl some
  | succ limit ih =>
    simp only [takeKeysWithin] at taken
    cases first : takeKey id items with
    | none =>
      rw [first] at taken
      cases taken
      exact absurd rfl some
    | some found =>
      obtain ⟨label, after⟩ := found
      obtain ⟨group, rfl, here⟩ := takeKey_iff.mp first
      rw [first] at taken
      simp only at taken
      cases plus : afterPlus id after with
      | none =>
        rw [plus] at taken
        cases taken
        exact ⟨group, rfl, .exact (.key here)⟩
      | some next =>
        rw [plus] at taken
        obtain ⟨sign, opening, inner, rfl, rfl, plus, opens⟩ := afterPlus_iff.mp plus
        have enough : (opening :: inner).length ≤ limit := by
          simp only [List.length_append, List.length_cons] at enough ⊢
          omega
        rcases later : takeKeysWithin id limit (opening :: inner) with ⟨_ | ⟨second, others⟩, left⟩
        · obtain ⟨none, rfl⟩ := takeKeysWithin_nil enough later
          simp only [later] at taken
          cases taken
          exact ⟨group ++ [sign], by simp, .signed (.key here) plus ⟨opening, inner, rfl, opens, unclosed_of_takeKey opens none⟩⟩
        · simp only [later] at taken
          cases taken
          obtain ⟨slice, split, read⟩ := ih enough (List.cons_ne_nil _ _) later
          exact ⟨group ++ sign :: slice, by simp [split], read.behind here plus⟩

theorem KeyRun.filled {run : List Node} (keyed : KeyRun run keys) : run ≠ [] := by
  have group {nodes : List Node} {label : Text} (here : KeyGroup nodes label) : nodes ≠ [] := by
    cases here
    exact List.cons_ne_nil _ _
  cases keyed with
  | key here => exact group here
  | joined here => exact List.append_ne_nil_of_left_ne_nil (group here) _

theorem KeyRun.closed {run : List Node} (keyed : KeyRun run keys) :
    ∃ front closing, run = front ++ [closing] ∧ isTag "/kbd" closing = true := by
  induction keyed with
  | key here =>
    cases here with
    | closed opens closes first => exact ⟨_ :: _, _, rfl, closes⟩
  | @joined group others _ _ sign here plus later ih =>
    obtain ⟨front, closing, rfl, closes⟩ := ih
    exact ⟨group ++ sign :: front, closing, by simp, closes⟩

/-- A combination ends with a tag, never with a text. -/
theorem not_keyRun_text {run : List Node} {content : Text} : ¬KeyRun (run ++ [.text content]) keys := by
  intro keyed
  obtain ⟨front, closing, ended, closes⟩ := keyed.closed
  obtain ⟨-, same⟩ := List.append_inj' ended rfl
  obtain ⟨rfl, -⟩ := List.cons.inj same
  cases closes

theorem RunTaken.filled {slice : List Node} (taken : RunTaken rest slice keys) : slice ≠ [] := by
  cases taken with
  | exact keyed => exact keyed.filled
  | signed keyed => exact List.append_ne_nil_of_left_ne_nil keyed.filled _

theorem takeKeys_taken (some : keys ≠ []) (taken : takeKeys id items = (keys, rest)) :
    ∃ slice, items = slice ++ rest ∧ RunTaken rest slice keys :=
  takeKeysWithin_taken le_rfl some taken

/-- Of the element before which a combination is sought, some is read with every one that is found. -/
theorem takeKeys_behind {node : Node} (some : keys ≠ []) (taken : takeKeys id (node :: items) = (keys, rest)) :
    ∃ passed, items = passed ++ rest ∧ RunTaken rest (node :: passed) keys := by
  obtain ⟨slice, split, read⟩ := takeKeys_taken some taken
  obtain ⟨first, passed, rfl⟩ := List.exists_cons_of_ne_nil read.filled
  obtain ⟨rfl, rfl⟩ := List.cons.inj split
  exact ⟨passed, rfl, read⟩

end

namespace Stage

variable {stage : Stage} {nodes : List Node} {before left : Context} {pieces : List Piece}

theorem piecesFrom_shown {skip : Nat} (ran : (piecesFrom skip (nodes.map stage.child)).runIn before = (.ok pieces, left)) :
    LineShown stage before (nodes.drop skip) pieces left := by
  fun_induction outsideKeys skip nodes generalizing before left pieces with
  | case1 skip =>
    have ended : (return [] : Render (List Piece)).runIn before = (.ok pieces, left) := by
      cases skip <;> exact ran
    obtain ⟨rfl, rfl⟩ := Render.runIn_pure_ok.mp ended
    rw [List.drop_nil]
    exact .none
  | case2 skip node rest ih => exact ih ran
  | case3 node rest after taken ih =>
    obtain ⟨text, between, others, here, there, rfl⟩ := piecesFrom_element_ok taken ran
    exact .element here (ih there)
  | case4 node rest keys after some taken ih =>
    obtain ⟨between, others, here, there, rfl⟩ := piecesFrom_keys_ok (fun none => some none) taken ran
    obtain ⟨passed, rfl, read⟩ := takeKeys_behind (fun none => some none) taken
    have shown := ih there
    rw [List.length_append, Nat.add_sub_cancel, List.drop_left] at shown
    exact .keys read here shown

end Stage

/-- Of a line with combinations these take up the keys they have, the signs between them, and at most one sign more;
every other element is shown. -/
theorem key_runs_taken (options : Options) (depth : Nat) (content : List Node) :
    (∀ start keys rest, takeKeys id (content.drop start) = (keys, rest) → keys ≠ [] →
      ∃ stop, start < stop ∧ stop ≤ content.length ∧ rest = content.drop stop ∧
        RunTaken rest (content.extract start stop) keys) ∧
    ∀ before text left,
      (inlineContent options (renderChildren options (renderFootnote options depth) content)).runIn before =
        (.ok text, left) →
      ∃ reported pieces,
        (reportDroppedComments (renderChildren options (renderFootnote options depth) content)).runIn before =
          (.ok (), reported) ∧
        LineShown (.plain options depth) reported (mergeTexts id .text content) pieces left ∧
        text = (doubleMarks none pieces).flatten := by
  constructor
  · intro start keys rest taken some
    obtain ⟨slice, split, read⟩ := takeKeys_taken some taken
    have long : 0 < slice.length := List.length_pos_of_ne_nil read.filled
    have whole : content.length - start = slice.length + rest.length := by
      rw [← List.length_drop, split, List.length_append]
    refine ⟨start + slice.length, by omega, by omega, ?_, ?_⟩
    · rw [← List.drop_drop, split, List.drop_left]
    · rwa [List.extract_eq_take_drop, Nat.add_sub_cancel_left, split, List.take_left]
  · intro before text left ran
    have children : renderChildren options (renderFootnote options depth) content =
        content.map (Stage.plain options depth).child := Stage.renderChildren_eq (.plain options depth) content
    rw [inlineContent_eq, children] at ran
    obtain ⟨pieces, last, line, ran⟩ := Render.runIn_bind_ok.mp ran
    obtain ⟨rfl, rfl⟩ := Render.runIn_pure_ok.mp ran
    obtain ⟨_, reported, told, ran⟩ := Render.runIn_bind_ok.mp line
    rw [← children] at told
    change (piecesFrom 0 (mergeTexts (·.node) (Child.ofText (Stage.plain options depth).options) _)).runIn _ = _ at ran
    rw [Stage.mergeTexts_children] at ran
    exact ⟨reported, pieces, told, Stage.piecesFrom_shown ran, rfl⟩

def keyTag (content : Text) : List Node :=
  [.htmlInline "<kbd>".toList, .text content, .htmlInline "</kbd>".toList]

/-- The line reads press A+B. -/
theorem key_runs_taken_pair :
    let line : List Node := .text "press ".toList :: (keyTag ['A'] ++ .text ['+'] :: keyTag ['B'])
    ∃ text left, (inlineContent {} (renderChildren {} (renderFootnote {} 0) line)).runIn { attributes := [] } =
        (.ok text, left) ∧ text = "press kbd:[A+B]".toList ∧
      takeKeys id (line.drop 1) = ([['A'], ['B']], []) ∧
      (∃ stop, 1 < stop ∧ stop ≤ line.length ∧ [] = line.drop stop ∧ RunTaken [] (line.extract 1 stop) [['A'], ['B']]) ∧
      ∃ pieces, text = (doubleMarks none pieces).flatten := by
  intro line
  have ran : ∃ left, (inlineContent {} (renderChildren {} (renderFootnote {} 0) line)).runIn { attributes := [] } =
      (.ok "press kbd:[A+B]".toList, left) := ⟨_, rfl⟩
  obtain ⟨left, ran⟩ := ran
  have taken : takeKeys id (line.drop 1) = ([['A'], ['B']], []) := rfl
  obtain ⟨consumed, shown⟩ := key_runs_taken {} 0 line
  obtain ⟨reported, pieces, -, -, whole⟩ := shown _ _ _ ran
  exact ⟨_, left, ran, rfl, taken, consumed 1 _ _ taken (List.cons_ne_nil _ _), pieces, whole⟩

/-- The sign behind a key is lost if the tag behind it is never closed. -/
theorem unclosed_key_takes_sign :
    let line : List Node := keyTag ['A'] ++ [.text ['+'], .htmlInline "<kbd>".toList, .text ['B']]
    takeKeys id (line.drop 0) = ([['A']], line.drop 4) ∧ ¬KeyRun (line.extract 0 4) [['A']] ∧
      (render { dropHtml := true } [] (.document [.paragraph line])).outcome =
        .ok ":experimental:\n\nkbd:[A]B\n".toList := by
  intro line
  have slice : line.extract 0 4 = keyTag ['A'] ++ [.text ['+']] := rfl
  exact ⟨rfl, slice ▸ not_keyRun_text, by decide +kernel⟩

end Adocify.AsciiDoc
