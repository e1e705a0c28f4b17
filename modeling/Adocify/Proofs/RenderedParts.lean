import Adocify.AsciiDoc.Block
import Adocify.Document.Structure
import Adocify.Proofs.TreeContainment

/-! What the rendering of a node renders in turn. The parts of a node stand below it in the tree, except
that neighbouring texts of a line are joined. Parts are not simply the children: a list renders the
contents of its items, and labels, key combinations and footnote definitions are not rendered where they
stand. -/

namespace Adocify.AsciiDoc

/-- The elements of a line outside key combinations. The next `skip` nodes belong to one. -/
def outsideKeys : Nat → List Node → List Node
  | _, [] => []
  | skip + 1, _ :: rest => outsideKeys skip rest
  | 0, node :: rest =>
    match takeKeys id (node :: rest) with
    | ([], _) => node :: outsideKeys 0 rest
    | (_, after) => outsideKeys (rest.length - after.length) rest

def inlineParts (content : List Node) : List Node := outsideKeys 0 (mergeTexts id .text content)

def paragraphParts (content : List Node) : List Node :=
  if (blockImage? content).isSome then []
  else match splitAdmonition id .text content with
    | some (_, remainder) => inlineParts remainder
    | none => inlineParts content

/-- The first paragraph of a list item is rendered as a line, whatever it opens with. -/
def itemContents : Node → List Node
  | .listItem (.paragraph content :: rest) _ => inlineParts content ++ rest
  | .listItem blocks _ => blocks
  | _ => []

/-- The parts of a node in the order in which they are rendered. The leading comments of a document
are left out; nothing but their text depends on them. -/
def partsOf : Node → List Node
  | .document nodes =>
    let decision := DocumentStructure.ofChildren nodes false
    inlineParts (decision.title.getD []) ++ decision.body
  | .heading _ content | .tableCell content _ _ | .definitionTerm content | .emphasis content
  | .strikethrough content | .link _ content _ => inlineParts content
  | .strong content => if (menuPath content).isSome then [] else inlineParts content
  | .paragraph content => paragraphParts content
  | .blockQuote (.paragraph content :: rest) =>
    match splitAdmonition id .text content with
    | some (_, remainder) => paragraphParts remainder ++ rest
    | none => .paragraph content :: rest
  | .blockQuote nodes | .definitionDescription nodes | .tableRow nodes => nodes
  | .list _ items _ _ => items.flatMap itemContents
  | .listItem (.paragraph content :: rest) _ => inlineParts content ++ rest
  | .listItem blocks _ => blocks
  | .table header rows _ _ => header.toList ++ rows
  | .definitionList entries => Node.entryChildren entries
  | _ => []

/-- The addresses of the images that a node writes by itself: it is one, or it shows one as all of a paragraph. -/
def ownImages : Node → List Text
  | .image url _ _ => [url]
  | .paragraph content => ((blockImage? content).map (·.url)).toList
  | .blockQuote (.paragraph content :: _) =>
    match splitAdmonition id .text content with
    | some (_, remainder) => ((blockImage? remainder).map (·.url)).toList
    | none => []
  | _ => []

section

variable {node parent item : Node} {content : List Node}

def IsText (node : Node) : Prop := ∃ content, node = .text content

theorem onlyText_shape {text : Text} (found : onlyText content = some text) :
    (∀ node ∈ content, IsText node) ∧ Node.plainTexts content = text := by
  fun_induction onlyText content generalizing text with
  | case1 => cases found
  | case2 own =>
    obtain rfl := Option.some.inj found
    exact ⟨List.forall_mem_singleton.mpr ⟨own, rfl⟩, by simp [Node.plainTexts, Node.plainText]⟩
  | case3 own rest more ih =>
    obtain ⟨others, behind, rfl⟩ := Option.map_eq_some_iff.mp found
    obtain ⟨texts, plain⟩ := ih behind
    exact ⟨List.forall_mem_cons.mpr ⟨⟨own, rfl⟩, texts⟩, by simp [Node.plainTexts, Node.plainText, plain]⟩
  | case4 => cases found

theorem mem_outsideKeys {skip : Nat} (member : node ∈ outsideKeys skip content) : node ∈ content := by
  fun_induction outsideKeys skip content with
  | case1 => exact member
  | case2 skip first rest ih => exact .tail _ (ih member)
  | case3 first rest after taken ih =>
    rcases List.mem_cons.mp member with rfl | later
    · exact List.mem_cons_self
    · exact .tail _ (ih later)
  | case4 first rest keys after some taken ih => exact .tail _ (ih member)

theorem mem_mergeFrom {pending : Option Text} {afterComment : Bool}
    (member : node ∈ mergeFrom id .text pending afterComment content) : IsText node ∨ node ∈ content := by
  have flushed : ∀ {text : Option Text}, node ∈ (text.map Node.text).toList → IsText node := by
    intro text inside
    obtain ⟨found, -, same⟩ := Option.map_eq_some_iff.mp (Option.mem_toList.mp inside)
    exact ⟨found, same.symm⟩
  induction content generalizing pending afterComment with
  | nil => exact .inl (flushed member)
  | cons item rest ih =>
    have passed : node ∈ (pending.map Node.text).toList ++ item :: mergeFrom id .text none false rest →
        IsText node ∨ node ∈ item :: rest := by
      intro inside
      rcases List.mem_append.mp inside with before | here
      · exact .inl (flushed before)
      rcases List.mem_cons.mp here with rfl | later
      · exact .inr List.mem_cons_self
      · exact (ih later).imp id (.tail _)
    cases item with
    | text added => cases pending <;> exact (ih member).imp id (.tail _)
    | htmlInline raw =>
      simp only [mergeFrom, id_eq] at member
      split at member
      · exact (ih member).imp id (.tail _)
      · exact passed member
    | _ => exact passed member

theorem mem_inlineParts (member : node ∈ inlineParts content) : IsText node ∨ node ∈ content :=
  mem_mergeFrom (mem_outsideKeys member)

/-- An admonition opens with a strong text; what follows it remains, but for a colon and blanks. -/
theorem splitAdmonition_shape {label : Text} {remainder : List Node}
    (split : splitAdmonition id .text content = some (label, remainder)) :
    ∃ marked second rest, content = .strong marked :: second :: rest ∧ (remainder = second :: rest ∨
      IsText second ∧ (remainder = rest ∨ ∃ stripped, remainder = .text stripped :: rest)) := by
  rcases content with _ | ⟨first, _ | ⟨second, rest⟩⟩
  · cases split
  · cases first <;> cases split
  cases first with
  | strong marked =>
    refine ⟨marked, second, rest, rfl, ?_⟩
    simp only [splitAdmonition, id_eq] at split
    split at split
    · split at split
      · cases split
      cases second with
      | text written =>
        obtain ⟨-, rfl⟩ : _ ∧ (if (behindLabel written).isEmpty then rest else .text (behindLabel written) :: rest) =
            remainder := by simpa using split
        refine .inr ⟨⟨written, rfl⟩, ?_⟩
        split
        · exact .inl rfl
        · exact .inr ⟨_, rfl⟩
      | _ =>
        obtain ⟨-, rfl⟩ := by simpa using split
        exact .inl rfl
    · cases split
  | _ => cases split

theorem label_known {remainder : List Node} {label : Text}
    (found : splitAdmonition id .text content = some (label, remainder)) : label ∈ admonitionLabels.map (·.2) := by
  rcases content with _ | ⟨first, _ | ⟨second, rest⟩⟩
  · cases found
  · cases found
  cases first with
  | strong marked =>
    simp only [splitAdmonition, id_eq] at found
    split at found
    next named known =>
      obtain ⟨before, after, listed, -⟩ := List.lookup_eq_some_iff.mp known
      have same : named = label := by
        split at found
        · cases found
        split at found
        · exact (Prod.mk.inj (Option.some.inj found)).1
        · exact (Prod.mk.inj (Option.some.inj found)).1
      subst same
      rw [listed, List.map_append]
      exact List.mem_append_right _ List.mem_cons_self
    next => cases found
  | _ => cases found

theorem mem_remainder {label : Text} {remainder : List Node}
    (split : splitAdmonition id .text content = some (label, remainder)) (member : node ∈ remainder) :
    IsText node ∨ node ∈ content := by
  obtain ⟨marked, second, rest, rfl, rfl | ⟨-, rfl | ⟨stripped, rfl⟩⟩⟩ := splitAdmonition_shape split
  · exact .inr (.tail _ member)
  · exact .inr (.tail _ (.tail _ member))
  · rcases List.mem_cons.mp member with rfl | later
    · exact .inl ⟨stripped, rfl⟩
    · exact .inr (.tail _ (.tail _ later))

theorem mem_paragraphParts (member : node ∈ paragraphParts content) : IsText node ∨ node ∈ content := by
  simp only [paragraphParts] at member
  split at member
  · cases member
  split at member
  next label remainder found =>
    rcases mem_inlineParts member with text | inside
    · exact .inl text
    · exact mem_remainder found inside
  next => exact mem_inlineParts member

theorem mem_itemContents (member : node ∈ itemContents item) :
    IsText node ∨ ∃ child ∈ item.children, child.Contains node := by
  cases item with
  | listItem blocks taskStatus =>
    rcases blocks with _ | ⟨first, rest⟩
    · cases member
    cases first with
    | paragraph content =>
      rcases List.mem_append.mp member with opening | block
      · exact (mem_inlineParts opening).imp id fun inside => ⟨_, List.mem_cons_self, .single inside⟩
      · exact .inr ⟨node, .tail _ block, .refl⟩
    | _ => exact .inr ⟨node, member, .refl⟩
  | _ => cases member

/-- Behind the leading comments stands the title, if there is one, and then the body. -/
theorem ofChildren_split (nodes : List Node) (titleGiven : Bool) :
    (∃ level content, (DocumentStructure.ofChildren nodes titleGiven).title = some content ∧
      nodes = (DocumentStructure.ofChildren nodes titleGiven).prologue ++
        .heading level content :: (DocumentStructure.ofChildren nodes titleGiven).body) ∨
    ((DocumentStructure.ofChildren nodes titleGiven).title = none ∧
      nodes = (DocumentStructure.ofChildren nodes titleGiven).prologue ++
        (DocumentStructure.ofChildren nodes titleGiven).body) := by
  have whole : nodes.takeWhile (·.isComment) ++ nodes.dropWhile (·.isComment) = nodes :=
    List.takeWhile_append_dropWhile
  simp only [DocumentStructure.ofChildren]
  generalize nodes.takeWhile (·.isComment) = prologue at whole ⊢
  generalize nodes.dropWhile (·.isComment) = rest at whole ⊢
  subst whole
  rcases rest with _ | ⟨first, body⟩
  · exact .inr ⟨rfl, rfl⟩
  cases first with
  | heading level content =>
    by_cases top : level.toInt = 1
    · exact .inl ⟨level, content, by simp [top], by simp [top]⟩
    · exact .inr ⟨by simp [top], by simp [top]⟩
  | _ => exact .inr ⟨rfl, rfl⟩

theorem partsOf_below (member : node ∈ partsOf parent) :
    IsText node ∨ ∃ child ∈ parent.children, child.Contains node := by
  have below : ∀ {nodes : List Node}, IsText node ∨ node ∈ nodes →
      IsText node ∨ ∃ child ∈ nodes, child.Contains node :=
    fun found => found.imp id fun inside => ⟨node, inside, .refl⟩
  cases parent with
  | document nodes =>
    rcases List.mem_append.mp member with title | body
    · rcases ofChildren_split nodes false with ⟨level, content, promoted, whole⟩ | ⟨plain, -⟩
      · rw [promoted, Option.getD_some] at title
        refine (mem_inlineParts title).imp id fun inside => ⟨.heading level content, ?_, .single inside⟩
        rw [Node.children, whole]
        exact List.mem_append_right _ List.mem_cons_self
      · rw [plain, Option.getD_none] at title
        cases title
    · refine .inr ⟨node, ?_, .refl⟩
      rcases ofChildren_split nodes false with ⟨level, content, -, whole⟩ | ⟨-, whole⟩
      · rw [Node.children, whole]
        exact List.mem_append_right _ (.tail _ body)
      · rw [Node.children, whole]
        exact List.mem_append_right _ body
  | heading | tableCell | definitionTerm | emphasis | strikethrough | link => exact below (mem_inlineParts member)
  | paragraph content => exact below (mem_paragraphParts member)
  | strong content =>
    simp only [partsOf] at member
    split at member
    · cases member
    · exact below (mem_inlineParts member)
  | blockQuote nodes =>
    rcases nodes with _ | ⟨first, rest⟩
    · cases member
    cases first with
    | paragraph content =>
      simp only [partsOf] at member
      split at member
      next label remainder found =>
        rcases List.mem_append.mp member with labelled | block
        · have inside : IsText node ∨ node ∈ content := by
            rcases mem_paragraphParts labelled with text | inside
            · exact .inl text
            · exact mem_remainder found inside
          exact inside.imp id fun inside => ⟨_, List.mem_cons_self, .single inside⟩
        · exact .inr ⟨node, .tail _ block, .refl⟩
      next => exact below (.inr member)
    | _ => exact below (.inr member)
  | list ordered items start tight =>
    obtain ⟨item, found, inside⟩ := List.mem_flatMap.mp member
    refine (mem_itemContents inside).imp id ?_
    rintro ⟨child, under, reached⟩
    exact ⟨item, found, .head under reached⟩
  | listItem blocks taskStatus =>
    have inside : node ∈ itemContents (.listItem blocks taskStatus) := by
      rcases blocks with _ | ⟨first, rest⟩
      · cases member
      cases first <;> exact member
    exact mem_itemContents inside
  | table | tableRow | definitionList | definitionDescription => exact below (.inr member)
  | _ => cases member

end

section

variable {table : FootnoteTable} {root node next : Node}

/-- A rendering goes on from a node to its parts, and from a reference to the blocks of its footnote. -/
def Leads (table : FootnoteTable) (node next : Node) : Prop :=
  next ∈ partsOf node ∨ ∃ identifier content,
    node = .footnoteReference identifier ∧ table.lookup identifier = some content ∧ next ∈ content

/-- The node is rendered in the course of the root's rendering, which must not fail before. -/
def Reaches (table : FootnoteTable) : Node → Node → Prop := Relation.ReflTransGen (Leads table)

/-- Where the parts of a tree stand: they are its nodes, and joined texts. -/
def Inside (root node : Node) : Prop := IsText node ∨ root.Contains node

theorem Inside.part (inside : Inside root node) (member : next ∈ partsOf node) : Inside root next := by
  rcases inside with ⟨content, rfl⟩ | inside
  · cases member
  · refine (partsOf_below member).imp id ?_
    rintro ⟨child, under, reached⟩
    exact inside.trans (.head under reached)

/-- What holds of children and of the blocks of footnotes holds of everything that is reached, but for
joined texts. -/
theorem Reaches.within (holds : Node → Prop) (below : ∀ {parent child}, holds parent → child ∈ parent.children → holds child)
    (noted : ∀ {identifier content block}, holds (.footnoteReference identifier) → table.lookup identifier = some content →
      block ∈ content → holds block)
    (reaches : Reaches table node next) (start : IsText node ∨ holds node) : IsText next ∨ holds next := by
  have inside {node next : Node} (here : holds node) (contained : node.Contains next) : holds next := by
    induction contained with
    | refl => exact here
    | tail _ under ih => exact below ih under
  induction reaches with
  | refl => exact start
  | tail _ leads ih =>
    rcases leads with part | ⟨identifier, content, rfl, found, member⟩
    · rcases ih with ⟨content, rfl⟩ | here
      · cases part
      · refine (partsOf_below part).imp id ?_
        rintro ⟨child, under, contained⟩
        exact inside (below here under) contained
    · rcases ih with ⟨content, same⟩ | here
      · cases same
      · exact .inr (noted here found member)

end

end Adocify.AsciiDoc
