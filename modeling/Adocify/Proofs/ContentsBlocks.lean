import Adocify.Proofs.TextSearch
import Adocify.TableOfContents

/-! The block that gives way to another table of contents. It begins where the first line does that begins with the
opening mark, if the closing mark stands anywhere behind that, and ends with the first closing mark there. All else stays,
and so does what the attributes say already. -/

namespace Adocify.TableOfContents

variable {lineStart : Bool} {c : Char} {text rest front before inside after : Text}

/-- A line begins behind the front, where `lineStart` tells whether one begins before it. -/
def BeginsLine (lineStart : Bool) : Text → Prop
  | [] => lineStart = true
  | front => front.getLast? = some '\n'

instance (lineStart : Bool) : (front : Text) → Decidable (BeginsLine lineStart front)
  | [] => inferInstanceAs (Decidable (lineStart = true))
  | c :: front => inferInstanceAs (Decidable ((c :: front).getLast? = some '\n'))

theorem beginsLine_nil : BeginsLine lineStart [] ↔ lineStart = true := Iff.rfl

theorem beginsLine_cons : BeginsLine lineStart (c :: front) ↔ BeginsLine (c = '\n') front := by
  cases front with
  | nil => simp [BeginsLine]
  | cons d front => simp [BeginsLine, List.getLast?_cons_cons]

/-- A line begins with the opening mark, and the closing mark stands somewhere behind that. -/
def HasBlock (lineStart : Bool) (text : Text) : Prop :=
  ∃ front inside after, text = front ++ opening ++ (inside ++ closing ++ after) ∧ BeginsLine lineStart front

/-- The block from the first line that begins with the opening mark to the first closing mark behind that, with what
stands before the block, inside and behind it. -/
structure FirstBlock (lineStart : Bool) (text before inside after : Text) : Prop where
  whole : text = before ++ opening ++ (inside ++ closing ++ after)
  begins : BeginsLine lineStart before
  first : ∀ front rest, text = front ++ opening ++ rest → BeginsLine lineStart front → before.length ≤ front.length
  ends : ∀ front rest, inside ++ closing ++ after = front ++ closing ++ rest → inside.length ≤ front.length

/-- The block can be told place by place. -/
theorem FirstBlock.of_places (whole : text = before ++ opening ++ (inside ++ closing ++ after))
    (begins : BeginsLine lineStart before)
    (first : ∀ place < before.length, BeginsLine lineStart (text.take place) → ¬opening <+: text.drop place)
    (ends : ∀ place < inside.length, ¬closing <+: (inside ++ closing ++ after).drop place) :
    FirstBlock lineStart text before inside after where
  whole := whole
  begins := begins
  first := by
    intro front rest same begun
    by_contra shorter
    rw [List.append_assoc] at same
    apply first front.length (Nat.lt_of_not_le shorter)
    · rwa [same, List.take_left]
    · rw [same, List.drop_left]
      exact List.prefix_append _ _
  ends := by
    intro front rest same
    by_contra shorter
    apply ends front.length (Nat.lt_of_not_le shorter)
    rw [same, List.append_assoc, List.drop_left]
    exact List.prefix_append _ _

theorem closing_filled : closing ≠ [] := List.cons_ne_nil _ _

theorem afterBlock?_some (found : afterBlock? text = some after) :
    ∃ inside, text = opening ++ (inside ++ closing ++ after) := by
  rw [afterBlock?] at found
  split at found
  next opens =>
    obtain ⟨⟨inside, _⟩, broken, rfl⟩ := Option.map_eq_some_iff.mp found
    have behind := (Text.breakOn_first closing_filled broken).1
    refine ⟨inside, ?_⟩
    rw [← behind]
    exact (List.prefix_iff_eq_append.mp (List.isPrefixOf_iff_prefix.mp opens)).symm
  next => cases found

theorem FirstBlock.afterBlock? (block : FirstBlock lineStart text [] inside after) :
    afterBlock? text = some after := by
  obtain ⟨rfl, -, -, ends⟩ := block
  have opens : opening.isPrefixOf ([] ++ opening ++ (inside ++ closing ++ after)) = true :=
    List.isPrefixOf_iff_prefix.mpr (List.prefix_append _ _)
  have broken : Text.breakOn closing (inside ++ closing ++ after) = some (inside, after) :=
    (Text.breakOn_iff closing_filled).mpr ⟨rfl, ends⟩
  rw [TableOfContents.afterBlock?, if_pos opens, List.nil_append, List.drop_left, broken]
  rfl

theorem FirstBlock.tail (block : FirstBlock lineStart (c :: rest) (c :: before) inside after) :
    FirstBlock (c = '\n') rest before inside after where
  whole := (List.cons.inj block.whole).2
  begins := beginsLine_cons.mp block.begins
  first := by
    intro front behind same begins
    have later := block.first (c :: front) behind (congrArg (c :: ·) same) (beginsLine_cons.mpr begins)
    exact Nat.le_of_succ_le_succ later
  ends := block.ends

theorem FirstBlock.replaced (block : FirstBlock lineStart text before inside after) :
    replaceFrom lineStart text = some (before ++ directive ++ after) := by
  induction before generalizing text lineStart with
  | nil =>
    have found := block.afterBlock?
    have begins := beginsLine_nil.mp block.begins
    obtain ⟨c, rest, rfl⟩ : ∃ c rest, text = c :: rest := ⟨_, _, block.whole⟩
    rw [replaceFrom, if_pos begins, found]
    rfl
  | cons c before ih =>
    obtain ⟨rest, rfl⟩ : ∃ rest, text = c :: rest := ⟨_, block.whole⟩
    have other : (if lineStart then TableOfContents.afterBlock? (c :: rest) else none) = none := by
      by_cases begins : lineStart = true
      · rw [if_pos begins, Option.eq_none_iff_forall_not_mem]
        intro behind found
        obtain ⟨inner, same⟩ := afterBlock?_some found
        exact absurd (block.first [] _ same (beginsLine_nil.mpr begins)) (Nat.not_succ_le_zero _)
      · exact if_neg begins
    rw [replaceFrom, other]
    simp only [ih block.tail, Option.map_some, List.cons_append]

theorem replaceFrom_none (none : ¬HasBlock lineStart text) : replaceFrom lineStart text = .none := by
  induction text generalizing lineStart with
  | nil => rfl
  | cons c rest ih =>
    have other : (if lineStart then afterBlock? (c :: rest) else .none) = .none := by
      by_cases begins : lineStart = true
      · rw [if_pos begins, Option.eq_none_iff_forall_not_mem]
        intro behind found
        obtain ⟨inside, same⟩ := afterBlock?_some found
        exact none ⟨[], inside, behind, same, beginsLine_nil.mpr begins⟩
      · exact if_neg begins
    have later : ¬HasBlock (c = '\n') rest := by
      rintro ⟨front, inside, behind, rfl, begins⟩
      exact none ⟨c :: front, inside, behind, rfl, beginsLine_cons.mpr begins⟩
    rw [replaceFrom, other, ih later]
    rfl

/-- A line that begins with the opening mark opens the block if any line does, since the closing mark is behind it too. -/
theorem closes_behind (same : front ++ opening ++ (inside ++ closing ++ after) = opening ++ rest) :
    ∃ inner, rest = inner ++ closing ++ after := by
  have longer : opening.length ≤ (front ++ opening).length := by
    rw [List.length_append]
    omega
  have dropped := congrArg (List.drop opening.length) same
  rw [List.drop_left, List.drop_append_of_le_length longer] at dropped
  exact ⟨(front ++ opening).drop opening.length ++ inside, by rw [← dropped]; simp only [List.append_assoc]⟩

theorem HasBlock.first (some : HasBlock lineStart text) :
    ∃ before inside after, FirstBlock lineStart text before inside after := by
  induction text generalizing lineStart with
  | nil =>
    obtain ⟨front, inside, after, same, -⟩ := some
    have filled : front ++ opening ≠ [] := List.append_ne_nil_of_right_ne_nil _ (List.cons_ne_nil _ _)
    exact absurd same.symm (List.append_ne_nil_of_left_ne_nil filled _)
  | cons c rest ih =>
    obtain ⟨front, inside, after, same, begins⟩ := some
    by_cases here : lineStart = true ∧ opening <+: c :: rest
    · obtain ⟨begun, behind, opens⟩ := here
      obtain ⟨inner, rfl⟩ := closes_behind (same.symm.trans opens.symm)
      obtain ⟨⟨inside, after⟩, broken⟩ := Option.isSome_iff_exists.mp (Text.breakOn_found closing_filled inner after)
      obtain ⟨split, ends⟩ := Text.breakOn_first closing_filled broken
      refine ⟨[], inside, after, ?_, beginsLine_nil.mpr begun, fun _ _ _ _ => Nat.zero_le _, ?_⟩
      · rw [← opens, split, List.nil_append]
      · rw [← split]
        exact ends
    · have opensHere {behind : Text} (same : c :: rest = [] ++ opening ++ behind) (begun : BeginsLine lineStart []) : False :=
        here ⟨beginsLine_nil.mp begun, behind, same.symm⟩
      cases front with
      | nil => exact (opensHere same begins).elim
      | cons d front =>
        obtain ⟨rfl, later⟩ := List.cons.inj same
        obtain ⟨before, inside, after, block⟩ := ih ⟨front, inside, after, later, beginsLine_cons.mp begins⟩
        refine ⟨c :: before, inside, after, congrArg (c :: ·) block.whole, beginsLine_cons.mpr block.begins, ?_, block.ends⟩
        intro other behind same begun
        cases other with
        | nil => exact (opensHere same begun).elim
        | cons d other =>
          obtain ⟨rfl, later⟩ := List.cons.inj same
          exact Nat.succ_le_succ (block.first other behind later (beginsLine_cons.mp begun))

/-- The first block gives way, and the attributes place the table of contents there unless they say something about
it already. Where there is no block, nothing changes. -/
theorem first_block_replaced (text : Text) (attributes : Attributes) :
    (HasBlock true text ↔ ∃ before inside after, FirstBlock true text before inside after) ∧
      (∀ before inside after, FirstBlock true text before inside after →
        replace text attributes = (before ++ directive ++ after,
          if attributes.get? "toc".toList = none then attributes ++ [("toc".toList, .text "macro".toList)]
          else attributes)) ∧
      (¬HasBlock true text → replace text attributes = (text, attributes)) := by
  refine ⟨⟨HasBlock.first, ?_⟩, ?_, ?_⟩
  · rintro ⟨before, inside, after, block⟩
    exact ⟨before, inside, after, block.whole, block.begins⟩
  · intro before inside after block
    rw [replace, block.replaced]
    simp only [Attributes.register, Attributes.holds, Option.isSome_iff_ne_none, ite_not]
  · intro none
    rw [replace, replaceFrom_none none]

/-- Openings within a line, before the block and inside it, and a block behind it. -/
def crowdedPage : Text :=
  "a <!-- TOC 0\n<!-- TOC 1\n<!-- TOC 2\n<!-- /TOC -->b<!-- /TOC -->\n<!-- TOC 3 --><!-- /TOC -->".toList

theorem first_block_replaced_crowded :
    FirstBlock true crowdedPage "a <!-- TOC 0\n".toList "1\n<!-- TOC 2\n".toList
        "b<!-- /TOC -->\n<!-- TOC 3 --><!-- /TOC -->".toList ∧
      replace crowdedPage [("lang".toList, .text "en".toList)] =
        ("a <!-- TOC 0\ntoc::[]b<!-- /TOC -->\n<!-- TOC 3 --><!-- /TOC -->".toList,
          [("lang".toList, .text "en".toList), ("toc".toList, .text "macro".toList)]) := by
  have block : FirstBlock true crowdedPage "a <!-- TOC 0\n".toList "1\n<!-- TOC 2\n".toList
      "b<!-- /TOC -->\n<!-- TOC 3 --><!-- /TOC -->".toList :=
    .of_places (by decide +kernel) (by decide +kernel) (by decide +kernel) (by decide +kernel)
  refine ⟨block, ?_⟩
  rw [(first_block_replaced crowdedPage _).2.1 _ _ _ block]
  rfl

end Adocify.TableOfContents
