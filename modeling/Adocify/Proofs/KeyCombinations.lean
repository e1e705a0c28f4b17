import Mathlib.Data.List.TakeWhile
import Adocify.Proofs.RenderedParts

/-! Which elements of a line belong to a key combination. Reading the line from the left, a key is open
behind an opening tag until the next closing one; an element belongs to a combination if a key is open
before it and some tag closes one behind it. All other elements are parts of the line. -/

namespace Adocify.AsciiDoc

/-- A key is open behind the nodes, if one was open before them or not. -/
def keyOpen (opened : Bool) (nodes : List Node) : Bool :=
  nodes.foldl (fun opened node => (opened || isTag "kbd" node) && !isTag "/kbd" node) opened

/-- Between these nodes is no room for a key: none is open behind the first, or the second close none. -/
def Unkeyed (before after : List Node) : Prop :=
  keyOpen false before = false ∨ ∀ node ∈ after, isTag "/kbd" node = false

/-- The node stands in the line outside key combinations. -/
def Stands (content : List Node) (node : Node) : Prop :=
  ∃ before after, content = before ++ node :: after ∧ Unkeyed before after

/-- Neither a text, which may be joined with others, nor a tag. -/
def Solid : Node → Prop
  | .text _ | .htmlInline _ => False
  | _ => True

section

variable {node opening : Node} {opened : Bool} {nodes before after content : List Node} {name : String}

theorem Solid.not_tag (solid : Solid node) (name : String) : isTag name node = false := by
  cases node with
  | htmlInline => exact solid.elim
  | _ => rfl

theorem opening_not_closing (tag : isTag "kbd" opening = true) : isTag "/kbd" opening = false := by
  cases opening with
  | htmlInline content =>
    simp only [isTag, beq_iff_eq] at tag
    simp only [isTag, tag]
    decide
  | _ => cases tag

theorem comment_not_tag {raw : Text} (comment : isInlineComment raw = true) :
    isTag "kbd" (.htmlInline raw) = false ∧ isTag "/kbd" (.htmlInline raw) = false := by
  obtain ⟨rest, written⟩ := List.isPrefixOf_iff_prefix.mp comment
  have lowered : Text.lower ("<!--".toList ++ rest) = "<!--".toList ++ Text.lowerFrom "--!<".toList rest := rfl
  simp only [isTag, ← written, lowered]
  exact ⟨rfl, rfl⟩

theorem keyOpen_cons :
    keyOpen opened (node :: nodes) = keyOpen ((opened || isTag "kbd" node) && !isTag "/kbd" node) nodes :=
  rfl

theorem keyOpen_other (opens : isTag "kbd" node = false) (closes : isTag "/kbd" node = false) :
    keyOpen opened (node :: nodes) = keyOpen opened nodes := by
  rw [keyOpen_cons, opens, closes, Bool.or_false, Bool.not_false, Bool.and_true]

theorem keyOpen_closed (closes : isTag "/kbd" node = true) :
    keyOpen opened (nodes ++ node :: before) = keyOpen false before := by
  rw [keyOpen, List.foldl_append, List.foldl_cons, closes, Bool.not_true, Bool.and_false]
  rfl

theorem keyOpen_unclosed (unclosed : ∀ node ∈ nodes, isTag "/kbd" node = false) : keyOpen true nodes = true := by
  induction nodes with
  | nil => rfl
  | cons node rest ih =>
    rw [keyOpen_cons, unclosed node List.mem_cons_self]
    exact ih fun other member => unclosed other (.tail _ member)

theorem keyOpen_false (closed : keyOpen true nodes = false) : keyOpen false nodes = false := by
  induction nodes with
  | nil => rfl
  | cons node rest ih =>
    rw [keyOpen_cons] at closed ⊢
    cases opens : isTag "kbd" node <;> cases closes : isTag "/kbd" node <;> simp_all

theorem keyOpen_tail (closed : keyOpen false (node :: nodes) = false) : keyOpen false nodes = false := by
  rw [keyOpen_cons] at closed
  generalize ((false || isTag "kbd" node) && !isTag "/kbd" node) = opened at closed
  cases opened with
  | false => exact closed
  | true => exact keyOpen_false closed

theorem Unkeyed.tail (unkeyed : Unkeyed (opening :: before) after) : Unkeyed before after := unkeyed.imp keyOpen_tail id

/-- Taking one key takes no element outside it. -/
theorem takeKey_before (solid : Solid node) (unkeyed : Unkeyed before after) {key : Text} {rest : List Node}
    (taken : takeKey id (before ++ node :: after) = some (key, rest)) :
    ∃ passed behind, before = passed ++ behind ∧ passed ≠ [] ∧ rest = behind ++ node :: after ∧
      Unkeyed behind after := by
  rcases before with _ | ⟨opening, before⟩
  · simp [takeKey, solid.not_tag] at taken
  simp only [List.cons_append, takeKey, id_eq] at taken
  split at taken
  next opens =>
    cases found : before.find? (isTag "/kbd") with
    | some closing =>
      obtain ⟨closes, inner, behind, rfl, unclosed⟩ := List.find?_eq_some_iff_append.mp found
      have key : (inner ++ closing :: (behind ++ node :: after)).takeWhile (fun other => !isTag "/kbd" other) =
          inner := by
        rw [List.takeWhile_append_of_pos unclosed, List.takeWhile_cons_of_neg (by simp [closes]), List.append_nil]
      rw [List.append_assoc, List.cons_append, key, List.drop_left] at taken
      obtain ⟨-, rfl⟩ := by simpa using taken
      have next : Unkeyed behind after := by
        refine unkeyed.imp (fun closed => ?_) id
        rwa [← List.cons_append, keyOpen_closed closes] at closed
      exact ⟨opening :: (inner ++ [closing]), behind, by simp, List.cons_ne_nil _ _, rfl, next⟩
    | none =>
      have unclosed : ∀ other ∈ before, isTag "/kbd" other = false := by simpa using found
      rcases unkeyed with closed | others
      · rw [keyOpen_cons, opens, opening_not_closing opens, Bool.or_true, Bool.not_false, Bool.and_true,
          keyOpen_unclosed unclosed] at closed
        cases closed
      · have all : ∀ other ∈ before ++ node :: after, (!isTag "/kbd" other) = true := by
          intro other member
          rcases List.mem_append.mp member with earlier | later
          · simp [unclosed other earlier]
          · rcases List.mem_cons.mp later with rfl | behind
            · simp [solid.not_tag]
            · simp [others other behind]
        rw [List.takeWhile_eq_self_iff.mpr all, List.drop_length] at taken
        cases taken
  next => cases taken

theorem afterPlus_before (solid : Solid node) {following : List Node}
    (plus : afterPlus id (before ++ node :: after) = some following) :
    ∃ sign behind, before = sign :: behind ∧ following = behind ++ node :: after ∧ ∀ name, isTag name sign = false := by
  have item {sign next : Node} {rest : List Node} (plus : afterPlus id (sign :: next :: rest) = some following) :
      isPlus sign = true ∧ following = next :: rest := by
    simp only [afterPlus] at plus
    split at plus
    next both =>
      rw [Bool.and_eq_true] at both
      exact ⟨both.1, (Option.some.inj plus).symm⟩
    next => cases plus
  have noTag {sign : Node} (plus : isPlus sign = true) : ∀ name, isTag name sign = false := by
    cases sign with
    | text => exact fun _ => rfl
    | _ => cases plus
  rcases before with _ | ⟨sign, _ | ⟨next, behind⟩⟩
  · cases after with
    | nil => cases plus
    | cons next rest =>
      cases node with
      | text => exact solid.elim
      | _ => cases (item plus).1
  · obtain ⟨isSign, rfl⟩ := item plus
    exact ⟨sign, [], rfl, rfl, noTag isSign⟩
  · obtain ⟨isSign, rfl⟩ := item plus
    exact ⟨sign, next :: behind, rfl, rfl, noTag isSign⟩

theorem takeKeysWithin_before (solid : Solid node) (limit : Nat) (unkeyed : Unkeyed before after) :
    ∃ passed behind, before = passed ++ behind ∧
      ((takeKeysWithin id limit (before ++ node :: after)).1 ≠ [] → passed ≠ []) ∧
      (takeKeysWithin id limit (before ++ node :: after)).2 = behind ++ node :: after ∧ Unkeyed behind after := by
  induction limit generalizing before with
  | zero => exact ⟨[], before, rfl, absurd rfl, rfl, unkeyed⟩
  | succ limit ih =>
    simp only [takeKeysWithin]
    cases taken : takeKey id (before ++ node :: after) with
    | none => exact ⟨[], before, rfl, absurd rfl, rfl, unkeyed⟩
    | some found =>
      obtain ⟨key, rest⟩ := found
      obtain ⟨passed, behind, rfl, some, rfl, next⟩ := takeKey_before solid unkeyed taken
      cases plus : afterPlus id (behind ++ node :: after) with
      | none =>
        simp only [plus]
        exact ⟨passed, behind, rfl, fun _ => some, rfl, next⟩
      | some following =>
        simp only [plus]
        obtain ⟨sign, more, rfl, rfl, noTag⟩ := afterPlus_before solid plus
        have later : Unkeyed more after :=
          next.imp (fun closed => (keyOpen_other (noTag _) (noTag _)).symm.trans closed) id
        obtain ⟨others, last, rfl, -, left, done⟩ := ih later
        refine ⟨passed ++ sign :: others, last, by simp, fun _ => ?_, left, done⟩
        exact List.append_ne_nil_of_left_ne_nil some _

theorem mem_outsideKeys_of (solid : Solid node) {skip : Nat} (content : List Node)
    (split : content = before ++ node :: after)
    (within : skip ≤ before.length) (unkeyed : Unkeyed (before.drop skip) after) : node ∈ outsideKeys skip content := by
  fun_induction outsideKeys skip content generalizing before with
  | case1 => cases before <;> cases split
  | case2 skip first rest ih =>
    rcases before with _ | ⟨opening, before⟩
    · cases within
    · obtain ⟨rfl, rfl⟩ := List.cons.inj split
      exact ih rfl (Nat.le_of_succ_le_succ within) unkeyed
  | case3 first rest left taken ih =>
    rcases before with _ | ⟨opening, before⟩
    · obtain ⟨rfl, -⟩ := List.cons.inj split
      exact List.mem_cons_self
    · obtain ⟨rfl, rfl⟩ := List.cons.inj split
      exact .tail _ (ih rfl (Nat.zero_le _) unkeyed.tail)
  | case4 first rest keys left some taken ih =>
    rw [split, takeKeys] at taken
    rw [List.drop_zero] at unkeyed
    obtain ⟨passed, behind, rfl, consumed, ended, next⟩ :=
      takeKeysWithin_before solid (before ++ node :: after).length unkeyed
    rw [taken] at consumed ended
    obtain ⟨opening, passed, rfl⟩ := List.exists_cons_of_ne_nil (consumed fun none => some none)
    obtain ⟨rfl, rfl⟩ : first = opening ∧ rest = passed ++ behind ++ node :: after := List.cons.inj split
    obtain rfl : left = behind ++ node :: after := ended
    have skipped : (passed ++ behind ++ node :: after).length - (behind ++ node :: after).length = passed.length := by
      rw [List.append_assoc, List.length_append]
      omega
    rw [skipped] at ih ⊢
    refine ih rfl (by simp) ?_
    rwa [List.drop_left]

theorem mergeFrom_solid (solid : Solid node) (pending : Option Text) (afterComment : Bool) :
    mergeFrom id .text pending afterComment (before ++ node :: after) =
      mergeFrom id .text pending afterComment before ++ node :: mergeFrom id .text none false after := by
  induction before generalizing pending afterComment with
  | nil =>
    cases node with
    | text | htmlInline => exact solid.elim
    | _ => simp [mergeFrom]
  | cons item rest ih =>
    cases item with
    | text content => cases pending <;> simp [mergeFrom, ih]
    | htmlInline raw =>
      simp only [List.cons_append, mergeFrom, id_eq]
      split
      · exact ih _ _
      · simp [ih]
    | _ => simp [mergeFrom, ih]

theorem keyOpen_mergeFrom (opened : Bool) (pending : Option Text) (afterComment : Bool) :
    keyOpen opened (mergeFrom id .text pending afterComment nodes) = keyOpen opened nodes := by
  have flushed {opened : Bool} {pending : Option Text} {rest : List Node} :
      keyOpen opened ((pending.map Node.text).toList ++ rest) = keyOpen opened rest := by
    cases pending with
    | none => rfl
    | some content => exact keyOpen_other rfl rfl
  induction nodes generalizing opened pending afterComment with
  | nil =>
    have alone : keyOpen opened ((pending.map Node.text).toList ++ []) = keyOpen opened [] := flushed
    rwa [List.append_nil] at alone
  | cons item rest ih =>
    cases item with
    | text content =>
      have same : keyOpen opened (.text content :: rest) = keyOpen opened rest := keyOpen_other rfl rfl
      cases pending <;> simp only [mergeFrom, id_eq, ih, same]
    | htmlInline raw =>
      simp only [mergeFrom, id_eq]
      split
      next comment =>
        obtain ⟨opens, closes⟩ := comment_not_tag comment
        rw [ih, keyOpen_other opens closes]
      next => rw [flushed, keyOpen_cons, ih, keyOpen_cons]
    | _ => simp only [mergeFrom, id_eq, flushed, keyOpen_cons, ih]

/-- What stands in a line outside key combinations is a part of the line. -/
theorem Stands.mem_inlineParts (stands : Stands content node) (solid : Solid node) : node ∈ inlineParts content := by
  obtain ⟨before, after, rfl, unkeyed⟩ := stands
  refine mem_outsideKeys_of solid _ (mergeFrom_solid solid none false) (Nat.zero_le _) ?_
  rw [List.drop_zero]
  refine unkeyed.imp (fun closed => (keyOpen_mergeFrom false none false).trans closed) fun others other member => ?_
  rcases mem_mergeFrom member with ⟨text, rfl⟩ | behind
  · rfl
  · exact others other behind

theorem Stands.behind (stands : Stands (opening :: content) node) (apart : node ≠ opening) : Stands content node := by
  obtain ⟨before, after, split, unkeyed⟩ := stands
  rcases before with _ | ⟨first, before⟩
  · exact absurd (List.cons.inj split).1.symm apart
  · exact ⟨before, after, (List.cons.inj split).2, unkeyed.tail⟩

end

end Adocify.AsciiDoc
