import Mathlib.Data.List.Infix
import Adocify.Text.Basic

/-! Marks in a text: where the first one is, and what stands directly before a place. -/

namespace Adocify.Text

variable {text closing before after : Text}

/-- The last character of a text, or what stands before it. -/
theorem getLast?_behind {previous : Option Char} {c : Char} (front : Text) :
    (c :: front).getLast?.or previous = front.getLast?.or (some c) := by
  rw [List.getLast?_cons]
  cases front.getLast? <;> rfl

/-- What stands before the first mark is shorter than what stands before any other. -/
theorem breakOn_first (filled : closing ≠ []) (found : breakOn closing text = some (before, after)) :
    text = before ++ closing ++ after ∧
      ∀ front behind, text = front ++ closing ++ behind → before.length ≤ front.length := by
  induction text generalizing before with
  | nil =>
    rw [breakOn, if_neg (List.isEmpty_iff.not.mpr filled)] at found
    cases found
  | cons c rest ih =>
    rw [breakOn] at found
    split at found
    next here =>
      obtain ⟨rfl, rfl⟩ := Prod.mk.inj (Option.some.inj found)
      exact ⟨(List.prefix_iff_eq_append.mp (List.isPrefixOf_iff_prefix.mp here)).symm, fun _ _ _ => Nat.zero_le _⟩
    next other =>
      obtain ⟨⟨inner, _⟩, later, same⟩ := Option.map_eq_some_iff.mp found
      obtain ⟨rfl, rfl⟩ := Prod.mk.inj same
      obtain ⟨rfl, first⟩ := ih later
      refine ⟨rfl, fun front behind split => ?_⟩
      cases front with
      | nil => exact absurd (List.isPrefixOf_iff_prefix.mpr ⟨behind, split.symm⟩) other
      | cons d front => exact Nat.succ_le_succ (first front behind (List.cons.inj split).2)

theorem breakOn_found (filled : closing ≠ []) (text behind : Text) :
    (breakOn closing (text ++ closing ++ behind)).isSome := by
  induction text with
  | nil =>
    obtain ⟨c, rest, rfl⟩ := List.exists_cons_of_ne_nil filled
    have here : (c :: rest).isPrefixOf (c :: (rest ++ behind)) = true :=
      List.isPrefixOf_iff_prefix.mpr (List.prefix_append (c :: rest) behind)
    rw [List.nil_append, List.cons_append, breakOn, if_pos here]
    rfl
  | cons c rest ih =>
    rw [List.cons_append, List.cons_append, breakOn]
    split
    · rfl
    · rw [Option.isSome_map, ih]

/-- A text is broken at its first mark. -/
theorem breakOn_iff (filled : closing ≠ []) : breakOn closing text = some (before, after) ↔
    text = before ++ closing ++ after ∧
      ∀ front behind, text = front ++ closing ++ behind → before.length ≤ front.length := by
  refine ⟨breakOn_first filled, ?_⟩
  rintro ⟨rfl, first⟩
  obtain ⟨⟨front, behind⟩, found⟩ := Option.isSome_iff_exists.mp (breakOn_found filled before after)
  obtain ⟨split, least⟩ := breakOn_first filled found
  have same : before.length = front.length := Nat.le_antisymm (first _ _ split) (least _ _ rfl)
  rw [List.append_assoc, List.append_assoc] at split
  obtain ⟨rfl, marked⟩ := List.append_inj split same
  obtain rfl := List.append_cancel_left marked
  exact found

end Adocify.Text
