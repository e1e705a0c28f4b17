import Adocify.Proofs.TextEndings

/-! What trimming takes off a text and what it leaves. -/

namespace Adocify.Text

variable {c : Char}

theorem stripLeft_cons (blank : isBlank c = true) (rest : Text) : stripLeft (c :: rest) = stripLeft rest :=
  List.dropWhile_cons_of_pos blank

theorem strip_eq (text : Text) : strip text = stripRight (stripLeft text) := rfl

theorem stripRight_prefix (text : Text) : stripRight text <+: text := List.rdropWhile_prefix isBlank text

theorem strip_cons (blank : isBlank c = true) (rest : Text) : strip (c :: rest) = strip rest := by
  rw [strip_eq, stripLeft_cons blank, strip_eq]

theorem strip_concat (blank : isBlank c = true) (text : Text) : strip (text ++ [c]) = strip text := by
  have last : stripRight [c] = [] := by simp [stripRight, dropEndWhile, blank]
  have dropped : stripLeft (text ++ [c]) = if stripLeft text = [] then [] else stripLeft text ++ [c] := by
    simp only [stripLeft, List.dropWhile_append, List.isEmpty_iff, List.dropWhile_cons_of_pos blank, List.dropWhile_nil]
    congr
  rw [strip_eq, dropped, strip_eq]
  split
  next none => rw [none]
  next => rw [stripRight_append, if_pos last]

theorem stripRight_visible (visible : isBlank c = false) (front : Text) : stripRight (front ++ [c]) = front ++ [c] := by
  simp [stripRight, dropEndWhile, List.dropWhile_cons_of_neg, visible]

/-- Nothing is stripped between two visible characters. -/
theorem strip_visible {d : Char} (first : isBlank c = false) (last : isBlank d = false) (inner : Text) :
    strip (c :: (inner ++ [d])) = c :: (inner ++ [d]) := by
  have kept : stripLeft (c :: (inner ++ [d])) = c :: (inner ++ [d]) := List.dropWhile_cons_of_neg (by simp [first])
  rw [strip_eq, kept]
  exact stripRight_visible last (c :: inner)

theorem strip_again (text : Text) : strip (strip text) = strip text := by
  have kept : stripLeft (strip text) = strip text := by
    cases begun : strip text with
    | nil => rfl
    | cons c rest =>
      have front : strip text <+: stripLeft text := stripRight_prefix _
      obtain ⟨more, same⟩ := begun ▸ front
      have visible := List.head?_dropWhile_not isBlank text
      rw [← stripLeft, ← same] at visible
      exact List.dropWhile_cons_of_neg (by simpa using visible)
  rw [strip_eq (strip text), kept]
  exact stripRight_again _

end Adocify.Text
