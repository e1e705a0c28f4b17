import Adocify.Proofs.MarkEscapes

/-! Pairs of doubled marks in a text, read from left to right: two marks, at least one character, and the next two
marks. The reader may read characters that carry something with them, and finds the same pairs. Backslashes that stand
in front of other characters make no difference to it either. -/

namespace Adocify.AsciiDoc

section

variable {α : Type} (char : α → Char) (mark : Char)

/-- The second one of the first two marks in a row, and what follows. -/
def behindMarks? : List α → Option (α × List α)
  | a :: b :: rest => if char a = mark ∧ char b = mark then some (b, rest) else behindMarks? (b :: rest)
  | _ => none

/-- The end of a pair at the start of the text: two marks, at least one character, and the next two marks. -/
def behindPair? : List α → Option (α × List α)
  | a :: b :: _ :: rest => if char a = mark ∧ char b = mark then behindMarks? char mark rest else none
  | _ => none

variable {char mark} {list : List α}

theorem behindMarks?_split {last : α} {behind : List α} (found : behindMarks? char mark list = some (last, behind)) :
    ∃ front, list = front ++ last :: behind := by
  fun_induction behindMarks? char mark list with
  | case1 a b rest marks =>
    obtain ⟨rfl, rfl⟩ := Prod.mk.inj (Option.some.inj found)
    exact ⟨[a], rfl⟩
  | case2 a b rest other ih =>
    obtain ⟨front, same⟩ := ih found
    exact ⟨a :: front, by rw [same, List.cons_append]⟩
  | case3 => cases found

theorem behindPair?_split {last : α} {behind : List α} (found : behindPair? char mark list = some (last, behind)) :
    ∃ a front, list = a :: front ++ last :: behind := by
  match list, found with
  | a :: b :: c :: rest, found =>
    simp only [behindPair?] at found
    split at found
    · obtain ⟨front, rfl⟩ := behindMarks?_split found
      exact ⟨a, b :: c :: front, rfl⟩
    · cases found

theorem behindPair?_shorter {last : α} {behind : List α} (found : behindPair? char mark list = some (last, behind)) :
    behind.length < list.length := by
  obtain ⟨a, front, rfl⟩ := behindPair?_split found
  simp only [List.cons_append, List.length_cons, List.length_append]
  omega

variable (char mark)

/-- Reads pairs from left to right, going on behind each of them. Of each it tells what stands directly before it, and
its first mark. -/
def pairsFrom (before : Option α) : List α → List (Option α × α)
  | [] => []
  | a :: rest =>
    match found : behindPair? char mark (a :: rest) with
    | some (last, behind) =>
      have : behind.length < rest.length + 1 := behindPair?_shorter found
      (before, a) :: pairsFrom (some last) behind
    | none => pairsFrom (some a) rest
termination_by list => list.length

variable {char mark} {before : Option α} {a last : α} {rest behind : List α}

theorem pairsFrom_pair (found : behindPair? char mark (a :: rest) = some (last, behind)) :
    pairsFrom char mark before (a :: rest) = (before, a) :: pairsFrom char mark (some last) behind := by
  rw [pairsFrom]
  split
  next here =>
    obtain ⟨rfl, rfl⟩ := Prod.mk.inj (Option.some.inj (here.symm.trans found))
    rfl
  next none => cases none.symm.trans found

theorem pairsFrom_none (none : behindPair? char mark (a :: rest) = .none) :
    pairsFrom char mark before (a :: rest) = pairsFrom char mark (some a) rest := by
  rw [pairsFrom]
  split
  next found => cases none.symm.trans found
  next => rfl

/-- The condition holds of every place at which a pair may open, and of what stands directly before it. -/
def AtOpenings (char : α → Char) (mark : Char) (condition : Option α × α → Prop) : Option α → List α → Prop
  | _, [] => True
  | before, a :: rest =>
    ((behindPair? char mark (a :: rest)).isSome → condition (before, a)) ∧ AtOpenings char mark condition (some a) rest

theorem AtOpenings.further {condition : Option α × α → Prop} (front : List α)
    (holds : AtOpenings char mark condition before (front ++ last :: rest)) :
    AtOpenings char mark condition (some last) rest := by
  induction front generalizing before with
  | nil => exact holds.2
  | cons a front ih => exact ih holds.2

theorem AtOpenings.found {condition : Option α × α → Prop} (holds : AtOpenings char mark condition before list) :
    ∀ pair ∈ pairsFrom char mark before list, condition pair := by
  fun_induction pairsFrom char mark before list with
  | case1 => exact List.forall_mem_nil _
  | case2 before a rest last behind found shorter ih =>
    obtain ⟨first, front, same⟩ := behindPair?_split found
    refine List.forall_mem_cons.mpr ⟨holds.1 (Option.isSome_of_eq_some found), ih ?_⟩
    rw [same] at holds
    exact AtOpenings.further (first :: front) holds
  | case3 before a rest none ih => exact ih holds.2

variable (char mark)

theorem behindMarks?_map (list : List α) :
    behindMarks? id mark (list.map char) =
      (behindMarks? char mark list).map fun (last, behind) => (char last, behind.map char) := by
  fun_induction behindMarks? char mark list with
  | case1 a b rest marks => simp only [List.map_cons, behindMarks?, id, if_pos marks, Option.map_some]
  | case2 a b rest other ih =>
    rw [← ih]
    simp only [List.map_cons, behindMarks?, id, if_neg other]
  | case3 list short =>
    match list, short with
    | [], _ => rfl
    | [a], _ => rfl
    | a :: b :: rest, short => exact (short a b rest rfl).elim

theorem behindPair?_map (list : List α) :
    behindPair? id mark (list.map char) =
      (behindPair? char mark list).map fun (last, behind) => (char last, behind.map char) := by
  match list with
  | [] | [a] | [a, b] => rfl
  | a :: b :: c :: rest =>
    simp only [List.map_cons, behindPair?, id]
    split
    · exact behindMarks?_map char mark rest
    · rfl

theorem pairsFrom_map (before : Option α) (list : List α) :
    pairsFrom id mark (before.map char) (list.map char) =
      (pairsFrom char mark before list).map fun (before, a) => (before.map char, char a) := by
  fun_induction pairsFrom char mark before list with
  | case1 => simp only [List.map_nil, pairsFrom]
  | case2 before a rest last behind found shorter ih =>
    have mapped := behindPair?_map char mark (a :: rest)
    rw [found] at mapped
    rw [List.map_cons, pairsFrom_pair mapped, List.map_cons, ← ih]
    rfl
  | case3 before a rest none ih =>
    have mapped := behindPair?_map char mark (a :: rest)
    rw [none] at mapped
    rw [List.map_cons, pairsFrom_none mapped, ← ih]
    rfl

end

section

variable {mark c : Char} {before : Option Char} {text rest out : Text} {allowed : Char → Nat}

theorem behindMarks?_tail (a : Char) (found : (behindMarks? id mark rest).isSome) :
    (behindMarks? id mark (a :: rest)).isSome := by
  cases rest with
  | nil => cases found
  | cons b rest =>
    simp only [behindMarks?]
    split
    · rfl
    · exact found

theorem behindMarks?_none {a : Char} (missing : behindMarks? id mark (a :: rest) = none) :
    behindMarks? id mark rest = none := by
  rw [← Option.not_isSome_iff_eq_none] at missing ⊢
  exact mt (behindMarks?_tail a) missing

theorem behindMarks?_apart (apart : c ≠ mark ∨ rest.head? ≠ some mark) :
    behindMarks? id mark (c :: rest) = behindMarks? id mark rest := by
  cases rest with
  | nil => rfl
  | cons d rest =>
    rw [behindMarks?, if_neg]
    rintro ⟨first, second⟩
    rcases apart with other | other
    · exact other first
    · exact other (congrArg some second)

theorem behindPair?_apart (apart : c ≠ mark ∨ rest.head? ≠ some mark) : behindPair? id mark (c :: rest) = none := by
  match rest with
  | [] | [d] => rfl
  | d :: e :: rest =>
    rw [behindPair?, if_neg]
    rintro ⟨first, second⟩
    rcases apart with other | other
    · exact other first
    · exact other (congrArg some second)

theorem pairsFrom_other (other : c ≠ mark) :
    pairsFrom id mark before (c :: rest) = pairsFrom id mark (some c) rest :=
  pairsFrom_none (behindPair?_apart (.inl other))

/-- Backslashes in front of a character that is no mark. -/
theorem pairsFrom_backslashes (plain : mark ≠ '\\') (other : c ≠ mark) (count : Nat) :
    pairsFrom id mark before (List.replicate count '\\' ++ c :: rest) = pairsFrom id mark (some c) rest := by
  induction count generalizing before with
  | zero => exact pairsFrom_other other
  | succ count ih => rw [List.replicate_succ, List.cons_append, pairsFrom_other (Ne.symm plain), ih]

theorem behindMarks?_here : behindMarks? id mark (mark :: mark :: rest) = some (mark, rest) := by
  simp [behindMarks?]

theorem behindMarks?_backslashes (plain : mark ≠ '\\') (count : Nat) (text : Text) :
    behindMarks? id mark (List.replicate count '\\' ++ text) = behindMarks? id mark text := by
  induction count with
  | zero => rfl
  | succ count ih =>
    rw [List.replicate_succ, List.cons_append, behindMarks?_apart (.inl (Ne.symm plain)), ih]

/-- Both ends are there or neither is. What follows them is escaped as the text is. -/
inductive SameEnd (allowed : Char → Nat) : Option (Char × Text) → Option (Char × Text) → Prop where
  | none : SameEnd allowed none none
  | some {behind final : Text} (last : Char) (later : Backslashed allowed behind final) :
      SameEnd allowed (some (last, behind)) (some (last, final))

namespace Backslashed

/-- A mark at the front of the escaped text is one at the front of the text. -/
theorem head (plain : mark ≠ '\\') (escaped : Backslashed allowed text out) (marked : out.head? = some mark) :
    text.head? = some mark := by
  cases escaped with
  | nil => exact marked
  | @cons count c rest out few others =>
    cases count with
    | zero => exact marked
    | succ count => exact absurd (Option.some.inj marked) (Ne.symm plain)

theorem marks (plain : mark ≠ '\\') (escaped : Backslashed allowed text out)
    (found : (behindMarks? id mark out).isSome) : (behindMarks? id mark text).isSome := by
  induction escaped with
  | nil => exact found
  | @cons count c rest out few others ih =>
    rw [behindMarks?_backslashes plain] at found
    by_cases pair : c = mark ∧ out.head? = some mark
    · obtain ⟨rfl, marked⟩ := pair
      obtain ⟨more, rfl⟩ := List.head?_eq_some_iff.mp (others.head plain marked)
      rw [behindMarks?_here]
      rfl
    · rw [behindMarks?_apart (not_and_or.mp pair)] at found
      exact behindMarks?_tail c (ih found)

variable (plain : mark ≠ '\\') (untouched : allowed mark = 0)

include untouched

theorem of_mark (escaped : Backslashed allowed (mark :: rest) out) :
    ∃ final, out = mark :: final ∧ Backslashed allowed rest final := by
  cases escaped with
  | cons few others =>
    obtain rfl := Nat.le_zero.mp (untouched ▸ few)
    exact ⟨_, rfl, others⟩

include plain

/-- Both texts have the next two marks in a row, or neither has, and what follows is escaped too. -/
theorem behindMarks (escaped : Backslashed allowed text out) :
    SameEnd allowed (behindMarks? id mark text) (behindMarks? id mark out) := by
  induction escaped with
  | nil => exact .none
  | @cons count c rest out few others ih =>
    rw [behindMarks?_backslashes plain]
    by_cases pair : c = mark ∧ rest.head? = some mark
    · obtain ⟨rfl, marked⟩ := pair
      obtain ⟨more, rfl⟩ := List.head?_eq_some_iff.mp marked
      obtain ⟨final, rfl, later⟩ := of_mark untouched others
      rw [behindMarks?_here, behindMarks?_here]
      exact .some _ later
    · have apart := not_and_or.mp pair
      rw [behindMarks?_apart apart, behindMarks?_apart (apart.imp id (mt (others.head plain)))]
      exact ih

theorem behindPair (escaped : Backslashed allowed rest out) :
    SameEnd allowed (behindPair? id mark (c :: rest)) (behindPair? id mark (c :: out)) := by
  by_cases pair : c = mark ∧ rest.head? = some mark
  · obtain ⟨rfl, marked⟩ := pair
    obtain ⟨more, rfl⟩ := List.head?_eq_some_iff.mp marked
    obtain ⟨final, rfl, later⟩ := of_mark untouched escaped
    cases later with
    | nil => exact .none
    | @cons count d rest out few others =>
      have closing := others.behindMarks plain untouched
      cases count with
      | zero => simpa [behindPair?] using closing
      | succ count =>
        have other : d ≠ c := by
          rintro rfl
          exact absurd (untouched ▸ few) (Nat.not_succ_le_zero count)
        have same :
            behindPair? id c (c :: c :: (List.replicate (count + 1) '\\' ++ d :: out)) = behindMarks? id c out := by
          rw [List.replicate_succ, List.cons_append, ← behindMarks?_apart (.inl other),
            ← behindMarks?_backslashes plain count (d :: out)]
          simp only [behindPair?, id, and_self, if_true]
        rw [same]
        simpa [behindPair?] using closing
  · have apart := not_and_or.mp pair
    rw [behindPair?_apart apart, behindPair?_apart (apart.imp id (mt (escaped.head plain)))]
    exact .none

/-- Backslashes that stand in front of other characters make no difference to the pairs. -/
theorem pairs (escaped : Backslashed allowed text out) (before : Option Char) :
    pairsFrom id mark before text = pairsFrom id mark before out := by
  induction size : text.length using Nat.strongRecOn generalizing text out before with
  | ind length ih =>
    subst size
    cases escaped with
    | nil => rfl
    | @cons count c rest out few others =>
      by_cases marked : c = mark
      · subst marked
        obtain rfl := Nat.le_zero.mp (untouched ▸ few)
        have ends := others.behindPair plain untouched (c := c)
        rw [List.replicate_zero, List.nil_append]
        generalize own : behindPair? id c (c :: rest) = first at ends
        generalize other : behindPair? id c (c :: out) = second at ends
        cases ends with
        | none =>
          rw [pairsFrom_none own, pairsFrom_none other]
          exact ih _ (Nat.lt_succ_self _) others _ rfl
        | some last later =>
          rw [pairsFrom_pair own, pairsFrom_pair other]
          exact congrArg _ (ih _ (behindPair?_shorter own) later _ rfl)
      · rw [pairsFrom_other marked, pairsFrom_backslashes plain marked]
        exact ih _ (Nat.lt_succ_self _) others _ rfl

end Backslashed

end

end Adocify.AsciiDoc
