/-! Sets of code points as ascending ranges. -/

namespace Adocify.Text.Ranges

/-- Both ends of a range belong to it. The list ascends, so the search ends at the first range
that lies beyond the number. -/
def holds : List (Nat × Nat) → Nat → Bool
  | [], _ => false
  | (low, high) :: rest, n => if n < low then false else n ≤ high || holds rest n

end Adocify.Text.Ranges
