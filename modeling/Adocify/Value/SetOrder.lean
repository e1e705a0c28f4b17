import Adocify.Value

/-! The order in which the items of a set are told. A number has a place of its own in a table with room
to spare; where that is taken, others are tried by a fixed rule. Numbers are told by their places, and
sets of anything else in the order in which their items came. -/

namespace Adocify.SetOrder

/-- A prime, by which the place of a number is reckoned. -/
def modulus : Nat := 0x1fffffffffffffff

/-- A remainder with its sign, counted around 64 bits. That of minus one is not used. -/
def signed (negative : Bool) (remainder : Nat) : Nat :=
  if !negative || remainder == 0 then remainder
  else 0x10000000000000000 - (if remainder == 1 then 2 else remainder)

/-- Numbers that are equal have the same mark, whether they are whole or not. -/
def mark? : Value → Option Nat
  | .bool flag => some (if flag then 1 else 0)
  | .int number => some (signed (number < 0) (number.natAbs % modulus))
  | .float (.finite negative significand exponent) =>
    some (signed negative (significand * Nat.pow 2 (exponent % 61).toNat % modulus))
  | .float (.infinite negative) => some (signed negative 314159)
  | _ => none

/-- A power of two. -/
def room (count : Nat) : Nat := if count < 5 then 8 else Nat.pow 2 ((2 * count).log2 + 1)

abbrev Table := Array (Option Value)

/-- A free place, from `place` on: those next to it are tried if the table has ten of them, and then the
rest of the mark leads elsewhere. -/
def freePlace (table : Table) : Nat → Nat → Nat → Nat
  | 0, _, place => place
  | fuel + 1, mark, place =>
    let near := (List.range (if place + 9 < table.size then 10 else 1)).map (place + ·)
    match near.find? fun place => table[place]?.join.isNone with
    | some free => free
    | none => freePlace table fuel (mark / 32) ((place * 5 + 1 + mark / 32) % table.size)

def insert (table : Table) (mark : Nat) (item : Value) : Table :=
  table.setIfInBounds (freePlace table (table.size + 16) mark (mark % table.size)) (some item)

/-- The items in the order in which they are told. -/
def arrange (items : List Value) : List Value :=
  match items.mapM mark? with
  | none => items
  | some marks =>
    let table := (marks.zip items).foldl (fun table (mark, item) => insert table mark item)
      (Array.replicate (room items.length) none)
    table.toList.filterMap id

end Adocify.SetOrder
