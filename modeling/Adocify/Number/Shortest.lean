import Adocify.Number.Binary64

/-! The text of a floating-point number: the fewest significant digits that read back as the same
number, and of several such decimals the nearest; or so many places. -/

namespace Adocify.Binary64

/-- The decimal exponent of the leading digit of a positive fraction. -/
def leadingPower (numerator denominator : Nat) : Int :=
  let estimate : Int := ((Text.ofNat numerator).length : Int) - (Text.ofNat denominator).length
  let reached :=
    if estimate ≥ 0 then denominator * Nat.pow 10 estimate.toNat ≤ numerator
    else denominator ≤ numerator * Nat.pow 10 (-estimate).toNat
  if reached then estimate else estimate - 1

/-- Of the two decimals around the number on the grid `10 ^ power`, the one that reads back as the
number; if both do, the nearer, and at equal distance the even one. -/
def onGrid? (significand : Nat) (exponent power : Int) : Option Nat :=
  let (numerator, denominator) := fraction significand exponent
  let (top, bottom) :=
    if power ≥ 0 then (numerator, denominator * Nat.pow 10 power.toNat)
    else (numerator * Nat.pow 10 (-power).toNat, denominator)
  let below := top / bottom
  let readsBack := fun digits => ofDecimal false digits power == .finite false significand exponent
  match readsBack below, readsBack (below + 1) with
  | true, true => some (roundDivision top bottom)
  | true, false => some below
  | false, true => some (below + 1)
  | false, false => none

/-- Tries grids of one digit more at each step, `digits` being the count to begin with. -/
def shortestFrom (significand : Nat) (exponent leading : Int) : Nat → Nat → Nat × Int
  | _, 0 => (significand, 0)
  | digits, tries + 1 =>
    let power := leading - digits + 1
    match onGrid? significand exponent power with
    | some decimal => (decimal, power)
    | none => shortestFrom significand exponent leading (digits + 1) tries

/-- The digits without zeros at their end, and the power of ten of their leading digit. -/
def shortest (significand : Nat) (exponent : Int) : Text × Int :=
  let (numerator, denominator) := fraction significand exponent
  let (decimal, power) := shortestFrom significand exponent (leadingPower numerator denominator) 1 17
  let digits := Text.ofNat decimal
  (Text.dropEndWhile (· == '0') digits, power + digits.length - 1)

/-- Digits with the point after the digit of power zero, filled up with zeros on either side. -/
def positional (digits : Text) (power : Int) : Text :=
  if power < 0 then "0.".toList ++ List.replicate (-power - 1).toNat '0' ++ digits
  else
    let whole := power.toNat + 1
    if digits.length ≤ whole then digits ++ List.replicate (whole - digits.length) '0' ++ ".0".toList
    else digits.take whole ++ '.' :: digits.drop whole

/-- One digit before the point, and an exponent of at least two digits with its sign. -/
def scientific (digits : Text) (power : Int) : Text :=
  let significand := match digits with
    | [] => []
    | [only] => [only]
    | first :: rest => first :: '.' :: rest
  significand ++ 'e' :: (if power < 0 then '-' else '+') :: Text.padded 2 power.natAbs

/-- Powers from -4 to 15 are written positionally. -/
def toText : Binary64 → Text
  | .nan => "nan".toList
  | .infinite negative => (if negative then "-inf" else "inf").toList
  | .finite negative significand exponent =>
    let sign : Text := if negative then ['-'] else []
    if significand == 0 then sign ++ "0.0".toList
    else
      let (digits, power) := shortest significand exponent
      sign ++ if -4 ≤ power && power < 16 then positional digits power else scientific digits power

/-- The text with so many digits behind the point, rounded to the nearest; a tie goes to the even digit. -/
def toFixed (places : Nat) : Binary64 → Text
  | .nan => "nan".toList
  | .infinite negative => (if negative then "-inf" else "inf").toList
  | .finite negative significand exponent =>
    let (numerator, denominator) := fraction significand exponent
    let digits := Text.padded (places + 1) (roundDivision (numerator * Nat.pow 10 places) denominator)
    let whole := digits.length - places
    (if negative then ['-'] else []) ++ digits.take whole ++ '.' :: digits.drop whole

end Adocify.Binary64
