import Adocify.Text.Basic

/-! Floating-point numbers with 53 significant bits, as exact binary fractions. Reading a decimal
rounds to the nearest number, a tie going to the even significand. -/

namespace Adocify

/-- A finite number is its significand times a power of two. The significand stays below 2 ^ 53,
the exponent is at least -1074, and below 2 ^ 52 the significand occurs with that exponent alone. -/
inductive Binary64 where
  | finite (negative : Bool) (significand : Nat) (exponent : Int)
  | infinite (negative : Bool)
  | nan
  deriving Repr, DecidableEq

namespace Binary64

def leastExponent : Int := -1074

/-- The weight of the highest bit of a significand, `2 ^ 52`. -/
def leadingBit : Nat := 0x10000000000000

def zero (negative : Bool) : Binary64 := .finite negative 0 leastExponent

/-- The quotient to the nearest whole number, a tie to the even one. -/
def roundDivision (numerator denominator : Nat) : Nat :=
  let quotient := numerator / denominator
  let twice := 2 * (numerator % denominator)
  if twice < denominator then quotient
  else if denominator < twice then quotient + 1
  else quotient + quotient % 2

/-- `numerator / denominator` over `2 ^ exponent`, as a fraction again. -/
def scale (numerator denominator : Nat) (exponent : Int) : Nat × Nat :=
  if exponent ≤ 0 then (numerator * Nat.pow 2 (-exponent).toNat, denominator)
  else (numerator, denominator * Nat.pow 2 exponent.toNat)

def ofRatio (negative : Bool) (numerator denominator : Nat) : Binary64 :=
  if numerator == 0 then zero negative
  else
    let estimate : Int := (numerator.log2 : Int) - denominator.log2 - 52
    let (top, bottom) := scale numerator denominator estimate
    let exponent := max leastExponent (if top / bottom < leadingBit then estimate - 1 else estimate)
    let (top, bottom) := scale numerator denominator exponent
    let rounded := roundDivision top bottom
    let (significand, exponent) :=
      if rounded == 2 * leadingBit then (leadingBit, exponent + 1) else (rounded, exponent)
    if exponent > 971 then .infinite negative else .finite negative significand exponent

/-- The number nearest to `digits * 10 ^ exponent`. Far outside the range of the format the power
of ten is not computed. -/
def ofDecimal (negative : Bool) (digits : Nat) (exponent : Int) : Binary64 :=
  let magnitude := exponent + (Text.ofNat digits).length
  if digits == 0 || magnitude < -400 then zero negative
  else if magnitude > 400 then .infinite negative
  else if exponent ≥ 0 then ofRatio negative (digits * Nat.pow 10 exponent.toNat) 1
  else ofRatio negative digits (Nat.pow 10 (-exponent).toNat)

def ofInt (n : Int) : Binary64 := ofRatio (n < 0) n.natAbs 1

/-- The magnitude of a finite number as a fraction. -/
def fraction (significand : Nat) (exponent : Int) : Nat × Nat :=
  if exponent ≥ 0 then (significand * Nat.pow 2 exponent.toNat, 1)
  else (significand, Nat.pow 2 (-exponent).toNat)

/-- The order of finite and infinite numbers by value; whatever is compared with a nan is not less. -/
def less : Binary64 → Binary64 → Bool
  | .nan, _ | _, .nan => false
  | .infinite a, .infinite b => a && !b
  | .infinite a, .finite .. => a
  | .finite .., .infinite b => !b
  | .finite a m p, .finite b n q =>
    let (x, u) := fraction m p
    let (y, v) := fraction n q
    let left : Int := if a then -((x * v : Nat) : Int) else (x * v : Nat)
    let right : Int := if b then -((y * u : Nat) : Int) else (y * u : Nat)
    left < right

/-- The whole number that a finite number equals, if there is one. -/
def toInt? : Binary64 → Option Int
  | .finite negative significand exponent =>
    let (x, u) := fraction significand exponent
    if x % u == 0 then some (if negative then -((x / u : Nat) : Int) else (x / u : Nat)) else none
  | _ => none

def isZero : Binary64 → Bool
  | .finite _ significand _ => significand == 0
  | _ => false

/-- Equality by value: the zeros are equal, and a nan equals nothing. -/
def same (x y : Binary64) : Bool :=
  match x, y with
  | .nan, _ | _, .nan => false
  | _, _ => x == y || (x.isZero && y.isZero)

def isNegative : Binary64 → Bool
  | .finite negative _ _ => negative
  | .infinite negative => negative
  | .nan => false

/-- The rounded product. -/
def mul (x y : Binary64) : Binary64 :=
  let negative := x.isNegative != y.isNegative
  match x, y with
  | .nan, _ | _, .nan => .nan
  | .finite _ m p, .finite _ n q =>
    let (a, b) := fraction m p
    let (c, d) := fraction n q
    ofRatio negative (a * c) (b * d)
  | _, _ => if x.isZero || y.isZero then .nan else .infinite negative

/-- The rounded sum. It is a negative zero only if both numbers are. -/
def add (x y : Binary64) : Binary64 :=
  match x, y with
  | .nan, _ | _, .nan => .nan
  | .infinite s, .infinite t => if s == t then .infinite s else .nan
  | .infinite s, _ | _, .infinite s => .infinite s
  | .finite s m p, .finite t n q =>
    let (a, b) := fraction m p
    let (c, d) := fraction n q
    let left : Int := if s then -((a * d : Nat) : Int) else (a * d : Nat)
    let right : Int := if t then -((c * b : Nat) : Int) else (c * b : Nat)
    let sum := left + right
    if sum == 0 then zero (s && t) else ofRatio (sum < 0) sum.natAbs (b * d)

def negate : Binary64 → Binary64
  | .finite negative significand exponent => .finite (!negative) significand exponent
  | .infinite negative => .infinite (!negative)
  | .nan => .nan

/-- Reads digits with an optional point and an optional signed exponent, and the names of the
numbers that are not finite. -/
def ofUnsignedText? (negative : Bool) (text : Text) : Option Binary64 :=
  if text == "inf".toList || text == "infinity".toList then some (.infinite negative)
  else if text == "nan".toList then some .nan
  else do
    let isExponentMark := fun c : Char => c == 'e' || c == 'E'
    let significand := text.takeWhile (!isExponentMark ·)
    let (whole, part) := Text.cut '.' significand
    let digits ← Text.readNat? (whole ++ part.getD [])
    let shift ← match text.dropWhile (!isExponentMark ·) with
      | [] => some 0
      | _ :: '-' :: power => (Text.readNat? power).map fun n => -(n : Int)
      | _ :: '+' :: power => (Text.readNat? power).map fun n => (n : Int)
      | _ :: power => (Text.readNat? power).map fun n => (n : Int)
    some (ofDecimal negative digits (shift - (part.getD []).length))

def ofText? : Text → Option Binary64
  | '-' :: rest => ofUnsignedText? true rest
  | '+' :: rest => ofUnsignedText? false rest
  | text => ofUnsignedText? false text

end Binary64

end Adocify
