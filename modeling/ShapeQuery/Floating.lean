/-!
# Binary floating-point numbers

A finite number is a sign, a natural significand and a power of two.  A format
bounds significand and exponent, and rounding into a format takes the nearest
member, a tie going to the even significand, with overflow to an infinity.  All
arithmetic is exact integer arithmetic followed by one rounding.
-/

namespace ShapeQuery

/-- A floating-point number: `±significand · 2 ^ exponent`, an infinity, or not
a number. -/
inductive Floating where
  | finite (negative : Bool) (significand : Nat) (exponent : Int)
  | infinite (negative : Bool)
  | nan
  deriving DecidableEq, Repr, Inhabited

/-- The members of a binary format: significands below `2 ^ precision` and
exponents from `minExponent` to `maxExponent`. -/
structure FloatFormat where
  precision : Nat
  minExponent : Int
  maxExponent : Int
  deriving DecidableEq, Repr

namespace FloatFormat

/-- Sixty-four bits: 53 significand bits, down to `2 ^ -1074`. -/
def double : FloatFormat := ⟨53, -1074, 971⟩

/-- Thirty-two bits: 24 significand bits, down to `2 ^ -149`. -/
def single : FloatFormat := ⟨24, -149, 104⟩

/-- The integer nearest to `numerator / denominator`, a half going to the even
neighbour. -/
def roundQuotient (numerator denominator : Nat) : Nat :=
  let quotient := numerator / denominator
  let twice := 2 * (numerator % denominator)
  if twice < denominator then quotient
  else if denominator < twice then quotient + 1
  else if quotient % 2 = 0 then quotient
  else quotient + 1

/-- The exponent of the largest power of two that is at most
`numerator / denominator`, for positive operands. -/
def floorLog2 (numerator denominator : Nat) : Int :=
  let estimate : Int := (numerator.log2 : Int) - denominator.log2
  if numerator * Nat.pow 2 (-estimate).toNat < denominator * Nat.pow 2 estimate.toNat then
    estimate - 1
  else estimate

/-- The member of the format nearest to `±numerator / denominator`. -/
def round (format : FloatFormat) (negative : Bool) (numerator denominator : Nat) :
    Floating :=
  if numerator = 0 then .finite negative 0 format.minExponent
  else
    let exponent :=
      max format.minExponent (floorLog2 numerator denominator - format.precision + 1)
    let significand :=
      roundQuotient (numerator * Nat.pow 2 (-exponent).toNat)
        (denominator * Nat.pow 2 exponent.toNat)
    let (significand, exponent) :=
      if significand = Nat.pow 2 format.precision then (significand / 2, exponent + 1)
      else (significand, exponent)
    if format.maxExponent < exponent then .infinite negative
    else .finite negative significand exponent

/-- The member of the format nearest to an integer. -/
def ofInt (format : FloatFormat) (value : Int) : Floating :=
  format.round (decide (value < 0)) value.natAbs 1

/-- The member of the format nearest to a number of another format. -/
def convert (format : FloatFormat) : Floating → Floating
  | .finite negative significand exponent =>
    format.round negative (significand * Nat.pow 2 exponent.toNat)
      (Nat.pow 2 (-exponent).toNat)
  | .infinite negative => .infinite negative
  | .nan => .nan

end FloatFormat

namespace Floating

/-- Zero with the positive sign, as a member of the double format. -/
def zero : Floating := .finite false 0 FloatFormat.double.minExponent

/-- Whether the number is neither an infinity nor not-a-number. -/
def isFinite : Floating → Bool
  | .finite .. => true
  | _ => false

/-- Whether the number is a zero of either sign. -/
def isZero : Floating → Bool
  | .finite _ significand _ => significand == 0
  | _ => false

/-- Reverses the sign. -/
def negate : Floating → Floating
  | .finite negative significand exponent => .finite (!negative) significand exponent
  | .infinite negative => .infinite (!negative)
  | .nan => .nan

/-- The magnitude of a finite number as a quotient of naturals. -/
def ratio (significand : Nat) (exponent : Int) : Nat × Nat :=
  (significand * Nat.pow 2 exponent.toNat, Nat.pow 2 (-exponent).toNat)

/-- The power of ten `10 ^ power` in the double format. -/
def powerOfTen (power : Nat) : Floating :=
  FloatFormat.double.round false (Nat.pow 10 power) 1

/-- Double-format product; only finite operands have one here. -/
def mul : Floating → Floating → Floating
  | .finite leftNegative left leftExponent, .finite rightNegative right rightExponent =>
    let (numerator, denominator) := ratio (left * right) (leftExponent + rightExponent)
    FloatFormat.double.round (leftNegative != rightNegative) numerator denominator
  | _, _ => .nan

/-- Double-format quotient; only a finite dividend and a finite nonzero divisor
have one here. -/
def div : Floating → Floating → Floating
  | .finite leftNegative left leftExponent, .finite rightNegative right rightExponent =>
    if right = 0 then .nan
    else
      let (numerator, denominator) := ratio left (leftExponent - rightExponent)
      FloatFormat.double.round (leftNegative != rightNegative) numerator (denominator * right)
  | _, _ => .nan

end Floating

end ShapeQuery
