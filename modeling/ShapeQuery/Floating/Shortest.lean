import ShapeQuery.Floating

/-!
# Shortest decimal text

The decimal text of a double is the shortest one that reads back as the same
number.  The search walks decimal grids from coarse to fine and stops at the
first that meets the interval of reals rounding to the number; of two hits the
nearer is taken, a tie going to the even one.
-/

namespace ShapeQuery

namespace Floating

/-- Decimal digits and the power of ten they are multiplied by. -/
structure DecimalForm where
  digits : Nat
  power : Int
  deriving DecidableEq, Repr

/-- The neighbour of the number on the grid of multiples of `10 ^ power` that
reads back as the same double, if there is one.  Everything is scaled by four
quarter units of the last significand place, so that the ends of the interval
are integers. -/
def gridNeighbour? (significand : Nat) (exponent : Int) (power : Int) : Option Nat :=
  let unit := Nat.pow 2 (exponent - 2).toNat * Nat.pow 10 (-power).toNat
  let step := Nat.pow 2 (2 - exponent).toNat * Nat.pow 10 power.toNat
  let value := 4 * significand * unit
  let upper := (4 * significand + 2) * unit
  let lowerGap :=
    if significand = Nat.pow 2 52 ∧ FloatFormat.double.minExponent < exponent then 1 else 2
  let lower := (4 * significand - lowerGap) * unit
  let reads (point : Nat) : Bool :=
    if significand % 2 = 0 then lower ≤ point && point ≤ upper
    else lower < point && point < upper
  let below := value / step
  let above := below + 1
  let belowReads := reads (below * step)
  let aboveReads := reads (above * step)
  if belowReads && aboveReads then
    let belowDistance := value - below * step
    let aboveDistance := above * step - value
    if belowDistance < aboveDistance then some below
    else if aboveDistance < belowDistance then some above
    else if below % 2 = 0 then some below
    else some above
  else if belowReads then some below
  else if aboveReads then some above
  else none

/-- Searches `steps` grids downward from `10 ^ power`. -/
def searchGrids (significand : Nat) (exponent : Int) : Nat → Int → DecimalForm
  | 0, power => ⟨significand, power⟩
  | steps + 1, power =>
    match gridNeighbour? significand exponent power with
    | some digits => ⟨digits, power⟩
    | none => searchGrids significand exponent steps (power - 1)

/-- The shortest decimal that reads back as `significand · 2 ^ exponent`.  The
first grid is coarser than the number itself and eighteen more always reach one
fine enough. -/
def shortest (significand : Nat) (exponent : Int) : DecimalForm :=
  let magnitude : Int := exponent + significand.log2 + 1
  searchGrids significand exponent 25 (magnitude * 30103 / 100000 + 1)

/-- Decimal notation: positional with at least one decimal while the first digit
stands for `10 ^ -5` to `10 ^ 15`, else one digit before the point and a signed
exponent. -/
def layout (form : DecimalForm) : String :=
  let digits := (Nat.repr form.digits).toList
  let leading : Int := form.power + digits.length - 1
  if -5 ≤ leading ∧ leading ≤ 15 then
    if leading < 0 then
      String.ofList ('0' :: '.' :: (List.replicate (-leading - 1).toNat '0' ++ digits))
    else
      let places := leading.toNat + 1
      let whole := digits.take places ++ List.replicate (places - digits.length) '0'
      let fraction := digits.drop places
      String.ofList (whole ++ '.' :: (if fraction.isEmpty then ['0'] else fraction))
  else
    let fraction := digits.drop 1
    let mantissa := digits.take 1 ++ (if fraction.isEmpty then [] else '.' :: fraction)
    let sign := if leading < 0 then '-' else '+'
    String.ofList (mantissa ++ 'e' :: sign :: (Nat.repr leading.natAbs).toList)

/-- The decimal text of a finite number. -/
def text? : Floating → Option String
  | .finite negative significand exponent =>
    let magnitude :=
      if significand = 0 then "0.0" else layout (shortest significand exponent)
    some (if negative then "-" ++ magnitude else magnitude)
  | _ => none

end Floating

end ShapeQuery
