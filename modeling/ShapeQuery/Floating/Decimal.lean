import ShapeQuery.Floating

/-!
# Reading decimal text

Decimal text is a sign, digits with at most one point, and an optional exponent;
`inf`, `infinity` and `nan` are read in any case.  The value is rounded once into
the requested format.
-/

namespace ShapeQuery

namespace Floating

/-- The digits at the front of a text, as a number and a count, and the rest. -/
def leadingDigits (text : List Char) : Nat × Nat × List Char :=
  let digits := text.takeWhile Char.isDigit
  (digits.foldl (fun value digit => value * 10 + (digit.toNat - '0'.toNat)) 0,
    digits.length, text.dropWhile Char.isDigit)

/-- An optionally signed decimal exponent that fills the whole text. -/
def exponentText? (text : List Char) : Option Int :=
  let (negative, unsigned) :=
    match text with
    | '-' :: rest => (true, rest)
    | '+' :: rest => (false, rest)
    | _ => (false, text)
  match leadingDigits unsigned with
  | (value, count, []) =>
    if count = 0 then none
    else some (if negative then -(value : Int) else value)
  | _ => none

/-- `digits · 10 ^ power` rounded into the format.  A power beyond every format
is settled by its sign, without writing the number out. -/
def ofDecimal (format : FloatFormat) (negative : Bool) (digits : Nat) (power : Int) :
    Floating :=
  let leading := power + (Nat.repr digits).length
  if digits = 0 then format.round negative 0 1
  else if 1000 < leading then .infinite negative
  else if leading < -1000 then format.round negative 0 1
  else format.round negative (digits * Nat.pow 10 power.toNat) (Nat.pow 10 (-power).toNat)

/-- The unsigned decimal number that fills the whole text. -/
def magnitudeText? (format : FloatFormat) (negative : Bool) (text : List Char) :
    Option Floating :=
  let (whole, wholeCount, afterWhole) := leadingDigits text
  let (fraction, fractionCount, afterFraction) :=
    match afterWhole with
    | '.' :: rest => leadingDigits rest
    | _ => (0, 0, afterWhole)
  let digits := whole * Nat.pow 10 fractionCount + fraction
  if wholeCount + fractionCount = 0 then none
  else
    match afterFraction with
    | [] => some (ofDecimal format negative digits (-fractionCount))
    | mark :: rest =>
      if mark = 'e' ∨ mark = 'E' then
        (exponentText? rest).map fun power =>
          ofDecimal format negative digits (power - fractionCount)
      else none

/-- Reads decimal text into the format. -/
def ofText? (format : FloatFormat) (text : String) : Option Floating :=
  let (negative, unsigned) :=
    match text.toList with
    | '-' :: rest => (true, rest)
    | '+' :: rest => (false, rest)
    | characters => (false, characters)
  let word := String.ofList (unsigned.map Char.toLower)
  if word = "inf" ∨ word = "infinity" then some (.infinite negative)
  else if word = "nan" then some .nan
  else magnitudeText? format negative unsigned

end Floating

end ShapeQuery
