import ShapeQuery.Json.Fault

/-!
# JSON numbers

A number without fraction and exponent that fits in 64 bits is an integer; every
other one is a double.  A double is built from the digits that fit in 64 bits,
then multiplied or divided by one power of ten, so its last place may differ from
the nearest double.  Reading strictly also checks the range; reading loosely
checks the form alone.
-/

namespace ShapeQuery

namespace Json

/-- A number as it is read. -/
inductive Number where
  | integer (value : Int)
  | floating (value : Floating)
  deriving DecidableEq, Repr

/-- What a strict and a loose reader make of one piece of text. -/
structure Reading (α : Type) where
  strict : Except SyntaxFault α
  loose : Except SyntaxFault Unit

namespace Reading

variable {α : Type}

def fault (cause : SyntaxFault) : Reading α :=
  ⟨.error cause, .error cause⟩

/-- A value that only the strict reader may still refuse. -/
def wellFormed (strict : Except SyntaxFault α) : Reading α :=
  ⟨strict, .ok ()⟩

end Reading

/-- The largest significand that is accumulated exactly, one less than `2 ^ 64`. -/
def significandLimit : Nat := Nat.pow 2 64 - 1

/-- The largest exponent that is read digit by digit, one less than `2 ^ 31`. -/
def exponentLimit : Nat := Nat.pow 2 31 - 1

/-- Appends decimal digits to a significand while it stays within the limit;
gives the digits left over. -/
def accumulate (significand : Nat) : List Char → Nat × List Char
  | [] => (significand, [])
  | digit :: rest =>
    let next := significand * 10 + (digit.toNat - '0'.toNat)
    if significandLimit < next then (significand, digit :: rest) else accumulate next rest

/-- `value · 10 ^ exponent` in double arithmetic, in steps no larger than the
largest power of ten that is a double; nothing when it overflows. -/
def scaleByTen (value : Floating) (exponent : Int) : Option Floating :=
  if exponent.natAbs ≤ 308 then
    if 0 ≤ exponent then
      let product := value.mul (Floating.powerOfTen exponent.natAbs)
      if product.isFinite then some product else none
    else some (value.div (Floating.powerOfTen exponent.natAbs))
  else if value.isZero then some value
  else if 0 ≤ exponent then none
  else scaleByTen (value.div (Floating.powerOfTen 308)) (exponent + 308)
termination_by exponent.natAbs
decreasing_by omega

/-- The parts of a number whose form has been checked. -/
structure NumberParts where
  negative : Bool
  whole : List Char
  fraction : List Char
  exponent : Option (Bool × List Char)

namespace NumberParts

/-- A double with the sign of the number. -/
def signed (parts : NumberParts) (magnitude : Floating) : Number :=
  .floating (if parts.negative then magnitude.negate else magnitude)

/-- The double `significand · 10 ^ exponent` with the sign of the number. -/
def toDouble (parts : NumberParts) (significand : Nat) (exponent : Int) :
    Except SyntaxFault Number :=
  match scaleByTen (FloatFormat.double.round false significand 1) exponent with
  | some magnitude => .ok (parts.signed magnitude)
  | none => .error .numberOutOfRange

/-- The value of a number without fraction and exponent whose digits fit. -/
def toInteger (parts : NumberParts) (significand : Nat) : Number :=
  if !parts.negative then .integer significand
  else if significand = 0 ∨ Nat.pow 2 63 < significand then
    parts.signed (FloatFormat.double.round false significand 1)
  else .integer (-significand)

def value (parts : NumberParts) : Except SyntaxFault Number :=
  let (whole, excess) := accumulate 0 parts.whole
  let (significand, leftOver) := accumulate whole parts.fraction
  let point : Int := (excess.length : Int) - (parts.fraction.length - leftOver.length : Nat)
  match parts.exponent with
  | none =>
    if excess.isEmpty && parts.fraction.isEmpty then .ok (parts.toInteger significand)
    else parts.toDouble significand point
  | some (negative, digits) =>
    let exponent := Nat.ofDigitChars 10 digits 0
    if exponentLimit < exponent then
      if significand = 0 ∨ negative then .ok (parts.signed Floating.zero)
      else .error .numberOutOfRange
    else parts.toDouble significand (if negative then point - exponent else point + exponent)

end NumberParts

/-- The fault of a number that stops where a digit is needed. -/
def digitMissing (rest : List Char) : Reading Number :=
  ⟨.error (if rest.isEmpty then .endInValue else .invalidNumber), .error .invalidNumber⟩

/-- Reads the exponent after its mark. -/
def readExponent (negative : Bool) (whole fraction : List Char) (text : List Char) :
    Reading Number × List Char :=
  let (falling, unsigned) :=
    match text with
    | '-' :: rest => (true, rest)
    | '+' :: rest => (false, rest)
    | _ => (false, text)
  let digits := unsigned.takeWhile Char.isDigit
  let rest := unsigned.dropWhile Char.isDigit
  if digits.isEmpty then (digitMissing rest, rest)
  else
    (.wellFormed (NumberParts.value ⟨negative, whole, fraction, some (falling, digits)⟩),
      rest)

/-- Reads what may follow the whole part and the fraction. -/
def readTail (negative : Bool) (whole fraction : List Char) (text : List Char) :
    Reading Number × List Char :=
  match text with
  | 'e' :: rest | 'E' :: rest => readExponent negative whole fraction rest
  | _ => (.wellFormed (NumberParts.value ⟨negative, whole, fraction, none⟩), text)

/-- Reads a number after its sign.  A leading zero stands alone. -/
def readMagnitude (negative : Bool) (text : List Char) : Reading Number × List Char :=
  let digits := text.takeWhile Char.isDigit
  let rest := text.dropWhile Char.isDigit
  match digits with
  | [] => (digitMissing text, text)
  | '0' :: _ :: _ => (.fault .invalidNumber, rest)
  | whole =>
    match rest with
    | '.' :: afterPoint =>
      let fraction := afterPoint.takeWhile Char.isDigit
      let afterFraction := afterPoint.dropWhile Char.isDigit
      if fraction.isEmpty then (digitMissing afterFraction, afterFraction)
      else readTail negative whole fraction afterFraction
    | _ => readTail negative whole [] rest

/-- Reads the number at the front of a text. -/
def readNumber : List Char → Reading Number × List Char
  | '-' :: rest => readMagnitude true rest
  | unsigned => readMagnitude false unsigned

end Json

end ShapeQuery
