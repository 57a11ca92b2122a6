import ShapeQuery.Text.Utf8

/-!
# Reading UTF-16

A surrogate without its partner and a lone last byte become replacement
characters.
-/

namespace ShapeQuery

namespace Text

/-- The order of the two bytes of a code unit. -/
inductive ByteOrder where
  | littleEndian
  | bigEndian
  deriving DecidableEq, Repr

/-- The code units of some bytes, and whether a byte is left over. -/
def codeUnits (order : ByteOrder) : List UInt8 → List Nat × Bool
  | [] => ([], false)
  | [_] => ([], true)
  | first :: second :: rest =>
    let (units, leftOver) := codeUnits order rest
    let unit :=
      match order with
      | .littleEndian => first.toNat + second.toNat * 256
      | .bigEndian => first.toNat * 256 + second.toNat
    (unit :: units, leftOver)

/-- Reads code units behind a possibly unpaired leading surrogate. -/
def readUtf16 (leftOver : Bool) : Option Nat → List Nat → List Char
  | none, [] => if leftOver then [replacementCharacter] else []
  | some _, [] => [replacementCharacter]
  | none, unit :: rest =>
    if 0xD800 ≤ unit ∧ unit ≤ 0xDBFF then readUtf16 leftOver (some unit) rest
    else if 0xDC00 ≤ unit ∧ unit ≤ 0xDFFF then
      replacementCharacter :: readUtf16 leftOver none rest
    else Char.ofNat unit :: readUtf16 leftOver none rest
  | some leading, unit :: rest =>
    if 0xDC00 ≤ unit ∧ unit ≤ 0xDFFF then
      Char.ofNat (0x10000 + (leading - 0xD800) * 0x400 + (unit - 0xDC00)) ::
        readUtf16 leftOver none rest
    else if 0xD800 ≤ unit ∧ unit ≤ 0xDBFF then
      replacementCharacter :: readUtf16 leftOver (some unit) rest
    else replacementCharacter :: Char.ofNat unit :: readUtf16 leftOver none rest

/-- The text that some bytes write in UTF-16. -/
def decodeUtf16 (order : ByteOrder) (bytes : List UInt8) : String :=
  let (units, leftOver) := codeUnits order bytes
  String.ofList (readUtf16 leftOver none units)

end Text

end ShapeQuery
