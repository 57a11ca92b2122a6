import ShapeQuery.Text.Utf8

/-!
# Character sets of one and two bytes

A byte stands alone or leads a pair.  What cannot be read becomes a replacement
character; a second byte that is ASCII is read again after a pair that has no
character.
-/

namespace ShapeQuery

namespace Text

/-- A character set of one and two bytes. -/
structure DoubleByte where
  /-- The character of a byte that stands alone. -/
  single? : UInt8 → Option Char
  /-- Whether a byte that does not stand alone leads a pair. -/
  isLead : UInt8 → Bool
  /-- The characters of a pair, none if the pair is not assigned. -/
  pair : UInt8 → UInt8 → List Char

/-- Whether a byte is an ASCII character. -/
def isAsciiByte (byte : UInt8) : Bool :=
  byte < 0x80

/-- The ASCII character of a byte. -/
def asciiCharacter? (byte : UInt8) : Option Char :=
  if isAsciiByte byte then some (Char.ofNat byte.toNat) else none

/-- Reads bytes in a set of one and two bytes. -/
def DoubleByte.read (set : DoubleByte) : List UInt8 → List Char
  | [] => []
  | [byte] => [(set.single? byte).getD replacementCharacter]
  | lead :: trail :: rest =>
    match set.single? lead with
    | some character => character :: set.read (trail :: rest)
    | none =>
      if set.isLead lead then
        match set.pair lead trail with
        | [] =>
          replacementCharacter ::
            if isAsciiByte trail then set.read (trail :: rest) else set.read rest
        | characters => characters ++ set.read rest
      else replacementCharacter :: set.read (trail :: rest)

/-- The text that some bytes write in a set of one and two bytes. -/
def decodeDoubleByte (set : DoubleByte) (bytes : List UInt8) : String :=
  String.ofList (set.read bytes)

/-- The place of a byte among those of an interval. -/
def placeIn? (first last byte : UInt8) : Option Nat :=
  if first ≤ byte ∧ byte ≤ last then some (byte.toNat - first.toNat) else none

/-- The place of a second byte that leaves out one value: bytes from 0x40 to 0x7E
come first, then those of a further interval. -/
def splitPlace? (first last byte : UInt8) : Option Nat :=
  (placeIn? 0x40 0x7E byte).or ((placeIn? first last byte).map (63 + ·))

end Text

end ShapeQuery
