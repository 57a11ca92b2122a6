import ShapeQuery.Text.DoubleByte
import ShapeQuery.Text.Ksx1001

/-!
# Korean

The set of one and two bytes that holds KS X 1001 and, around its cells, all other
Hangul syllables in alphabetical order.
-/

namespace ShapeQuery

namespace Text

namespace Korean

/-- Whether a character is a Hangul syllable. -/
def isSyllable (character : Char) : Bool :=
  0xAC00 ≤ character.toNat && character.toNat ≤ 0xD7A3

/-- The syllables outside the grid. -/
def furtherSyllables : Array Char :=
  absentCharacters 0xAC00 11172 (Ksx1001.grid.filter isSyllable)

/-- The place of a second byte among those that may follow a lead outside the
grid. -/
def trailPlace? (trail : UInt8) : Option Nat :=
  (placeIn? 0x41 0x5A trail).or <|
    ((placeIn? 0x61 0x7A trail).map (26 + ·)).or <|
      (placeIn? 0x81 0xFE trail).map (52 + ·)

def pair? (lead trail : UInt8) : Option Char :=
  if 0xA1 ≤ lead ∧ 0xA1 ≤ trail then
    Ksx1001.grid.cell? (lead.toNat - 0xA1) (trail.toNat - 0xA1)
  else do
    let row ← placeIn? 0x81 0xFE lead
    let column ← trailPlace? trail
    if row < 32 then furtherSyllables[row * 178 + column]?
    else furtherSyllables[32 * 178 + (row - 32) * 84 + column]?

end Korean

def eucKr : DoubleByte where
  single? := asciiCharacter?
  isLead byte := (placeIn? 0x81 0xFE byte).isSome
  pair lead trail := (Korean.pair? lead trail).toList

end Text

end ShapeQuery
