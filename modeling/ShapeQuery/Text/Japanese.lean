import ShapeQuery.Text.DoubleByte
import ShapeQuery.Text.Jis0208
import ShapeQuery.Text.Jis0212

/-!
# Japanese

Three ways to write the characters of JIS X 0208 in bytes: Shift_JIS moves the
half-width katakana between the leads, EUC-JP marks them and the supplementary
characters with a byte in front, and ISO-2022-JP switches between sets of seven
bits with escapes.
-/

namespace ShapeQuery

namespace Text

namespace Japanese

/-- The half-width katakana of a byte, where those bytes begin at `first`. -/
def katakana? (first byte : UInt8) : Option Char :=
  (placeIn? first (first + 0x3E) byte).map fun place => Char.ofNat (0xFF61 + place)

/-- The place of a lead of Shift_JIS. -/
def shiftedLeadPlace? (lead : UInt8) : Option Nat :=
  (placeIn? 0x81 0x9F lead).or ((placeIn? 0xE0 0xFC lead).map (31 + ·))

/-- The character of a pair in Shift_JIS, where each lead covers two rows.  Rows 95
to 114 are for private use. -/
def shiftedPair? (lead trail : UInt8) : Option Char := do
  let place := (← shiftedLeadPlace? lead) * 188 + (← splitPlace? 0x80 0xFC trail)
  let row := place / 94
  if 94 ≤ row ∧ row < 114 then some (Char.ofNat (0xE000 + (place - 94 * 94)))
  else Jis0208.grid.cell? row (place % 94)

/-- The character of two bytes that name a row and a column of a grid, counted
from `first`. -/
def gridPair? (grid : Grid) (first lead trail : UInt8) : Option Char := do
  let row ← placeIn? first (first + 0x5D) lead
  let column ← placeIn? first (first + 0x5D) trail
  grid.cell? row column

/-- The character of a pair in EUC-JP. -/
def extendedPair? (lead trail : UInt8) : Option Char :=
  if lead = 0x8E then katakana? 0xA1 trail else gridPair? Jis0208.grid 0xA1 lead trail

/-- Whether a byte begins a pair or a triple in EUC-JP. -/
def isExtendedLead (byte : UInt8) : Bool :=
  byte = 0x8E || byte = 0x8F || (placeIn? 0xA1 0xFE byte).isSome

def readExtended : List UInt8 → List Char
  | [] => []
  | [byte] => [(asciiCharacter? byte).getD replacementCharacter]
  | lead :: trail :: rest =>
    match asciiCharacter? lead with
    | some character => character :: readExtended (trail :: rest)
    | none =>
      if !isExtendedLead lead then replacementCharacter :: readExtended (trail :: rest)
      else if lead = 0x8F ∧ (placeIn? 0xA1 0xFE trail).isSome then
        match rest with
        | [] => [replacementCharacter]
        | last :: rest =>
          match gridPair? Jis0212.grid 0xA1 trail last with
          | some character => character :: readExtended rest
          | none =>
            replacementCharacter ::
              if isAsciiByte last then readExtended (last :: rest) else readExtended rest
      else
        match extendedPair? lead trail with
        | some character => character :: readExtended rest
        | none =>
          replacementCharacter ::
            if isAsciiByte trail then readExtended (trail :: rest) else readExtended rest

/-- The set in force between two escapes of ISO-2022-JP. -/
inductive EscapedSet where
  | ascii
  | roman
  | katakana
  | jis0208
  deriving DecidableEq, Repr

/-- The set that the two bytes behind an escape name. -/
def EscapedSet.ofBytes? (first second : UInt8) : Option EscapedSet :=
  match first, second with
  | 0x28, 0x42 => some .ascii
  | 0x28, 0x4A => some .roman
  | 0x28, 0x49 => some .katakana
  | 0x24, 0x40 | 0x24, 0x42 => some .jis0208
  | _, _ => none

/-- The character of a byte in a set of single bytes. -/
def EscapedSet.single? (set : EscapedSet) (byte : UInt8) : Option Char :=
  match set with
  | .ascii => if byte = 0x0E ∨ byte = 0x0F then none else asciiCharacter? byte
  | .roman =>
    if byte = 0x5C then some '¥'
    else if byte = 0x7E then some '‾'
    else if byte = 0x0E ∨ byte = 0x0F then none
    else asciiCharacter? byte
  | .katakana => katakana? 0x21 byte
  | .jis0208 => none

/-- Reads bytes in ISO-2022-JP.  `idle` says that nothing was read since the last
escape: a further escape is then a fault. -/
def readEscaped : EscapedSet → Bool → List UInt8 → List Char
  | _, _, [] => []
  | set, idle, byte :: rest =>
    if byte = 0x1B then
      match rest with
      | first :: second :: behind =>
        match EscapedSet.ofBytes? first second with
        | some next =>
          if idle then replacementCharacter :: readEscaped next true behind
          else readEscaped next true behind
        | none => replacementCharacter :: readEscaped set false (first :: second :: behind)
      | rest => replacementCharacter :: readEscaped set false rest
    else if set = .jis0208 ∧ (placeIn? 0x21 0x7E byte).isSome then
      match rest with
      | [] => [replacementCharacter]
      | trail :: rest =>
        if trail = 0x1B then replacementCharacter :: readEscaped set false (trail :: rest)
        else
          (gridPair? Jis0208.grid 0x21 byte trail).getD replacementCharacter ::
            readEscaped set false rest
    else (set.single? byte).getD replacementCharacter :: readEscaped set false rest

end Japanese

def shiftJis : DoubleByte where
  single? byte :=
    if byte = 0x80 then some '\x80' else (asciiCharacter? byte).or (Japanese.katakana? 0xA1 byte)
  isLead byte := (Japanese.shiftedLeadPlace? byte).isSome
  pair lead trail := (Japanese.shiftedPair? lead trail).toList

/-- The text that some bytes write in EUC-JP. -/
def decodeEucJp (bytes : List UInt8) : String :=
  String.ofList (Japanese.readExtended bytes)

/-- The text that some bytes write in ISO-2022-JP. -/
def decodeIso2022Jp (bytes : List UInt8) : String :=
  String.ofList (Japanese.readEscaped .ascii false bytes)

end Text

end ShapeQuery
