import ShapeQuery.Text.DoubleByte
import ShapeQuery.Text.Gb2312

/-!
# GB 18030

A set of one, two and four bytes.  The pairs hold GB 2312, the other unified
ideographs in the order of their code points, and private-use areas; the
quadruples hold every further code point.  A malformed quadruple counts as one
fault and is read again from its second byte.
-/

namespace ShapeQuery

namespace Text

namespace Gb18030

/-- Whether a character is one of the first 20902 unified ideographs. -/
def isUnifiedIdeograph (character : Char) : Bool :=
  0x4E00 ≤ character.toNat && character.toNat ≤ 0x9FA5

/-- The ideographs outside the grid, in the order of their codes. -/
def ideographs : Array Char :=
  absentCharacters 0x4E00 20902 (Gb2312.grid.filter isUnifiedIdeograph) ++
    (Gb2312.furtherIdeographs.flatMap String.toList).toArray

/-- Private-use characters between the others: lead, first trail, number of
characters and first code point. -/
def privateRuns : List (UInt8 × UInt8 × Nat × Nat) := [
    (0xA2, 0xAB, 6, 0xE766), (0xA2, 0xE4, 1, 0xE76D), (0xA2, 0xEF, 2, 0xE76E),
    (0xA2, 0xFD, 2, 0xE770), (0xA4, 0xF4, 11, 0xE772), (0xA5, 0xF7, 8, 0xE77D),
    (0xA6, 0xB9, 8, 0xE785), (0xA6, 0xF6, 9, 0xE797), (0xA7, 0xC2, 15, 0xE7A0),
    (0xA7, 0xF2, 13, 0xE7AF), (0xA8, 0x96, 11, 0xE7BC), (0xA8, 0xC1, 4, 0xE7C9),
    (0xA8, 0xEA, 21, 0xE7CD), (0xA9, 0x58, 1, 0xE7E2), (0xA9, 0x5B, 1, 0xE7E3),
    (0xA9, 0x5D, 3, 0xE7E4), (0xA9, 0x97, 13, 0xE7F4), (0xA9, 0xF0, 15, 0xE801),
    (0xD7, 0xFA, 5, 0xE810)]

/-- The private-use character of a pair that lies in one of the runs. -/
def privateCharacter? (lead trail : UInt8) : Option Char :=
  privateRuns.findSome? fun (runLead, runTrail, count, point) =>
    if runLead = lead ∧ runTrail ≤ trail ∧ trail.toNat - runTrail.toNat < count then
      some (Char.ofNat (point + (trail.toNat - runTrail.toNat)))
    else none

/-- The character of a pair whose second byte is below 0xA1, in rows of 96
cells. -/
def lowerCell? (lead trail : UInt8) (column : Nat) : Option Char :=
  if lead < 0xA8 then
    if lead = 0xA3 ∧ trail = 0xA0 then some '\u3000'
    else some (Char.ofNat (0xE4C6 + (lead.toNat - 0xA1) * 96 + column))
  else if lead < 0xAA then
    (Gb2312.symbols.cell? (lead.toNat - 0xA8) column).or (privateCharacter? lead trail)
  else ideographs[6080 + (lead.toNat - 0xAA) * 96 + column]?

/-- The character of a pair whose second byte is not below 0xA1, in rows of 94
cells. -/
def upperCell? (lead trail : UInt8) (column : Nat) : Option Char :=
  if 0xAA ≤ lead ∧ lead ≤ 0xAF then
    some (Char.ofNat (0xE000 + (lead.toNat - 0xAA) * 94 + column))
  else if 0xF8 ≤ lead then
    some (Char.ofNat (0xE234 + (lead.toNat - 0xF8) * 94 + column))
  else (Gb2312.grid.cell? (lead.toNat - 0xA1) column).or (privateCharacter? lead trail)

def pair? (lead trail : UInt8) : Option Char := do
  let row ← placeIn? 0x81 0xFE lead
  let column ← splitPlace? 0x80 0xFE trail
  if lead < 0xA1 then ideographs[row * 190 + column]?
  else if column < 96 then lowerCell? lead trail column
  else upperCell? lead trail (column - 96)

/-- The code points below U+10000 that the quadruples number, as intervals in the
order of the numbers. -/
def quadrupleIntervals : List (Nat × Nat) := [
    (0x80, 0xA3), (0xA5, 0xA6), (0xA9, 0xAF), (0xB2, 0xB6), (0xB8, 0xD6), (0xD8, 0xDF),
    (0xE2, 0xE7), (0xEB, 0xEB), (0xEE, 0xF1), (0xF4, 0xF6), (0xF8, 0xF8), (0xFB, 0xFB),
    (0xFD, 0x100), (0x102, 0x112), (0x114, 0x11A), (0x11C, 0x12A), (0x12C, 0x143), (0x145, 0x147),
    (0x149, 0x14C), (0x14E, 0x16A), (0x16C, 0x1CD), (0x1CF, 0x1CF), (0x1D1, 0x1D1), (0x1D3, 0x1D3),
    (0x1D5, 0x1D5), (0x1D7, 0x1D7), (0x1D9, 0x1D9), (0x1DB, 0x1DB), (0x1DD, 0x1F8), (0x1FA, 0x250),
    (0x252, 0x260), (0x262, 0x2C6), (0x2C8, 0x2C8), (0x2CC, 0x2D8), (0x2DA, 0x390), (0x3A2, 0x3A2),
    (0x3AA, 0x3B0), (0x3C2, 0x3C2), (0x3CA, 0x400), (0x402, 0x40F), (0x450, 0x450),
    (0x452, 0x1E3E), (0xE7C7, 0xE7C7), (0x1E40, 0x200F), (0x2011, 0x2012), (0x2017, 0x2017),
    (0x201A, 0x201B), (0x201E, 0x2024), (0x2027, 0x202F), (0x2031, 0x2031), (0x2034, 0x2034),
    (0x2036, 0x203A), (0x203C, 0x20AB), (0x20AD, 0x2102), (0x2104, 0x2104), (0x2106, 0x2108),
    (0x210A, 0x2115), (0x2117, 0x2120), (0x2122, 0x215F), (0x216C, 0x216F), (0x217A, 0x218F),
    (0x2194, 0x2195), (0x219A, 0x2207), (0x2209, 0x220E), (0x2210, 0x2210), (0x2212, 0x2214),
    (0x2216, 0x2219), (0x221B, 0x221C), (0x2221, 0x2222), (0x2224, 0x2224), (0x2226, 0x2226),
    (0x222C, 0x222D), (0x222F, 0x2233), (0x2238, 0x223C), (0x223E, 0x2247), (0x2249, 0x224B),
    (0x224D, 0x2251), (0x2253, 0x225F), (0x2262, 0x2263), (0x2268, 0x226D), (0x2270, 0x2294),
    (0x2296, 0x2298), (0x229A, 0x22A4), (0x22A6, 0x22BE), (0x22C0, 0x2311), (0x2313, 0x245F),
    (0x246A, 0x2473), (0x249C, 0x24FF), (0x254C, 0x254F), (0x2574, 0x2580), (0x2590, 0x2592),
    (0x2596, 0x259F), (0x25A2, 0x25B1), (0x25B4, 0x25BB), (0x25BE, 0x25C5), (0x25C8, 0x25CA),
    (0x25CC, 0x25CD), (0x25D0, 0x25E1), (0x25E6, 0x2604), (0x2607, 0x2608), (0x260A, 0x263F),
    (0x2641, 0x2641), (0x2643, 0x2E80), (0x2E82, 0x2E83), (0x2E85, 0x2E87), (0x2E89, 0x2E8A),
    (0x2E8D, 0x2E96), (0x2E98, 0x2EA6), (0x2EA8, 0x2EA9), (0x2EAB, 0x2EAD), (0x2EAF, 0x2EB2),
    (0x2EB4, 0x2EB5), (0x2EB8, 0x2EBA), (0x2EBC, 0x2EC9), (0x2ECB, 0x2FEF), (0x2FFC, 0x2FFF),
    (0x3004, 0x3004), (0x3018, 0x301C), (0x301F, 0x3020), (0x302A, 0x303D), (0x303F, 0x3040),
    (0x3094, 0x309A), (0x309F, 0x30A0), (0x30F7, 0x30FB), (0x30FF, 0x3104), (0x312A, 0x321F),
    (0x322A, 0x3230), (0x3232, 0x32A2), (0x32A4, 0x338D), (0x3390, 0x339B), (0x339F, 0x33A0),
    (0x33A2, 0x33C3), (0x33C5, 0x33CD), (0x33CF, 0x33D0), (0x33D3, 0x33D4), (0x33D6, 0x3446),
    (0x3448, 0x3472), (0x3474, 0x359D), (0x359F, 0x360D), (0x360F, 0x3619), (0x361B, 0x3917),
    (0x3919, 0x396D), (0x396F, 0x39CE), (0x39D1, 0x39DE), (0x39E0, 0x3A72), (0x3A74, 0x3B4D),
    (0x3B4F, 0x3C6D), (0x3C6F, 0x3CDF), (0x3CE1, 0x4055), (0x4057, 0x415E), (0x4160, 0x4336),
    (0x4338, 0x43AB), (0x43AD, 0x43B0), (0x43B2, 0x43DC), (0x43DE, 0x44D5), (0x44D7, 0x464B),
    (0x464D, 0x4660), (0x4662, 0x4722), (0x4724, 0x4728), (0x472A, 0x477B), (0x477D, 0x478C),
    (0x478E, 0x4946), (0x4948, 0x4979), (0x497B, 0x497C), (0x497E, 0x4981), (0x4984, 0x4984),
    (0x4987, 0x499A), (0x499C, 0x499E), (0x49A0, 0x49B5), (0x49B8, 0x4C76), (0x4C78, 0x4C9E),
    (0x4CA4, 0x4D12), (0x4D1A, 0x4DAD), (0x4DAF, 0x4DFF), (0x9FA6, 0xD7FF), (0xE76C, 0xE76C),
    (0xE7C8, 0xE7C8), (0xE7E7, 0xE7F3), (0xE815, 0xE815), (0xE819, 0xE81D), (0xE81F, 0xE825),
    (0xE827, 0xE82A), (0xE82D, 0xE830), (0xE833, 0xE83A), (0xE83C, 0xE842), (0xE844, 0xE853),
    (0xE856, 0xE863), (0xE865, 0xF92B), (0xF92D, 0xF978), (0xF97A, 0xF994), (0xF996, 0xF9E6),
    (0xF9E8, 0xF9F0), (0xF9F2, 0xFA0B), (0xFA10, 0xFA10), (0xFA12, 0xFA12), (0xFA15, 0xFA17),
    (0xFA19, 0xFA1E), (0xFA22, 0xFA22), (0xFA25, 0xFA26), (0xFA2A, 0xFE2F), (0xFE32, 0xFE32),
    (0xFE45, 0xFE48), (0xFE53, 0xFE53), (0xFE58, 0xFE58), (0xFE67, 0xFE67), (0xFE6C, 0xFF00),
    (0xFF5F, 0xFFDF), (0xFFE6, 0xFFFF)]

/-- The code point with some number in a list of intervals. -/
def numbered? : List (Nat × Nat) → Nat → Option Nat
  | [], _ => none
  | (first, last) :: rest, number =>
    if number ≤ last - first then some (first + number)
    else numbered? rest (number - (last - first + 1))

def quadruple? (first second third fourth : UInt8) : Option Char := do
  let first ← placeIn? 0x81 0xFE first
  let second ← placeIn? 0x30 0x39 second
  let third ← placeIn? 0x81 0xFE third
  let fourth ← placeIn? 0x30 0x39 fourth
  let number := ((first * 10 + second) * 126 + third) * 10 + fourth
  if 189000 ≤ number then
    if number ≤ 1237575 then some (Char.ofNat (0x10000 + (number - 189000))) else none
  else (numbered? quadrupleIntervals number).map Char.ofNat

/-- The character of a byte that stands alone. -/
def single? (byte : UInt8) : Option Char :=
  if byte = 0x80 then some '€' else asciiCharacter? byte

def read : List UInt8 → List Char
  | [] => []
  | [byte] => [(single? byte).getD replacementCharacter]
  | first :: second :: rest =>
    match single? first with
    | some character => character :: read (second :: rest)
    | none =>
      if first = 0xFF then replacementCharacter :: read (second :: rest)
      else if (placeIn? 0x30 0x39 second).isNone then
        match pair? first second with
        | some character => character :: read rest
        | none =>
          replacementCharacter ::
            if isAsciiByte second then read (second :: rest) else read rest
      else
        match rest with
        | [] => [replacementCharacter]
        | third :: rest =>
          if (placeIn? 0x81 0xFE third).isNone then
            replacementCharacter :: read (second :: third :: rest)
          else
            match rest with
            | [] => [replacementCharacter]
            | fourth :: rest =>
              if (placeIn? 0x30 0x39 fourth).isNone then
                replacementCharacter :: read (second :: third :: fourth :: rest)
              else
                (quadruple? first second third fourth).getD replacementCharacter :: read rest

end Gb18030

/-- The text that some bytes write in GB 18030. -/
def decodeGb18030 (bytes : List UInt8) : String :=
  String.ofList (Gb18030.read bytes)

end Text

end ShapeQuery
