import ShapeQuery.Text.CombiningClass
import ShapeQuery.Text.Composition

/-!
# Composed normal form

Texts that look alike are brought to one form: every character is taken apart, the
marks on a letter are put in order, and letters are joined with their marks as far
as there are characters for both.
-/

namespace ShapeQuery

namespace Text

def syllableParts? (character : Char) : Option (List Char) :=
  if 0xAC00 ≤ character.toNat ∧ character.toNat ≤ 0xD7A3 then
    let place := character.toNat - 0xAC00
    let parts := [Char.ofNat (0x1100 + place / 588), Char.ofNat (0x1161 + place % 588 / 28)]
    some (if place % 28 = 0 then parts else parts ++ [Char.ofNat (0x11A7 + place % 28)])
  else none

/-- Takes a character apart in at most some number of steps. -/
def partsWithin (steps : Nat) (character : Char) : List Char :=
  match steps with
  | 0 => [character]
  | steps + 1 =>
    match tabulatedDecomposition? character with
    | some (letter, mark) => partsWithin steps letter ++ [mark]
    | none => (syllableParts? character).getD [character]

/-- The letter and the marks that make a character; no character has more than
three marks. -/
def characterParts (character : Char) : List Char :=
  partsWithin 4 character

/-- Puts a character before a text in which the marks are in order. -/
def insertMark (character : Char) : List Char → List Char
  | [] => [character]
  | next :: rest =>
    if combiningClass next ≠ 0 ∧ combiningClass next < combiningClass character then
      next :: insertMark character rest
    else character :: next :: rest

/-- Puts the marks of each letter in the order of their classes. -/
def orderMarks (characters : List Char) : List Char :=
  characters.foldr insertMark []

/-- The Hangul syllable that two parts make. -/
def syllable? (first second : Char) : Option Char :=
  let (first, second) := (first.toNat, second.toNat)
  if 0x1100 ≤ first ∧ first ≤ 0x1112 ∧ 0x1161 ≤ second ∧ second ≤ 0x1175 then
    some (Char.ofNat (0xAC00 + ((first - 0x1100) * 21 + (second - 0x1161)) * 28))
  else if 0xAC00 ≤ first ∧ first ≤ 0xD7A3 ∧ (first - 0xAC00) % 28 = 0 ∧
      0x11A8 ≤ second ∧ second ≤ 0x11C2 then
    some (Char.ofNat (first + (second - 0x11A7)))
  else none

/-- The character that two characters make. -/
def composition? (first second : Char) : Option Char :=
  (syllable? first second).or (tabulatedComposition? first second)

/-- Joins characters with a letter.  `marks` holds, last first, what stands behind
the letter and could not be joined; a mark is out of reach behind one of its own or
a higher class. -/
def joinMarks (letter : Char) (marks : List Char) : List Char → List Char
  | [] => letter :: marks.reverse
  | next :: rest =>
    let reached :=
      match marks with
      | [] => true
      | last :: _ => combiningClass last < combiningClass next
    match if reached then composition? letter next else none with
    | some whole => joinMarks whole marks rest
    | none =>
      if combiningClass next = 0 then letter :: (marks.reverse ++ joinMarks next [] rest)
      else joinMarks letter (next :: marks) rest

/-- Joins all letters with their marks. -/
def compose (characters : List Char) : List Char :=
  let leading := characters.takeWhile fun character => combiningClass character ≠ 0
  match characters.dropWhile fun character => combiningClass character ≠ 0 with
  | [] => leading
  | letter :: rest => leading ++ joinMarks letter [] rest

/-- The composed normal form of a text. -/
def composed (characters : List Char) : List Char :=
  compose (orderMarks (characters.flatMap characterParts))

end Text

end ShapeQuery
