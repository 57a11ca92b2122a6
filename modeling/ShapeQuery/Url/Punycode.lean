/-!
# Labels of letters and digits

A text beyond ASCII is written with letters and digits: first its ASCII
characters and a hyphen, then numbers in base 36 that say in increasing order of
the code points which further characters stand where.
-/

namespace ShapeQuery

namespace Url

/-- The value of a digit of base 36 in lower case. -/
def digit36? (digit : Char) : Option Nat :=
  if 'a' ≤ digit ∧ digit ≤ 'z' then some (digit.toNat - 97)
  else if '0' ≤ digit ∧ digit ≤ '9' then some (digit.toNat - 22)
  else none

/-- The digit of base 36 of a value. -/
def writeDigit36 (value : Nat) : Char :=
  if value < 26 then Char.ofNat (97 + value) else Char.ofNat (22 + value)

/-- Divides until the value is small enough; gives the result and 36 times the
number of divisions. -/
def shrinkBias (delta count : Nat) : Nat × Nat :=
  if 455 < delta then shrinkBias (delta / 35) (count + 36) else (delta, count)
termination_by delta
decreasing_by exact Nat.div_lt_self (by omega) (by omega)

/-- The bias for the next number. -/
def adaptBias (delta points : Nat) (first : Bool) : Nat :=
  let halved := if first then delta / 700 else delta / 2
  let (small, count) := shrinkBias (halved + halved / points) 0
  count + 36 * small / (small + 38)

/-- The smallest digit value at some place that does not end a number. -/
def digitThreshold (place bias : Nat) : Nat :=
  min 26 (max 1 (place - bias))

/-- The first number that is too large for a label. -/
def labelNumberLimit : Nat := 4294967296

/-- The state between two digits of a label. -/
structure LabelState where
  output : List Char
  point : Nat
  index : Nat
  previous : Nat
  weight : Nat
  place : Nat
  bias : Nat

def LabelState.threshold (state : LabelState) : Nat :=
  digitThreshold state.place state.bias

/-- Reads the digits behind the last hyphen. -/
def readLabelDigits (state : LabelState) : List Char → Option (List Char)
  | [] => if state.weight = 1 then some state.output else none
  | digit :: rest =>
    match digit36? digit with
    | none => none
    | some value =>
      let index := state.index + value * state.weight
      if labelNumberLimit ≤ index then none
      else if state.threshold ≤ value then
        let weight := state.weight * (36 - state.threshold)
        if labelNumberLimit ≤ weight then none
        else readLabelDigits { state with index, weight, place := state.place + 36 } rest
      else
        let points := state.output.length + 1
        let point := state.point + index / points
        let position := index % points
        if 0x110000 ≤ point ∨ (0xD800 ≤ point ∧ point ≤ 0xDFFF) then none
        else
          readLabelDigits
            { output := state.output.insertIdx position (Char.ofNat point)
              point
              index := position + 1
              previous := position + 1
              weight := 1
              place := 36
              bias := adaptBias (index - state.previous) points (state.previous == 0) } rest

/-- The text that a label writes behind `xn--`. -/
def readLabel (label : List Char) : Option (List Char) :=
  let digits := (label.reverse.takeWhile (· != '-')).reverse
  let basic := label.take (label.length - digits.length - 1)
  if basic.isEmpty ∧ digits.length < label.length then none
  else readLabelDigits ⟨basic, 128, 0, 0, 1, 36, 72⟩ digits

def writeLabelNumber (bias place number : Nat) : List Char :=
  let threshold := digitThreshold place bias
  if number < threshold then [writeDigit36 number]
  else
    writeDigit36 (threshold + (number - threshold) % (36 - threshold)) ::
      writeLabelNumber bias (place + 36) ((number - threshold) / (36 - threshold))
termination_by number
decreasing_by
  have positive : 1 ≤ digitThreshold place bias := by unfold digitThreshold; omega
  exact Nat.lt_of_le_of_lt (Nat.div_le_self _ _) (by omega)

/-- What has been written of a label, and the count of places since the last
number. -/
structure LabelDraft where
  digits : List Char
  delta : Nat
  bias : Nat
  written : Nat

/-- Passes a character of the text while those with code point `point` are
written. -/
def LabelDraft.pass (basic point : Nat) (draft : LabelDraft) (character : Char) : LabelDraft :=
  if character.toNat < point then { draft with delta := draft.delta + 1 }
  else if character.toNat = point then
    { digits := draft.digits ++ writeLabelNumber draft.bias 36 draft.delta
      delta := 0
      bias := adaptBias draft.delta (draft.written + 1) (draft.written == basic)
      written := draft.written + 1 }
  else draft

/-- Writes the characters with each of some code points in turn. -/
def writeLabelPoints (text : List Char) (basic : Nat) :
    List Nat → Nat → LabelDraft → LabelDraft
  | [], _, draft => draft
  | point :: points, next, draft =>
    let skipped := { draft with delta := draft.delta + (point - next) * (draft.written + 1) }
    let passed := text.foldl (LabelDraft.pass basic point) skipped
    writeLabelPoints text basic points (point + 1) { passed with delta := passed.delta + 1 }

/-- What a label writes behind `xn--` for a text. -/
def writeLabel (text : List Char) : List Char :=
  let basic := text.filter fun character => character.toNat < 0x80
  let points := (text.filter fun character => 0x80 ≤ character.toNat).map Char.toNat
  let increasing := (points.mergeSort (· ≤ ·)).eraseDups
  let draft := writeLabelPoints text basic.length increasing 128 ⟨[], 0, 72, basic.length⟩
  (if basic.isEmpty then [] else basic ++ ['-']) ++ draft.digits

end Url

end ShapeQuery
