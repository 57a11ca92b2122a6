import ShapeQuery.Text.Utf8
import ShapeQuery.Url.Label
import ShapeQuery.Url.PercentEncoding

/-!
# Hosts

A host is a six-part address in brackets, a four-part address whose numbers may
be decimal, octal or hexadecimal and may run together, or a name.  Each has one
canonical text, in ASCII.
-/

namespace ShapeQuery

namespace Url

/-- The parts of a text between separators. -/
def splitAtDots (text : List Char) : List (List Char) :=
  text.splitOn '.'

/-- The digits of a number in some base, if all are. -/
def digitsValue? (base : Nat) (digits : List Char) : Option Nat :=
  digits.foldlM
    (fun value digit => do
      let digit ← hexDigitValue? digit
      if digit < base then some (value * base + digit) else none)
    0

/-- A number of a four-part address: hexadecimal behind `0x`, octal behind a
leading zero, else decimal. -/
def ipv4Number? : List Char → Option Nat
  | [] => none
  | '0' :: 'x' :: digits | '0' :: 'X' :: digits => digitsValue? 16 digits
  | '0' :: digit :: digits => digitsValue? 8 (digit :: digits)
  | digits => digitsValue? 10 digits

/-- The last part of a name, one trailing dot aside. -/
def lastPart (parts : List (List Char)) : List Char :=
  match parts.reverse with
  | [] :: part :: _ => part
  | part :: _ => part
  | [] => []

/-- Whether a name has to be read as a four-part address. -/
def endsInNumber (name : List Char) : Bool :=
  let last := lastPart (splitAtDots name)
  (!last.isEmpty && last.all Char.isDigit) || (ipv4Number? last).isSome

/-- The address that some numbers write: all but the last stand for one byte, the
last for the remaining ones. -/
def ipv4Address? (numbers : List Nat) : Option Nat :=
  match numbers.reverse with
  | [] => none
  | last :: leading =>
    let bytes := leading.reverse
    if 3 < bytes.length ∨ bytes.any (255 < ·) ∨ Nat.pow 256 (4 - bytes.length) ≤ last then none
    else
      let high := bytes.foldl (fun value byte => value * 256 + byte) 0
      some (high * Nat.pow 256 (4 - bytes.length) + last)

/-- The four-part address that a name writes. -/
def readIpv4? (name : List Char) : Option Nat := do
  let parts := splitAtDots name
  let parts := if parts.getLast? = some [] then parts.dropLast else parts
  let numbers ← parts.mapM ipv4Number?
  ipv4Address? numbers

/-- The text of a four-part address. -/
def renderIpv4 (address : Nat) : String :=
  String.intercalate "."
    ([16777216, 65536, 256, 1].map fun unit => Nat.repr (address / unit % 256))

/-- One byte of a four-part address inside brackets, written without leading
zeros. -/
def plainByte? (digits : List Char) : Option Nat :=
  match digits with
  | [] => none
  | '0' :: _ :: _ => none
  | _ =>
    if digits.all Char.isDigit then
      let value := Nat.ofDigitChars 10 digits 0
      if value ≤ 255 then some value else none
    else none

/-- The two groups that a four-part address inside brackets stands for. -/
def trailingIpv4? (text : List Char) : Option (List Nat) := do
  match ← (splitAtDots text).mapM plainByte? with
  | [first, second, third, fourth] => some [first * 256 + second, third * 256 + fourth]
  | _ => none

/-- The groups of an eight-group address, with the place where zeros are left
out. -/
structure Groups where
  values : List Nat
  gap : Option Nat

/-- The number of groups so far; a gap stands for at least one. -/
def Groups.count (groups : Groups) : Nat :=
  groups.values.length + (if groups.gap.isSome then 1 else 0)

/-- Reads groups; every round takes a character, so `fuel` need not exceed their
number. -/
def readGroups : Nat → Groups → List Char → Option Groups
  | _, groups, [] => some groups
  | 0, _, _ :: _ => none
  | fuel + 1, groups, text =>
    if groups.count = 8 then none
    else
      match text with
      | ':' :: rest =>
        if groups.gap.isSome then none
        else readGroups fuel { groups with gap := some groups.values.length } rest
      | _ =>
        let digits := (text.take 4).takeWhile fun digit => (hexDigitValue? digit).isSome
        let value := (digitsValue? 16 digits).getD 0
        match text.drop digits.length with
        | [] => some { groups with values := groups.values ++ [value] }
        | [':'] => none
        | ':' :: rest => readGroups fuel { groups with values := groups.values ++ [value] } rest
        | '.' :: _ =>
          if 6 < groups.count then none
          else
            (trailingIpv4? text).map fun pair =>
              { groups with values := groups.values ++ pair }
        | _ => none

/-- The eight groups of an address. -/
def Groups.expand? (groups : Groups) : Option (List Nat) :=
  match groups.gap with
  | none => if groups.values.length = 8 then some groups.values else none
  | some place =>
    some (groups.values.take place ++ List.replicate (8 - groups.values.length) 0 ++
      groups.values.drop place)

/-- The eight-group address that a text between brackets writes. -/
def readIpv6? (text : List Char) : Option (List Nat) :=
  match text with
  | ':' :: ':' :: rest => (readGroups text.length ⟨[], some 0⟩ rest).bind Groups.expand?
  | ':' :: _ | [] => none
  | _ => (readGroups text.length ⟨[], none⟩ text).bind Groups.expand?

/-- The number of zeros at the front. -/
def leadingZeros (values : List Nat) : Nat :=
  (values.takeWhile (· == 0)).length

/-- The first longest run of at least two zeros: its place and length. -/
def longestZeros (values : List Nat) : Option (Nat × Nat) :=
  (List.range values.length).foldl
    (fun best place =>
      let length := leadingZeros (values.drop place)
      let previous := (best.map (·.2)).getD 1
      if previous < length then some (place, length) else best)
    none

/-- The text of an eight-group address without brackets. -/
def renderGroups (values : List Nat) : String :=
  let join (part : List Nat) : String :=
    String.intercalate ":" (part.map fun value => String.ofList (Nat.toDigits 16 value))
  match longestZeros values with
  | some (place, length) => join (values.take place) ++ "::" ++ join (values.drop (place + length))
  | none => join values

/-- Whether a character may stand in a name. -/
def isNameCharacter (character : Char) : Bool :=
  0x20 < character.toNat && character.toNat < 0x7F &&
    !(['%', '#', '/', ':', '<', '>', '?', '@', '[', '\\', ']', '^', '|'].contains character)

/-- The canonical text of a name. -/
def readName? (text : List Char) : Option String := do
  let labels ← readLabels? (Text.decodeUtf8 (percentDecode text)).toList
  let name := ['.'].intercalate labels
  if name.isEmpty || !name.all isNameCharacter then none
  else if endsInNumber name then (readIpv4? name).map renderIpv4
  else some (String.ofList name)

/-- The canonical text of a host. -/
def readHost? (text : List Char) : Option String :=
  match text with
  | '[' :: rest =>
    if rest.getLast? = some ']' then
      (readIpv6? rest.dropLast).map fun groups => "[" ++ renderGroups groups ++ "]"
    else none
  | _ => readName? text

end Url

end ShapeQuery
