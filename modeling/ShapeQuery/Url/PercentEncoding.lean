/-!
# Percent-encoding

A character outside printable ASCII, or in the set of the part it stands in, is
written as its UTF-8 bytes, each as a percent sign and two upper-case hexadecimal
digits.
-/

namespace ShapeQuery

namespace Url

/-- The upper-case hexadecimal digit of a number below sixteen. -/
def upperHexDigit (value : Nat) : Char :=
  if value < 10 then Char.ofNat (48 + value) else Char.ofNat (55 + value)

def percentByte (byte : UInt8) : List Char :=
  ['%', upperHexDigit (byte.toNat / 16), upperHexDigit (byte.toNat % 16)]

/-- Whether a character stands for itself nowhere in an address. -/
def alwaysEncoded (character : Char) : Bool :=
  character.toNat < 0x20 || 0x7E < character.toNat

/-- The text with the characters of a set encoded. -/
def percentEncode (set : Char → Bool) (text : List Char) : List Char :=
  text.flatMap fun character =>
    if alwaysEncoded character || set character then
      (String.utf8EncodeChar character).flatMap percentByte
    else [character]

def inFragmentSet (character : Char) : Bool :=
  [' ', '"', '<', '>', '\x60'].contains character

def inQuerySet (character : Char) : Bool :=
  [' ', '"', '#', '<', '>', '\''].contains character

def inPathSet (character : Char) : Bool :=
  inFragmentSet character || ['#', '?', '\x7b', '\x7d'].contains character

def inCredentialsSet (character : Char) : Bool :=
  inPathSet character ||
    ['/', ':', ';', '=', '@', '[', '\\', ']', '^', '|'].contains character

/-- The value of a hexadecimal digit. -/
def hexDigitValue? (digit : Char) : Option Nat :=
  if '0' ≤ digit ∧ digit ≤ '9' then some (digit.toNat - 48)
  else if 'a' ≤ digit ∧ digit ≤ 'f' then some (digit.toNat - 87)
  else if 'A' ≤ digit ∧ digit ≤ 'F' then some (digit.toNat - 55)
  else none

/-- The bytes of a text in which escapes stand for bytes; a percent sign without
two hexadecimal digits stands for itself. -/
def percentDecode : List Char → List UInt8
  | '%' :: high :: low :: rest =>
    match hexDigitValue? high, hexDigitValue? low with
    | some highValue, some lowValue =>
      UInt8.ofNat (highValue * 16 + lowValue) :: percentDecode rest
    | _, _ => '%'.toNat.toUInt8 :: percentDecode (high :: low :: rest)
  | character :: rest => String.utf8EncodeChar character ++ percentDecode rest
  | [] => []

end Url

end ShapeQuery
