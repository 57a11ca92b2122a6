import ShapeQuery.Text.Unprintable

/-!
# Quoted text

A text between double quotes in which quotes, backslashes and every character
without a shape of its own are written as escapes.
-/

namespace ShapeQuery

namespace Text

/-- The lower-case hexadecimal digits of a number, at least one. -/
def hexDigits (value : Nat) : List Char :=
  Nat.toDigits 16 value

/-- The characters that stand for one character between the quotes. -/
def quoteCharacter (character : Char) : List Char :=
  match character with
  | '"' => ['\\', '"']
  | '\\' => ['\\', '\\']
  | '\n' => ['\\', 'n']
  | '\r' => ['\\', 'r']
  | '\t' => ['\\', 't']
  | '\x00' => ['\\', '0']
  | _ =>
    if isUnprintable character then
      ['\\', 'u', '\x7b'] ++ hexDigits character.toNat ++ ['\x7d']
    else [character]

def quoted (text : String) : String :=
  String.ofList ('"' :: (text.toList.flatMap quoteCharacter ++ ['"']))

end Text

end ShapeQuery
