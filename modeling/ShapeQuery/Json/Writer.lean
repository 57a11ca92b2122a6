import ShapeQuery.Floating.Shortest
import ShapeQuery.Json

/-!
# JSON text

Compact text without blanks.  In a text only the quote, the backslash and the
characters below U+0020 are escaped; everything else stands for itself.
-/

namespace ShapeQuery

namespace Json

/-- The hexadecimal digit of a number below sixteen. -/
def hexDigit (value : Nat) : Char :=
  if value < 10 then Char.ofNat (48 + value) else Char.ofNat (87 + value)

/-- The characters that stand for one character inside a written text. -/
def escape (character : Char) : List Char :=
  match character with
  | '"' => ['\\', '"']
  | '\\' => ['\\', '\\']
  | '\x08' => ['\\', 'b']
  | '\t' => ['\\', 't']
  | '\n' => ['\\', 'n']
  | '\x0c' => ['\\', 'f']
  | '\r' => ['\\', 'r']
  | _ =>
    if character.toNat < 0x20 then
      ['\\', 'u', '0', '0', hexDigit (character.toNat / 16), hexDigit (character.toNat % 16)]
    else [character]

def writeText (value : String) : List Char :=
  '"' :: (value.toList.flatMap escape ++ ['"'])

mutual

def write : Json → List Char
  | .null => ['n', 'u', 'l', 'l']
  | .boolean true => ['t', 'r', 'u', 'e']
  | .boolean false => ['f', 'a', 'l', 's', 'e']
  | .integer value => (Int.repr value).toList
  | .floating value =>
    match value.text? with
    | some decimal => decimal.toList
    | none => ['n', 'u', 'l', 'l']
  | .text value => writeText value
  | .list [] => ['[', ']']
  | .list (item :: rest) => '[' :: (write item ++ writeItems rest)
  | .object [] => ['\x7b', '\x7d']
  | .object ((name, value) :: rest) =>
    '\x7b' :: (writeText name ++ ':' :: (write value ++ writeMembers rest))

/-- The items after the first and the closing bracket. -/
def writeItems : List Json → List Char
  | [] => [']']
  | item :: rest => ',' :: (write item ++ writeItems rest)

/-- The members after the first and the closing brace. -/
def writeMembers : List (String × Json) → List Char
  | [] => ['\x7d']
  | (name, value) :: rest =>
    ',' :: (writeText name ++ ':' :: (write value ++ writeMembers rest))

end

def render (json : Json) : String :=
  String.ofList (write json)

end Json

end ShapeQuery
