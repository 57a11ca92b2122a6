/-!
# White space

The characters of the Unicode property White_Space, and trimming by it.
-/

namespace ShapeQuery

namespace Text

/-- Whether the character has the property White_Space. -/
def isBlank (character : Char) : Bool :=
  let code := character.toNat
  (0x09 ≤ code && code ≤ 0x0D) || code == 0x20 || code == 0x85 || code == 0xA0 ||
    code == 0x1680 || (0x2000 ≤ code && code ≤ 0x200A) || code == 0x2028 ||
    code == 0x2029 || code == 0x202F || code == 0x205F || code == 0x3000

/-- Drops the characters of a class from both ends. -/
def trimCharacters (drop : Char → Bool) (characters : List Char) : List Char :=
  ((characters.dropWhile drop).reverse.dropWhile drop).reverse

/-- The text without white space at either end. -/
def trim (text : String) : String :=
  String.ofList (trimCharacters isBlank text.toList)

end Text

end ShapeQuery
