/-!
# Intervals of code points

A property of characters is tabulated as the intervals of code points that have
it.
-/

namespace ShapeQuery

namespace Text

/-- Whether a character lies in one of some intervals, each given by its first and
last code point. -/
def liesIn (intervals : Array (Nat × Nat)) (character : Char) : Bool :=
  intervals.any fun interval =>
    interval.1 ≤ character.toNat && character.toNat ≤ interval.2

end Text

end ShapeQuery
