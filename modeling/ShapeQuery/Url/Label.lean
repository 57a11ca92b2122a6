import ShapeQuery.Text.Direction
import ShapeQuery.Text.Joining
import ShapeQuery.Text.Normalization
import ShapeQuery.Url.LabelMapping
import ShapeQuery.Url.Punycode

/-!
# Labels of names

The parts of a name between its points.  A label may be a text beyond ASCII, which
is written with `xn--` in front; the text has to be in composed normal form, and
its characters have to be allowed, to begin with a letter and to join and run as
their script does.
-/

namespace ShapeQuery

namespace Url

def isAsciiCharacter (character : Char) : Bool :=
  character.toNat < 0x80

/-- Whether the nearest character that is not looked through joins on a side. -/
def joinsAcross (side : Text.Joining) (characters : List Char) : Bool :=
  match characters.map Text.joining |>.dropWhile (· == .transparent) with
  | [] => false
  | nearest :: _ => nearest == side || nearest == .both

/-- Whether a joiner or non-joiner fits between some characters, those before it
last first: behind a sign that suppresses a vowel, or, for a non-joiner, between
letters that would join. -/
def joinerFits (before : List Char) (joiner : Char) (behind : List Char) : Bool :=
  match before with
  | [] => false
  | previous :: _ =>
    Text.isVirama previous ||
      (joiner == '\u200C' && joinsAcross .behind before && joinsAcross .before behind)

/-- Whether all joiners fit; `before` holds the characters in front, last first. -/
def joinersFit (before : List Char) : List Char → Bool
  | [] => true
  | character :: rest =>
    ((character != '\u200C' && character != '\u200D') || joinerFits before character rest) &&
      joinersFit (character :: before) rest

/-- Whether a label may stand in a name that is partly written from right to left:
it runs in one direction, and begins and ends so. -/
def keepsDirection (label : List Char) : Bool :=
  let directions := label.map Text.direction
  let last? := (directions.reverse.dropWhile (· == .mark)).head?
  match directions with
  | [] => true
  | .leftToRight :: _ =>
    directions.all (fun item => item != .rightToLeft && item != .arabicNumber) &&
      (last? == some .leftToRight || last? == some .europeanNumber)
  | .rightToLeft :: _ =>
    directions.all (· != .leftToRight) && last? != some .neutral &&
      !(directions.contains .arabicNumber && directions.contains .europeanNumber)
  | _ => false

/-- Whether a label has a character that is written from right to left. -/
def hasRightToLeft (label : List Char) : Bool :=
  label.any fun character =>
    Text.direction character == .rightToLeft || Text.direction character == .arabicNumber

/-- The most characters of a label beyond ASCII. -/
def labelSizeLimit : Nat := 1000

/-- The most characters behind `xn--`. -/
def writtenLabelSizeLimit : Nat := 2000

/-- Whether a text in composed normal form may be a label. -/
def isLabelText (label : List Char) : Bool :=
  (label.head?.all fun first => !Text.isMark first) && joinersFit [] label &&
    (label.all isAsciiCharacter || label.length ≤ labelSizeLimit)

/-- The text that a label stands for, if it may stand in a name. -/
def labelText? (label : List Char) : Option (List Char) :=
  match label with
  | 'x' :: 'n' :: '-' :: '-' :: written => do
    let text ←
      if written.all isAsciiCharacter && written.length ≤ writtenLabelSizeLimit then
        readLabel written
      else none
    let isOwnTarget (character : Char) : Bool := labelTarget? character = some [character]
    if text.all isAsciiCharacter || !text.all isOwnTarget || Text.composed text != text then none
    else if isLabelText text then some text
    else none
  | _ => if isLabelText label then some label else none

/-- The label that stands for a text. -/
def writtenLabel (text : List Char) : List Char :=
  if text.all isAsciiCharacter then text else ['x', 'n', '-', '-'] ++ writeLabel text

/-- The labels that stand for those of a name, if they may stand side by side. -/
def readLabels? (name : List Char) : Option (List (List Char)) := do
  let targets ← name.mapM labelTarget?
  let texts ← ((Text.composed targets.flatten).splitOn '.').mapM labelText?
  if texts.any hasRightToLeft && !texts.all keepsDirection then none
  else some (texts.map writtenLabel)

end Url

end ShapeQuery
