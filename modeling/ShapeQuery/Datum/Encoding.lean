import ShapeQuery.Datum

/-!
# Values as JSON

A number that is not finite becomes `null`, and so do the unit and an absent
value.  The names of a map must be text, or scalars that are written as text.  A
value that refuses to be written fails with its reason.
-/

namespace ShapeQuery

namespace Datum

/-- Why a value has no JSON form. -/
inductive EncodingFault where
  | nameNotText
  | refused (reason : String)
  deriving DecidableEq, Repr

def EncodingFault.message : EncodingFault → String
  | .nameNotText => "key must be a string"
  | .refused reason => reason

/-- The member name that stands for a key of a map. -/
def nameOfKey : Datum → Except EncodingFault String
  | .text value => .ok value
  | .character value => .ok (String.singleton value)
  | .integer value => .ok (Int.repr value)
  | .boolean value => .ok (if value then "true" else "false")
  | .refusing reason => .error (.refused reason)
  | _ => .error .nameNotText

mutual

/-- The JSON form of a value. -/
def toJson : Datum → Except EncodingFault Json
  | .text value => .ok (.text value)
  | .character value => .ok (.text (String.singleton value))
  | .integer value => .ok (.integer value)
  | .floating value => .ok (if value.isFinite then .floating value else .null)
  | .boolean value => .ok (.boolean value)
  | .unit | .absent => .ok .null
  | .present value => toJson value
  | .list items => (itemsToJson items).map .list
  | .map entries => (entriesToJson entries).map fun members =>
      .object (Named.insertAll [] members)
  | .record members => (membersToJson members).map fun members =>
      .object (Named.insertAll [] members)
  | .json value => .ok value
  | .refusing reason => .error (.refused reason)

def itemsToJson : List Datum → Except EncodingFault (List Json)
  | [] => .ok []
  | item :: rest => do
    let first ← toJson item
    let others ← itemsToJson rest
    return first :: others

def entriesToJson : List (Datum × Datum) → Except EncodingFault (List (String × Json))
  | [] => .ok []
  | (key, value) :: rest => do
    let name ← nameOfKey key
    let first ← toJson value
    let others ← entriesToJson rest
    return (name, first) :: others

def membersToJson : List (String × Datum) → Except EncodingFault (List (String × Json))
  | [] => .ok []
  | (name, value) :: rest => do
    let first ← toJson value
    let others ← membersToJson rest
    return (name, first) :: others

end

end Datum

end ShapeQuery
