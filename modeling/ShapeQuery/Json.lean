import ShapeQuery.Floating
import ShapeQuery.Named

/-!
# JSON values

A JSON number is an integer or a floating-point number.  An object is a list of
members in strictly increasing order of their names; reading and building keep
that order, and a later member replaces an earlier one of the same name.
-/

namespace ShapeQuery

inductive Json where
  | null
  | boolean (value : Bool)
  | integer (value : Int)
  | floating (value : Floating)
  | text (value : String)
  | list (items : List Json)
  | object (members : List (String × Json))
  deriving Repr, Inhabited

namespace Json

/-- The member of that name, if the value is an object that has one. -/
def member? (name : String) : Json → Option Json
  | .object members => Named.find? name members
  | _ => none

/-- Whether the value is an object. -/
def isObject : Json → Bool
  | .object _ => true
  | _ => false

def isNull : Json → Bool
  | .null => true
  | _ => false

mutual

/-- Every object in the value has strictly increasing member names. -/
def Ordered : Json → Prop
  | .list items => OrderedList items
  | .object members => Named.Increasing members ∧ OrderedMembers members
  | _ => True

/-- `Ordered` for each item. -/
def OrderedList : List Json → Prop
  | [] => True
  | item :: rest => Ordered item ∧ OrderedList rest

/-- `Ordered` for the value of each member. -/
def OrderedMembers : List (String × Json) → Prop
  | [] => True
  | (_, value) :: rest => Ordered value ∧ OrderedMembers rest

end

end Json

end ShapeQuery
