import ShapeQuery.Datum

/-!
# Members of records

A member is read back as the value of the type that its record declares for it.
A decoded record holds every member with that type; elsewhere the reading is the
zero of the type.
-/

namespace ShapeQuery

namespace Datum

/-- The text that a value is. -/
def asText : Datum → String
  | .text value => value
  | _ => ""

/-- The items that a value lists. -/
def items : Datum → List Datum
  | .list entries => entries
  | _ => []

/-- The member of a record; the unit value where there is none. -/
def memberAt (record : Datum) (name : String) : Datum :=
  (record.member? name).getD .unit

def textAt (record : Datum) (name : String) : String :=
  (record.memberAt name).asText

/-- The member as an optional text. -/
def optionalTextAt (record : Datum) (name : String) : Option String :=
  match record.memberAt name with
  | .present value => some value.asText
  | _ => none

/-- The member as a list of texts. -/
def textsAt (record : Datum) (name : String) : List String :=
  (record.memberAt name).items.map asText

def flagAt (record : Datum) (name : String) : Bool :=
  match record.memberAt name with
  | .boolean value => value
  | _ => false

/-- The member as a signed word. -/
def wordAt (record : Datum) (name : String) : Int64 :=
  match record.memberAt name with
  | .integer value => Int64.ofInt value
  | _ => 0

def floatingAt (record : Datum) (name : String) : Floating :=
  match record.memberAt name with
  | .floating value => value
  | _ => Floating.zero

end Datum

end ShapeQuery
