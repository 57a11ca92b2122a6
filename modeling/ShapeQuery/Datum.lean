import ShapeQuery.Json

/-!
# Values

The values of the types that have shapes.  Pointers other than optional ones add
nothing to a value, and a record is the list of its members by their
serialization names, in declaration order.  A floating-point number of either
format is held as the double that equals it.
-/

namespace ShapeQuery

inductive Datum where
  | text (value : String)
  | character (value : Char)
  | integer (value : Int)
  | floating (value : Floating)
  | boolean (value : Bool)
  | unit
  | absent
  | present (value : Datum)
  | list (items : List Datum)
  | map (entries : List (Datum × Datum))
  | record (members : List (String × Datum))
  | json (value : Json)
  | refusing (reason : String)
  deriving Repr, Inhabited

namespace Datum

/-- A number of the single format, held as the double that equals it. -/
def ofSingle (value : Floating) : Datum :=
  .floating (FloatFormat.double.convert value)

def member? (name : String) : Datum → Option Datum
  | .record members => members.lookup name
  | _ => none

end Datum

end ShapeQuery
