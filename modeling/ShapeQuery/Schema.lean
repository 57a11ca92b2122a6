import ShapeQuery.Datum.Decoding
import ShapeQuery.Selection

/-!
# Schemas

A schema is what an operation needs to know about the type of its result: the
selection to ask for and how to decode the payload.
-/

namespace ShapeQuery

/-- The selection and the decoder of a result type. -/
structure Schema (α : Type) where
  selection : Except Shape.NotAnObject (List Selection)
  decode : Json → Except Json.DataFault α

/-- The schema of a type that is converted after decoding. -/
def Schema.map {α β : Type} (convert : α → β) (schema : Schema α) : Schema β :=
  ⟨schema.selection, fun json => (schema.decode json).map convert⟩

namespace Family

/-- The selection of a type below its outermost list and pointer layers, of which
it has at most as many as it has layers. -/
def selection (family : Family) (type : Datatype) :
    Except Shape.NotAnObject (List Selection) :=
  ((family.resolve type).project? family.resolve type.layers).getD (.error ⟨"undeclared"⟩)

/-- The schema of a type of the family. -/
def schema (family : Family) (type : Datatype) : Schema Datum :=
  ⟨family.selection type, fun json => decode family json type⟩

end Family

end ShapeQuery
