import ShapeQuery.ServerError

/-!
# Response envelopes

The body of a response is a record of two optional members: the data, an object
with one member per root field, and the errors.
-/

namespace ShapeQuery

structure Envelope where
  data : Option (List (String × Json))
  errors : Option (List ServerError)
  deriving Repr, Inhabited

namespace Envelope

def reader : Json.Reader Envelope := fun limit tokens =>
  (Json.pairReader "struct GraphqlResponse"
    (.withDefault "data" (Json.optionalReader Json.mappingReader) none)
    (.withDefault "errors" (Json.optionalReader ServerError.listReader) none)
    limit tokens).map fun ((data, errors), rest) => (⟨data, errors⟩, rest)

/-- The envelope that a body writes. -/
def parse (body : String) : Except Json.Fault Envelope :=
  Json.readAll reader body

/-- The reported errors; an absent list counts as empty. -/
def reported (envelope : Envelope) : List ServerError :=
  envelope.errors.getD []

/-- The payload of a root field; an absent and a null one count as none. -/
def payload? (envelope : Envelope) (name : String) : Option Json :=
  match envelope.data.bind (Named.find? name) with
  | none | some .null => none
  | some payload => some payload

end Envelope

end ShapeQuery
