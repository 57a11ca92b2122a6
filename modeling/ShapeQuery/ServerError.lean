import ShapeQuery.Json.Typed

/-!
# Errors reported by the server

An error has a message and the places in the document it refers to.  It is shown
as `message at [line:column, ...]`, and several errors are joined by `; `.
-/

namespace ShapeQuery

/-- A place in a document, counted from one. -/
structure Location where
  line : UInt32
  column : UInt32
  deriving DecidableEq, Repr, Inhabited

/-- An error reported by the server. -/
structure ServerError where
  message : String
  locations : List Location
  deriving DecidableEq, Repr, Inhabited

namespace Location

def render (location : Location) : String :=
  Nat.repr location.line.toNat ++ ":" ++ Nat.repr location.column.toNat

/-- Reads a location; both members are required. -/
def reader : Json.Reader Location := fun limit tokens =>
  (Json.pairReader "struct Location"
    (.required "line" Json.word32Reader 0 "struct Location with 2 elements")
    (.required "column" Json.word32Reader 1 "struct Location with 2 elements")
    limit tokens).map fun ((line, column), rest) => (⟨line, column⟩, rest)

end Location

namespace ServerError

def render (error : ServerError) : String :=
  error.message ++ " at [" ++
    String.intercalate ", " (error.locations.map Location.render) ++ "]"

/-- The rendering of several errors. -/
def renderAll (errors : List ServerError) : String :=
  String.intercalate "; " (errors.map render)

/-- Reads an error; missing or null locations mean none. -/
def reader : Json.Reader ServerError := fun limit tokens =>
  (Json.pairReader "struct GraphqlError"
    (.required "message" Json.textReader 0 "struct GraphqlError with 2 elements")
    (.withDefault "locations"
      (Json.optionalReader (Json.listReader Location.reader)) none)
    limit tokens).map fun ((message, locations), rest) =>
      (⟨message, locations.getD []⟩, rest)

def listReader : Json.Reader (List ServerError) :=
  Json.listReader reader

/-- The errors that a text writes. -/
def parseAll (source : String) : Except Json.Fault (List ServerError) :=
  Json.readAll listReader source

end ServerError

end ShapeQuery
