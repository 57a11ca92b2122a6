import ShapeQuery.HeaderField

/-!
# The user agent

The client names itself in the user agent field of its requests, after an
optional text of the caller.  Only texts that a header field can carry become a
user agent.
-/

namespace ShapeQuery

/-- A user agent that no header field can carry. -/
structure IllegalUserAgent where
  text : String
  deriving DecidableEq, Repr

def IllegalUserAgent.message (_ : IllegalUserAgent) : String :=
  "Failed to create HTTP client: reqwest::Error \x7b kind: Builder, " ++
    "source: http::Error(InvalidHeaderValue) \x7d"

/-- The name that the client gives itself. -/
structure UserAgent where
  text : String
  deriving DecidableEq, Repr

namespace UserAgent

def product : String :=
  "BorgBase API Library v0.1.0 | Rust 1.75"

/-- The product after the text of the caller. -/
def describe : Option String → String
  | some caller => caller ++ " | " ++ product
  | none => product

/-- The user agent with the text of a caller before it. -/
def ofCaller (caller? : Option String) : Except IllegalUserAgent UserAgent :=
  let text := describe caller?
  if isFieldText text then .ok ⟨text⟩ else .error ⟨text⟩

end UserAgent

end ShapeQuery
