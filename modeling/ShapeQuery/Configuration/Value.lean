import ShapeQuery.HeaderField
import ShapeQuery.Text.Blank
import ShapeQuery.Url.Parser

/-!
# Configuration values

A key is a non-empty text of visible ASCII, so it can always be carried in a
header.  An endpoint is a web address with a host.
-/

namespace ShapeQuery

/-- Why a configuration value is refused. -/
inductive ConfigError where
  | emptyApiKey
  | invalidApiKey
  | invalidEndpoint (url : String)
  deriving DecidableEq, Repr

def ConfigError.message : ConfigError → String
  | .emptyApiKey => "API key cannot be empty. Please provide a valid BorgBase API token."
  | .invalidApiKey =>
    "API key contains invalid characters. Only visible ASCII characters are allowed."
  | .invalidEndpoint url =>
    "Invalid endpoint '" ++ url ++ "'. Please provide an http(s) URL with a host " ++
      "(e.g., 'https://api.borgbase.com/graphql')."

/-- Whether a byte is a visible ASCII character. -/
def isVisibleByte (byte : UInt8) : Bool :=
  0x21 ≤ byte && byte ≤ 0x7E

structure ApiKey where
  text : String
  deriving DecidableEq, Repr

namespace ApiKey

/-- The value of the header that carries the key. -/
def authorization (key : ApiKey) : String :=
  "bearer " ++ key.text

/-- The key, if a header can carry it. -/
def carried (key : ApiKey) : Except ConfigError ApiKey :=
  if isFieldText key.authorization then .ok key else .error .invalidApiKey

/-- Accepts a text as a key. -/
def ofText (text : String) : Except ConfigError ApiKey :=
  if text.isEmpty then .error .emptyApiKey
  else if text.toUTF8.data.all isVisibleByte then carried ⟨text⟩
  else .error .invalidApiKey

/-- What is shown instead of a key. -/
def masked (_ : ApiKey) : String :=
  "ApiKey(*****)"

end ApiKey

/-- The address that requests are sent to. -/
structure Endpoint where
  url : Url
  deriving DecidableEq, Repr

namespace Endpoint

/-- Accepts a text, without the white space around it, as an endpoint. -/
def ofText (text : String) : Except ConfigError Endpoint :=
  let trimmed := Text.trim text
  match Url.parse? trimmed with
  | some url => if url.host = "" then .error (.invalidEndpoint trimmed) else .ok ⟨url⟩
  | none => .error (.invalidEndpoint trimmed)

/-- The public endpoint of the service. -/
def standard : Endpoint :=
  ⟨{ scheme := .https
     credentials := ""
     host := "api.borgbase.com"
     port := none
     path := "/graphql"
     query := none
     fragment := none }⟩

def render (endpoint : Endpoint) : String :=
  endpoint.url.render

end Endpoint

end ShapeQuery
