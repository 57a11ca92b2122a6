import ShapeQuery.Configuration.Value
import ShapeQuery.LogEntry

/-!
# Requests, replies and transports

A transport hands one request over and brings one reply back.  An authenticated
transport does so through another one, after setting the key as the only value of
the authorization header.
-/

namespace ShapeQuery

structure Header where
  name : String
  value : String
  sensitive : Bool
  deriving DecidableEq, Repr

/-- A request; its header fields may repeat names. -/
structure Request where
  method : String
  url : Url
  headers : List Header
  body : String
  deriving DecidableEq, Repr

/-- The first line by which a request is sent. -/
def Request.line (request : Request) : String :=
  request.method ++ " " ++ request.url.target ++ " HTTP/1.1"

/-- Sets a header field, dropping every earlier field of the name. -/
def Request.setHeader (request : Request) (header : Header) : Request :=
  { request with headers := request.headers.filter (·.name != header.name) ++ [header] }

/-- The body of a response: its bytes, or the reason why reading it failed. -/
inductive Body where
  | bytes (content : List UInt8)
  | broken (reason : String)
  deriving DecidableEq, Repr

/-- What comes back for a request. -/
inductive Reply where
  | failed (reason : String)
  | response (status : Nat) (contentType : Option String) (body : Body)
  deriving DecidableEq, Repr

/-- A way to exchange requests for replies, with a text that describes it. -/
structure Transport (m : Type → Type) where
  description : String
  roundTrip : Request → m Reply

namespace Transport

variable {m : Type → Type}

/-- The header field that carries a key. -/
def authorizationHeader (key : ApiKey) : Header :=
  ⟨"authorization", key.authorization, true⟩

/-- The transport that sends a key along. -/
def authenticated (key : ApiKey) (wrapped : Transport m) : Transport m where
  description :=
    "AuthedTransport \x7b api_key: " ++ key.masked ++ ", wrapped: " ++
      wrapped.description ++ " \x7d"
  roundTrip := fun request =>
    wrapped.roundTrip (request.setHeader (authorizationHeader key))

end Transport

end ShapeQuery
