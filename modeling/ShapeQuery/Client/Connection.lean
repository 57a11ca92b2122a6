import ShapeQuery.Client.UserAgent
import ShapeQuery.Exchange

/-!
# Connections

A connection puts a request on the wire.  It adds what every request carries, the
user agent and the length of the body, and the receiver reads the value of a
field without the blanks around it.
-/

namespace ShapeQuery

/-- Whether a character is a blank that may stand around the value of a field. -/
def isFieldBlank (character : Char) : Bool :=
  character == ' ' || character == '\t'

/-- The field as the receiver reads it. -/
def Header.received (header : Header) : Header :=
  { header with
    value := String.ofList (Text.trimCharacters isFieldBlank header.value.toList) }

/-- The request as it is put on the wire. -/
def Request.onWire (agent : UserAgent) (request : Request) : Request :=
  (request.setHeader ⟨"user-agent", agent.text, false⟩).setHeader
    ⟨"content-length", Nat.repr request.body.utf8ByteSize, false⟩

/-- The transport of a connection, given how requests are sent. -/
def Transport.connection {m : Type → Type} (send : Request → m Reply) (agent : UserAgent) :
    Transport m where
  description := "Client"
  roundTrip := fun request => send (request.onWire agent)

end ShapeQuery
