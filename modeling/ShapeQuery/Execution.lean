import ShapeQuery.Document
import ShapeQuery.Envelope
import ShapeQuery.Exchange
import ShapeQuery.Json.Writer
import ShapeQuery.Schema
import ShapeQuery.Text.Charset

/-!
# Executing an operation

An operation is prepared, sent once, and concluded from the reply.  Preparation
can fail before anything is sent.  The value is replaced only when the reply
brings a payload that decodes; every other outcome leaves it as it was.
-/

namespace ShapeQuery

inductive ClientError where
  | assembly (error : AssemblyError)
  | serialization (fault : Datum.EncodingFault)
  | transport (reason : String)
  | serverFault (status : Nat) (body : String)
  | decode (fault : Json.Fault)
  | server (errors : List ServerError)
  deriving DecidableEq, Repr

namespace ClientError

def message : ClientError → String
  | .assembly error => error.message
  | .serialization fault => "failed to encode request: " ++ fault.message
  | .transport reason => "Network error: " ++ reason
  | .serverFault status body =>
    "expected status 200, got " ++ Nat.repr status ++ ": " ++ body
  | .decode fault => "failed to decode response: " ++ fault.message
  | .server errors => ServerError.renderAll errors

/-- The status of a server fault. -/
def status? : ClientError → Option Nat
  | .serverFault status _ => some status
  | _ => none

/-- The errors that the server reported. -/
def serverErrors? : ClientError → Option (List ServerError)
  | .server errors => some errors
  | _ => none

end ClientError

/-- Why an operation did not succeed: an error of this operation, or a schema that
can never be selected from. -/
inductive Interruption where
  | failed (error : ClientError)
  | malformedSchema (failure : Shape.NotAnObject)
  deriving DecidableEq, Repr

/-- An operation by name, with its arguments. -/
structure OperationCall where
  operation : Operation
  name : String
  arguments : Arguments

namespace OperationCall

/-- How the operation is called in the log. -/
def label (call : OperationCall) : String :=
  call.operation.keyword ++ " " ++ call.name

/-- The body of the request: the document, and the variables as JSON text inside
the JSON text. -/
def body (document : Document) (values : List (String × Json)) : Json :=
  .object
    [("query", .text document.render),
      ("variables", .text (Json.object values).render)]

/-- The request for the operation.  Arguments without a type come first, then a
schema that is no object, then values without a JSON form. -/
def prepare {α : Type} (call : OperationCall) (endpoint : Endpoint) (schema : Schema α) :
    Except Interruption Request :=
  match Document.assemble call.operation call.name schema.selection call.arguments with
  | .error (.argument error) => .error (.failed (.assembly error))
  | .error (.schema failure) => .error (.malformedSchema failure)
  | .ok document =>
    match call.arguments.encode with
    | .error fault => .error (.failed (.serialization fault))
    | .ok values =>
      .ok {
        method := "POST"
        url := endpoint.url
        headers :=
          [⟨"content-type", "application/json", false⟩,
            ⟨"accept", "application/json", false⟩]
        body := (body document values).render }

end OperationCall

/-- What an operation leaves behind: its outcome, the value, and the log. -/
structure Execution (α : Type) where
  outcome : Except Interruption Unit
  value : α
  logs : List LogEntry

namespace Execution

variable {α : Type}

/-- A failure that leaves the value as it was. -/
def failure (value : α) (logs : List LogEntry) (error : ClientError) : Execution α :=
  ⟨.error (.failed error), value, logs⟩

/-- Concludes from a response with status below 500 and a text. -/
def ofBody (call : OperationCall) (schema : Schema α) (value : α) (logs : List LogEntry)
    (body : String) : Execution α :=
  match Envelope.parse body with
  | .error fault => failure value logs (.decode fault)
  | .ok envelope =>
    match envelope.reported with
    | error :: others =>
      let errors := error :: others
      let warning := .warn ("GraphQL " ++ call.label ++ " returned " ++
        Nat.repr errors.length ++ " error(s): " ++ ServerError.renderAll errors)
      failure value (logs ++ [warning]) (.server errors)
    | [] =>
      match envelope.payload? call.name with
      | none =>
        ⟨.ok (), value, logs ++ [.debug ("GraphQL " ++ call.label ++ " returned no data")]⟩
      | some payload =>
        match schema.decode payload with
        | .ok decoded => ⟨.ok (), decoded, logs⟩
        | .error fault => failure value logs (.decode (.data fault))

/-- Concludes from a reply. -/
def ofReply (call : OperationCall) (schema : Schema α) (value : α) :
    Reply → Execution α
  | .failed reason => failure value [] (.transport reason)
  | .response _ _ (.broken reason) => failure value [] (.transport reason)
  | .response status contentType? (.bytes content) =>
    let body := Text.decodeBody contentType? content
    let returned :=
      .debug ("GraphQL " ++ call.label ++ " returned status " ++ Nat.repr status)
    if 500 ≤ status then
      let warning := .warn ("BorgBase API server fault on " ++ call.label ++
        ": status " ++ Nat.repr status)
      failure value [returned, warning] (.serverFault status body)
    else ofBody call schema value [returned] body

/-- The log entry of a request that is about to be sent. -/
def sending (call : OperationCall) (endpoint : Endpoint) : LogEntry :=
  .debug ("Sending GraphQL " ++ call.label ++ " to " ++ endpoint.render)

end Execution

/-- Executes an operation over a transport. -/
def execute {m : Type → Type} [Monad m] {α : Type} (transport : Transport m)
    (endpoint : Endpoint) (call : OperationCall) (schema : Schema α) (value : α) :
    m (Execution α) :=
  match call.prepare endpoint schema with
  | .error interruption => pure ⟨.error interruption, value, []⟩
  | .ok request => do
    let reply ← transport.roundTrip request
    let execution := Execution.ofReply call schema value reply
    return { execution with logs := Execution.sending call endpoint :: execution.logs }

end ShapeQuery
