import ShapeQuery.Client.UserAgent
import ShapeQuery.Configuration
import ShapeQuery.Execution

/-!
# Clients

A client executes operations at one endpoint over one transport.  A client that
is made from a configuration sends the key along when the configuration holds
one.
-/

namespace ShapeQuery

/-- A transport and the endpoint that is reached through it. -/
structure Client (m : Type → Type) where
  transport : Transport m
  endpoint : Endpoint

/-- Opens a transport for a user agent and a limit on the time of an exchange. -/
abbrev Connector (m : Type → Type) := UserAgent → Option Timeout → Transport m

namespace Client

variable {m : Type → Type} {α : Type}

/-- The client of a configuration, and what its creation logs. -/
def create (connect : Connector m) (configuration : Configuration) :
    Except IllegalUserAgent (Client m × List LogEntry) :=
  match UserAgent.ofCaller configuration.userAgentPrefix with
  | .error illegal => .error illegal
  | .ok agent =>
    let base := connect agent configuration.timeout
    let endpoint := configuration.endpoint
    match configuration.apiKey with
    | some key => .ok (⟨base.authenticated key, endpoint⟩, [])
    | none =>
      .ok (⟨base, endpoint⟩,
        [.debug ("Creating unauthenticated BorgBase client for " ++ endpoint.render)])

variable [Monad m]

def execute (client : Client m) (call : OperationCall) (schema : Schema α) (value : α) :
    m (Execution α) :=
  ShapeQuery.execute client.transport client.endpoint call schema value

def query (client : Client m) (name : String) (arguments : Arguments) (schema : Schema α)
    (value : α) : m (Execution α) :=
  client.execute ⟨.query, name, arguments⟩ schema value

def mutation (client : Client m) (name : String) (arguments : Arguments)
    (schema : Schema α) (value : α) : m (Execution α) :=
  client.execute ⟨.mutation, name, arguments⟩ schema value

end Client

end ShapeQuery
