import ShapeQuery.Configuration.Value
import ShapeQuery.LogEntry

/-!
# Client configuration

A configuration is built step by step.  A later value replaces an earlier one,
except that the environment only fills in a key where none is held.
-/

namespace ShapeQuery

structure Timeout where
  seconds : Nat
  nanoseconds : Nat
  deriving DecidableEq, Repr

def Timeout.ofMilliseconds (milliseconds : Nat) : Timeout :=
  ⟨milliseconds / 1000, milliseconds % 1000 * 1000000⟩

structure Configuration where
  endpoint : Endpoint
  apiKey : Option ApiKey
  timeout : Option Timeout
  userAgentPrefix : Option String
  deriving DecidableEq, Repr

/-- The name of the environment variable that may hold a key. -/
def tokenVariable : String := "BORGBASE_API_TOKEN"

structure ConfigurationBuilder where
  endpoint : Option Endpoint
  apiKey : Option ApiKey
  timeout : Option Timeout
  userAgentPrefix : Option String
  deriving DecidableEq, Repr

namespace ConfigurationBuilder

def empty : ConfigurationBuilder := ⟨none, none, none, none⟩

def setEndpoint (builder : ConfigurationBuilder) (endpoint : Endpoint) :
    ConfigurationBuilder :=
  { builder with endpoint := some endpoint }

def setApiKey (builder : ConfigurationBuilder) (key : ApiKey) : ConfigurationBuilder :=
  { builder with apiKey := some key }

def setTimeout (builder : ConfigurationBuilder) (timeout : Timeout) : ConfigurationBuilder :=
  { builder with timeout := some timeout }

def setUserAgentPrefix (builder : ConfigurationBuilder) (text : String) :
    ConfigurationBuilder :=
  { builder with userAgentPrefix := some text }

/-- Takes the key from the value of the environment variable unless one is held;
an unset or empty variable is noted in the log. -/
def fillApiKey (builder : ConfigurationBuilder) (token? : Option String) :
    Except ConfigError (ConfigurationBuilder × List LogEntry) :=
  if builder.apiKey.isSome then .ok (builder, [])
  else
    match token?.filter (· != "") with
    | some text => (ApiKey.ofText text).map fun key => (builder.setApiKey key, [])
    | none =>
      .ok (builder, [.debug (tokenVariable ++
        " is not set, BorgBase client will be unauthenticated")])

/-- The configuration; the public endpoint where none was set. -/
def build (builder : ConfigurationBuilder) : Configuration where
  endpoint := builder.endpoint.getD Endpoint.standard
  apiKey := builder.apiKey
  timeout := builder.timeout
  userAgentPrefix := builder.userAgentPrefix

end ConfigurationBuilder

namespace Configuration

/-- The configuration without any value set. -/
def standard : Configuration :=
  ConfigurationBuilder.empty.build

/-- The configuration whose key comes from the value of the environment
variable. -/
def ofEnvironment (token? : Option String) :
    Except ConfigError (Configuration × List LogEntry) :=
  (ConfigurationBuilder.empty.fillApiKey token?).map fun (builder, logs) =>
    (builder.build, logs)

end Configuration

end ShapeQuery
