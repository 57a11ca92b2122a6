import ShapeQuery.Client
import ShapeQuery.Resource.Records
import ShapeQuery.Resource.RepositorySettings
import ShapeQuery.Resource.SshKey

/-!
# Operations on resources

Every kind of resource is listed, found by name and deleted in the same way.  The
filter of the service is not trusted to be exact, so a search compares the names
itself and takes the first match.
-/

namespace ShapeQuery

/-- A kind of resource: its record, and the operations that list and delete it. -/
class Resource (α : Type) where
  recordName : String
  listName : String
  deleteName : String
  ofDatum : Datum → α
  name : α → String

instance : Resource Repository :=
  ⟨"BorgRepo", "repoList", "repoDelete", Repository.ofDatum, Repository.name⟩

instance : Resource SshKey :=
  ⟨"SshKey", "sshList", "sshDelete", SshKey.ofDatum, SshKey.name⟩

/-- Why an operation on a resource failed. -/
inductive ResourceError where
  | notFound (resource name : String)
  | interrupted (interruption : Interruption)
  deriving DecidableEq, Repr

/-- What an operation on a resource leaves behind. -/
structure Report (α : Type) where
  outcome : Except ResourceError α
  logs : List LogEntry

/-- Whether the service confirmed a deletion. -/
structure DeletionResult where
  confirmed : Bool
  deriving DecidableEq, Repr

/-- The deletion result that a decoded record describes. -/
def DeletionResult.ofDatum (record : Datum) : DeletionResult :=
  ⟨record.flagAt "ok"⟩

namespace Resource

/-- The report on an execution: its value, after what is logged about it. -/
def conclude {α : Type} (note : α → List LogEntry) (execution : Execution α) : Report α :=
  match execution.outcome with
  | .ok () => ⟨.ok execution.value, execution.logs ++ note execution.value⟩
  | .error interruption => ⟨.error (.interrupted interruption), execution.logs⟩

/-- The schema of a list of resources. -/
def listSchema (α : Type) [Resource α] : Schema (List α) :=
  (records.schema (.list (.record (recordName α)))).map fun datum =>
    datum.items.map ofDatum

/-- The schema of a deletion result. -/
def deletionSchema : Schema DeletionResult :=
  (records.schema (.record "DeleteResult")).map DeletionResult.ofDatum

/-- The schema of the one member of a record. -/
def memberSchema {α : Type} (record member : String) (ofDatum : Datum → α) : Schema α :=
  (records.schema (.record record)).map fun datum => ofDatum (datum.memberAt member)

/-- The arguments of a search, which asks for everything without a name. -/
def listArguments (name? : Option String) : Arguments :=
  match name? with
  | some name => Arguments.empty.insert "name" (.optional name)
  | none => Arguments.empty

variable {m : Type → Type} [Monad m]

/-- Lists the resources, of one name as far as the service filters. -/
def list (α : Type) [Resource α] (client : Client m) (name? : Option String) :
    m (Report (List α)) := do
  let execution ←
    client.query (listName α) (listArguments name?) (listSchema α) []
  return conclude
    (fun items => [.debug ("Listed " ++ Nat.repr items.length ++ " " ++ recordName α ++
      " resource(s)")])
    execution

/-- The first resource of exactly that name. -/
def firstNamed {α : Type} [Resource α] (wanted : String) (items : List α) :
    Except ResourceError α :=
  match items.find? (fun item => name item == wanted) with
  | some item => .ok item
  | none => .error (.notFound (recordName α) wanted)

/-- Finds the resource of a name. -/
def find (α : Type) [Resource α] (client : Client m) (wanted : String) : m (Report α) := do
  let report ← list α client (some wanted)
  return ⟨report.outcome.bind (firstNamed wanted), report.logs⟩

/-- Deletes the resource of an identifier. -/
def delete (α : Type) [Resource α] (client : Client m) (id : String) :
    m (Report DeletionResult) := do
  let arguments := Arguments.empty.insert "id" (.mandatory id)
  let execution ← client.mutation (deleteName α) arguments deletionSchema ⟨false⟩
  return conclude
    (fun result =>
      if result.confirmed then []
      else [.warn (recordName α ++ " " ++ id ++ " was not confirmed as deleted")])
    execution

end Resource

namespace ResourceError

def message : ResourceError → String
  | .notFound resource name => resource ++ " named " ++ name ++ " not found"
  | .interrupted (.failed error) => error.message
  | .interrupted (.malformedSchema failure) => failure.message

/-- Whether a search came to nothing. -/
def isNotFound : ResourceError → Bool
  | .notFound _ _ => true
  | .interrupted _ => false

end ResourceError

namespace Repository

variable {m : Type → Type} [Monad m]

/-- The repository of which nothing is known. -/
def unknown (record member : String) : Repository :=
  ofDatum ((Resource.records.default (.record record)).memberAt member)

def create (client : Client m) (name region : String) (settings : RepositorySettings) :
    m (Report Repository) := do
  let arguments := settings.applyTo
    ((Arguments.empty.insert "name" (.mandatory name)).insert "region" (.mandatory region))
  let execution ← client.mutation "repoAdd" arguments
    (Resource.memberSchema "RepoAdded" "repoAdded" ofDatum) (unknown "RepoAdded" "repoAdded")
  return Resource.conclude
    (fun repository =>
      [.debug ("Created BorgRepo " ++ name ++ " with id " ++ repository.id)])
    execution

/-- Changes the repository of an identifier, and its name where one is given. -/
def update (client : Client m) (id : String) (name? : Option String)
    (settings : RepositorySettings) : m (Report Repository) := do
  let identified := Arguments.empty.insert "id" (.mandatory id)
  let named :=
    match name? with
    | some name => identified.insert "name" (.optional name)
    | none => identified
  let execution ← client.mutation "repoEdit" (settings.applyTo named)
    (Resource.memberSchema "RepoEdited" "repoEdited" ofDatum)
    (unknown "RepoEdited" "repoEdited")
  return Resource.conclude (fun _ => [.debug ("Updated BorgRepo " ++ id)]) execution

end Repository

namespace SshKey

variable {m : Type → Type} [Monad m]

/-- Registers a key, given as the line that lists it as an authorized one. -/
def create (client : Client m) (name publicKey : String) : m (Report SshKey) := do
  let arguments :=
    (Arguments.empty.insert "name" (.optional name)).insert "keyData" (.optional publicKey)
  let execution ← client.mutation "sshAdd" arguments
    (Resource.memberSchema "KeyAdded" "keyAdded" ofDatum)
    (ofDatum ((Resource.records.default (.record "KeyAdded")).memberAt "keyAdded"))
  return Resource.conclude
    (fun key => [.debug ("Created SshKey " ++ name ++ " with id " ++ key.id)])
    execution

end SshKey

end ShapeQuery
