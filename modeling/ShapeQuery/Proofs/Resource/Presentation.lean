import ShapeQuery.Proofs.Datum.Presentation
import ShapeQuery.Resource.Operations

/-!
# Payloads of results

The service answers in nine kinds of results.  Each is a value that has a form as a decoded
record, from which it is read back.
-/

namespace ShapeQuery

namespace Datum

/-- A text that may be absent. -/
def ofOptionalText : Option String → Datum
  | none => .absent
  | some value => .present (.text value)

def ofWord (value : Int64) : Datum :=
  .integer value.toInt

def ofTexts (values : List String) : Datum :=
  .list (values.map .text)

section

variable {record : Datum} {name : String}

theorem optionalTextAt_of_memberAt {value : Option String}
    (member : record.memberAt name = .ofOptionalText value) :
    record.optionalTextAt name = value := by
  rw [optionalTextAt, member]
  cases value <;> rfl

theorem textsAt_of_memberAt {values : List String}
    (member : record.memberAt name = .ofTexts values) : record.textsAt name = values := by
  rw [textsAt, member, ofTexts, items, List.map_map]
  exact List.map_id values

end

end Datum

namespace RepositoryServer

/-- The decoded record that describes a server. -/
def toDatum (server : RepositoryServer) : Datum :=
  .record
    [("id", .text server.id),
      ("hostname", .text server.hostname),
      ("region", .text server.region),
      ("public", .boolean server.isPublic),
      ("location", .text server.location),
      ("fingerprintRsa", .text server.fingerprintRsa),
      ("fingerprintEcdsa", .text server.fingerprintEcdsa),
      ("fingerprintEd25519", .text server.fingerprintEd25519)]

theorem ofDatum_toDatum (server : RepositoryServer) : ofDatum server.toDatum = server := rfl

end RepositoryServer

attribute [ext] Repository Compaction SshKey

namespace Repository

/-- The decoded record that describes a repository. -/
def toDatum (repository : Repository) : Datum :=
  .record
    [("id", .text repository.id),
      ("name", .text repository.name),
      ("server", repository.server.toDatum),
      ("quota", .ofWord repository.quota),
      ("quotaEnabled", .boolean repository.quotaEnabled),
      ("alertDays", .ofWord repository.alertDays),
      ("region", .text repository.region),
      ("format", .text repository.format),
      ("borgVersion", .text repository.borgVersion),
      ("resticVersion", .ofOptionalText repository.resticVersion),
      ("htpasswd", .ofOptionalText repository.htpasswd),
      ("appendOnly", .boolean repository.appendOnly),
      ("appendOnlyKeys", .ofTexts repository.appendOnlyKeys),
      ("fullAccessKeys", .ofTexts repository.fullAccessKeys),
      ("rsyncKeys", .ofTexts repository.rsyncKeys),
      ("sftpEnabled", .boolean repository.sftpEnabled),
      ("encryption", .text repository.encryption),
      ("createdAt", .text repository.createdAt),
      ("lastModified", .ofOptionalText repository.lastModified),
      ("compactionEnabled", .boolean repository.compaction.enabled),
      ("compactionInterval", .ofWord repository.compaction.interval),
      ("compactionIntervalUnit", .text repository.compaction.intervalUnit),
      ("compactionHour", .ofWord repository.compaction.hour),
      ("compactionHourTimezone", .text repository.compaction.hourTimezone),
      ("repoPath", .text repository.path),
      ("currentUsage", .floating repository.currentUsage)]

theorem ofDatum_toDatum (repository : Repository) :
    ofDatum repository.toDatum = repository := by
  apply Repository.ext
  case server => exact RepositoryServer.ofDatum_toDatum repository.server
  case quota | alertDays => exact Int64.ofInt_toInt _
  case resticVersion | htpasswd | lastModified =>
    exact Datum.optionalTextAt_of_memberAt rfl
  case appendOnlyKeys | fullAccessKeys | rsyncKeys => exact Datum.textsAt_of_memberAt rfl
  case compaction =>
    apply Compaction.ext
    case hour | interval => exact Int64.ofInt_toInt _
    all_goals rfl
  all_goals rfl

end Repository

namespace SshKey

/-- The decoded record that describes a key. -/
def toDatum (key : SshKey) : Datum :=
  .record
    [("id", .text key.id),
      ("name", .text key.name),
      ("addedAt", .text key.addedAt),
      ("bits", .ofWord key.bits),
      ("hashMd5", .text key.hashMd5),
      ("hashSha256", .text key.hashSha256),
      ("lastUsedAt", .ofOptionalText key.lastUsedAt),
      ("keyData", .text key.keyData),
      ("keyType", .text key.keyType),
      ("comment", .text key.comment)]

theorem ofDatum_toDatum (key : SshKey) : ofDatum key.toDatum = key := by
  apply SshKey.ext
  case bits => exact Int64.ofInt_toInt _
  case lastUsedAt => exact Datum.optionalTextAt_of_memberAt rfl
  all_goals rfl

end SshKey

/-- The decoded record that describes a deletion result. -/
def DeletionResult.toDatum (result : DeletionResult) : Datum :=
  .record [("ok", .boolean result.confirmed)]

namespace Resource

theorem records_direct : records.Direct := by
  decide +kernel

/-! ## Results -/

/-- What the service answers with: a record, the one member of a record that wraps it, or a
list of records. -/
inductive ResultKind where
  | repository
  | server
  | repositoryAdded
  | repositoryEdited
  | key
  | keyAdded
  | deletion
  | repositories
  | keys
  deriving DecidableEq, Repr

namespace ResultKind

def Value : ResultKind → Type
  | .repository | .repositoryAdded | .repositoryEdited => Repository
  | .server => RepositoryServer
  | .key | .keyAdded => SshKey
  | .deletion => DeletionResult
  | .repositories => List Repository
  | .keys => List SshKey

def type : ResultKind → Datatype
  | .repository => .record "BorgRepo"
  | .server => .record "RepoServer"
  | .repositoryAdded => .record "RepoAdded"
  | .repositoryEdited => .record "RepoEdited"
  | .key => .record "SshKey"
  | .keyAdded => .record "KeyAdded"
  | .deletion => .record "DeleteResult"
  | .repositories => .list (.record "BorgRepo")
  | .keys => .list (.record "SshKey")

/-- The schema by which a result is asked for and decoded. -/
def schema : (kind : ResultKind) → Schema kind.Value
  | .repository => (records.schema (.record "BorgRepo")).map Repository.ofDatum
  | .server => (records.schema (.record "RepoServer")).map RepositoryServer.ofDatum
  | .repositoryAdded => memberSchema "RepoAdded" "repoAdded" Repository.ofDatum
  | .repositoryEdited => memberSchema "RepoEdited" "repoEdited" Repository.ofDatum
  | .key => (records.schema (.record "SshKey")).map SshKey.ofDatum
  | .keyAdded => memberSchema "KeyAdded" "keyAdded" SshKey.ofDatum
  | .deletion => deletionSchema
  | .repositories => listSchema Repository
  | .keys => listSchema SshKey

/-- The decoded form of a result. -/
def toDatum : (kind : ResultKind) → kind.Value → Datum
  | .repository => Repository.toDatum
  | .server => RepositoryServer.toDatum
  | .repositoryAdded => fun repository => .record [("repoAdded", repository.toDatum)]
  | .repositoryEdited => fun repository => .record [("repoEdited", repository.toDatum)]
  | .key => SshKey.toDatum
  | .keyAdded => fun key => .record [("keyAdded", key.toDatum)]
  | .deletion => DeletionResult.toDatum
  | .repositories => fun repositories => .list (repositories.map Repository.toDatum)
  | .keys => fun keys => .list (keys.map SshKey.toDatum)

/-- A result is read back from its decoded form. -/
def ofDatum : (kind : ResultKind) → Datum → kind.Value
  | .repository => Repository.ofDatum
  | .server => RepositoryServer.ofDatum
  | .repositoryAdded => fun datum => Repository.ofDatum (datum.memberAt "repoAdded")
  | .repositoryEdited => fun datum => Repository.ofDatum (datum.memberAt "repoEdited")
  | .key => SshKey.ofDatum
  | .keyAdded => fun datum => SshKey.ofDatum (datum.memberAt "keyAdded")
  | .deletion => DeletionResult.ofDatum
  | .repositories => fun datum => datum.items.map Repository.ofDatum
  | .keys => fun datum => datum.items.map SshKey.ofDatum

theorem schema_eq (kind : ResultKind) :
    kind.schema = (records.schema kind.type).map kind.ofDatum := by
  cases kind <;> rfl

theorem ofDatum_toDatum (kind : ResultKind) (value : kind.Value) :
    kind.ofDatum (kind.toDatum value) = value := by
  cases kind with
  | repository | repositoryAdded | repositoryEdited => exact Repository.ofDatum_toDatum value
  | server => exact RepositoryServer.ofDatum_toDatum value
  | key | keyAdded => exact SshKey.ofDatum_toDatum value
  | deletion => rfl
  | repositories => exact List.map_map.trans (List.map_id'' Repository.ofDatum_toDatum value)
  | keys => exact List.map_map.trans (List.map_id'' SshKey.ofDatum_toDatum value)

/-- Every kind of result can be selected. -/
theorem exists_selection (kind : ResultKind) :
    ∃ selection, records.selection kind.type = .ok selection := by
  cases kind <;> exact ⟨_, rfl⟩

/-- Every payload that gives a result under the names that its schema selects is decoded to
that result. -/
theorem decode_of_presented (kind : ResultKind) :
    ∃ selection, kind.schema.selection = .ok selection ∧
      ∀ (value : kind.Value) (payload : Json),
        Gives records kind.type selection (kind.toDatum value) payload →
          kind.schema.decode payload = .ok value := by
  obtain ⟨selection, selected⟩ := kind.exists_selection
  refine ⟨selection, ?_, ?_⟩
  · rw [schema_eq]
    exact selected
  · intro value payload given
    have decoded := Family.decode_of_gives records_direct selected given
    calc kind.schema.decode payload
        = (decode records payload kind.type).map kind.ofDatum := by rw [schema_eq]; rfl
      _ = .ok (kind.ofDatum (kind.toDatum value)) := by rw [decoded]; rfl
      _ = .ok value := by rw [ofDatum_toDatum]

/-- A key of which the service knows little. -/
def sparseKey : SshKey :=
  ⟨"k1", "laptop", "", 256, "", "", none, "ssh-ed25519 AAAAC3Nz", "", ""⟩

/-- The members of the key stand in another order than asked for, some are missing, some
are null, and one was not asked for. -/
def sparseKeyMembers : List (String × Json) :=
  [("name", .text "laptop"), ("bits", .integer 256), ("added_at", .integer 5),
    ("lastUsedAt", .null), ("hashMd5", .null), ("keyData", .text "ssh-ed25519 AAAAC3Nz"),
    ("id", .text "k1")]

theorem decode_of_presented_sparseKey :
    ResultKind.keyAdded.schema.decode
      (.object [("clientMutationId", .null), ("keyAdded", .object sparseKeyMembers)]) =
        .ok sparseKey := by
  obtain ⟨selection, selected, decodes⟩ := decode_of_presented .keyAdded
  cases selected
  apply decodes
  have key := @Gives.record_of_rows records "SshKey" keyRecord
    (keyRecord.fields.zipWith (fun field member => ⟨field, .leaf field.wireName, member⟩)
      [.text "k1", .text "laptop", .text "", .integer 256, .text "", .text "", .absent,
        .text "ssh-ed25519 AAAAC3Nz", .text "", .text ""])
    sparseKeyMembers rfl rfl (by decide) (by
      simp only [keyRecord, List.zipWith_cons_cons, List.zipWith_nil_left, List.forall_mem_cons]
      exact ⟨.inr ⟨_, rfl, .text _⟩, .inr ⟨_, rfl, .text _⟩, .inl ⟨rfl, rfl⟩,
        .inr ⟨_, rfl, .integer rfl⟩, .inr ⟨_, rfl, .null⟩, .inl ⟨rfl, rfl⟩,
        .inr ⟨_, rfl, .absent⟩, .inr ⟨_, rfl, .text _⟩, .inl ⟨rfl, rfl⟩, .inl ⟨rfl, rfl⟩,
        nofun⟩)
  exact @Gives.record_of_rows records "KeyAdded" keyAddedRecord
    [⟨_, .nested "keyAdded" _, sparseKey.toDatum⟩] _ rfl rfl (by decide) (by
      rw [List.forall_mem_singleton]
      exact .inr ⟨_, rfl, key⟩)

end ResultKind

end Resource

end ShapeQuery
