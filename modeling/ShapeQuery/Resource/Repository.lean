import ShapeQuery.Datum.Members

/-!
# Repositories

A repository holds backups on a server of the service.
-/

namespace ShapeQuery

structure RepositoryServer where
  id : String
  hostname : String
  region : String
  isPublic : Bool
  location : String
  fingerprintRsa : String
  fingerprintEcdsa : String
  fingerprintEd25519 : String
  deriving DecidableEq, Repr

/-- The server that a decoded record describes. -/
def RepositoryServer.ofDatum (record : Datum) : RepositoryServer where
  id := record.textAt "id"
  hostname := record.textAt "hostname"
  region := record.textAt "region"
  isPublic := record.flagAt "public"
  location := record.textAt "location"
  fingerprintRsa := record.textAt "fingerprintRsa"
  fingerprintEcdsa := record.textAt "fingerprintEcdsa"
  fingerprintEd25519 := record.textAt "fingerprintEd25519"

/-- A schedule by which the service compacts a repository. -/
structure Compaction where
  enabled : Bool
  hour : Int64
  hourTimezone : String
  interval : Int64
  intervalUnit : String
  deriving DecidableEq

/-- A repository.  Quota and usage are in megabytes. -/
structure Repository where
  id : String
  name : String
  server : RepositoryServer
  quota : Int64
  quotaEnabled : Bool
  alertDays : Int64
  region : String
  format : String
  borgVersion : String
  resticVersion : Option String
  htpasswd : Option String
  appendOnly : Bool
  appendOnlyKeys : List String
  fullAccessKeys : List String
  rsyncKeys : List String
  sftpEnabled : Bool
  encryption : String
  createdAt : String
  lastModified : Option String
  compaction : Compaction
  path : String
  currentUsage : Floating
  deriving DecidableEq

/-- The repository that a decoded record describes. -/
def Repository.ofDatum (record : Datum) : Repository where
  id := record.textAt "id"
  name := record.textAt "name"
  server := RepositoryServer.ofDatum (record.memberAt "server")
  quota := record.wordAt "quota"
  quotaEnabled := record.flagAt "quotaEnabled"
  alertDays := record.wordAt "alertDays"
  region := record.textAt "region"
  format := record.textAt "format"
  borgVersion := record.textAt "borgVersion"
  resticVersion := record.optionalTextAt "resticVersion"
  htpasswd := record.optionalTextAt "htpasswd"
  appendOnly := record.flagAt "appendOnly"
  appendOnlyKeys := record.textsAt "appendOnlyKeys"
  fullAccessKeys := record.textsAt "fullAccessKeys"
  rsyncKeys := record.textsAt "rsyncKeys"
  sftpEnabled := record.flagAt "sftpEnabled"
  encryption := record.textAt "encryption"
  createdAt := record.textAt "createdAt"
  lastModified := record.optionalTextAt "lastModified"
  compaction :=
    { enabled := record.flagAt "compactionEnabled"
      hour := record.wordAt "compactionHour"
      hourTimezone := record.textAt "compactionHourTimezone"
      interval := record.wordAt "compactionInterval"
      intervalUnit := record.textAt "compactionIntervalUnit" }
  path := record.textAt "repoPath"
  currentUsage := record.floatingAt "currentUsage"

end ShapeQuery
