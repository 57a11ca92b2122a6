import ShapeQuery.Datum.Members

/-!
# Keys

A key is registered once and then granted access to repositories by its
identifier.
-/

namespace ShapeQuery

/-- A registered key.  The key data start with the key type and leave out the
comment. -/
structure SshKey where
  id : String
  name : String
  addedAt : String
  bits : Int64
  hashMd5 : String
  hashSha256 : String
  lastUsedAt : Option String
  keyData : String
  keyType : String
  comment : String
  deriving DecidableEq

namespace SshKey

/-- The key that a decoded record describes. -/
def ofDatum (record : Datum) : SshKey where
  id := record.textAt "id"
  name := record.textAt "name"
  addedAt := record.textAt "addedAt"
  bits := record.wordAt "bits"
  hashMd5 := record.textAt "hashMd5"
  hashSha256 := record.textAt "hashSha256"
  lastUsedAt := record.optionalTextAt "lastUsedAt"
  keyData := record.textAt "keyData"
  keyType := record.textAt "keyType"
  comment := record.textAt "comment"

/-- The line that lists the key as an authorized one. -/
def publicKey (key : SshKey) : String :=
  if key.comment.isEmpty then key.keyData else key.keyData ++ " " ++ key.comment

end SshKey

end ShapeQuery
