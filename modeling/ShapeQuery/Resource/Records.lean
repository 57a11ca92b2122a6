import ShapeQuery.Datatype

/-!
# Records of the service

The records in which the service answers.  Every member has a default, so a
record is read from whatever members an answer brings; a member that the service
may leave null is read as empty.
-/

namespace ShapeQuery.Resource

/-- A text that may be null. -/
def nullableText : Datatype :=
  .nullAsDefault (.scalar .text)

/-- A list of texts that may be null. -/
def nullableTexts : Datatype :=
  .nullAsDefault (.list (.scalar .text))

def word : Datatype :=
  .scalar (.signed .bits64)

def serverRecord : RecordDeclaration where
  name := "RepoServer"
  fields :=
    [.plain "id" (.scalar .text),
      .plain "hostname" (.scalar .text),
      .plain "region" (.scalar .text),
      .plain "public" (.scalar .boolean),
      .plain "location" nullableText,
      .renamed "fingerprint_rsa" "fingerprintRsa" nullableText,
      .renamed "fingerprint_ecdsa" "fingerprintEcdsa" nullableText,
      .renamed "fingerprint_ed25519" "fingerprintEd25519" nullableText]
  defaulted := true
  closed := false

def repositoryRecord : RecordDeclaration where
  name := "BorgRepo"
  fields :=
    [.plain "id" (.scalar .text),
      .plain "name" (.scalar .text),
      .plain "server" (.record "RepoServer"),
      .plain "quota" word,
      .renamed "quota_enabled" "quotaEnabled" (.scalar .boolean),
      .renamed "alert_days" "alertDays" word,
      .plain "region" (.scalar .text),
      .plain "format" (.scalar .text),
      .renamed "borg_version" "borgVersion" nullableText,
      .renamed "restic_version" "resticVersion" (.option (.scalar .text)),
      .plain "htpasswd" (.option (.scalar .text)),
      .renamed "append_only" "appendOnly" (.scalar .boolean),
      .renamed "append_only_keys" "appendOnlyKeys" nullableTexts,
      .renamed "full_access_keys" "fullAccessKeys" nullableTexts,
      .renamed "rsync_keys" "rsyncKeys" nullableTexts,
      .renamed "sftp_enabled" "sftpEnabled" (.scalar .boolean),
      .plain "encryption" nullableText,
      .renamed "created_at" "createdAt" nullableText,
      .renamed "last_modified" "lastModified" (.option (.scalar .text)),
      .renamed "compaction_enabled" "compactionEnabled" (.scalar .boolean),
      .renamed "compaction_interval" "compactionInterval" word,
      .renamed "compaction_interval_unit" "compactionIntervalUnit" nullableText,
      .renamed "compaction_hour" "compactionHour" word,
      .renamed "compaction_hour_timezone" "compactionHourTimezone" nullableText,
      .renamed "repo_path" "repoPath" (.scalar .text),
      .renamed "current_usage" "currentUsage" (.scalar .float64)]
  defaulted := true
  closed := false

def repositoryAddedRecord : RecordDeclaration :=
  ⟨"RepoAdded", [.renamed "repo_added" "repoAdded" (.record "BorgRepo")], true, false⟩

def repositoryEditedRecord : RecordDeclaration :=
  ⟨"RepoEdited", [.renamed "repo_edited" "repoEdited" (.record "BorgRepo")], true, false⟩

def keyRecord : RecordDeclaration where
  name := "SshKey"
  fields :=
    [.plain "id" (.scalar .text),
      .plain "name" (.scalar .text),
      .renamed "added_at" "addedAt" nullableText,
      .plain "bits" word,
      .renamed "hash_md5" "hashMd5" nullableText,
      .renamed "hash_sha256" "hashSha256" nullableText,
      .renamed "last_used_at" "lastUsedAt" (.option (.scalar .text)),
      .renamed "key_data" "keyData" (.scalar .text),
      .renamed "key_type" "keyType" nullableText,
      .plain "comment" nullableText]
  defaulted := true
  closed := false

def keyAddedRecord : RecordDeclaration :=
  ⟨"KeyAdded", [.renamed "key_added" "keyAdded" (.record "SshKey")], true, false⟩

def deletionRecord : RecordDeclaration :=
  ⟨"DeleteResult", [.plain "ok" (.scalar .boolean)], true, false⟩

def records : Family :=
  [serverRecord, repositoryRecord, repositoryAddedRecord, repositoryEditedRecord, keyRecord,
    keyAddedRecord, deletionRecord]

end ShapeQuery.Resource
