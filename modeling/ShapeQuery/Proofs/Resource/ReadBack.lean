import ShapeQuery.Proofs.Resource.Overlay
import ShapeQuery.Proofs.Resource.Presentation

/-!
# Settings read back

Settings are sent under the names by which the service answers.  What is sent for them is
itself a payload for a repository: it is decoded to the repository of which nothing is known
but the present settings.
-/

namespace ShapeQuery

open Decoding

/-! ## Variables read as members of a record -/

/-- The value that a variable is read as where its type is expected. -/
def SentVariable.datum : SentVariable → Datum
  | .text _ value => .text value
  | .flag value => .boolean value
  | .word value => .ofWord value
  | .texts values => .ofTexts values

section

variable {family : Family} {arguments : Arguments} {expected : SentVariables}

/-- A record is read from the values of variables: each field from the variable of its name,
and as the default where there is none. -/
theorem Arguments.Carries.decode_record (carries : arguments.Carries expected)
    {values : List (String × Json)} (encoded : arguments.encode = .ok values)
    {name : String} {declaration : RecordDeclaration}
    (declared : family.find? name = some declaration) (direct : declaration.Direct)
    (readable : ∀ field ∈ declaration.fields, ∀ carried, expected field.wireName = some carried →
      decode family carried.value field.type = .ok carried.datum) :
    decode family (.object values) (.record name) =
      .ok (.record (declaration.fields.map fun field => (field.wireName,
        ((expected field.wireName).map SentVariable.datum).getD (family.default field.type)))) := by
  have increasing := arguments.increasing.of_converted (encodeEntries_eq_ok_iff.mp encoded)
  rw [decode_object_record_iff declared direct increasing.nodup_names]
  refine ⟨_, rfl, ?_⟩
  rw [SettlesFields, List.forall₂_map_right_iff, List.forall₂_same]
  intro field member
  refine ⟨rfl, ?_⟩
  unfold Settles
  rw [carries.find?_values encoded]
  cases held : expected field.wireName with
  | none => rfl
  | some carried => exact readable field member carried held

end

namespace Datum

variable {α : Type} {record : Datum} {name : String} {held : Option α} {fallback : α}

theorem textAt_of_held (part : α → String)
    (member : record.memberAt name =
      ((held.map fun value => SentVariable.text false (part value)).map
        SentVariable.datum).getD (.text (part fallback))) :
    record.textAt name = part (held.getD fallback) := by
  rw [textAt, member]
  cases held <;> rfl

theorem flagAt_of_held (part : α → Bool)
    (member : record.memberAt name =
      ((held.map fun value => SentVariable.flag (part value)).map
        SentVariable.datum).getD (.boolean (part fallback))) :
    record.flagAt name = part (held.getD fallback) := by
  rw [flagAt, member]
  cases held <;> rfl

theorem wordAt_of_held (part : α → Int64)
    (member : record.memberAt name =
      ((held.map fun value => SentVariable.word (part value)).map
        SentVariable.datum).getD (.ofWord (part fallback))) :
    record.wordAt name = part (held.getD fallback) := by
  rw [wordAt, member]
  cases held <;> exact Int64.ofInt_toInt _

theorem textsAt_of_held (part : α → List String)
    (member : record.memberAt name =
      ((held.map fun value => SentVariable.texts (part value)).map
        SentVariable.datum).getD (.ofTexts (part fallback))) :
    record.textsAt name = part (held.getD fallback) := by
  cases held <;> exact textsAt_of_memberAt member

end Datum

/-! ## Repositories that settings describe -/

/-- The repository of which nothing is known. -/
def Repository.blank : Repository where
  id := ""
  name := ""
  server := ⟨"", "", "", false, "", "", "", ""⟩
  quota := 0
  quotaEnabled := false
  alertDays := 0
  region := ""
  format := ""
  borgVersion := ""
  resticVersion := none
  htpasswd := none
  appendOnly := false
  appendOnlyKeys := []
  fullAccessKeys := []
  rsyncKeys := []
  sftpEnabled := false
  encryption := ""
  createdAt := ""
  lastModified := none
  compaction := ⟨false, 0, "", 0, ""⟩
  path := ""
  currentUsage := Floating.zero

namespace RepositorySettings

/-- The repository with the present settings in place of its own. -/
def configure (settings : RepositorySettings) (repository : Repository) : Repository :=
  { repository with
    alertDays := settings.alertDays.getD repository.alertDays
    quota := settings.quota.getD repository.quota
    quotaEnabled := settings.quotaEnabled.getD repository.quotaEnabled
    appendOnly := settings.appendOnly.getD repository.appendOnly
    sftpEnabled := settings.sftpEnabled.getD repository.sftpEnabled
    borgVersion := settings.borgVersion.getD repository.borgVersion
    compaction := settings.compaction.getD repository.compaction
    appendOnlyKeys := settings.appendOnlyKeys.getD repository.appendOnlyKeys
    fullAccessKeys := settings.fullAccessKeys.getD repository.fullAccessKeys
    rsyncKeys := settings.rsyncKeys.getD repository.rsyncKeys }

theorem carries_toArguments (settings : RepositorySettings) :
    settings.toArguments.Carries settings.present? := by
  intro name
  rw [toArguments, get?_applyTo]
  exact Option.or_none

/-- Settings can always be sent. -/
theorem exists_values (settings : RepositorySettings) :
    ∃ values, settings.toArguments.encode = .ok values := by
  apply Arguments.encode_of_not_someFails
  rw [Arguments.not_someFails_iff]
  intro entry member
  exact Named.not_fails_iff.mpr (settings.carries_toArguments.sendable entry member).2

end RepositorySettings

namespace Resource

theorem holds_toInt (value : Int64) : (ScalarKind.signed .bits64).holds value.toInt = true := by
  have low := value.le_toInt
  have high := value.toInt_lt
  simp only [ScalarKind.holds, Bool.and_eq_true, decide_eq_true_eq]
  exact ⟨low, high⟩

theorem decode_word (value : Int64) :
    decode records (.integer value.toInt) word = .ok (.ofWord value) :=
  decode_integer (holds_toInt value)

theorem decode_nullableTexts (values : List String) :
    decode records (.list (values.map .text)) nullableTexts = .ok (.ofTexts values) := by
  have proper : Json.list (values.map .text) ≠ .null := nofun
  rw [nullableTexts, decode_nullAsDefault proper]
  apply decode_list_list
  rw [List.forall₂_map_left_iff, List.forall₂_map_right_iff, List.forall₂_same]
  intro value _
  rfl

/-- Every setting is of the type of the field that goes by its name. -/
theorem decode_of_present? (settings : RepositorySettings) :
    ∀ field ∈ repositoryRecord.fields,
      ∀ carried, settings.present? field.wireName = some carried →
        decode records carried.value field.type = .ok carried.datum := by
  have each : ∀ {α : Type} {type : Datatype} {make : α → SentVariable} {setting : Option α},
      (∀ value, decode records (make value).value type = .ok (make value).datum) →
      ∀ carried, setting.map make = some carried →
        decode records carried.value type = .ok carried.datum := by
    intro α type make setting reads carried made
    obtain ⟨value, _, rfl⟩ := Option.map_eq_some_iff.mp made
    exact reads value
  simp only [repositoryRecord, List.forall_mem_cons]
  exact ⟨nofun, nofun, nofun, each decode_word, each fun _ => rfl, each decode_word, nofun, nofun,
    each fun _ => rfl, nofun, nofun, each fun _ => rfl, each decode_nullableTexts,
    each decode_nullableTexts, each decode_nullableTexts, each fun _ => rfl, nofun, nofun, nofun,
    each fun _ => rfl, each fun schedule => decode_word schedule.interval, each fun _ => rfl,
    each fun schedule => decode_word schedule.hour, each fun _ => rfl, nofun, nofun,
    List.forall_mem_nil _⟩

/-- The record that the present settings are read as. -/
def settledRecord (settings : RepositorySettings) : Datum :=
  .record (repositoryRecord.fields.map fun field => (field.wireName,
    ((settings.present? field.wireName).map SentVariable.datum).getD
      (records.default field.type)))

theorem ofDatum_settledRecord (settings : RepositorySettings) :
    Repository.ofDatum (settledRecord settings) = settings.configure .blank := by
  apply Repository.ext
  case alertDays | quota => exact Datum.wordAt_of_held id rfl
  case quotaEnabled | appendOnly | sftpEnabled => exact Datum.flagAt_of_held id rfl
  case borgVersion => exact Datum.textAt_of_held id rfl
  case appendOnlyKeys | fullAccessKeys | rsyncKeys => exact Datum.textsAt_of_held id rfl
  case compaction =>
    apply Compaction.ext
    case enabled => exact Datum.flagAt_of_held Compaction.enabled rfl
    case hour => exact Datum.wordAt_of_held Compaction.hour rfl
    case hourTimezone => exact Datum.textAt_of_held Compaction.hourTimezone rfl
    case interval => exact Datum.wordAt_of_held Compaction.interval rfl
    case intervalUnit => exact Datum.textAt_of_held Compaction.intervalUnit rfl
  all_goals rfl

theorem decode_values {settings : RepositorySettings} {values : List (String × Json)}
    (encoded : settings.toArguments.encode = .ok values) :
    ((records.schema (.record "BorgRepo")).map Repository.ofDatum).decode (.object values) =
      .ok (settings.configure .blank) := by
  have declared : records.find? "BorgRepo" = some repositoryRecord := rfl
  have decoded : decode records (.object values) (.record "BorgRepo") =
      .ok (settledRecord settings) :=
    settings.carries_toArguments.decode_record encoded declared
      (records_direct.of_find? declared) (decode_of_present? settings)
  calc
    ((records.schema (.record "BorgRepo")).map Repository.ofDatum).decode (.object values)
        = (decode records (.object values) (.record "BorgRepo")).map Repository.ofDatum := rfl
    _ = .ok (Repository.ofDatum (settledRecord settings)) := by rw [decoded]; rfl
    _ = .ok (settings.configure .blank) := by rw [ofDatum_settledRecord]

end Resource

/-! ## Settings that are sent alike -/

/-- A value that may be absent is known by its presence and by what it is with a fallback. -/
theorem eq_of_getD_eq {α : Type} {left right : Option α} {fallback : α}
    (present : left.isSome = right.isSome) (same : left.getD fallback = right.getD fallback) :
    left = right := by
  cases left <;> cases right <;> simp_all

namespace RepositorySettings

variable {left right : RepositorySettings}

/-- Settings are known by what they make of a repository and by which of them are present. -/
theorem eq_of_configure_eq {repository : Repository}
    (present : ∀ setting, left.has setting = right.has setting)
    (same : left.configure repository = right.configure repository) : left = right :=
  RepositorySettings.ext
    (eq_of_getD_eq (present .alertDays) (congrArg Repository.alertDays same))
    (eq_of_getD_eq (present .quota) (congrArg Repository.quota same))
    (eq_of_getD_eq (present .quotaEnabled) (congrArg Repository.quotaEnabled same))
    (eq_of_getD_eq (present .appendOnly) (congrArg Repository.appendOnly same))
    (eq_of_getD_eq (present .sftpEnabled) (congrArg Repository.sftpEnabled same))
    (eq_of_getD_eq (present .borgVersion) (congrArg Repository.borgVersion same))
    (eq_of_getD_eq (present .compaction) (congrArg Repository.compaction same))
    (eq_of_getD_eq (present .appendOnlyKeys) (congrArg Repository.appendOnlyKeys same))
    (eq_of_getD_eq (present .fullAccessKeys) (congrArg Repository.fullAccessKeys same))
    (eq_of_getD_eq (present .rsyncKeys) (congrArg Repository.rsyncKeys same))

/-- A setting is present exactly if a member is sent under its name. -/
theorem has_eq_isSome_find? {settings : RepositorySettings} {values : List (String × Json)}
    (encoded : settings.toArguments.encode = .ok values) {setting : Setting} {name : String}
    (named : name ∈ setting.names) :
    settings.has setting = (Named.find? name values).isSome := by
  rw [settings.carries_toArguments.find?_values encoded, Option.isSome_map,
    isSome_present? setting name named]

theorem eq_of_encode_eq (same : left.toArguments.encode = right.toArguments.encode) :
    left = right := by
  obtain ⟨values, encoded⟩ := left.exists_values
  have otherEncoded := same.symm.trans encoded
  apply @eq_of_configure_eq left right .blank
  · intro setting
    obtain ⟨name, named⟩ := setting.exists_name
    rw [has_eq_isSome_find? encoded named, has_eq_isSome_find? otherEncoded named]
  · have decoded := Resource.decode_values encoded
    rw [Resource.decode_values otherEncoded] at decoded
    exact (Except.ok.inj decoded).symm

/-- What is sent for any settings is read back as the repository with exactly the present
settings, and with the defaults of its record elsewhere.  So settings are known by what is sent
for them. -/
theorem decode_sent (settings other : RepositorySettings) :
    (∃ values, settings.toArguments.encode = .ok values ∧
      ((Resource.records.schema (.record "BorgRepo")).map Repository.ofDatum).decode
        (.object values) = .ok (settings.configure .blank)) ∧
    Repository.blank =
      Repository.ofDatum (Resource.records.default (.record "BorgRepo")) ∧
    (settings.toArguments.encode = other.toArguments.encode ↔ settings = other) := by
  obtain ⟨values, encoded⟩ := settings.exists_values
  exact ⟨⟨values, encoded, Resource.decode_values encoded⟩, rfl, eq_of_encode_eq,
    fun same => same ▸ rfl⟩

end RepositorySettings

end ShapeQuery
