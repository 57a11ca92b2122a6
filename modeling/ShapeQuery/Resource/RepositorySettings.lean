import ShapeQuery.Argument
import ShapeQuery.Resource.Repository

/-!
# Repository settings

Settings are written over the arguments of an operation.  Only the settings that
are present are written, so the service keeps the others as they are; the five
parts of a compaction schedule travel together.
-/

namespace ShapeQuery

/-- Settings for a new or an existing repository. -/
structure RepositorySettings where
  alertDays : Option Int64
  quota : Option Int64
  quotaEnabled : Option Bool
  appendOnly : Option Bool
  sftpEnabled : Option Bool
  borgVersion : Option String
  compaction : Option Compaction
  appendOnlyKeys : Option (List String)
  fullAccessKeys : Option (List String)
  rsyncKeys : Option (List String)
  deriving DecidableEq

namespace RepositorySettings

/-- The entry of a setting that may be absent. -/
def entry {α : Type} [ArgumentValue α] (name : String) (setting : Option α) :
    List (String × Argument) :=
  setting.toList.map fun value => (name, Argument.optional value)

/-- The entries of a compaction schedule. -/
def compactionEntries (schedule : Compaction) : List (String × Argument) :=
  [("compactionEnabled", .optional schedule.enabled),
    ("compactionHour", .optional schedule.hour),
    ("compactionHourTimezone", .optional schedule.hourTimezone),
    ("compactionInterval", .optional schedule.interval),
    ("compactionIntervalUnit", .optional schedule.intervalUnit)]

/-- The arguments that the present settings write. -/
def entries (settings : RepositorySettings) : List (String × Argument) :=
  entry "alertDays" settings.alertDays ++
  entry "quota" settings.quota ++
  entry "appendOnly" settings.appendOnly ++
  entry "sftpEnabled" settings.sftpEnabled ++
  entry "quotaEnabled" settings.quotaEnabled ++
  entry "borgVersion" settings.borgVersion ++
  settings.compaction.toList.flatMap compactionEntries ++
  entry "appendOnlyKeys" settings.appendOnlyKeys ++
  entry "fullAccessKeys" settings.fullAccessKeys ++
  entry "rsyncKeys" settings.rsyncKeys

/-- Writes the present settings over some arguments. -/
def applyTo (settings : RepositorySettings) (arguments : Arguments) : Arguments :=
  arguments.extend settings.entries

/-- The present settings alone. -/
def toArguments (settings : RepositorySettings) : Arguments :=
  settings.applyTo Arguments.empty

end RepositorySettings

end ShapeQuery
