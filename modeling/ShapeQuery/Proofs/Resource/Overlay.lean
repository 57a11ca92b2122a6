import ShapeQuery.Proofs.Argument.History
import ShapeQuery.Proofs.Resource.SentVariables

/-!
# Settings over arguments

Settings are written over whatever arguments there are.  A present setting replaces what
stands under its names, and an absent one touches nothing.  So settings that are written
behind each other leave what one record of settings leaves: the later ones where they are
present, and the earlier ones elsewhere.
-/

namespace ShapeQuery

/-- Of two values of which one is absent, either may come first. -/
theorem or_comm_of_isSome {α : Type} {left right : Option α}
    (separate : left.isSome = false ∨ right.isSome = false) :
    right.or left = left.or right := by
  simp only [Option.isSome_eq_false_iff, Option.isNone_iff_eq_none] at separate
  rcases separate with rfl | rfl
  · rw [Option.or_none, Option.none_or]
  · rw [Option.or_none, Option.none_or]

/-! ## Single settings -/

/-- The settings of a repository. -/
inductive Setting where
  | alertDays
  | quota
  | quotaEnabled
  | appendOnly
  | sftpEnabled
  | borgVersion
  | compaction
  | appendOnlyKeys
  | fullAccessKeys
  | rsyncKeys
  deriving DecidableEq, Repr

/-- The names under which a setting is written.  The parts of a schedule travel together. -/
def Setting.names : Setting → List String
  | .alertDays => ["alertDays"]
  | .quota => ["quota"]
  | .quotaEnabled => ["quotaEnabled"]
  | .appendOnly => ["appendOnly"]
  | .sftpEnabled => ["sftpEnabled"]
  | .borgVersion => ["borgVersion"]
  | .compaction =>
    ["compactionEnabled", "compactionHour", "compactionHourTimezone", "compactionInterval",
      "compactionIntervalUnit"]
  | .appendOnlyKeys => ["appendOnlyKeys"]
  | .fullAccessKeys => ["fullAccessKeys"]
  | .rsyncKeys => ["rsyncKeys"]

theorem Setting.exists_name (setting : Setting) : ∃ name, name ∈ setting.names := by
  cases setting <;> exact ⟨_, List.mem_cons_self⟩

attribute [ext] RepositorySettings

namespace RepositorySettings

/-- Whether a setting is present. -/
def has (settings : RepositorySettings) : Setting → Bool
  | .alertDays => settings.alertDays.isSome
  | .quota => settings.quota.isSome
  | .quotaEnabled => settings.quotaEnabled.isSome
  | .appendOnly => settings.appendOnly.isSome
  | .sftpEnabled => settings.sftpEnabled.isSome
  | .borgVersion => settings.borgVersion.isSome
  | .compaction => settings.compaction.isSome
  | .appendOnlyKeys => settings.appendOnlyKeys.isSome
  | .fullAccessKeys => settings.fullAccessKeys.isSome
  | .rsyncKeys => settings.rsyncKeys.isSome

/-- A present setting stands for an argument of the name, which is never required. -/
inductive Writes (settings : RepositorySettings) : String → Argument → Prop
  | alertDays {days : Int64} (present : settings.alertDays = some days) :
      Writes settings "alertDays" (.optional days)
  | quota {megabytes : Int64} (present : settings.quota = some megabytes) :
      Writes settings "quota" (.optional megabytes)
  | quotaEnabled {enabled : Bool} (present : settings.quotaEnabled = some enabled) :
      Writes settings "quotaEnabled" (.optional enabled)
  | appendOnly {enabled : Bool} (present : settings.appendOnly = some enabled) :
      Writes settings "appendOnly" (.optional enabled)
  | sftpEnabled {enabled : Bool} (present : settings.sftpEnabled = some enabled) :
      Writes settings "sftpEnabled" (.optional enabled)
  | borgVersion {version : String} (present : settings.borgVersion = some version) :
      Writes settings "borgVersion" (.optional version)
  | compactionEnabled {schedule : Compaction} (present : settings.compaction = some schedule) :
      Writes settings "compactionEnabled" (.optional schedule.enabled)
  | compactionHour {schedule : Compaction} (present : settings.compaction = some schedule) :
      Writes settings "compactionHour" (.optional schedule.hour)
  | compactionHourTimezone {schedule : Compaction}
      (present : settings.compaction = some schedule) :
      Writes settings "compactionHourTimezone" (.optional schedule.hourTimezone)
  | compactionInterval {schedule : Compaction} (present : settings.compaction = some schedule) :
      Writes settings "compactionInterval" (.optional schedule.interval)
  | compactionIntervalUnit {schedule : Compaction}
      (present : settings.compaction = some schedule) :
      Writes settings "compactionIntervalUnit" (.optional schedule.intervalUnit)
  | appendOnlyKeys {keys : List String} (present : settings.appendOnlyKeys = some keys) :
      Writes settings "appendOnlyKeys" (.optional keys)
  | fullAccessKeys {keys : List String} (present : settings.fullAccessKeys = some keys) :
      Writes settings "fullAccessKeys" (.optional keys)
  | rsyncKeys {keys : List String} (present : settings.rsyncKeys = some keys) :
      Writes settings "rsyncKeys" (.optional keys)

variable {settings first second : RepositorySettings} {name : String} {argument : Argument}

/-- The rows of the settings list what the present settings write. -/
theorem writes_iff_present? :
    settings.Writes name argument ↔
      (settings.present? name).map SentVariable.argument = some argument := by
  constructor
  · intro writes
    cases writes with
    | alertDays present | quota present | quotaEnabled present | appendOnly present
    | sftpEnabled present | borgVersion present | compactionEnabled present
    | compactionHour present | compactionHourTimezone present | compactionInterval present
    | compactionIntervalUnit present | appendOnlyKeys present | fullAccessKeys present
    | rsyncKeys present =>
        rw [present?, rows, present]
        rfl
  · intro held
    obtain ⟨carried, found, rfl⟩ := Option.map_eq_some_iff.mp held
    have row : (name, some carried) ∈ settings.rows :=
      Named.mem_of_find?_eq_some (Option.join_eq_some_iff.mp found)
    have each : ∀ {α : Type} {name : String} {make : α → SentVariable} {setting : Option α},
        (∀ value, setting = some value → settings.Writes name (make value).argument) →
        ∀ carried, setting.map make = some carried → settings.Writes name carried.argument := by
      intro α name make setting writes carried made
      obtain ⟨value, present, rfl⟩ := Option.map_eq_some_iff.mp made
      exact writes value present
    have every : ∀ row ∈ settings.rows,
        ∀ carried, row.2 = some carried → settings.Writes row.1 carried.argument := by
      simp only [rows, List.forall_mem_cons]
      exact ⟨each fun _ => .alertDays, each fun _ => .quota, each fun _ => .appendOnly,
        each fun _ => .sftpEnabled, each fun _ => .quotaEnabled, each fun _ => .borgVersion,
        each fun _ => .compactionEnabled, each fun _ => .compactionHour,
        each fun _ => .compactionHourTimezone, each fun _ => .compactionInterval,
        each fun _ => .compactionIntervalUnit, each fun _ => .appendOnlyKeys,
        each fun _ => .fullAccessKeys, each fun _ => .rsyncKeys, List.forall_mem_nil _⟩
    exact every _ row carried rfl

/-- A setting writes all of its names where it is present, and none where it is absent. -/
theorem isSome_present? (setting : Setting) :
    ∀ name ∈ setting.names, (settings.present? name).isSome = settings.has setting := by
  cases setting with
  | compaction =>
      simp only [Setting.names, List.forall_mem_cons, List.not_mem_nil, false_imp_iff,
        implies_true, and_true]
      and_intros
      all_goals exact Option.isSome_map
  | _ =>
      simp only [Setting.names, List.forall_mem_singleton]
      exact Option.isSome_map

/-! ## Writing over arguments -/

/-- The second arguments are the first ones with the present settings written over them. -/
structure Overlays (settings : RepositorySettings) (before after : Arguments) : Prop where
  kept : ∀ name, (∀ argument, ¬ settings.Writes name argument) →
    after.get? name = before.get? name
  written : ∀ name argument, settings.Writes name argument → after.get? name = some argument
  present : ∀ setting, settings.has setting = true →
    ∀ name ∈ setting.names, ∃ argument, settings.Writes name argument
  absent : ∀ setting, settings.has setting = false →
    ∀ name ∈ setting.names, after.get? name = before.get? name

theorem get?_applyTo_of_present?_eq_none (arguments : Arguments)
    (absent : settings.present? name = none) :
    (settings.applyTo arguments).get? name = arguments.get? name := by
  rw [get?_applyTo, absent]
  rfl

theorem overlays_applyTo (settings : RepositorySettings) (arguments : Arguments) :
    settings.Overlays arguments (settings.applyTo arguments) where
  kept := by
    intro name unwritten
    apply get?_applyTo_of_present?_eq_none
    apply Option.eq_none_iff_forall_ne_some.mpr
    intro carried held
    refine unwritten carried.argument (writes_iff_present?.mpr ?_)
    rw [held]
    rfl
  written := by
    intro name argument writes
    rw [get?_applyTo, writes_iff_present?.mp writes]
    rfl
  present := by
    intro setting has name named
    obtain ⟨carried, held⟩ : ∃ carried, settings.present? name = some carried :=
      Option.isSome_iff_exists.mp ((isSome_present? setting name named).trans has)
    refine ⟨carried.argument, writes_iff_present?.mpr ?_⟩
    rw [held]
    rfl
  absent := by
    intro setting hasNot name named
    apply get?_applyTo_of_present?_eq_none
    have none := (isSome_present? setting name named).trans hasNot
    rwa [Option.isSome_eq_false_iff, Option.isNone_iff_eq_none] at none

/-! ## Settings one after the other -/

/-- The second settings where they are present, and the first ones elsewhere. -/
def merge (first second : RepositorySettings) : RepositorySettings where
  alertDays := second.alertDays.or first.alertDays
  quota := second.quota.or first.quota
  quotaEnabled := second.quotaEnabled.or first.quotaEnabled
  appendOnly := second.appendOnly.or first.appendOnly
  sftpEnabled := second.sftpEnabled.or first.sftpEnabled
  borgVersion := second.borgVersion.or first.borgVersion
  compaction := second.compaction.or first.compaction
  appendOnlyKeys := second.appendOnlyKeys.or first.appendOnlyKeys
  fullAccessKeys := second.fullAccessKeys.or first.fullAccessKeys
  rsyncKeys := second.rsyncKeys.or first.rsyncKeys

/-- No setting is present in both. -/
def Separate (first second : RepositorySettings) : Prop :=
  ∀ setting, first.has setting = false ∨ second.has setting = false

theorem merge_self (settings : RepositorySettings) : settings.merge settings = settings := by
  apply RepositorySettings.ext
  all_goals exact Option.or_self

theorem Separate.merge_comm (separate : first.Separate second) :
    first.merge second = second.merge first :=
  RepositorySettings.ext (or_comm_of_isSome (separate .alertDays))
    (or_comm_of_isSome (separate .quota)) (or_comm_of_isSome (separate .quotaEnabled))
    (or_comm_of_isSome (separate .appendOnly)) (or_comm_of_isSome (separate .sftpEnabled))
    (or_comm_of_isSome (separate .borgVersion)) (or_comm_of_isSome (separate .compaction))
    (or_comm_of_isSome (separate .appendOnlyKeys))
    (or_comm_of_isSome (separate .fullAccessKeys)) (or_comm_of_isSome (separate .rsyncKeys))

theorem present?_merge (first second : RepositorySettings) (name : String) :
    (first.merge second).present? name = (second.present? name).or (first.present? name) := by
  by_cases listed : name ∈ names
  · have every : ∀ name ∈ names, (first.merge second).present? name =
        (second.present? name).or (first.present? name) := by
      simp only [names, List.forall_mem_cons, List.not_mem_nil, false_imp_iff, implies_true,
        and_true]
      and_intros
      all_goals exact Option.map_or
    exact every name listed
  · rw [present?_of_not_mem _ listed, present?_of_not_mem _ listed,
      present?_of_not_mem _ listed]
    rfl

/-- Settings that are written behind others leave what both leave when they are merged. -/
theorem applyTo_merge (first second : RepositorySettings) (arguments : Arguments) :
    (first.merge second).applyTo arguments = second.applyTo (first.applyTo arguments) := by
  apply Arguments.eq_of_get?_eq
  intro name
  rw [get?_applyTo, get?_applyTo, get?_applyTo, present?_merge, Option.map_or, Option.or_assoc]

/-- Settings are laid over any arguments: names that no present setting writes keep what they
hold, and the others hold what the settings say.  So writing settings once more changes
nothing, settings behind each other leave what their merge leaves, and settings that share no
present one may be written in either order. -/
theorem applyTo_overlays (first second : RepositorySettings) (arguments : Arguments) :
    first.Overlays arguments (first.applyTo arguments) ∧
    first.applyTo (first.applyTo arguments) = first.applyTo arguments ∧
    second.applyTo (first.applyTo arguments) = (first.merge second).applyTo arguments ∧
    (first.Separate second →
      second.applyTo (first.applyTo arguments) = first.applyTo (second.applyTo arguments)) ∧
    first.toArguments = first.applyTo Arguments.empty := by
  refine ⟨first.overlays_applyTo arguments, ?_, (applyTo_merge first second arguments).symm,
    ?_, rfl⟩
  · rw [← applyTo_merge, merge_self]
  · intro separate
    rw [← applyTo_merge, ← applyTo_merge, separate.merge_comm]

/-- Settings that share none with a nightly compaction. -/
def shared : RepositorySettings :=
  { Resource.nightly with quota := none, compaction := none, appendOnlyKeys := some ["k1"] }

/-- A required quota that the caller set, and a region. -/
def reserved : Arguments :=
  (Arguments.empty.insert "quota" (.mandatory (10 : Int64))).insert "region" (.mandatory "eu")

theorem applyTo_overlays_nightly :
    Resource.nightly.Separate shared ∧
    (Resource.nightly.applyTo reserved).get? "quota" = some (.optional (500 : Int64)) ∧
    (Resource.nightly.applyTo reserved).get? "region" = some (.mandatory "eu") ∧
    shared.applyTo (Resource.nightly.applyTo reserved) =
      Resource.nightly.applyTo (shared.applyTo reserved) := by
  obtain ⟨overlays, -, -, commute, -⟩ := applyTo_overlays Resource.nightly shared reserved
  have separate : Resource.nightly.Separate shared := by
    intro setting
    cases setting <;> decide
  have unwritten : ∀ argument, ¬ Resource.nightly.Writes "region" argument := by
    intro argument writes
    cases writes_iff_present?.mp writes
  refine ⟨separate, overlays.written _ _ (.quota rfl), ?_, commute separate⟩
  rw [overlays.kept "region" unwritten]
  rfl

end RepositorySettings

end ShapeQuery
