import ShapeQuery.Proofs.Execution.Preparation
import ShapeQuery.Resource.Operations

/-!
# Requests that are always sent

Texts, flags, words and lists of texts can always be declared and encoded, and the
operations on resources have no other arguments.  So an operation whose result can be
selected is never refused before it is sent.
-/

namespace ShapeQuery

/-! ## Arguments -/

/-- Types of values that can always be declared and encoded. -/
class SendableValue (α : Type) [ArgumentValue α] : Prop where
  exists_type (required : Bool) : ∃ type, (ArgumentValue.shape α).infer required = .ok type
  exists_json (value : α) : ∃ json, (ArgumentValue.datum value).toJson = .ok json

instance : SendableValue String := ⟨fun _ => ⟨_, rfl⟩, fun _ => ⟨_, rfl⟩⟩

instance : SendableValue Bool := ⟨fun _ => ⟨_, rfl⟩, fun _ => ⟨_, rfl⟩⟩

instance : SendableValue Int64 := ⟨fun _ => ⟨_, rfl⟩, fun _ => ⟨_, rfl⟩⟩

theorem Datum.itemsToJson_texts (values : List String) :
    itemsToJson (values.map .text) = .ok (values.map .text) := by
  induction values with
  | nil => rfl
  | cons value rest induction =>
      rw [List.map_cons, itemsToJson, induction]
      rfl

instance : SendableValue (List String) where
  exists_type _ := ⟨_, rfl⟩
  exists_json values := ⟨.list (values.map .text), congrArg
    (fun items : Except Datum.EncodingFault (List Json) => items.map Json.list)
    (Datum.itemsToJson_texts values)⟩

/-- The argument can be declared and encoded. -/
def Argument.Sendable (argument : Argument) : Prop :=
  (∃ type, argument.variableType = .ok type) ∧ ∃ json, argument.toJson = .ok json

section

variable {α : Type} [ArgumentValue α] [SendableValue α]

theorem Argument.sendable_mandatory (value : α) : (Argument.mandatory value).Sendable :=
  ⟨SendableValue.exists_type (α := α) true, SendableValue.exists_json value⟩

theorem Argument.sendable_optional (value : α) : (Argument.optional value).Sendable :=
  ⟨SendableValue.exists_type (α := α) false, SendableValue.exists_json value⟩

end

namespace Arguments

variable {arguments : Arguments} {property : String × Argument → Prop}

theorem forall_mem_insert (older : ∀ entry ∈ arguments.toList, property entry) {name : String}
    {argument : Argument} (written : property (name, argument)) :
    ∀ entry ∈ (arguments.insert name argument).toList, property entry := by
  intro entry member
  obtain rfl | held := Named.mem_insert member
  · exact written
  · exact older entry held

theorem forall_mem_extend (older : ∀ entry ∈ arguments.toList, property entry)
    {additions : List (String × Argument)} (written : ∀ entry ∈ additions, property entry) :
    ∀ entry ∈ (arguments.extend additions).toList, property entry := by
  intro entry member
  obtain held | added := Named.mem_insertAll member
  · exact older entry held
  · exact written entry added

/-- Every argument can be declared and encoded. -/
def Sendable (arguments : Arguments) : Prop :=
  ∀ entry ∈ arguments.toList, entry.2.Sendable

theorem sendable_empty : empty.Sendable :=
  List.forall_mem_nil _

theorem Sendable.insert (sendable : arguments.Sendable) {name : String} {argument : Argument}
    (written : argument.Sendable) : (arguments.insert name argument).Sendable :=
  forall_mem_insert sendable written

end Arguments

namespace RepositorySettings

/-- The names under which settings are written. -/
def names : List String :=
  ["alertDays", "quota", "appendOnly", "sftpEnabled", "quotaEnabled", "borgVersion",
    "compactionEnabled", "compactionHour", "compactionHourTimezone", "compactionInterval",
    "compactionIntervalUnit", "appendOnlyKeys", "fullAccessKeys", "rsyncKeys"]

variable {property : String × Argument → Prop}

theorem forall_mem_entry {α : Type} [ArgumentValue α] {name : String}
    (written : ∀ value : α, property (name, .optional value)) (setting : Option α) :
    ∀ written ∈ entry name setting, property written := by
  cases setting with
  | none => nofun
  | some value => exact List.forall_mem_singleton.mpr (written value)

/-- What holds of every optional value under one of the names holds of all entries. -/
theorem forall_mem_entries (settings : RepositorySettings)
    (each : ∀ {α : Type} [ArgumentValue α] [SendableValue α] (name : String) (value : α),
      name ∈ names → property (name, .optional value)) :
    ∀ written ∈ settings.entries, property written := by
  have compaction : ∀ written ∈ settings.compaction.toList.flatMap compactionEntries,
      property written := by
    refine List.forall_mem_flatMap.mpr fun schedule _ => ?_
    simp only [compactionEntries, List.forall_mem_cons]
    exact ⟨each _ _ (by decide), each _ _ (by decide), each _ _ (by decide),
      each _ _ (by decide), each _ _ (by decide), nofun⟩
  have single : ∀ {α : Type} [ArgumentValue α] [SendableValue α] {name : String}
      (setting : Option α), name ∈ names → ∀ written ∈ entry name setting, property written :=
    fun setting listed => forall_mem_entry (fun value => each _ value listed) setting
  simp only [entries, List.forall_mem_append, and_assoc]
  exact ⟨single _ (by decide), single _ (by decide), single _ (by decide),
    single _ (by decide), single _ (by decide), single _ (by decide), compaction,
    single _ (by decide), single _ (by decide), single _ (by decide)⟩

theorem sendable_applyTo (settings : RepositorySettings) {arguments : Arguments}
    (sendable : arguments.Sendable) : (settings.applyTo arguments).Sendable :=
  Arguments.forall_mem_extend sendable
    (settings.forall_mem_entries fun _ value _ => Argument.sendable_optional value)

end RepositorySettings

/-! ## Requests -/

namespace OperationCall

variable {α : Type} {call : OperationCall} {schema : Schema α} {endpoint : Endpoint}

/-- An operation with sendable arguments and a selection is prepared. -/
theorem exists_request {fields : List Selection} (sendable : call.arguments.Sendable)
    (selected : schema.selection = .ok fields) :
    ∃ prepared, call.prepare endpoint schema = .ok prepared := by
  have declarable : ¬ call.arguments.SomeFails Argument.variableType :=
    Arguments.not_someFails_iff.mpr fun entry member =>
      Named.not_fails_iff.mpr (sendable entry member).1
  have encodable : ¬ call.arguments.SomeFails Argument.toJson :=
    Arguments.not_someFails_iff.mpr fun entry member =>
      Named.not_fails_iff.mpr (sendable entry member).2
  obtain ⟨declarations, declared⟩ := declareEntries_of_not_someFails declarable
  obtain ⟨values, encoded⟩ := Arguments.encode_of_not_someFails encodable
  have assembled : Document.assemble call.operation call.name schema.selection
      call.arguments = .ok ⟨call.operation, call.name, declarations, fields⟩ := by
    simp only [Document.assemble, declared, selected]
  exact ⟨_, prepare_eq_ok_iff.mpr ⟨_, values, assembled, encoded, rfl⟩⟩

end OperationCall

end ShapeQuery
