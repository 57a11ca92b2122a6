import ShapeQuery.Proofs.Execution.Preflight
import ShapeQuery.Proofs.Named.LastWritten
import ShapeQuery.Proofs.Resource.SentDocument

/-!
# Variables that resources send

An operation on a resource writes its settings over its own arguments.  The settings go by
other names, so what identifies the resource reaches the service as the caller gave it, and
beside it there are the present settings and nothing else.
-/

namespace ShapeQuery

/-! ## Variables -/

/-- A variable of a request: only a text is ever required. -/
inductive SentVariable where
  | text (required : Bool) (value : String)
  | flag (value : Bool)
  | word (value : Int64)
  | texts (values : List String)

namespace SentVariable

/-- The type it is declared with. -/
def type : SentVariable → VariableType
  | .text required _ => ⟨.string, false, required⟩
  | .flag _ => ⟨.boolean, false, false⟩
  | .word _ => ⟨.int, false, false⟩
  | .texts _ => ⟨.string, true, false⟩

/-- The value that is sent for it. -/
def value : SentVariable → Json
  | .text _ value => .text value
  | .flag value => .boolean value
  | .word value => .integer value.toInt
  | .texts values => .list (values.map .text)

/-- The argument it is made from. -/
def argument : SentVariable → Argument
  | .text true value => .mandatory value
  | .text false value => .optional value
  | .flag value => .optional value
  | .word value => .optional value
  | .texts values => .optional values

theorem variableType_argument (carried : SentVariable) :
    carried.argument.variableType = .ok carried.type := by
  cases carried with
  | text required value => cases required <;> rfl
  | flag value => rfl
  | word value => rfl
  | texts values => rfl

theorem toJson_argument (carried : SentVariable) :
    carried.argument.toJson = .ok carried.value := by
  cases carried with
  | text required value => cases required <;> rfl
  | flag value => rfl
  | word value => rfl
  | texts values =>
      exact congrArg (fun items : Except Datum.EncodingFault (List Json) => items.map Json.list)
        (Datum.itemsToJson_texts values)

theorem plain_value (carried : SentVariable) : carried.value.Plain := by
  cases carried with
  | text required value => trivial
  | flag value => trivial
  | word value => exact ⟨value.le_toInt, Int.lt_trans value.toInt_lt (by decide)⟩
  | texts values =>
      refine Json.plainList_iff.mpr (List.forall_mem_map.mpr ?_)
      exact fun value _ => trivial

theorem depth_value_le (carried : SentVariable) : carried.value.depth ≤ 1 := by
  cases carried with
  | text required value => exact Nat.zero_le 1
  | flag value => exact Nat.zero_le 1
  | word value => exact Nat.zero_le 1
  | texts values =>
      refine Nat.succ_le_succ (Json.depthList_le (List.forall_mem_map.mpr ?_))
      exact fun value _ => Nat.le_refl 0

end SentVariable

/-! ## Arguments that carry variables -/

/-- Some variables by their names. -/
abbrev SentVariables := String → Option SentVariable

/-- These variables and no other. -/
abbrev SentVariables.ofList (own : List (String × SentVariable)) : SentVariables :=
  fun name => Named.find? name own

namespace Arguments

variable {arguments : Arguments} {expected : SentVariables}

/-- The arguments are exactly those that the variables are made from. -/
def Carries (arguments : Arguments) (expected : SentVariables) : Prop :=
  ∀ name, arguments.get? name = (expected name).map SentVariable.argument

theorem carries_ofList (own : List (String × SentVariable))
    (distinct : (own.map Prod.fst).Nodup) :
    (ofList (own.map fun entry => (entry.1, entry.2.argument))).Carries (.ofList own) := by
  intro name
  have written : (own.map fun entry => (entry.1, entry.2.argument)).map Prod.fst =
      own.map Prod.fst := by
    rw [List.map_map]
    rfl
  calc
    Named.find? name (Named.insertAll [] (own.map fun entry => (entry.1, entry.2.argument)))
        = Named.find? name (own.map fun entry => (entry.1, entry.2.argument)) :=
          Named.find?_insertAll_of_nodup (written ▸ distinct) name
    _ = (Named.find? name own).map SentVariable.argument :=
          Named.find?_map_value SentVariable.argument name own

theorem carries_pair (first second : String × SentVariable)
    (distinct : ([first, second].map Prod.fst).Nodup) :
    ((empty.insert first.1 first.2.argument).insert second.1 second.2.argument).Carries
      (.ofList [first, second]) :=
  carries_ofList [first, second] distinct

theorem Carries.exists_of_mem (carries : arguments.Carries expected)
    {entry : String × Argument} (member : entry ∈ arguments.toList) :
    ∃ carried, expected entry.1 = some carried ∧ entry.2 = carried.argument := by
  have found : arguments.get? entry.1 = some entry.2 :=
    (Named.find?_eq_some_iff arguments.increasing.nodup_names).mpr member
  rw [carries entry.1, Option.map_eq_some_iff] at found
  obtain ⟨carried, held, made⟩ := found
  exact ⟨carried, held, made.symm⟩

theorem Carries.sendable (carries : arguments.Carries expected) : arguments.Sendable := by
  intro entry member
  obtain ⟨carried, _, made⟩ := carries.exists_of_mem member
  rw [made]
  exact ⟨⟨_, carried.variableType_argument⟩, _, carried.toJson_argument⟩

theorem Carries.named (carries : arguments.Carries expected)
    (names : ∀ name carried, expected name = some carried → isName name) :
    arguments.Named := by
  intro entry member
  obtain ⟨carried, held, _⟩ := carries.exists_of_mem member
  exact names entry.1 carried held

theorem Carries.find?_declarations (carries : arguments.Carries expected)
    {declarations : List (String × VariableType)}
    (declared : declareEntries arguments.toList = .ok declarations) (name : String) :
    Named.find? name declarations = (expected name).map SentVariable.type :=
  Named.find?_of_converted_map SentVariable.variableType_argument
    (declareEntries_eq_ok_iff.mp declared) (carries name)

theorem Carries.find?_values (carries : arguments.Carries expected)
    {values : List (String × Json)} (encoded : arguments.encode = .ok values)
    (name : String) : Named.find? name values = (expected name).map SentVariable.value :=
  Named.find?_of_converted_map SentVariable.toJson_argument
    (encodeEntries_eq_ok_iff.mp encoded) (carries name)

theorem Carries.exists_of_encode (carries : arguments.Carries expected)
    {values : List (String × Json)} (encoded : arguments.encode = .ok values) :
    ∀ entry ∈ values, ∃ carried : SentVariable, entry.2 = carried.value := by
  apply Named.forall_mem_of_converted (fun json => ∃ carried : SentVariable, json = carried.value)
    (encodeEntries_eq_ok_iff.mp encoded)
  intro entry member json converted
  obtain ⟨carried, _, made⟩ := carries.exists_of_mem member
  rw [made, carried.toJson_argument] at converted
  cases converted
  exact ⟨carried, rfl⟩

/-- What is sent for the variables is read back from its text. -/
theorem Carries.parse_values (carries : arguments.Carries expected)
    {values : List (String × Json)} (encoded : arguments.encode = .ok values) :
    Json.parse (Json.object values).render = .ok (.object values) := by
  have increasing := arguments.increasing.of_converted (encodeEntries_eq_ok_iff.mp encoded)
  have plain : ∀ entry ∈ values, entry.2.Plain := by
    intro entry member
    obtain ⟨carried, made⟩ := carries.exists_of_encode encoded entry member
    exact made ▸ carried.plain_value
  have shallow : ∀ entry ∈ values, entry.2.depth ≤ 1 := by
    intro entry member
    obtain ⟨carried, made⟩ := carries.exists_of_encode encoded entry member
    exact made ▸ carried.depth_value_le
  rw [Json.parse_eq_parseWithin]
  apply Json.parseWithin_render
  · exact ⟨increasing, Json.plainMembers_iff.mpr plain⟩
  · calc
      (Json.object values).depth
          = Json.depthMembers values + 1 := rfl
      _ ≤ 1 + 1 := Nat.succ_le_succ (Json.depthMembers_le shallow)
      _ < Json.nestingLimit := by decide

end Arguments

/-! ## Settings -/

namespace RepositorySettings

/-- What each setting is sent as, by the name of its variable; nothing for a setting that is
absent. -/
def rows (settings : RepositorySettings) : List (String × Option SentVariable) :=
  [("alertDays", settings.alertDays.map .word),
    ("quota", settings.quota.map .word),
    ("appendOnly", settings.appendOnly.map .flag),
    ("sftpEnabled", settings.sftpEnabled.map .flag),
    ("quotaEnabled", settings.quotaEnabled.map .flag),
    ("borgVersion", settings.borgVersion.map (.text false)),
    ("compactionEnabled", settings.compaction.map fun schedule => .flag schedule.enabled),
    ("compactionHour", settings.compaction.map fun schedule => .word schedule.hour),
    ("compactionHourTimezone",
      settings.compaction.map fun schedule => .text false schedule.hourTimezone),
    ("compactionInterval", settings.compaction.map fun schedule => .word schedule.interval),
    ("compactionIntervalUnit",
      settings.compaction.map fun schedule => .text false schedule.intervalUnit),
    ("appendOnlyKeys", settings.appendOnlyKeys.map .texts),
    ("fullAccessKeys", settings.fullAccessKeys.map .texts),
    ("rsyncKeys", settings.rsyncKeys.map .texts)]

/-- The variables of the present settings. -/
def present? (settings : RepositorySettings) : SentVariables :=
  fun name => (Named.find? name settings.rows).join

theorem map_fst_rows (settings : RepositorySettings) : settings.rows.map Prod.fst = names := rfl

theorem entry_eq {α : Type} [ArgumentValue α] {make : α → SentVariable}
    (made : ∀ value, (make value).argument = .optional value) (name : String)
    (setting : Option α) :
    entry name setting =
      (setting.map make).toList.map fun carried => (name, carried.argument) := by
  cases setting with
  | none => rfl
  | some value => exact congrArg (fun argument => [(name, argument)]) (made value).symm

theorem entries_eq (settings : RepositorySettings) :
    settings.entries =
      settings.rows.flatMap fun row =>
        row.2.toList.map fun carried => (row.1, carried.argument) := by
  have flag := @entry_eq Bool _ .flag fun _ => rfl
  have word := @entry_eq Int64 _ .word fun _ => rfl
  have text := @entry_eq String _ (.text false) fun _ => rfl
  have texts := @entry_eq (List String) _ .texts fun _ => rfl
  -- a schedule is the one setting that stands for several variables
  cases held : settings.compaction <;>
    simp [entries, rows, flag, word, text, texts, held, compactionEntries,
      SentVariable.argument]

/-- A present setting is found where settings were written, and under every other name what
was there before. -/
theorem get?_applyTo (settings : RepositorySettings) (arguments : Arguments) (name : String) :
    (settings.applyTo arguments).get? name =
      ((settings.present? name).map SentVariable.argument).or (arguments.get? name) := by
  have distinct : (settings.rows.map Prod.fst).Nodup := by
    rw [map_fst_rows]
    decide
  calc
    Named.find? name (Named.insertAll arguments.toList settings.entries)
        = (Named.lastWritten? name settings.entries).or (arguments.get? name) :=
          Named.find?_insertAll name arguments.toList settings.entries
    _ = ((settings.present? name).map SentVariable.argument).or (arguments.get? name) := by
          rw [entries_eq, Named.lastWritten?_flatMap_toList _ distinct]
          rfl

theorem present?_of_not_mem (settings : RepositorySettings) {name : String}
    (foreign : name ∉ names) : settings.present? name = none := by
  rw [present?, Named.find?_eq_none_iff.mpr (settings.map_fst_rows ▸ foreign)]
  rfl

theorem mem_names_of_present? {settings : RepositorySettings} {name : String}
    {carried : SentVariable} (held : settings.present? name = some carried) : name ∈ names := by
  by_contra foreign
  rw [settings.present?_of_not_mem foreign] at held
  cases held

/-- Settings leave every argument alone that goes by another name. -/
theorem get?_applyTo_of_not_mem (settings : RepositorySettings) (arguments : Arguments)
    {name : String} (foreign : name ∉ names) :
    (settings.applyTo arguments).get? name = arguments.get? name := by
  rw [get?_applyTo, settings.present?_of_not_mem foreign]
  rfl

/-- No setting is required. -/
theorem not_required_of_present? {settings : RepositorySettings} {name : String}
    {carried : SentVariable} (held : settings.present? name = some carried) :
    carried.type.required = false := by
  have row : (name, some carried) ∈ settings.rows :=
    Named.mem_of_find?_eq_some (Option.join_eq_some_iff.mp held)
  have each : ∀ {α : Type} (make : α → SentVariable) (setting : Option α),
      (∀ value, (make value).type.required = false) →
      ∀ carried, setting.map make = some carried → carried.type.required = false := by
    intro α make setting optional carried made
    obtain ⟨value, _, rfl⟩ := Option.map_eq_some_iff.mp made
    exact optional value
  have optional : ∀ row ∈ settings.rows,
      ∀ carried, row.2 = some carried → carried.type.required = false := by
    simp only [rows, List.forall_mem_cons]
    refine ⟨?_, ?_, ?_, ?_, ?_, ?_, ?_, ?_, ?_, ?_, ?_, ?_, ?_, ?_, List.forall_mem_nil _⟩
    all_goals exact each _ _ fun _ => rfl
  exact optional _ row carried rfl

/-- The variables of an operation and the present settings. -/
def beside (settings : RepositorySettings) (own : List (String × SentVariable)) : SentVariables :=
  fun name => (Named.find? name own).or (settings.present? name)

theorem carries_applyTo (settings : RepositorySettings) {arguments : Arguments}
    {own : List (String × SentVariable)}
    (carries : arguments.Carries (.ofList own)) (foreign : ∀ entry ∈ own, entry.1 ∉ names) :
    (settings.applyTo arguments).Carries (settings.beside own) := by
  intro name
  have before : arguments.get? name = (Named.find? name own).map SentVariable.argument :=
    carries name
  rw [get?_applyTo, before, beside]
  cases held : Named.find? name own with
  | none => rw [Option.map_none, Option.or_none, Option.none_or]
  | some carried =>
      have outside := foreign _ (Named.mem_of_find?_eq_some held)
      rw [settings.present?_of_not_mem outside]
      rfl

end RepositorySettings

/-! ## Requests -/

/-- The request asks for one operation: its document declares exactly these variables and binds
each to the argument of its name, and exactly their values are sent. -/
def Request.Asks (request : Request) (operation : Operation) (name : String)
    (expected : SentVariables) : Prop :=
  ∃ document written declarations selection values,
    Json.parse request.body =
      .ok (.object [("query", .text document), ("variables", .text written)]) ∧
    WrittenDocument.ofText? document =
      some ⟨operation, name, declarations, name,
        declarations.map fun entry => (entry.1, entry.1), selection⟩ ∧
    Json.parse written = .ok (.object values) ∧
    Named.Increasing declarations ∧ Named.Increasing values ∧
    ∀ other,
      Named.find? other declarations = (expected other).map SentVariable.type ∧
      Named.find? other values = (expected other).map SentVariable.value

/-- A prepared operation asks for exactly the variables that its arguments carry. -/
theorem OperationCall.asks_of_prepare {α : Type} {call : OperationCall} {schema : Schema α}
    {endpoint : Endpoint} {request : Request} {expected : SentVariables}
    (prepared : call.prepare endpoint schema = .ok request)
    (selects : Resource.Selects schema) (written : isName call.name)
    (carries : call.arguments.Carries expected)
    (names : ∀ name carried, expected name = some carried → isName name) :
    request.Asks call.operation call.name expected := by
  obtain ⟨document, values, assembled, encoded, rfl⟩ := prepare_eq_ok_iff.mp prepared
  obtain ⟨declarations, fields, declared, selected, rfl⟩ :=
    Document.assemble_eq_ok_iff.mp assembled
  obtain ⟨_, selectedAgain, derivable⟩ := selects
  cases selected.symm.trans selectedAgain
  have converted := declareEntries_eq_ok_iff.mp declared
  have named : Document.Named ⟨call.operation, call.name, declarations, fields⟩ :=
    ⟨written, isName_declaration converted (carries.named names), derivable.named⟩
  refine ⟨_, _, declarations, fields, values, parse_body _ _, ?_, carries.parse_values encoded,
    call.arguments.increasing.of_converted converted,
    call.arguments.increasing.of_converted (Arguments.encodeEntries_eq_ok_iff.mp encoded), ?_⟩
  · rw [WrittenDocument.ofText?, Document.lex_render named]
    exact WrittenDocument.ofTokens?_tokens _
  · intro other
    exact ⟨carries.find?_declarations declared other, carries.find?_values encoded other⟩

/-- The client whose transport also records every request it is handed. -/
def Client.recorded {m : Type → Type} [Monad m] (client : Client m) :
    Client (StateT (List Request) m) :=
  ⟨client.transport.recorded, client.endpoint⟩

namespace Resource

variable {m : Type → Type} [Monad m] {α β : Type}

/-- The operation sends exactly one request, and only the reply to it decides on the result.
The request goes to the endpoint of the client and asks for one operation with exactly these
variables. -/
def SendsVariables (client : Client m) (operation : StateT (List Request) m α)
    (kind : Operation) (name : String) (expected : SentVariables) : Prop :=
  ∃ request, ∃ conclude : Reply → α,
    (∀ sent, operation.run sent =
      (fun reply => (conclude reply, sent ++ [request])) <$>
        client.transport.roundTrip request) ∧
    request.method = "POST" ∧ request.url = client.endpoint.url ∧
    request.Asks kind name expected

theorem SendsVariables.bind_pure [LawfulMonad m] {client : Client m}
    {operation : StateT (List Request) m α} {kind : Operation} {name : String}
    {expected : SentVariables} (sends : SendsVariables client operation kind name expected)
    (convert : α → β) :
    SendsVariables client (do let result ← operation; return convert result) kind name
      expected := by
  obtain ⟨request, conclude, run, method, url, asks⟩ := sends
  refine ⟨request, fun reply => convert (conclude reply), ?_, method, url, asks⟩
  intro sent
  rw [bind_pure_comp, StateT.run_map, run sent, Functor.map_map]

/-- An operation whose arguments carry variables sends exactly these. -/
theorem sends_carried [LawfulMonad m] (client : Client m) (call : OperationCall)
    {schema : Schema α} (value : α) (convert : Execution α → β) {expected : SentVariables}
    (selects : Selects schema) (written : isName call.name)
    (carries : call.arguments.Carries expected)
    (named : ∀ name carried, expected name = some carried → isName name) :
    SendsVariables client
      (do
        let execution ← client.recorded.execute call schema value
        return convert execution)
      call.operation call.name expected := by
  have ⟨fields, selected, _⟩ := selects
  obtain ⟨request, prepared⟩ : ∃ request, call.prepare client.endpoint schema = .ok request :=
    OperationCall.exists_request carries.sendable selected
  have asks := OperationCall.asks_of_prepare prepared selects written carries named
  have sends : SendsVariables client (client.recorded.execute call schema value)
      call.operation call.name expected := by
    refine ⟨request, _, fun sent => run_execute_of_prepared value sent prepared, ?_, ?_, asks⟩
    all_goals
      obtain ⟨document, values, _, _, rfl⟩ := OperationCall.prepare_eq_ok_iff.mp prepared
      rfl
  exact sends.bind_pure convert

/-- The variables go by distinct names of the language, none of which is that of a setting. -/
structure Identifies (own : List (String × SentVariable)) : Prop where
  distinct : (own.map Prod.fst).Nodup
  named : ∀ entry ∈ own, isName entry.1
  foreign : ∀ entry ∈ own, entry.1 ∉ RepositorySettings.names

namespace Identifies

variable {own : List (String × SentVariable)}

theorem of_names (names : List String) (listed : own.map Prod.fst = names)
    (distinct : names.Nodup)
    (each : ∀ name ∈ names, isName name ∧ name ∉ RepositorySettings.names) :
    Identifies own := by
  subst listed
  have entries := List.forall_mem_map.mp each
  exact ⟨distinct, fun entry member => (entries entry member).1,
    fun entry member => (entries entry member).2⟩

theorem isName_ofList (identifies : Identifies own) :
    ∀ name carried, SentVariables.ofList own name = some carried → isName name :=
  fun _ _ held => identifies.named _ (Named.mem_of_find?_eq_some held)

theorem isName_beside (identifies : Identifies own) (settings : RepositorySettings) :
    ∀ name carried, settings.beside own name = some carried → isName name := by
  intro name carried held
  rcases Option.or_eq_some_iff.mp held with ofOwn | ⟨_, ofSettings⟩
  · exact identifies.isName_ofList _ _ ofOwn
  · exact RepositorySettings.isName_of_mem_names _
      (RepositorySettings.mem_names_of_present? ofSettings)

end Identifies

/-! ## Operations -/

/-- Every operation that all resources have sends what identifies the resources it is about,
and nothing else. -/
structure SendsIdentity (client : Client m) (α : Type) [Resource α] : Prop where
  listAll : SendsVariables client (list α client.recorded none) .query (listName α) (.ofList [])
  list : ∀ name, SendsVariables client (list α client.recorded (some name)) .query (listName α)
    (.ofList [("name", .text false name)])
  find : ∀ wanted, SendsVariables client (find α client.recorded wanted) .query (listName α)
    (.ofList [("name", .text false wanted)])
  delete : ∀ id, SendsVariables client (delete α client.recorded id) .mutation (deleteName α)
    (.ofList [("id", .text true id)])

theorem sendsIdentity [LawfulMonad m] [Resource α] (nameable : Nameable α)
    (client : Client m) : SendsIdentity client α := by
  have list : ∀ name, SendsVariables client (list α client.recorded (some name)) .query
      (listName α) (.ofList [("name", .text false name)]) := by
    intro name
    have identifies : Identifies [("name", .text false name)] :=
      .of_names ["name"] rfl (by decide) (by decide)
    have carries : (listArguments (some name)).Carries (.ofList [("name", .text false name)]) :=
      Arguments.carries_ofList [("name", .text false name)] identifies.distinct
    exact sends_carried client ⟨.query, listName α, listArguments (some name)⟩ [] _
      nameable.selects nameable.list carries identifies.isName_ofList
  refine ⟨?_, list, ?_, ?_⟩
  · have carries : (listArguments none).Carries (.ofList []) := fun _ => rfl
    exact sends_carried client ⟨.query, listName α, listArguments none⟩ [] _ nameable.selects
      nameable.list carries nofun
  · intro wanted
    exact (list wanted).bind_pure _
  · intro id
    let arguments := Arguments.empty.insert "id" (.mandatory id)
    have identifies : Identifies [("id", .text true id)] :=
      .of_names ["id"] rfl (by decide) (by decide)
    have carries : arguments.Carries (.ofList [("id", .text true id)]) :=
      Arguments.carries_ofList [("id", .text true id)] identifies.distinct
    exact sends_carried client ⟨.mutation, deleteName α, arguments⟩ ⟨false⟩ _ selects_deletion
      nameable.deletion carries identifies.isName_ofList

section

variable [LawfulMonad m] (client : Client m)

theorem sends_createdVariables (name region : String) (settings : RepositorySettings) :
    SendsVariables client (Repository.create client.recorded name region settings) .mutation
      "repoAdd" (settings.beside [("name", .text true name), ("region", .text true region)]) := by
  let arguments := (Arguments.empty.insert "name" (.mandatory name)).insert "region"
    (.mandatory region)
  let own : List (String × SentVariable) :=
    [("name", .text true name), ("region", .text true region)]
  have identifies : Identifies own := .of_names ["name", "region"] rfl (by decide) (by decide)
  have carries : arguments.Carries (.ofList own) :=
    Arguments.carries_pair ("name", .text true name) ("region", .text true region)
      identifies.distinct
  have written : isName "repoAdd" := by decide
  exact sends_carried client ⟨.mutation, "repoAdd", settings.applyTo arguments⟩ _ _
    selects_repositoryAdded written (settings.carries_applyTo carries identifies.foreign)
    (identifies.isName_beside settings)

theorem sends_updatedVariables (id : String) (name? : Option String)
    (settings : RepositorySettings) :
    SendsVariables client (Repository.update client.recorded id name? settings) .mutation
      "repoEdit"
      (settings.beside (("id", .text true id) ::
        name?.toList.map fun name => ("name", .text false name))) := by
  have written : isName "repoEdit" := by decide
  let identified := Arguments.empty.insert "id" (.mandatory id)
  cases name? with
  | none =>
      let own : List (String × SentVariable) := [("id", .text true id)]
      have identifies : Identifies own := .of_names ["id"] rfl (by decide) (by decide)
      have carries : identified.Carries (.ofList own) :=
        Arguments.carries_ofList own identifies.distinct
      exact sends_carried client ⟨.mutation, "repoEdit", settings.applyTo identified⟩ _ _
        selects_repositoryEdited written (settings.carries_applyTo carries identifies.foreign)
        (identifies.isName_beside settings)
  | some name =>
      let named := identified.insert "name" (.optional name)
      let own : List (String × SentVariable) :=
        [("id", .text true id), ("name", .text false name)]
      have identifies : Identifies own := .of_names ["id", "name"] rfl (by decide) (by decide)
      have carries : named.Carries (.ofList own) :=
        Arguments.carries_pair ("id", .text true id) ("name", .text false name)
          identifies.distinct
      exact sends_carried client ⟨.mutation, "repoEdit", settings.applyTo named⟩ _ _
        selects_repositoryEdited written (settings.carries_applyTo carries identifies.foreign)
        (identifies.isName_beside settings)

theorem sends_registeredVariables (name publicKey : String) :
    SendsVariables client (SshKey.create client.recorded name publicKey) .mutation "sshAdd"
      (.ofList [("name", .text false name), ("keyData", .text false publicKey)]) := by
  let arguments := (Arguments.empty.insert "name" (.optional name)).insert "keyData"
    (.optional publicKey)
  let own : List (String × SentVariable) :=
    [("name", .text false name), ("keyData", .text false publicKey)]
  have identifies : Identifies own := .of_names ["name", "keyData"] rfl (by decide) (by decide)
  have carries : arguments.Carries (.ofList own) :=
    Arguments.carries_pair ("name", .text false name) ("keyData", .text false publicKey)
      identifies.distinct
  have written : isName "sshAdd" := by decide
  exact sends_carried client ⟨.mutation, "sshAdd", arguments⟩ _ _ selects_keyAdded written
    carries identifies.isName_ofList

/-- Every operation on a resource sends one request, with what identifies the resource as it
was given: required where a repository is created, where the one to change is named by its
identifier, and where a resource is deleted.  Beside it there are exactly the present settings,
none of them required, whatever the settings are. -/
theorem sends_identity_and_settings :
    SendsIdentity client Repository ∧ SendsIdentity client SshKey ∧
    (∀ name region settings,
      SendsVariables client (Repository.create client.recorded name region settings) .mutation
        "repoAdd"
        (settings.beside [("name", .text true name), ("region", .text true region)])) ∧
    (∀ id name? settings,
      SendsVariables client (Repository.update client.recorded id name? settings) .mutation
        "repoEdit"
        (settings.beside (("id", .text true id) ::
          name?.toList.map fun name => ("name", .text false name)))) ∧
    (∀ name publicKey,
      SendsVariables client (SshKey.create client.recorded name publicKey) .mutation "sshAdd"
        (.ofList [("name", .text false name), ("keyData", .text false publicKey)])) ∧
    (∀ (settings : RepositorySettings) (arguments : Arguments),
      ∀ name ∈ ["id", "name", "region"],
        (settings.applyTo arguments).get? name = arguments.get? name) ∧
    (∀ (settings : RepositorySettings) (name : String) (carried : SentVariable),
      settings.present? name = some carried → carried.type.required = false) := by
  have foreign : ∀ name ∈ ["id", "name", "region"], name ∉ RepositorySettings.names := by decide
  refine ⟨sendsIdentity nameable_repository client, sendsIdentity nameable_key client,
    sends_createdVariables client, sends_updatedVariables client,
    sends_registeredVariables client, ?_, ?_⟩
  · intro settings arguments name listed
    exact settings.get?_applyTo_of_not_mem arguments (foreign name listed)
  · intro settings name carried held
    exact RepositorySettings.not_required_of_present? held

end

/-- Settings of which two are present, one of them with five parts. -/
def nightly : RepositorySettings where
  alertDays := none
  quota := some 500
  quotaEnabled := none
  appendOnly := none
  sftpEnabled := none
  borgVersion := none
  compaction := some ⟨true, 3, "UTC", 7, "days"⟩
  appendOnlyKeys := none
  fullAccessKeys := none
  rsyncKeys := none

theorem sends_identity_and_settings_nightly :
    SendsVariables silent (Repository.update silent.recorded "r1" none nightly) .mutation
      "repoEdit" (nightly.beside [("id", .text true "r1")]) ∧
    (nightly.beside [("id", .text true "r1")] "id" = some (.text true "r1") ∧
      nightly.beside [("id", .text true "r1")] "name" = none ∧
      nightly.beside [("id", .text true "r1")] "quota" = some (.word 500) ∧
      nightly.beside [("id", .text true "r1")] "compactionHourTimezone" =
        some (.text false "UTC")) := by
  obtain ⟨_, _, _, updated, _⟩ := sends_identity_and_settings silent
  exact ⟨updated "r1" none nightly, rfl, rfl, rfl, rfl⟩

end Resource

end ShapeQuery
