import ShapeQuery.Proofs.Document.Derivation
import ShapeQuery.Proofs.Execution.RequestBody
import ShapeQuery.Proofs.Resource.Request

/-!
# Documents that resources send

Every operation on a resource sends one request.  Its document is an operation of the
grammar wherever it passes an argument, so only listing without a name sends one that is not.
-/

namespace ShapeQuery

open Grammar

/-! ## Arguments -/

namespace Arguments

theorem named_empty : empty.Named :=
  List.forall_mem_nil _

theorem Named.insert {arguments : Arguments} (named : arguments.Named) {name : String}
    (written : isName name) (argument : Argument) : (arguments.insert name argument).Named :=
  forall_mem_insert named written

theorem toList_ne_nil_of_get? {arguments : Arguments} {name : String} {argument : Argument}
    (found : arguments.get? name = some argument) : arguments.toList ≠ [] := by
  intro nothing
  rw [get?, nothing] at found
  cases found

theorem toList_insert_ne_nil (arguments : Arguments) (name : String) (argument : Argument) :
    (arguments.insert name argument).toList ≠ [] :=
  toList_ne_nil_of_get? (get?_insert_self arguments name argument)

theorem toList_extend_ne_nil {arguments : Arguments} (notEmpty : arguments.toList ≠ [])
    (additions : List (String × Argument)) : (arguments.extend additions).toList ≠ [] := by
  induction additions generalizing arguments with
  | nil => exact notEmpty
  | cons addition rest induction =>
      exact induction (toList_insert_ne_nil arguments addition.1 addition.2)

/-- There are arguments; each goes by a name of the language and can be sent. -/
structure Presentable (arguments : Arguments) : Prop where
  sendable : arguments.Sendable
  named : arguments.Named
  notEmpty : arguments.toList ≠ []

theorem presentable_insert {arguments : Arguments} (sendable : arguments.Sendable)
    (named : arguments.Named) {name : String} (written : isName name) {argument : Argument}
    (sent : argument.Sendable) : (arguments.insert name argument).Presentable :=
  ⟨sendable.insert sent, named.insert written argument, toList_insert_ne_nil _ _ _⟩

theorem presentable_single {name : String} (written : isName name) {argument : Argument}
    (sent : argument.Sendable) : (empty.insert name argument).Presentable :=
  presentable_insert sendable_empty named_empty written sent

theorem Presentable.insert {arguments : Arguments} (presentable : arguments.Presentable)
    {name : String} (written : isName name) {argument : Argument} (sent : argument.Sendable) :
    (arguments.insert name argument).Presentable :=
  presentable_insert presentable.sendable presentable.named written sent

end Arguments

theorem RepositorySettings.isName_of_mem_names : ∀ name ∈ names, isName name := by decide

theorem RepositorySettings.presentable_applyTo (settings : RepositorySettings)
    {arguments : Arguments} (presentable : arguments.Presentable) :
    (settings.applyTo arguments).Presentable := by
  refine ⟨settings.sendable_applyTo presentable.sendable, ?_, ?_⟩
  · exact Arguments.forall_mem_extend presentable.named
      (settings.forall_mem_entries fun name _ listed => isName_of_mem_names name listed)
  · exact Arguments.toList_extend_ne_nil presentable.notEmpty settings.entries

/-! ## Sending -/

namespace Resource

variable {m : Type → Type} [Monad m] {α β : Type}

/-- The operation sends one request, with a document of which the property holds. -/
def Sends (client : Client m) (operation : m α) (property : String → Prop) : Prop :=
  ∃ request document values, ∃ conclude : Reply → α,
    operation = conclude <$> client.transport.roundTrip request ∧
    Json.parse request.body =
      .ok (.object [("query", .text document), ("variables", .text values)]) ∧
    property document

namespace Sends

variable {client : Client m} {operation : m α} {property other : String → Prop}

theorem imp (sends : Sends client operation property)
    (weaker : ∀ document, property document → other document) :
    Sends client operation other := by
  obtain ⟨request, document, values, conclude, made, body, holds⟩ := sends
  exact ⟨request, document, values, conclude, made, body, weaker document holds⟩

theorem bind_pure [LawfulMonad m] (sends : Sends client operation property)
    (convert : α → β) :
    Sends client (do let result ← operation; return convert result) property := by
  obtain ⟨request, document, values, conclude, rfl, body, holds⟩ := sends
  refine ⟨request, document, values, fun reply => convert (conclude reply), ?_, body, holds⟩
  rw [bind_pure_comp, Functor.map_map]

end Sends

/-- A schema whose selection a document may have. -/
def Selects (schema : Schema α) : Prop :=
  ∃ fields, schema.selection = .ok fields ∧ Selection.Derivable fields

section

variable [LawfulMonad m] (client : Client m) (call : OperationCall) {schema : Schema α} (value : α)

/-- An operation that is prepared sends its document, and that is an operation of the grammar
exactly if there are arguments. -/
theorem sends_execute (selects : Selects schema) (written : isName call.name)
    (sendable : call.arguments.Sendable) (named : call.arguments.Named) :
    Sends client (client.execute call schema value)
      (fun document => Generates document ↔ call.arguments.toList ≠ []) := by
  obtain ⟨fields, selected, derivable⟩ := selects
  obtain ⟨request, prepared⟩ : ∃ request, call.prepare client.endpoint schema = .ok request :=
    OperationCall.exists_request sendable selected
  obtain ⟨document, values, assembled, _, rfl⟩ := OperationCall.prepare_eq_ok_iff.mp prepared
  have generates := Document.generates_render_of_assemble assembled selected derivable written
    named
  have body := OperationCall.parse_body document values
  exact ⟨_, _, _, _, execute_of_prepared prepared, body, generates⟩

theorem sends_generated (convert : Execution α → β) (selects : Selects schema)
    (written : isName call.name) (presentable : call.arguments.Presentable) :
    Sends client
      (do
        let execution ← client.execute call schema value
        return convert execution)
      Generates := by
  have sends := sends_execute client call value selects written presentable.sendable
    presentable.named
  exact (sends.bind_pure convert).imp fun document generates =>
    generates.mpr presentable.notEmpty

end

/-! ## Resources -/

theorem exists_repositoryFields :
    ∃ fields, Selection.Derivable fields ∧
      records.selection (.list (.record "BorgRepo")) = .ok fields ∧
      records.selection (.record "RepoAdded") = .ok [.nested "repoAdded" fields] ∧
      records.selection (.record "RepoEdited") = .ok [.nested "repoEdited" fields] :=
  ⟨_, ⟨by decide +kernel, by decide +kernel, by decide +kernel⟩, rfl, rfl, rfl⟩

theorem exists_keyFields :
    ∃ fields, Selection.Derivable fields ∧
      records.selection (.list (.record "SshKey")) = .ok fields ∧
      records.selection (.record "KeyAdded") = .ok [.nested "keyAdded" fields] :=
  ⟨_, ⟨by decide +kernel, by decide +kernel, by decide +kernel⟩, rfl, rfl⟩

/-- A resource whose operations go by names and whose records can be selected. -/
structure Nameable (α : Type) [Resource α] : Prop where
  list : isName (listName α)
  deletion : isName (deleteName α)
  selects : Selects (listSchema α)

theorem nameable_repository : Nameable Repository := by
  obtain ⟨fields, derivable, selected, _, _⟩ := exists_repositoryFields
  exact ⟨by decide, by decide, ⟨fields, selected, derivable⟩⟩

theorem nameable_key : Nameable SshKey := by
  obtain ⟨fields, derivable, selected, _⟩ := exists_keyFields
  exact ⟨by decide, by decide, ⟨fields, selected, derivable⟩⟩

theorem selects_deletion : Selects deletionSchema :=
  ⟨[.leaf "ok"], rfl, by decide, List.cons_ne_nil _ _, by decide⟩

theorem selects_repositoryAdded :
    Selects (memberSchema "RepoAdded" "repoAdded" Repository.ofDatum) := by
  obtain ⟨fields, derivable, _, selected, _⟩ := exists_repositoryFields
  exact ⟨_, selected, derivable.nested (by decide)⟩

theorem selects_repositoryEdited :
    Selects (memberSchema "RepoEdited" "repoEdited" Repository.ofDatum) := by
  obtain ⟨fields, derivable, _, _, selected⟩ := exists_repositoryFields
  exact ⟨_, selected, derivable.nested (by decide)⟩

theorem selects_keyAdded : Selects (memberSchema "KeyAdded" "keyAdded" SshKey.ofDatum) := by
  obtain ⟨fields, derivable, _, selected⟩ := exists_keyFields
  exact ⟨_, selected, derivable.nested (by decide)⟩

/-- Every operation that all resources have sends a document of the grammar, but for the list
of all resources. -/
structure SendsOperations (client : Client m) (α : Type) [Resource α] : Prop where
  list : ∀ name, Sends client (list α client (some name)) Generates
  find : ∀ wanted, Sends client (find α client wanted) Generates
  delete : ∀ id, Sends client (delete α client id) Generates
  listAll : Sends client (Resource.list α client none) fun document => ¬ Generates document

theorem sendsOperations [LawfulMonad m] [Resource α] (nameable : Nameable α)
    (client : Client m) : SendsOperations client α := by
  have list : ∀ name, Sends client (list α client (some name)) Generates := by
    intro name
    have presentable : (listArguments (some name)).Presentable :=
      Arguments.presentable_single (by decide) (Argument.sendable_optional name)
    exact sends_generated client ⟨.query, listName α, listArguments (some name)⟩ [] _
      nameable.selects nameable.list presentable
  refine ⟨list, ?_, ?_, ?_⟩
  · intro wanted
    exact (list wanted).bind_pure _
  · intro id
    let arguments := Arguments.empty.insert "id" (.mandatory id)
    have presentable : arguments.Presentable :=
      Arguments.presentable_single (by decide) (Argument.sendable_mandatory id)
    exact sends_generated client ⟨.mutation, deleteName α, arguments⟩ ⟨false⟩ _
      selects_deletion nameable.deletion presentable
  · have sends := sends_execute client ⟨.query, listName α, listArguments none⟩ []
      nameable.selects nameable.list Arguments.sendable_empty Arguments.named_empty
    refine (sends.bind_pure _).imp fun document generates generated => ?_
    exact generates.mp generated rfl

section

variable [LawfulMonad m] (client : Client m)

theorem sends_created (name region : String) (settings : RepositorySettings) :
    Sends client (Repository.create client name region settings) Generates := by
  let arguments := (Arguments.empty.insert "name" (.mandatory name)).insert "region"
    (.mandatory region)
  have presentable : arguments.Presentable :=
    (Arguments.presentable_single (by decide) (Argument.sendable_mandatory name)).insert
      (by decide) (Argument.sendable_mandatory region)
  have written : isName "repoAdd" := by decide
  exact sends_generated client ⟨.mutation, "repoAdd", settings.applyTo arguments⟩ _ _
    selects_repositoryAdded written (settings.presentable_applyTo presentable)

theorem sends_updated (id : String) (name? : Option String) (settings : RepositorySettings) :
    Sends client (Repository.update client id name? settings) Generates := by
  let identified := Arguments.empty.insert "id" (.mandatory id)
  have single : identified.Presentable :=
    Arguments.presentable_single (by decide) (Argument.sendable_mandatory id)
  have written : isName "repoEdit" := by decide
  cases name? with
  | none =>
      exact sends_generated client ⟨.mutation, "repoEdit", settings.applyTo identified⟩ _ _
        selects_repositoryEdited written (settings.presentable_applyTo single)
  | some name =>
      let named := identified.insert "name" (.optional name)
      have presentable : named.Presentable :=
        single.insert (by decide) (Argument.sendable_optional name)
      exact sends_generated client ⟨.mutation, "repoEdit", settings.applyTo named⟩ _ _
        selects_repositoryEdited written (settings.presentable_applyTo presentable)

theorem sends_registered (name publicKey : String) :
    Sends client (SshKey.create client name publicKey) Generates := by
  let arguments := (Arguments.empty.insert "name" (.optional name)).insert "keyData"
    (.optional publicKey)
  have presentable : arguments.Presentable :=
    (Arguments.presentable_single (by decide) (Argument.sendable_optional name)).insert
      (by decide) (Argument.sendable_optional publicKey)
  have written : isName "sshAdd" := by decide
  exact sends_generated client ⟨.mutation, "sshAdd", arguments⟩ _ _ selects_keyAdded written
    presentable

end

/-- An assembled document is an operation of the grammar exactly if it has an argument.  So
the documents of all operations on resources are, but for the one that lists every resource. -/
theorem generates_assembled_and_sent [LawfulMonad m] (client : Client m) :
    (∀ {τ : Type} (resolve : τ → Shape τ) (limit : Nat) (shape : Shape τ)
        (fields : List (FieldLabel × Shape τ)) (followed : List τ),
      shape.strip? resolve limit = some ⟨.object fields, followed⟩ →
      Shape.FieldsNamed fields → fields ≠ [] → Shape.FieldsFilled fields →
      ∀ (operation : Operation) (name : String) (arguments : Arguments),
        isName name → arguments.Named →
        (∀ entry ∈ arguments.toList, ∃ type, entry.2.variableType = .ok type) →
        ∃ selection document, shape.project? resolve limit = some selection ∧
          Document.assemble operation name selection arguments = .ok document ∧
          (Generates document.render ↔ arguments.toList ≠ [])) ∧
    SendsOperations client Repository ∧ SendsOperations client SshKey ∧
    (∀ name region settings,
      Sends client (Repository.create client name region settings) Generates) ∧
    (∀ id name? settings,
      Sends client (Repository.update client id name? settings) Generates) ∧
    (∀ name publicKey, Sends client (SshKey.create client name publicKey) Generates) := by
  refine ⟨?_, sendsOperations nameable_repository client, sendsOperations nameable_key client,
    sends_created client, sends_updated client, sends_registered client⟩
  intro τ resolve limit shape fields followed core named notEmpty filled operation name
    arguments written argumentsNamed inferred
  exact Document.exists_assembled core named notEmpty filled operation written argumentsNamed
    inferred

/-- The fields of a record with a list of records inside. -/
def shelfFields : List (FieldLabel × Shape Unit) :=
  [(⟨"id", none, none⟩, .scalar .text),
    (⟨"next", none, some "following"⟩, .pointer ()),
    (⟨"books", none, none⟩, .list (.object [(⟨"title", none, none⟩, .scalar .text)]))]

/-- A transport over which nothing comes back. -/
def silent : Client Id :=
  ⟨⟨"silent", fun _ => .failed "closed"⟩, .standard⟩

theorem generates_assembled_and_sent_shelf :
    (∃ selection document,
      (Shape.list (.pointer ())).project? (fun _ => .object shelfFields) 1 = some selection ∧
      Document.assemble .query "shelves" selection
        (.ofList [("owner", .mandatory "me"), ("_rooms", .optional ["a"])]) = .ok document ∧
      Generates document.render) ∧
    Sends silent (find Repository silent "laptop") Generates ∧
    Sends silent (SshKey.create silent "laptop" "ssh-ed25519 AAAAC3Nz") Generates := by
  obtain ⟨assembled, repositories, keys, created, updated, registered⟩ :=
    generates_assembled_and_sent silent
  refine ⟨?_, repositories.find "laptop", registered "laptop" "ssh-ed25519 AAAAC3Nz"⟩
  have core : (Shape.list (.pointer ())).strip? (fun _ => .object shelfFields) 1 =
      some ⟨.object shelfFields, [()]⟩ := rfl
  have named : Shape.FieldsNamed shelfFields := by
    simp only [shelfFields, Shape.FieldsNamed, Shape.InnerNamed]
    decide
  have filled : Shape.FieldsFilled shelfFields := by
    simp [shelfFields, Shape.FieldsFilled, Shape.InnerFilled]
  let arguments := Arguments.ofList [("owner", .mandatory "me"), ("_rooms", .optional ["a"])]
  have entries : arguments.toList =
      [("_rooms", .optional ["a"]), ("owner", .mandatory "me")] := rfl
  have argumentsNamed : arguments.Named := by
    simp only [Arguments.Named, entries, List.forall_mem_cons]
    exact ⟨by decide, by decide, List.forall_mem_nil _⟩
  have inferred : ∀ entry ∈ arguments.toList, ∃ type, entry.2.variableType = .ok type := by
    simp only [entries, List.forall_mem_cons]
    exact ⟨⟨_, rfl⟩, ⟨_, rfl⟩, List.forall_mem_nil _⟩
  obtain ⟨selection, document, projected, made, generates⟩ := assembled _ _ _ _ _ core named
    (List.cons_ne_nil _ _) filled .query "shelves" arguments (by decide) argumentsNamed inferred
  refine ⟨selection, document, projected, made, generates.mpr ?_⟩
  rw [entries]
  exact List.cons_ne_nil _ _

def widgetFields : List (FieldLabel × Shape Unit) :=
  [(⟨"id", none, none⟩, .scalar .text), (⟨"name", none, none⟩, .scalar .text)]

/-- Without arguments both pairs of parentheses are written and stay empty. -/
theorem not_generates_without_arguments :
    (∃ selection document,
      (Shape.object widgetFields).project? (fun _ => .scalar .text) 0 = some selection ∧
      Document.assemble .query "widgets" selection .empty = .ok document ∧
      document.render = "query widgets() \x7b widgets() \x7b id name \x7d \x7d" ∧
      ¬ Generates document.render) ∧
    Sends silent (list SshKey silent none) fun document => ¬ Generates document := by
  refine ⟨?_, (sendsOperations nameable_key silent).listAll⟩
  have assembled : Document.assemble .query "widgets" (.ok [.leaf "id", .leaf "name"]) .empty =
      .ok ⟨.query, "widgets", [], [.leaf "id", .leaf "name"]⟩ := rfl
  refine ⟨_, _, rfl, assembled, by decide +kernel, ?_⟩
  rw [Document.generates_render_of_assemble assembled rfl
    ⟨by decide, List.cons_ne_nil _ _, by decide⟩ (by decide) Arguments.named_empty]
  exact fun notEmpty => notEmpty rfl

end Resource

end ShapeQuery
