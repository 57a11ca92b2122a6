import ShapeQuery.Execution
import ShapeQuery.Proofs.Argument

/-!
# Preparing requests

A request is prepared in three passes: the arguments are declared, the selection is
taken, and the arguments are encoded.  The first pass that fails decides how the
preparation fails, and within a pass the smallest failing name does.
-/

namespace ShapeQuery

variable {α β ε : Type}

/-- The conversion fails for some argument. -/
def Arguments.SomeFails (arguments : Arguments) (convert : Argument → Except ε β) : Prop :=
  ∃ entry ∈ arguments.toList, Named.Fails convert entry.2

theorem Arguments.not_someFails_iff {arguments : Arguments}
    {convert : Argument → Except ε β} :
    ¬ arguments.SomeFails convert ↔
      ∀ entry ∈ arguments.toList, ¬ Named.Fails convert entry.2 := by
  simp [Arguments.SomeFails]

/-! ## The three passes -/

/-- The argument of the smallest name that has no type is the one reported. -/
theorem declareEntries_of_someFails {arguments : Arguments}
    (undeclared : arguments.SomeFails Argument.variableType) :
    ∃ entry source,
      Named.IsLeast (Named.Fails Argument.variableType) arguments.toList entry ∧
      entry.2.variableType = .error source ∧
      declareEntries arguments.toList = .error ⟨entry.1, source⟩ := by
  obtain ⟨entry, source, least, fails, traversed⟩ :=
    Named.traverse_eq_error_of_fails arguments.increasing undeclared
  refine ⟨entry, source, least, fails, ?_⟩
  rw [declareEntries_eq_traverse, traversed]
  rfl

theorem declareEntries_of_not_someFails {arguments : Arguments}
    (declared : ¬ arguments.SomeFails Argument.variableType) :
    ∃ declarations, declareEntries arguments.toList = .ok declarations := by
  apply declareEntries_of_inferred
  intro entry member
  apply Named.not_fails_iff.mp
  exact Arguments.not_someFails_iff.mp declared entry member

theorem Arguments.encode_of_someFails {arguments : Arguments}
    (unencodable : arguments.SomeFails Argument.toJson) :
    ∃ entry fault,
      Named.IsLeast (Named.Fails Argument.toJson) arguments.toList entry ∧
      entry.2.toJson = .error fault ∧
      arguments.encode = .error fault := by
  obtain ⟨entry, fault, least, fails, traversed⟩ :=
    Named.traverse_eq_error_of_fails arguments.increasing unencodable
  refine ⟨entry, fault, least, fails, ?_⟩
  rw [Arguments.encode, Arguments.encodeEntries_eq_traverse, traversed]
  rfl

theorem Arguments.encode_of_not_someFails {arguments : Arguments}
    (encodable : ¬ arguments.SomeFails Argument.toJson) :
    ∃ values, arguments.encode = .ok values := by
  obtain ⟨values, traversed⟩ :=
    Named.traverse_eq_ok_of_not_fails (Arguments.not_someFails_iff.mp encodable)
  refine ⟨values, ?_⟩
  rw [Arguments.encode, Arguments.encodeEntries_eq_traverse, traversed]
  rfl

theorem Shape.select_of_not_isObject {τ : Type} {shape : Shape τ}
    (malformed : shape.isObject = false) : shape.select = .error ⟨shape.kind⟩ := by
  cases shape with
  | object fields => cases malformed
  | scalar kind => rfl
  | list element => rfl
  | pointer target => rfl
  | unmapped kind => rfl

theorem Shape.select_of_isObject {τ : Type} {shape : Shape τ}
    (object : shape.isObject = true) : ∃ fields, shape.select = .ok fields := by
  cases shape with
  | object fields => exact ⟨selectFields fields, rfl⟩
  | scalar kind => cases object
  | list element => cases object
  | pointer target => cases object
  | unmapped kind => cases object

/-! ## The preparation -/

namespace OperationCall

variable {call : OperationCall} {schema : Schema α} {endpoint : Endpoint}

/-- The request for a document and the values of its variables. -/
def request (endpoint : Endpoint) (document : Document) (values : List (String × Json)) :
    Request where
  method := "POST"
  url := endpoint.url
  headers :=
    [⟨"content-type", "application/json", false⟩, ⟨"accept", "application/json", false⟩]
  body := (body document values).render

theorem prepare_of_undeclared {error : AssemblyError}
    (undeclared : declareEntries call.arguments.toList = .error error) :
    call.prepare endpoint schema = .error (.failed (.assembly error)) := by
  simp [prepare, Document.assemble, undeclared]

theorem prepare_of_malformed {declarations : List (String × VariableType)}
    {failure : Shape.NotAnObject}
    (declared : declareEntries call.arguments.toList = .ok declarations)
    (malformed : schema.selection = .error failure) :
    call.prepare endpoint schema = .error (.malformedSchema failure) := by
  simp [prepare, Document.assemble, declared, malformed]

theorem prepare_of_unencodable {declarations : List (String × VariableType)}
    {fields : List Selection} {fault : Datum.EncodingFault}
    (declared : declareEntries call.arguments.toList = .ok declarations)
    (selected : schema.selection = .ok fields)
    (unencodable : call.arguments.encode = .error fault) :
    call.prepare endpoint schema = .error (.failed (.serialization fault)) := by
  simp [prepare, Document.assemble, declared, selected, unencodable]

/-- A request is prepared exactly where all three passes succeed. -/
theorem prepare_eq_ok_iff {prepared : Request} :
    call.prepare endpoint schema = .ok prepared ↔
      ∃ document values,
        Document.assemble call.operation call.name schema.selection call.arguments =
          .ok document ∧
        call.arguments.encode = .ok values ∧
        prepared = request endpoint document values := by
  unfold prepare
  constructor
  · intro passed
    cases assembled : Document.assemble call.operation call.name schema.selection
        call.arguments with
    | error failure => cases failure <;> simp [assembled] at passed
    | ok document =>
        cases encoded : call.arguments.encode with
        | error fault => simp [assembled, encoded] at passed
        | ok values =>
            simp only [assembled, encoded, Except.ok.injEq] at passed
            exact ⟨document, values, rfl, rfl, passed.symm⟩
  · rintro ⟨document, values, assembled, encoded, rfl⟩
    simp [assembled, encoded, request]

theorem increasing_body (query written : Json) :
    Named.Increasing [("query", query), ("variables", written)] :=
  Named.increasing_pair (by decide) query written

/-- The body is a record of two texts, and writing it as JSON cannot fail. -/
theorem toJson_body (document : Document) (values : List (String × Json)) :
    (Datum.record
        [("query", .text document.render),
          ("variables", .text (Json.object values).render)]).toJson =
      .ok (body document values) := by
  have encoded : Datum.membersToJson
      [("query", .text document.render),
        ("variables", .text (Json.object values).render)] =
      .ok [("query", .text document.render),
        ("variables", .text (Json.object values).render)] := rfl
  rw [Datum.toJson, encoded, Except.map,
    Named.insertAll_of_increasing (increasing_body _ _), body]

end OperationCall

/-! ## Execution behind the preparation -/

section

variable {m : Type → Type} [Monad m] {transport : Transport m} {endpoint : Endpoint}
  {call : OperationCall} {schema : Schema α} {value : α}

theorem execute_of_refused {interruption : Interruption}
    (refused : call.prepare endpoint schema = .error interruption) :
    execute transport endpoint call schema value =
      pure ⟨.error interruption, value, []⟩ := by
  rw [execute, refused]

/-- A prepared request makes one round trip, and its reply is concluded. -/
theorem execute_of_prepared [LawfulMonad m] {request : Request}
    (prepared : call.prepare endpoint schema = .ok request) :
    execute transport endpoint call schema value =
      (fun reply =>
        let execution := Execution.ofReply call schema value reply
        { execution with logs := Execution.sending call endpoint :: execution.logs }) <$>
        transport.roundTrip request := by
  rw [execute, prepared]
  simp

end

end ShapeQuery
