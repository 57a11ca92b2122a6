import ShapeQuery.Proofs.Execution.Preparation

/-!
# Failures before a request is sent

A recording transport shows what an operation sends.  An argument without a type
comes before a schema that is no object, and that before an argument without a JSON
form.  None of them sends anything or touches the value, and where there is none of
them exactly one request is sent.
-/

namespace ShapeQuery

variable {α τ : Type} {m : Type → Type} [Monad m]

/-- The transport that also records every request it is handed. -/
def Transport.recorded (transport : Transport m) : Transport (StateT (List Request) m) where
  description := transport.description
  roundTrip := fun request sent => do
    let reply ← transport.roundTrip request
    return (reply, sent ++ [request])

/-- An operation that is refused sends nothing and leaves the value as it was. -/
theorem run_execute_of_refused {transport : Transport m} {endpoint : Endpoint}
    {call : OperationCall} {schema : Schema α} {interruption : Interruption} (value : α)
    (sent : List Request) (refused : call.prepare endpoint schema = .error interruption) :
    (execute transport.recorded endpoint call schema value).run sent =
      pure (⟨.error interruption, value, []⟩, sent) := by
  rw [execute_of_refused refused, StateT.run_pure]

theorem run_execute_of_prepared [LawfulMonad m] {transport : Transport m}
    {endpoint : Endpoint} {call : OperationCall} {schema : Schema α} {request : Request}
    (value : α) (sent : List Request)
    (prepared : call.prepare endpoint schema = .ok request) :
    (execute transport.recorded endpoint call schema value).run sent =
      (fun reply =>
        let execution := Execution.ofReply call schema value reply
        ({ execution with logs := Execution.sending call endpoint :: execution.logs },
          sent ++ [request])) <$> transport.roundTrip request := by
  rw [execute_of_prepared prepared, StateT.run_map]
  simp [Transport.recorded, StateT.run]

/-- How an operation goes before its reply, for every transport, schema and argument
set.  Of several failures the first in this order is reported, and the first three
send nothing and leave the value as it was. -/
theorem run_execute_recorded [LawfulMonad m] {resolve : τ → Shape τ} {limit : Nat}
    {shape : Shape τ} {core : Shape.Core τ} {schema : Schema α}
    (stripped : shape.strip? resolve limit = some core)
    (projected : shape.project? resolve limit = some schema.selection)
    (transport : Transport m) (endpoint : Endpoint) (call : OperationCall) (value : α)
    (sent : List Request) :
    let run := (execute transport.recorded endpoint call schema value).run sent
    let undeclared := call.arguments.SomeFails Argument.variableType
    let unencodable := call.arguments.SomeFails Argument.toJson
    (undeclared →
      ∃ entry source,
        Named.IsLeast (Named.Fails Argument.variableType) call.arguments.toList entry ∧
        entry.2.variableType = .error source ∧
        run = pure (⟨.error (.failed (.assembly ⟨entry.1, source⟩)), value, []⟩, sent)) ∧
    (¬ undeclared → core.shape.isObject = false →
      run = pure (⟨.error (.malformedSchema ⟨core.shape.kind⟩), value, []⟩, sent)) ∧
    (¬ undeclared → core.shape.isObject = true → unencodable →
      ∃ entry fault,
        Named.IsLeast (Named.Fails Argument.toJson) call.arguments.toList entry ∧
        entry.2.toJson = .error fault ∧
        run = pure (⟨.error (.failed (.serialization fault)), value, []⟩, sent)) ∧
    (¬ undeclared → core.shape.isObject = true → ¬ unencodable →
      ∃ document values,
        Document.assemble call.operation call.name schema.selection call.arguments =
          .ok document ∧
        call.arguments.encode = .ok values ∧
        (Datum.record
          [("query", .text document.render),
            ("variables", .text (Json.object values).render)]).toJson =
          .ok (OperationCall.body document values) ∧
        run = (fun reply =>
          let execution := Execution.ofReply call schema value reply
          ({ execution with logs := Execution.sending call endpoint :: execution.logs },
            sent ++ [OperationCall.request endpoint document values])) <$>
          transport.roundTrip (OperationCall.request endpoint document values)) := by
  have selection : schema.selection = core.shape.select := by
    rw [Shape.project?, stripped] at projected
    exact (Option.some.inj projected).symm
  intro run undeclared unencodable
  refine ⟨?_, ?_, ?_, ?_⟩
  · intro someUndeclared
    obtain ⟨entry, source, least, fails, declared⟩ :=
      declareEntries_of_someFails someUndeclared
    refine ⟨entry, source, least, fails, ?_⟩
    apply run_execute_of_refused
    exact OperationCall.prepare_of_undeclared declared
  · intro allDeclared malformed
    obtain ⟨declarations, declared⟩ := declareEntries_of_not_someFails allDeclared
    apply run_execute_of_refused
    apply OperationCall.prepare_of_malformed declared
    rw [selection, Shape.select_of_not_isObject malformed]
  · intro allDeclared object someUnencodable
    obtain ⟨declarations, declared⟩ := declareEntries_of_not_someFails allDeclared
    obtain ⟨fields, selected⟩ := Shape.select_of_isObject object
    obtain ⟨entry, fault, least, fails, encoded⟩ :=
      Arguments.encode_of_someFails someUnencodable
    refine ⟨entry, fault, least, fails, ?_⟩
    apply run_execute_of_refused
    exact OperationCall.prepare_of_unencodable declared (selection.trans selected) encoded
  · intro allDeclared object allEncodable
    obtain ⟨declarations, declared⟩ := declareEntries_of_not_someFails allDeclared
    obtain ⟨fields, selected⟩ := Shape.select_of_isObject object
    obtain ⟨values, encoded⟩ := Arguments.encode_of_not_someFails allEncodable
    let document : Document := ⟨call.operation, call.name, declarations, fields⟩
    have assembled : Document.assemble call.operation call.name schema.selection
        call.arguments = .ok document := by
      simp [Document.assemble, declared, selection, selected, document]
    refine ⟨document, values, assembled, encoded,
      OperationCall.toJson_body document values, ?_⟩
    apply run_execute_of_prepared
    exact OperationCall.prepare_eq_ok_iff.mpr ⟨document, values, assembled, encoded, rfl⟩

/-- A transport that reaches nobody. -/
def Transport.disconnected : Transport Id where
  description := "disconnected"
  roundTrip := fun _ => .failed "disconnected"

/-- An argument that can be declared but not encoded, before one that can be encoded
but not declared. -/
def faultyArguments : Arguments :=
  .ofList [("b", ⟨.unmapped "map", .map [], true⟩),
    ("a", ⟨.scalar .text, .refusing "too long", false⟩)]

/-- The schema of a text, which no document can ask for. -/
def textSchema : Schema Unit :=
  ⟨.error ⟨"string"⟩, fun _ => .ok ()⟩

/-- Although the schema is no object either, the argument without a type is the one
reported. -/
theorem run_execute_recorded_faultyArguments :
    (execute Transport.disconnected.recorded .standard ⟨.query, "list", faultyArguments⟩
        textSchema ()).run [] =
      pure (⟨.error (.failed (.assembly ⟨"b", .unsupported "map"⟩)), (), []⟩, []) := by
  have entries : faultyArguments.toList =
      [("a", ⟨.scalar .text, .refusing "too long", false⟩),
        ("b", ⟨.unmapped "map", .map [], true⟩)] := rfl
  have stripped : (Shape.scalar .text : Shape Unit).strip? (fun _ => .scalar .text) 0 =
      some ⟨.scalar .text, []⟩ := rfl
  have projected : (Shape.scalar .text : Shape Unit).project? (fun _ => .scalar .text) 0 =
      some textSchema.selection := rfl
  have undeclared : faultyArguments.SomeFails Argument.variableType :=
    ⟨("b", ⟨.unmapped "map", .map [], true⟩), by simp [entries], .unsupported "map", rfl⟩
  obtain ⟨entry, source, least, fails, run⟩ :=
    (run_execute_recorded stripped projected Transport.disconnected .standard
      ⟨.query, "list", faultyArguments⟩ () []).1 undeclared
  have member := least.member
  simp only [entries, List.mem_cons, List.not_mem_nil, or_false] at member
  rcases member with rfl | rfl
  · cases fails
  · cases fails
    exact run

end ShapeQuery
