import ShapeQuery.Proofs.Execution.Mistyped
import ShapeQuery.Proofs.Json.Sound
import ShapeQuery.Proofs.ServerError

/-!
# Reported errors

However the errors of a body are spelled, the operation fails with just these errors, provided
that the data beside them can be read.  Nothing is made of the data then, but it is read with
the body, so a number out of range in it, or a value nested too deep, hides the errors.
-/

namespace ShapeQuery

open Json

namespace Envelope

/-- What a body may have as its data: nothing, null or an object. -/
inductive WrittenData : Option Written → Prop where
  | absent : WrittenData none
  | null : WrittenData (some (.word .null))
  | object (members : List (Except SyntaxFault String × Written)) :
      WrittenData (some (.object members))

/-- If the data is an object, everything in it can be held, and it is nested as deep as a body
may hold it at most. -/
def Holdable (data? : Option Written) : Prop :=
  ∀ members, data? = some (.object members) →
    (Written.object members).Sound ∧ (Written.object members).depth ≤ nestingLimit - 2

theorem exists_readMembers_iff_holdable {members : List (Except SyntaxFault String × Written)} :
    (∃ entries, Written.readMembers (nestingLimit - 2) [] members = .ok entries) ↔
      Holdable (some (.object members)) := by
  rw [Written.exists_readMembers_iff]
  constructor
  · rintro ⟨sound, fits⟩ inner given
    cases given
    exact ⟨sound, Nat.succ_le_of_lt (Nat.lt_of_le_of_lt fits (by decide))⟩
  · intro holdable
    obtain ⟨sound, fits⟩ := holdable members rfl
    exact ⟨sound, Nat.le_sub_of_add_le fits⟩

theorem dataSlot_takes {data? : Option Written} (data : WrittenData data?)
    (holdable : Holdable data?) : ∃ taken, dataSlot.Takes (nestingLimit - 1) data? taken := by
  have computes := mappingReader_computes
  cases data with
  | absent => exact ⟨none, .absent rfl⟩
  | null => exact ⟨none, Slot.takes_null computes.isLocal _⟩
  | object members =>
      obtain ⟨entries, read⟩ := exists_readMembers_iff_holdable.mpr holdable
      refine ⟨some entries, Slot.takes_value computes.isLocal _ (by nofun) ?_⟩
      rw [computes.on_eq, mappingOn, if_neg (by decide)]
      exact congrArg (Except.mapError Fault.syntactic) read

theorem errorsSlot_takes {errors : List ServerError} {items : List Written}
    (spelled : List.Forall₂ ServerError.WrittenAs errors items) :
    errorsSlot.Takes (nestingLimit - 1) (some (.list items)) (some errors) := by
  have computes := listReader_computes ServerError.reader_local
  refine Slot.takes_value computes.isLocal _ (by nofun) ?_
  rw [computes.on_eq]
  exact ServerError.listOn_of_writtenAs (by decide) spelled

section

variable {errors : List ServerError} {items : List Written} {data? : Option Written}
  {members : List (Except SyntaxFault String × Written)}

/-- A body whose data can be held reports the errors that are spelled in it. -/
theorem reported_of_holdable (spelled : List.Forall₂ ServerError.WrittenAs errors items)
    (data : WrittenData data?) (holdable : Holdable data?)
    (madeOf : Written.MadeOf ["data", "errors"]
      (Written.single "data" data? ++ [("errors", .list items)]) members) :
    ∃ envelope, Envelope.on nestingLimit (.object members) = .ok envelope ∧
      envelope.reported = errors := by
  obtain ⟨taken, dataTakes⟩ := dataSlot_takes data holdable
  have different : dataSlot.name ≠ errorsSlot.name := by decide
  refine ⟨⟨taken, some errors⟩, ?_, rfl⟩
  rw [Envelope.on, pairOn_object_of_takes dataSlot_local errorsSlot_local different (by decide)
    madeOf dataTakes (errorsSlot_takes spelled) rfl]
  rfl

/-- A body whose data cannot be held is no envelope. -/
theorem exists_fault_of_not_holdable (data : WrittenData data?) (unholdable : ¬ Holdable data?)
    (madeOf : Written.MadeOf ["data", "errors"]
      (Written.single "data" data? ++ [("errors", .list items)]) members) :
    ∃ fault, Envelope.on nestingLimit (.object members) = .error fault := by
  cases made : Envelope.on nestingLimit (.object members) with
  | error fault => exact ⟨fault, rfl⟩
  | ok envelope =>
      cases data with
      | absent => exact absurd nofun unholdable
      | null => exact absurd nofun unholdable
      | object inner =>
          have inMembers : (.ok "data", .object inner) ∈ members :=
            madeOf.mem_of_known List.mem_cons_self
          obtain ⟨entries, read, -⟩ := data_eq_of_on made inMembers
          exact absurd (exists_readMembers_iff_holdable.mp ⟨entries, read⟩) unholdable

end

end Envelope

/-- All spellings of a list of errors are read as that list.  A body that has one of them as its
errors, and no data, null or an object as its data, ends the operation with these errors, unless
the data cannot be held: then the body is not decoded. -/
theorem reported_as_spelled {errors : List ServerError} {items : List Written}
    (spelled : List.Forall₂ ServerError.WrittenAs errors items) :
    (∀ source, Writes source (.list items) → ServerError.parseAll source = .ok errors) ∧
    ∀ {α : Type} {m : Type → Type} [Monad m] [LawfulMonad m] (transport : Transport m)
      (endpoint : Endpoint) (call : OperationCall) (schema : Schema α) (value : α)
      (request : Request) (reply : Reply) (body : String) (data? : Option Written)
      (members : List (Except SyntaxFault String × Written)),
      errors ≠ [] → call.prepare endpoint schema = .ok request →
      transport.roundTrip request = pure reply → reply.Brings body →
      Writes body (.object members) →
      Written.MadeOf ["data", "errors"]
        (Written.single "data" data? ++ [("errors", .list items)]) members →
      Envelope.WrittenData data? →
      let run := execute transport endpoint call schema value
      Envelope.Holdable data? ∧ Ends run (.error (.failed (.server errors))) value ∨
        ¬ Envelope.Holdable data? ∧ Undecoded run value := by
  refine ⟨fun source => ServerError.parseAll_of_writtenAs spelled, ?_⟩
  intro α m _ _ transport endpoint call schema value request reply body data? members reports
    prepared answered brings writes madeOf data run
  have ended : Ends run _ _ := ends_of_brings prepared answered brings
  rw [Envelope.parse_eq_on writes] at ended
  by_cases holdable : Envelope.Holdable data?
  · obtain ⟨envelope, parsed, rfl⟩ :=
      Envelope.reported_of_holdable spelled data holdable madeOf
    obtain ⟨error, others, several⟩ := List.exists_cons_of_ne_nil reports
    rw [parsed, Envelope.settle, several] at ended
    rw [several]
    exact .inl ⟨holdable, ended⟩
  · obtain ⟨fault, refused⟩ := Envelope.exists_fault_of_not_holdable data holdable madeOf
    rw [refused] at ended
    exact .inr ⟨holdable, fault, ended⟩

/-- Two errors, the second without places, among members that nobody asks for. -/
def crowdedErrors : String :=
  "[\x7b\"locations\":[\x7b\"at\":1e999,\"column\":2,\"line\":1\x7d],\"message\":\"m\"\x7d," ++
    "\x7b\"path\":[\"\\ud800\"],\"locations\":null,\"message\":\"n\"\x7d]"

def crowdedErrorItems : List Written :=
  [.object
    [(.ok "locations", .list [.object
        [(.ok "at", .number (.error .numberOutOfRange)), (.ok "column", .word32 2),
          (.ok "line", .word32 1)]]),
      (.ok "message", .text (.ok "m"))],
    .object
      [(.ok "path", .list [.text (.error .unfinishedSurrogate)]),
        (.ok "locations", .word .null), (.ok "message", .text (.ok "n"))]]

/-- The errors between a note and an empty widget. -/
def reportingBody : String :=
  "\x7b\"note\":\x7b\x7d,\"errors\":" ++ crowdedErrors ++ ",\"data\":\x7b\"widget\":null\x7d\x7d"

theorem crowdedErrorItems_spelled :
    List.Forall₂ ServerError.WrittenAs [⟨"m", [⟨1, 2⟩]⟩, ⟨"n", []⟩] crowdedErrorItems := by
  have place : Location.WrittenAs ⟨1, 2⟩ (.object
      [(.ok "at", .number (.error .numberOutOfRange)), (.ok "column", .word32 2),
        (.ok "line", .word32 1)]) :=
    .object (Written.madeOf_reverse _ _ [("at", .number (.error .numberOutOfRange))] (by decide))
  refine .cons ?_ (.cons ?_ .nil)
  · exact .object (.list (.cons place .nil)) (Written.madeOf_reverse _ _ [] nofun)
  · exact .object .null
      (Written.madeOf_reverse _ _ [("path", .list [.text (.error .unfinishedSurrogate)])] (by decide))

theorem reported_as_spelled_reportingBody :
    ServerError.parseAll crowdedErrors = .ok [⟨"m", [⟨1, 2⟩]⟩, ⟨"n", []⟩] ∧
    Ends (widgetRun reportingBody) (.error (.failed (.server [⟨"m", [⟨1, 2⟩]⟩, ⟨"n", []⟩])))
      keptWidget := by
  obtain ⟨parsed, ends⟩ := reported_as_spelled crowdedErrorItems_spelled
  refine ⟨parsed crowdedErrors (by decide +kernel), ?_⟩
  obtain ⟨request, prepared⟩ : ∃ request, widgetCall.prepare .standard
      (widgetFamily.schema (.record "Widget")) = .ok request :=
    ⟨_, OperationCall.prepare_eq_ok_iff.mpr ⟨_, _, rfl, rfl, rfl⟩⟩
  have brings : (Reply.saying 200 reportingBody).Brings reportingBody :=
    ⟨200, none, _, rfl, by decide, by decide +kernel⟩
  let data : Written := .object [(.ok "widget", .word .null)]
  have writes : Writes reportingBody (.object
      [(.ok "note", .object []), (.ok "errors", .list crowdedErrorItems), (.ok "data", data)]) := by
    decide +kernel
  have holdable : Envelope.Holdable (some data) := by
    intro members given
    obtain rfl := Written.object.inj (Option.some.inj given)
    exact ⟨⟨⟨"widget", rfl⟩, trivial, trivial⟩, by decide⟩
  obtain ⟨-, ended⟩ | ⟨unholdable, -⟩ := ends (.answering (.saying 200 reportingBody)) .standard
    widgetCall (widgetFamily.schema (.record "Widget")) keptWidget request
    (.saying 200 reportingBody) reportingBody (some data) _ (by decide) prepared rfl brings writes
    (Written.madeOf_reverse _ _ [("note", .object [])] (by decide)) (.object _)
  · exact ended
  · exact absurd holdable unholdable

/-- An error beside data with a number out of range. -/
def outOfRangeBody : String :=
  "\x7b\"errors\":[\x7b\"message\":\"m\"\x7d],\"data\":\x7b\"x\":1e999\x7d\x7d"

/-- An error with a further member whose name is no text. -/
def unpairedErrors : String :=
  "[\x7b\"message\":\"m\",\"\\ud800\":1\x7d]"

/-- Data that is an object can hide the errors, and so can the name of a further member. -/
theorem not_reported_outOfRangeBody :
    let error : Written := .object [(.ok "message", .text (.ok "m"))]
    let data : Written := .object [(.ok "x", .number (.error .numberOutOfRange))]
    ServerError.WrittenAs ⟨"m", []⟩ error ∧
    Writes outOfRangeBody (.object [(.ok "errors", .list [error]), (.ok "data", data)]) ∧
    (widgetRun outOfRangeBody).run.outcome =
      .error (.failed (.decode (.syntactic .numberOutOfRange))) ∧
    ¬ Ends (widgetRun outOfRangeBody) (.error (.failed (.server [⟨"m", []⟩]))) keptWidget ∧
    Writes unpairedErrors (.list [.object
      [(.ok "message", .text (.ok "m")),
        (.error .unfinishedSurrogate, .number (.ok (.integer 1)))]]) ∧
    ServerError.parseAll unpairedErrors = .error (.syntactic .unfinishedSurrogate) := by
  intro error data
  have undecoded : (widgetRun outOfRangeBody).run.outcome =
      .error (.failed (.decode (.syntactic .numberOutOfRange))) := by decide +kernel
  refine ⟨.object .absent ⟨[], nofun, .refl _⟩, by decide +kernel, undecoded, ?_,
    by decide +kernel, by decide +kernel⟩
  rintro ⟨logs, ended⟩
  rw [ended] at undecoded
  cases undecoded

end ShapeQuery
