import ShapeQuery.Datum.Members
import ShapeQuery.Proofs.Datum.Decoding
import ShapeQuery.Proofs.Envelope
import ShapeQuery.Proofs.Execution.Ending

/-!
# Answers of another type

An answer that is no object fails to decode and leaves the value as it was, unless it is a list,
which is read like the object whose members are its items.  A payload that is no object is left
to the decoder of the schema; that of a record takes the lists whose items fill its fields, in
the order in which they are declared.
-/

namespace ShapeQuery

open Json Decoding

namespace Json.Written

/-- The value is read like the object of the members: it is that object, or the list of up to
two items that are its data and errors. -/
inductive StandsFor : Written → List (Except SyntaxFault String × Written) → Prop where
  | object (members : List (Except SyntaxFault String × Written)) :
      StandsFor (.object members) members
  | list {items : List Written} (short : items.length ≤ 2) :
      StandsFor (.list items) ([.ok "data", .ok "errors"].zip items)

/-- The value is neither null nor an object. -/
def Mistyped (written : Written) : Prop :=
  written ≠ .word .null ∧ ∀ members, written ≠ .object members

theorem ReadsAs.of_mistyped {limit : Nat} {written : Written} {json : Json}
    (reads : ReadsAs limit written json) (mistyped : written.Mistyped) :
    json ≠ .null ∧ ∀ members, json ≠ .object members := by
  cases reads with
  | null => exact absurd rfl mistyped.1
  | object room related => exact absurd rfl (mistyped.2 _)
  | _ => exact ⟨nofun, nofun⟩

end Json.Written

namespace Envelope

theorem on_of_standsFor {written : Written}
    {members : List (Except SyntaxFault String × Written)} (stands : written.StandsFor members)
    (limit : Nat) : Envelope.on limit written = Envelope.on limit (.object members) := by
  cases stands with
  | object members => rfl
  | list short => exact on_list_of_short limit short

theorem exists_fault_of_not_standsFor {written : Written}
    (other : ∀ members, ¬ written.StandsFor members) (limit : Nat) :
    ∃ fault, Envelope.on limit written = .error fault := by
  cases written with
  | object members => exact absurd (.object members) (other members)
  | list items =>
      have long : ¬ items.length ≤ 2 := fun short => other _ (.list short)
      exact on_list_of_long limit (Nat.lt_of_not_le long)
  | word value => exact ⟨_, rfl⟩
  | number strict => exact ⟨_, rfl⟩
  | text strict => exact ⟨_, rfl⟩

/-- The members of a body report no errors, and the last value that their data have under the
name is the payload, which is neither null nor an object. -/
structure HoldsMistyped (name : String) (members : List (Except SyntaxFault String × Written))
    (payload : Written) : Prop where
  unreported : ∀ value, (.ok "errors", value) ∈ members → value = .word .null ∨ value = .list []
  data : ∃ earlier later,
    (.ok "data", .object (earlier ++ (.ok name, payload) :: later)) ∈ members ∧
      ∀ repeated, (.ok name, repeated) ∉ later
  mistyped : payload.Mistyped

theorem HoldsMistyped.of_on {name : String} {limit : Nat} {envelope : Envelope}
    {members : List (Except SyntaxFault String × Written)} {payload : Written}
    (holds : HoldsMistyped name members payload)
    (parsed : Envelope.on limit (.object members) = .ok envelope) :
    envelope.reported = [] ∧
      ∃ json, payload.read (limit - 2) = .ok json ∧ envelope.payload? name = some json := by
  obtain ⟨earlier, later, data, last⟩ := holds.data
  refine ⟨reported_eq_nil_of_on parsed holds.unreported, ?_⟩
  obtain ⟨entries, read, held⟩ := data_eq_of_on parsed data
  obtain ⟨json, payloadRead, found⟩ := Written.find?_of_readMembers read last
  have proper := ((Written.readsAs_of_read payloadRead).of_mistyped holds.mistyped).1
  refine ⟨json, payloadRead, payload?_eq_some_iff.mpr ⟨?_, proper⟩⟩
  rw [held, Option.bind_some, found]

end Envelope

section

variable {α : Type} {m : Type → Type} [Monad m]

/-- The operation fails to decode the answer and leaves the value as it was. -/
def Undecoded (run : m (Execution α)) (value : α) : Prop :=
  ∃ fault, Ends run (.error (.failed (.decode fault))) value

/-- The operation succeeds and leaves a value that qualifies, or fails to decode the answer
where none does. -/
def HingesOn (run : m (Execution α)) (value : α) (Qualifies : α → Prop) : Prop :=
  (∃ decoded, Qualifies decoded ∧ Ends run (.ok ()) decoded) ∨
    (∀ decoded, ¬ Qualifies decoded) ∧ Undecoded run value

theorem HingesOn.congr {run : m (Execution α)} {value : α} {Qualifies Other : α → Prop}
    (hinges : HingesOn run value Qualifies)
    (same : ∀ decoded, Qualifies decoded ↔ Other decoded) : HingesOn run value Other := by
  rcases hinges with ⟨decoded, qualifies, ended⟩ | ⟨nothing, undecoded⟩
  · exact .inl ⟨decoded, (same decoded).mp qualifies, ended⟩
  · exact .inr ⟨fun decoded other => nothing decoded ((same decoded).mpr other), undecoded⟩

/-- The body is an envelope, and the schema decodes the payload in its data to the value. -/
def Schema.Accepts (schema : Schema α) (body : String) (payload : Written) (decoded : α) : Prop :=
  ∃ envelope json, Envelope.parse body = .ok envelope ∧
    payload.read (nestingLimit - 2) = .ok json ∧ schema.decode json = .ok decoded

/-- The body is an envelope, and the payload in its data is a list whose items fill the fields of
the record. -/
def RecordDeclaration.FilledBy (declaration : RecordDeclaration) (family : Family) (body : String)
    (payload : Written) (decoded : Datum) : Prop :=
  ∃ envelope items values, Envelope.parse body = .ok envelope ∧
    payload.read (nestingLimit - 2) = .ok (.list items) ∧ decoded = .record values ∧
    FillsFields family declaration declaration.readFields items values

/-- Of the payloads that are no object, a record is read from the lists that fill its fields. -/
theorem accepts_iff_filledBy {family : Family} {record : String} {declaration : RecordDeclaration}
    (declared : family.find? record = some declaration) {payload : Written}
    (mistyped : payload.Mistyped) (body : String) (decoded : Datum) :
    (family.schema (.record record)).Accepts body payload decoded ↔
      declaration.FilledBy family body payload decoded := by
  constructor
  · rintro ⟨envelope, json, parsed, read, decoding⟩
    obtain ⟨members, rfl⟩ | ⟨items, rfl⟩ := decode_record_cases decoding
    · exact absurd rfl (((Written.readsAs_of_read read).of_mistyped mistyped).2 members)
    · obtain ⟨values, rfl, fills⟩ := (decode_list_record_iff declared).mp decoding
      exact ⟨envelope, items, values, parsed, read, rfl, fills⟩
  · rintro ⟨envelope, items, values, parsed, read, rfl, fills⟩
    have decoding := (decode_list_record_iff declared).mpr ⟨values, rfl, fills⟩
    exact ⟨envelope, .list items, parsed, read, decoding⟩

section

variable [LawfulMonad m] {transport : Transport m} {endpoint : Endpoint} {call : OperationCall}
  {schema : Schema α} {request : Request} {reply : Reply} {body : String}
  {members : List (Except SyntaxFault String × Written)} {payload : Written}

/-- A payload that is no object is left to the decoder of the schema. -/
theorem hingesOn_accepts (value : α) (prepared : call.prepare endpoint schema = .ok request)
    (answered : transport.roundTrip request = pure reply) (brings : reply.Brings body)
    (parsed : Envelope.parse body = Envelope.on nestingLimit (.object members))
    (holds : Envelope.HoldsMistyped call.name members payload) :
    HingesOn (execute transport endpoint call schema value) value
      (schema.Accepts body payload) := by
  have ended : Ends (execute transport endpoint call schema value) _ _ :=
    ends_of_brings prepared answered brings
  cases made : Envelope.parse body with
  | error fault =>
      rw [made] at ended
      refine .inr ⟨?_, fault, ended⟩
      rintro decoded ⟨envelope, json, accepted, _, _⟩
      cases made.symm.trans accepted
  | ok envelope =>
      obtain ⟨unreported, json, read, found⟩ := holds.of_on (parsed.symm.trans made)
      rw [made, Envelope.settle, unreported, found, Envelope.verdict] at ended
      cases decoding : schema.decode json with
      | ok decoded =>
          rw [decoding] at ended
          exact .inl ⟨decoded, ⟨envelope, json, made, read, decoding⟩, ended⟩
      | error fault =>
          rw [decoding] at ended
          refine .inr ⟨?_, .data fault, ended⟩
          rintro decoded ⟨_, other, _, otherRead, decodes⟩
          cases read.symm.trans otherRead
          cases decoding.symm.trans decodes

end

/-- Where an object is expected, an answer with a well-formed body of another type is not
decoded, and a list is read like an object.  A payload that is no object is left to the decoder
of the schema, and that of a record takes the lists that fill its fields. -/
theorem execute_mistyped [LawfulMonad m] {transport : Transport m} {endpoint : Endpoint}
    {call : OperationCall} {request : Request} {reply : Reply} {body : String}
    {written : Written} (answered : transport.roundTrip request = pure reply)
    (brings : reply.Brings body) (writes : Writes body written) :
    (∀ {α : Type} (schema : Schema α) (value : α),
      call.prepare endpoint schema = .ok request →
      let run := execute transport endpoint call schema value
      ((∀ members, ¬ written.StandsFor members) → Undecoded run value) ∧
      ∀ members, written.StandsFor members →
        (∀ (other : Transport m) otherReply otherBody,
          other.roundTrip request = pure otherReply → otherReply.Brings otherBody →
          Writes otherBody (.object members) →
          ∃ outcome left, Ends run outcome left ∧
            Ends (execute other endpoint call schema value) outcome left) ∧
        ∀ payload, Envelope.HoldsMistyped call.name members payload →
          HingesOn run value (schema.Accepts body payload)) ∧
    ∀ (family : Family) (record : String) (declaration : RecordDeclaration) (value : Datum),
      family.find? record = some declaration →
      call.prepare endpoint (family.schema (.record record)) = .ok request →
      ∀ members, written.StandsFor members →
        ∀ payload, Envelope.HoldsMistyped call.name members payload →
          HingesOn (execute transport endpoint call (family.schema (.record record)) value) value
            (declaration.FilledBy family body payload) := by
  have parsed := Envelope.parse_eq_on writes
  constructor
  · intro α schema value prepared run
    have ended : Ends run _ _ := ends_of_brings prepared answered brings
    constructor
    · intro other
      obtain ⟨fault, refused⟩ := Envelope.exists_fault_of_not_standsFor other nestingLimit
      rw [parsed, refused] at ended
      exact ⟨fault, ended⟩
    intro members stands
    -- from here on the body is the object of the members, whichever way it is written
    rw [Envelope.on_of_standsFor stands] at parsed
    constructor
    · intro other otherReply otherBody otherAnswered otherBrings otherWrites
      have same := parsed.trans (Envelope.parse_eq_on otherWrites).symm
      rw [same] at ended
      exact ⟨_, _, ended, ends_of_brings prepared otherAnswered otherBrings⟩
    · intro payload holds
      exact hingesOn_accepts value prepared answered brings parsed holds
  · intro family record declaration value declared prepared members stands payload holds
    rw [Envelope.on_of_standsFor stands] at parsed
    have hinges := hingesOn_accepts value prepared answered brings parsed holds
    exact hinges.congr (accepts_iff_filledBy declared holds.mistyped body)

end

def widgetDeclaration : RecordDeclaration :=
  ⟨"Widget", [.plain "id" (.scalar .text), .plain "name" (.scalar .text)], true, false⟩

def widgetFamily : Family := [widgetDeclaration]

def widgetCall : OperationCall :=
  ⟨.query, "widget", .empty⟩

def keptWidget : Datum :=
  .record [("id", .text "keep"), ("name", .text "kept")]

/-- A query of a widget, with a body as the answer. -/
def widgetRun (body : String) : Id (Execution Datum) :=
  execute (.answering (.saying 200 body)) .standard widgetCall
    (widgetFamily.schema (.record "Widget")) keptWidget

/-- The members of a body whose data is one payload. -/
def widgetMembers (payload : Written) : List (Except SyntaxFault String × Written) :=
  [(.ok "data", .object [(.ok "widget", payload)])]

theorem holdsMistyped_widgetMembers {payload : Written} (mistyped : payload.Mistyped) :
    Envelope.HoldsMistyped "widget" (widgetMembers payload) payload where
  unreported value inMembers := by simp [widgetMembers] at inMembers
  data := ⟨[], [], List.mem_cons_self, nofun⟩
  mistyped := mistyped

def countedPayload : Written :=
  .list [.number (.ok (.integer 1)), .number (.ok (.integer 2)), .number (.ok (.integer 3))]

def countedBody : String :=
  "\x7b\"data\":\x7b\"widget\":[1,2,3]\x7d\x7d"

/-- The schema of a transparent record, which is read from what its one field is read from. -/
def tallySchema : Schema Datum where
  selection := .ok [.leaf "total"]
  decode payload :=
    (decode [] payload (.scalar (.signed .bits64))).map fun total => .record [("total", total)]

def keptTally : Datum :=
  .record [("total", .integer 1)]

def tallyPayload : Written :=
  .number (.ok (.integer 5))

def tallyBody : String :=
  "\x7b\"data\":\x7b\"widget\":5\x7d\x7d"

/-- A query of a tally, with the body as the answer. -/
def tallyRun : Id (Execution Datum) :=
  execute (.answering (.saying 200 tallyBody)) .standard widgetCall tallySchema keptTally

theorem execute_mistyped_countedBody :
    (∃ request, widgetCall.prepare .standard (widgetFamily.schema (.record "Widget")) =
      .ok request) ∧
    (Reply.saying 200 countedBody).Brings countedBody ∧
    Undecoded (widgetRun countedBody) keptWidget ∧
    (∃ request, widgetCall.prepare .standard tallySchema = .ok request) ∧
    (Reply.saying 200 tallyBody).Brings tallyBody ∧
    ∃ decoded, tallySchema.Accepts tallyBody tallyPayload decoded ∧
      Ends tallyRun (.ok ()) decoded := by
  obtain ⟨request, prepared⟩ : ∃ request, widgetCall.prepare .standard
      (widgetFamily.schema (.record "Widget")) = .ok request :=
    ⟨_, OperationCall.prepare_eq_ok_iff.mpr ⟨_, _, rfl, rfl, rfl⟩⟩
  obtain ⟨tallyRequest, tallyPrepared⟩ : ∃ request, widgetCall.prepare .standard tallySchema =
      .ok request :=
    ⟨_, OperationCall.prepare_eq_ok_iff.mpr ⟨_, _, rfl, rfl, rfl⟩⟩
  have answered {body : String} (request : Request) :
      (Transport.answering (.saying 200 body)).roundTrip request = pure (.saying 200 body) := rfl
  have brings : (Reply.saying 200 countedBody).Brings countedBody :=
    ⟨200, none, _, rfl, by decide, by decide +kernel⟩
  have tallyBrings : (Reply.saying 200 tallyBody).Brings tallyBody :=
    ⟨200, none, _, rfl, by decide, by decide +kernel⟩
  have writes : Writes countedBody (.object (widgetMembers countedPayload)) := by decide +kernel
  have tallyWrites : Writes tallyBody (.object (widgetMembers tallyPayload)) := by decide +kernel
  have decided := (execute_mistyped (answered request) brings writes).2 widgetFamily "Widget"
    widgetDeclaration keptWidget rfl prepared (widgetMembers countedPayload) (.object _)
    countedPayload (holdsMistyped_widgetMembers ⟨nofun, nofun⟩)
  have tallyDecided := ((execute_mistyped (answered tallyRequest) tallyBrings tallyWrites).1
    tallySchema keptTally tallyPrepared).2 (widgetMembers tallyPayload) (.object _)
  refine ⟨⟨request, prepared⟩, brings, ?_, ⟨tallyRequest, tallyPrepared⟩, tallyBrings, ?_⟩
  · obtain ⟨decoded, _, logs, ended⟩ | ⟨_, undecoded⟩ := decided
    · have refused : (widgetRun countedBody).run.outcome ≠ .ok () := by decide +kernel
      exact absurd (congrArg (fun run : Id (Execution Datum) => run.run.outcome) ended) refused
    · exact undecoded
  · obtain done | ⟨_, fault, logs, ended⟩ :=
      tallyDecided.2 tallyPayload (holdsMistyped_widgetMembers ⟨nofun, nofun⟩)
    · exact done
    · have succeeds : tallyRun.run.outcome = .ok () := by decide +kernel
      have fails := congrArg (fun run : Id (Execution Datum) => run.run.outcome) ended
      cases succeeds.symm.trans fails

def emptyListBody : String := "[]"

def listedPayload : Written :=
  .list [.text (.ok "7"), .text (.ok "n")]

def listedBody : String :=
  "\x7b\"data\":\x7b\"widget\":[\"7\",\"n\"]\x7d\x7d"

/-- A body that is a list can decode, a payload that is one can, and so can a number that is the
payload of a transparent record. -/
theorem decoded_lists :
    Writes emptyListBody (.list []) ∧
    (widgetRun emptyListBody).run.outcome = .ok () ∧
    ¬ Undecoded (widgetRun emptyListBody) keptWidget ∧
    Writes listedBody (.object (widgetMembers listedPayload)) ∧
    Envelope.HoldsMistyped "widget" (widgetMembers listedPayload) listedPayload ∧
    (widgetRun listedBody).run.outcome = .ok () ∧
    (widgetRun listedBody).run.value.textAt "id" = "7" ∧
    ¬ Undecoded (widgetRun listedBody) keptWidget ∧
    Writes tallyBody (.object (widgetMembers tallyPayload)) ∧
    Envelope.HoldsMistyped "widget" (widgetMembers tallyPayload) tallyPayload ∧
    tallyRun.run.outcome = .ok () ∧
    tallyRun.run.value.wordAt "total" = 5 ∧
    ¬ Undecoded tallyRun keptTally := by
  have first : (widgetRun emptyListBody).run.outcome = .ok () := by decide +kernel
  have second : (widgetRun listedBody).run.outcome = .ok () := by decide +kernel
  have third : tallyRun.run.outcome = .ok () := by decide +kernel
  have writes : Writes listedBody (.object (widgetMembers listedPayload)) := by decide +kernel
  have tallyWrites : Writes tallyBody (.object (widgetMembers tallyPayload)) := by decide +kernel
  have decided {run : Id (Execution Datum)} {value : Datum} (done : run.run.outcome = .ok ()) :
      ¬ Undecoded run value := by
    rintro ⟨fault, logs, ended⟩
    rw [ended] at done
    cases done
  exact ⟨by decide +kernel, first, decided first, writes,
    holdsMistyped_widgetMembers ⟨nofun, nofun⟩, second, by decide +kernel, decided second,
    tallyWrites, holdsMistyped_widgetMembers ⟨nofun, nofun⟩, third, by decide +kernel,
    decided third⟩

end ShapeQuery
