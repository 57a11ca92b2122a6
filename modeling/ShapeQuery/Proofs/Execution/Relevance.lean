import ShapeQuery.Proofs.Envelope
import ShapeQuery.Proofs.Execution.Conclusion
import ShapeQuery.Proofs.Execution.Ending
import ShapeQuery.Proofs.Execution.Run

/-!
# What an outcome depends on

Two bodies that agree on their errors and on the payload of the root field end an operation
alike, whatever else is in them.  Errors that are absent, null or an empty list agree, and so
do payloads that are absent or null, also where all of the data are.
-/

namespace ShapeQuery

open Json

variable {α : Type}

/-- The two outcomes are of one kind, with the same reported errors. -/
inductive Alike : Except Interruption Unit → Except Interruption Unit → Prop where
  | same (outcome : Except Interruption Unit) : Alike outcome outcome
  | undecoded (fault other : Fault) :
      Alike (.error (.failed (.decode fault))) (.error (.failed (.decode other)))

namespace Envelope

/-- The errors of a body, if they are any. -/
def shownErrors? : Option Json → Option Json
  | some .null | some (.list []) | none => none
  | some errors => some errors

/-- The payload of a root field, if it is any. -/
def shownPayload? (name : String) : Option Json → Option Json
  | some (.object members) => (Named.find? name members).filter fun payload => !payload.isNull
  | _ => none

/-- The data are absent, null or an object. -/
inductive DataShown : Option Json → Prop where
  | absent : DataShown none
  | null : DataShown (some .null)
  | object (members : List (String × Json)) : DataShown (some (.object members))

theorem optionalMember_data {data? : Option Json} (shown : DataShown data?) :
    ∃ data, optionalMember mappingMeaning data? = some data ∧
      ∀ name errors, payload? ⟨data, errors⟩ name = shownPayload? name data? := by
  cases shown with
  | absent => exact ⟨none, rfl, fun _ _ => rfl⟩
  | null => exact ⟨none, rfl, fun _ _ => rfl⟩
  | object members =>
      refine ⟨some members, rfl, ?_⟩
      intro name errors
      rw [payload?_eq_filter]
      rfl

/-- What is made of errors that are shown, by what is made of a list of errors. -/
def listedErrors (listed : Json → Option (List ServerError)) :
    Option Json → Option (List ServerError)
  | none => some []
  | some errors => listed errors

theorem optionalMember_errors {listed : Json → Option (List ServerError)}
    (listedEmpty : listed (.list []) = some []) (errors? : Option Json) :
    (optionalMember listed errors?).map (·.getD []) =
      listedErrors listed (shownErrors? errors?) := by
  have kept (json : Json) : ((listed json).map some).map (·.getD []) = listed json := by
    cases listed json <;> rfl
  cases errors? with
  | none => rfl
  | some errors =>
      cases errors with
      | null => rfl
      | list items =>
          cases items with
          | nil => exact (kept (.list [])).trans listedEmpty
          | cons item rest => exact kept (.list (item :: rest))
      | boolean value => exact kept (.boolean value)
      | integer value => exact kept (.integer value)
      | floating value => exact kept (.floating value)
      | text value => exact kept (.text value)
      | object members => exact kept (.object members)

/-- What a body reports and offers depends on what it shows of errors and payload alone. -/
theorem exists_reported_of_shows :
    ∃ reports : Option Json → Option (List ServerError),
      ∀ body data? errors? name, Shows body data? errors? → DataShown data? →
        (parse body).toOption.map (fun envelope => (envelope.reported, envelope.payload? name)) =
          (reports (shownErrors? errors?)).map fun reported =>
            (reported, shownPayload? name data?) := by
  obtain ⟨listed, listedEmpty, means⟩ := exists_meaning_of_shows
  refine ⟨listedErrors listed, ?_⟩
  intro body data? errors? name shows dataShown
  obtain ⟨data, dataMeans, offers⟩ := optionalMember_data dataShown
  rw [means body data? errors? shows, dataMeans, ← optionalMember_errors listedEmpty]
  cases optionalMember listed errors? with
  | none => rfl
  | some errors =>
      exact congrArg (fun payload => some (errors.getD [], payload)) (offers name errors)

end Envelope

/-- An outcome depends on the errors and on the payload of the root field alone: for every
operation, schema and value, two replies that agree on them end it alike and leave the same
value. -/
theorem execute_alike {m : Type → Type} [Monad m] [LawfulMonad m] {schema : Schema α}
    {call : OperationCall} {endpoint : Endpoint} {transport otherTransport : Transport m}
    {reply otherReply : Reply} {body otherBody : String}
    {data? errors? otherData? otherErrors? : Option Json} (value : α)
    (answered : ∀ request, transport.roundTrip request = pure reply)
    (otherAnswered : ∀ request, otherTransport.roundTrip request = pure otherReply)
    (brings : reply.Brings body) (otherBrings : otherReply.Brings otherBody)
    (shows : Envelope.Shows body data? errors?)
    (otherShows : Envelope.Shows otherBody otherData? otherErrors?)
    (dataShown : Envelope.DataShown data?) (otherDataShown : Envelope.DataShown otherData?)
    (sameErrors : Envelope.shownErrors? errors? = Envelope.shownErrors? otherErrors?)
    (samePayload : Envelope.shownPayload? call.name data? =
      Envelope.shownPayload? call.name otherData?) :
    ∃ outcome otherOutcome left,
      Ends (execute transport endpoint call schema value) outcome left ∧
      Ends (execute otherTransport endpoint call schema value) otherOutcome left ∧
      Alike outcome otherOutcome := by
  cases preparation : call.prepare endpoint schema with
  | error interruption =>
      exact ⟨_, _, value, ends_of_refused preparation, ends_of_refused preparation, .same _⟩
  | ok request =>
      -- what the shown errors mean stays open; both bodies give them the same meaning
      obtain ⟨reports, means⟩ := Envelope.exists_reported_of_shows
      have first := means body data? errors? call.name shows dataShown
      have second := means otherBody otherData? otherErrors? call.name otherShows otherDataShown
      rw [sameErrors, samePayload, ← second] at first
      have ended : Ends (execute transport endpoint call schema value) _ _ :=
        ends_of_brings preparation (answered request) brings
      have otherEnded : Ends (execute otherTransport endpoint call schema value) _ _ :=
        ends_of_brings preparation (otherAnswered request) otherBrings
      cases parsed : Envelope.parse body with
      | error fault =>
          rw [parsed] at first ended
          cases otherParsed : Envelope.parse otherBody with
          | error otherFault =>
              -- which fault is met depends on the text, so only the kind is the same
              rw [otherParsed] at otherEnded
              exact ⟨_, _, value, ended, otherEnded, .undecoded fault otherFault⟩
          | ok other =>
              rw [otherParsed] at first
              cases first
      | ok envelope =>
          rw [parsed] at first ended
          cases otherParsed : Envelope.parse otherBody with
          | error otherFault =>
              rw [otherParsed] at first
              cases first
          | ok other =>
              rw [otherParsed] at first otherEnded
              obtain ⟨sameReported, sameOffered⟩ := Prod.mk.inj (Option.some.inj first)
              rw [Envelope.settle, ← sameReported, ← sameOffered] at otherEnded
              exact ⟨_, _, _, ended, otherEnded, .same _⟩

def countCall : OperationCall :=
  ⟨.query, "count", .empty⟩

/-- A query of a count, with a body as the answer. -/
def countRun (status : Nat) (body : String) : Id (Execution Int) :=
  execute (.answering (.saying status body)) .standard countCall countSchema 0

/-- A count among members that nobody asks for, some of which could not be read. -/
def crowdedBody : String :=
  "\x7b\"errors\":[],\"data\":\x7b\"note\":\"new\",\"count\":3\x7d," ++
    "\"extensions\":\x7b\"cost\":1e999,\"cost\":\"\\ud800\"\x7d\x7d"

def bareBody : String :=
  "\x7b\"data\":\x7b\"count\":3\x7d\x7d"

theorem shows_crowdedBody :
    Envelope.Shows crowdedBody
      (some (.object (Named.insertAll [] [("note", .text "new"), ("count", .integer 3)])))
      (some (.list [])) := by
  refine ⟨[(.ok "errors", .list []),
      (.ok "data", .object
        [(.ok "note", .text (.ok "new")), (.ok "count", .number (.ok (.integer 3)))]),
      (.ok "extensions", .object
        [(.ok "cost", .number (.error .numberOutOfRange)),
          (.ok "cost", .text (.error .unfinishedSurrogate))])],
    [("errors", .list []),
      ("data", .object (Named.insertAll [] [("note", .text "new"), ("count", .integer 3)])),
      ("extensions", .null)], by decide +kernel, by decide, ?_, rfl, rfl⟩
  refine .cons ⟨rfl, ?_⟩ (.cons ⟨rfl, ?_⟩ (.cons ⟨rfl, ?_⟩ .nil))
  · intro wanted
    exact ⟨trivial, rfl⟩
  · intro wanted
    refine ⟨?_, rfl⟩
    simp [Written.Unrepeated, Written.UnrepeatedMembers]
  · intro wanted
    exact absurd wanted (by decide)

theorem shows_bareBody :
    Envelope.Shows bareBody (some (.object (Named.insertAll [] [("count", .integer 3)])))
      none := by
  refine ⟨[(.ok "data", .object [(.ok "count", .number (.ok (.integer 3)))])],
    [("data", .object (Named.insertAll [] [("count", .integer 3)]))],
    by decide +kernel, by decide, ?_, rfl, rfl⟩
  refine .cons ⟨rfl, ?_⟩ .nil
  intro wanted
  refine ⟨?_, rfl⟩
  simp [Written.Unrepeated, Written.UnrepeatedMembers]

theorem execute_alike_crowdedBody :
    (Reply.saying 404 crowdedBody).Brings crowdedBody ∧
    (Reply.saying 200 bareBody).Brings bareBody ∧
    ∃ outcome otherOutcome left,
      Ends (countRun 404 crowdedBody) outcome left ∧
      Ends (countRun 200 bareBody) otherOutcome left ∧
      Alike outcome otherOutcome := by
  have brings : (Reply.saying 404 crowdedBody).Brings crowdedBody :=
    ⟨404, none, _, rfl, by decide, by decide +kernel⟩
  have bareBrings : (Reply.saying 200 bareBody).Brings bareBody :=
    ⟨200, none, _, rfl, by decide, by decide +kernel⟩
  have samePayload : Envelope.shownPayload? countCall.name
      (some (.object (Named.insertAll [] [("note", .text "new"), ("count", .integer 3)]))) =
        Envelope.shownPayload? countCall.name
          (some (.object (Named.insertAll [] [("count", .integer 3)]))) := by
    rw [Envelope.shownPayload?, Envelope.shownPayload?,
      Named.find?_insertAll_of_nodup (by decide), Named.find?_insertAll_of_nodup (by decide)]
    rfl
  refine ⟨brings, bareBrings, ?_⟩
  exact execute_alike 0 (fun _ => rfl) (fun _ => rfl) brings bareBrings shows_crowdedBody
    shows_bareBody (.object _) (.object _) rfl samePayload

/-- A note that escapes one half of a surrogate pair, beside a null count. -/
def unpairedBody : String :=
  "\x7b\"data\":\x7b\"count\":null,\"note\":\"\\ud800\"\x7d\x7d"

def silentBody : String :=
  "\x7b\"data\":\x7b\"count\":null\x7d\x7d"

/-- Two objects that repeat no name and agree on errors and payload do not end alike where a
member of the data beside the payload is not text. -/
theorem not_alike_unpairedBody :
    Writes unpairedBody (.object [(.ok "data", .object
      [(.ok "count", .word .null), (.ok "note", .text (.error .unfinishedSurrogate))])]) ∧
    Writes silentBody (.object [(.ok "data", .object [(.ok "count", .word .null)])]) ∧
    (countRun 200 unpairedBody).run.outcome =
      .error (.failed (.decode (.syntactic .unfinishedSurrogate))) ∧
    (countRun 200 silentBody).run.outcome = .ok () ∧
    ¬ Alike (countRun 200 unpairedBody).run.outcome (countRun 200 silentBody).run.outcome := by
  have undecoded : (countRun 200 unpairedBody).run.outcome =
      .error (.failed (.decode (.syntactic .unfinishedSurrogate))) := by decide +kernel
  have silent : (countRun 200 silentBody).run.outcome = .ok () := by decide +kernel
  refine ⟨by decide +kernel, by decide +kernel, undecoded, silent, ?_⟩
  rw [undecoded, silent]
  intro alike
  cases alike

end ShapeQuery
