import ShapeQuery.Execution

/-!
# What a reply decides

`Concludes` lists, in the order of the checks, what a reply makes of an operation
that was sent: its outcome, and the value that it leaves.  It describes
`Execution.ofReply` exactly, and every outcome but a decoded payload leaves the
value as it was.
-/

namespace ShapeQuery

variable {α : Type}

/-- What a reply makes of an operation on a value: the outcome and the value left. -/
inductive Concludes (schema : Schema α) (name : String) (value : α) :
    Reply → Except Interruption Unit → α → Prop where
  | roundTripFailed (reason : String) :
      Concludes schema name value (.failed reason)
        (.error (.failed (.transport reason))) value
  | bodyBroken (status : Nat) (contentType : Option String) (reason : String) :
      Concludes schema name value (.response status contentType (.broken reason))
        (.error (.failed (.transport reason))) value
  | serverFault {status : Nat} (contentType : Option String) (content : List UInt8) :
      500 ≤ status →
      Concludes schema name value (.response status contentType (.bytes content))
        (.error (.failed (.serverFault status (Text.decodeBody contentType content)))) value
  | malformed {status : Nat} {contentType : Option String} {content : List UInt8}
      {fault : Json.Fault} :
      status < 500 →
      Envelope.parse (Text.decodeBody contentType content) = .error fault →
      Concludes schema name value (.response status contentType (.bytes content))
        (.error (.failed (.decode fault))) value
  | reported {status : Nat} {contentType : Option String} {content : List UInt8}
      {envelope : Envelope} {errors : List ServerError} :
      status < 500 →
      Envelope.parse (Text.decodeBody contentType content) = .ok envelope →
      envelope.errors = some errors →
      errors ≠ [] →
      Concludes schema name value (.response status contentType (.bytes content))
        (.error (.failed (.server errors))) value
  | withoutPayload {status : Nat} {contentType : Option String} {content : List UInt8}
      {envelope : Envelope} :
      status < 500 →
      Envelope.parse (Text.decodeBody contentType content) = .ok envelope →
      envelope.errors = none ∨ envelope.errors = some [] →
      envelope.data.bind (Named.find? name) = none ∨
        envelope.data.bind (Named.find? name) = some .null →
      Concludes schema name value (.response status contentType (.bytes content))
        (.ok ()) value
  | mistyped {status : Nat} {contentType : Option String} {content : List UInt8}
      {envelope : Envelope} {payload : Json} {fault : Json.DataFault} :
      status < 500 →
      Envelope.parse (Text.decodeBody contentType content) = .ok envelope →
      envelope.errors = none ∨ envelope.errors = some [] →
      envelope.data.bind (Named.find? name) = some payload →
      payload ≠ .null →
      schema.decode payload = .error fault →
      Concludes schema name value (.response status contentType (.bytes content))
        (.error (.failed (.decode (.data fault)))) value
  | replaced {status : Nat} {contentType : Option String} {content : List UInt8}
      {envelope : Envelope} {payload : Json} {decoded : α} :
      status < 500 →
      Envelope.parse (Text.decodeBody contentType content) = .ok envelope →
      envelope.errors = none ∨ envelope.errors = some [] →
      envelope.data.bind (Named.find? name) = some payload →
      payload ≠ .null →
      schema.decode payload = .ok decoded →
      Concludes schema name value (.response status contentType (.bytes content))
        (.ok ()) decoded

/-! ## Envelopes -/

theorem Envelope.reported_eq_nil_iff {envelope : Envelope} :
    envelope.reported = [] ↔ envelope.errors = none ∨ envelope.errors = some [] := by
  cases errors : envelope.errors <;> simp [Envelope.reported, errors]

theorem Envelope.errors_of_reported {envelope : Envelope}
    (nonempty : envelope.reported ≠ []) : envelope.errors = some envelope.reported := by
  cases errors : envelope.errors with
  | none => exact (nonempty (Envelope.reported_eq_nil_iff.mpr (.inl errors))).elim
  | some list => simp [Envelope.reported, errors]

theorem Envelope.payload?_eq_filter (envelope : Envelope) (name : String) :
    envelope.payload? name =
      (envelope.data.bind (Named.find? name)).filter fun payload => !payload.isNull := by
  unfold Envelope.payload?
  cases envelope.data.bind (Named.find? name) with
  | none => rfl
  | some payload => cases payload <;> rfl

theorem Json.isNull_iff {json : Json} : json.isNull = true ↔ json = .null := by
  cases json <;> simp [Json.isNull]

theorem Envelope.payload?_eq_none_iff {envelope : Envelope} {name : String} :
    envelope.payload? name = none ↔
      envelope.data.bind (Named.find? name) = none ∨
        envelope.data.bind (Named.find? name) = some .null := by
  rw [Envelope.payload?_eq_filter]
  cases envelope.data.bind (Named.find? name) with
  | none => simp
  | some payload => simp [Option.filter_some, Json.isNull_iff]

theorem Envelope.payload?_eq_some_iff {envelope : Envelope} {name : String}
    {payload : Json} :
    envelope.payload? name = some payload ↔
      envelope.data.bind (Named.find? name) = some payload ∧ payload ≠ .null := by
  rw [Envelope.payload?_eq_filter, Option.filter_eq_some_iff]
  simp [← Json.isNull_iff]

/-! ## Adequacy -/

theorem concludes_ofBody (call : OperationCall) (schema : Schema α) (value : α)
    (logs : List LogEntry) {status : Nat} (low : status < 500)
    (contentType : Option String) (content : List UInt8) :
    Concludes schema call.name value (.response status contentType (.bytes content))
      (Execution.ofBody call schema value logs (Text.decodeBody contentType content)).outcome
      (Execution.ofBody call schema value logs (Text.decodeBody contentType content)).value := by
  unfold Execution.ofBody
  cases parsed : Envelope.parse (Text.decodeBody contentType content) with
  | error fault => exact .malformed low parsed
  | ok envelope =>
      cases reported : envelope.reported with
      | cons error others =>
          have nonempty : envelope.reported ≠ [] := by simp [reported]
          have errors := Envelope.errors_of_reported nonempty
          simp only [reported] at errors ⊢
          exact .reported low parsed errors (List.cons_ne_nil error others)
      | nil =>
          have unreported := Envelope.reported_eq_nil_iff.mp reported
          cases offered : envelope.payload? call.name with
          | none =>
              have absent := Envelope.payload?_eq_none_iff.mp offered
              simp only [reported, offered]
              exact .withoutPayload low parsed unreported absent
          | some payload =>
              obtain ⟨found, proper⟩ := Envelope.payload?_eq_some_iff.mp offered
              cases decoding : schema.decode payload with
              | error fault =>
                  simp only [reported, offered, decoding]
                  exact .mistyped low parsed unreported found proper decoding
              | ok decoded =>
                  simp only [reported, offered, decoding]
                  exact .replaced low parsed unreported found proper decoding

/-- A reply is concluded as described. -/
theorem concludes_ofReply (call : OperationCall) (schema : Schema α) (value : α)
    (reply : Reply) :
    Concludes schema call.name value reply
      (Execution.ofReply call schema value reply).outcome
      (Execution.ofReply call schema value reply).value := by
  cases reply with
  | failed reason => exact .roundTripFailed reason
  | response status contentType body =>
      cases body with
      | broken reason => exact .bodyBroken status contentType reason
      | bytes content =>
          rcases Nat.lt_or_ge status 500 with low | high
          · simp only [Execution.ofReply, if_neg (Nat.not_le_of_lt low)]
            exact concludes_ofBody call schema value _ low contentType content
          · simp only [Execution.ofReply, if_pos high]
            exact .serverFault contentType content high

/-- The description leaves nothing open: a reply is concluded in one way only. -/
theorem Concludes.eq_ofReply {call : OperationCall} {schema : Schema α} {value left : α}
    {reply : Reply} {outcome : Except Interruption Unit}
    (concluded : Concludes schema call.name value reply outcome left) :
    outcome = (Execution.ofReply call schema value reply).outcome ∧
      left = (Execution.ofReply call schema value reply).value := by
  cases concluded with
  | roundTripFailed reason => exact ⟨rfl, rfl⟩
  | bodyBroken status contentType reason => exact ⟨rfl, rfl⟩
  | serverFault contentType content high =>
      simp [Execution.ofReply, Execution.failure, high]
  | malformed low parsed =>
      simp [Execution.ofReply, Execution.ofBody, Execution.failure, Nat.not_le_of_lt low,
        parsed]
  | @reported _ _ _ envelope errors low parsed listed nonempty =>
      have reported : envelope.reported = errors := by simp [Envelope.reported, listed]
      obtain ⟨error, others, rfl⟩ := List.exists_cons_of_ne_nil nonempty
      simp [Execution.ofReply, Execution.ofBody, Execution.failure, Nat.not_le_of_lt low,
        parsed, reported]
  | withoutPayload low parsed unreported absent =>
      have reported := Envelope.reported_eq_nil_iff.mpr unreported
      have offered := Envelope.payload?_eq_none_iff.mpr absent
      simp [Execution.ofReply, Execution.ofBody, Nat.not_le_of_lt low, parsed, reported,
        offered]
  | mistyped low parsed unreported found proper decoding =>
      have reported := Envelope.reported_eq_nil_iff.mpr unreported
      have offered := Envelope.payload?_eq_some_iff.mpr ⟨found, proper⟩
      simp [Execution.ofReply, Execution.ofBody, Execution.failure, Nat.not_le_of_lt low,
        parsed, reported, offered, decoding]
  | replaced low parsed unreported found proper decoding =>
      have reported := Envelope.reported_eq_nil_iff.mpr unreported
      have offered := Envelope.payload?_eq_some_iff.mpr ⟨found, proper⟩
      simp [Execution.ofReply, Execution.ofBody, Nat.not_le_of_lt low, parsed, reported,
        offered, decoding]

theorem concludes_iff {call : OperationCall} {schema : Schema α} {value left : α}
    {reply : Reply} {outcome : Except Interruption Unit} :
    Concludes schema call.name value reply outcome left ↔
      outcome = (Execution.ofReply call schema value reply).outcome ∧
        left = (Execution.ofReply call schema value reply).value := by
  constructor
  · exact Concludes.eq_ofReply
  · rintro ⟨rfl, rfl⟩
    exact concludes_ofReply call schema value reply

/-! ## The value left -/

/-- The payload that a reply offers to a root field: the reply arrived whole with a
status below 500, reports no errors, and has a value other than `null` under the
name. -/
def Reply.payload? (name : String) : Reply → Option Json
  | .failed _ => none
  | .response _ _ (.broken _) => none
  | .response status contentType (.bytes content) =>
    if 500 ≤ status then none
    else
      match Envelope.parse (Text.decodeBody contentType content) with
      | .error _ => none
      | .ok envelope =>
        match envelope.reported with
        | _ :: _ => none
        | [] => envelope.payload? name

/-- The value that the payload of a reply decodes to. -/
def Reply.replacement? (schema : Schema α) (name : String) (reply : Reply) : Option α :=
  (reply.payload? name).bind fun payload => (schema.decode payload).toOption

theorem Reply.payload?_of_unreported {status : Nat} {contentType : Option String}
    {content : List UInt8} {envelope : Envelope} (name : String) (low : status < 500)
    (parsed : Envelope.parse (Text.decodeBody contentType content) = .ok envelope)
    (unreported : envelope.errors = none ∨ envelope.errors = some []) :
    (Reply.response status contentType (.bytes content)).payload? name =
      envelope.payload? name := by
  have reported := Envelope.reported_eq_nil_iff.mpr unreported
  simp [Reply.payload?, Nat.not_le_of_lt low, parsed, reported]

/-- Only the decode of an offered payload replaces the value. -/
theorem Concludes.left_eq {schema : Schema α} {name : String} {value left : α}
    {reply : Reply} {outcome : Except Interruption Unit}
    (concluded : Concludes schema name value reply outcome left) :
    left = (reply.replacement? schema name).getD value := by
  cases concluded with
  | roundTripFailed reason => rfl
  | bodyBroken status contentType reason => rfl
  | serverFault contentType content high =>
      simp [Reply.replacement?, Reply.payload?, high]
  | malformed low parsed =>
      simp [Reply.replacement?, Reply.payload?, parsed]
  | @reported _ _ _ envelope errors low parsed listed nonempty =>
      have reported : envelope.reported = errors := by simp [Envelope.reported, listed]
      obtain ⟨error, others, rfl⟩ := List.exists_cons_of_ne_nil nonempty
      simp [Reply.replacement?, Reply.payload?, parsed, reported]
  | withoutPayload low parsed unreported absent =>
      have offered := Envelope.payload?_eq_none_iff.mpr absent
      simp [Reply.replacement?, Reply.payload?_of_unreported name low parsed unreported,
        offered]
  | mistyped low parsed unreported found proper decoding =>
      have offered := Envelope.payload?_eq_some_iff.mpr ⟨found, proper⟩
      simp [Reply.replacement?, Reply.payload?_of_unreported name low parsed unreported,
        offered, decoding, Except.toOption]
  | replaced low parsed unreported found proper decoding =>
      have offered := Envelope.payload?_eq_some_iff.mpr ⟨found, proper⟩
      simp [Reply.replacement?, Reply.payload?_of_unreported name low parsed unreported,
        offered, decoding, Except.toOption]

/-- An operation that fails leaves the value as it was. -/
theorem Concludes.left_of_error {schema : Schema α} {name : String} {value left : α}
    {reply : Reply} {interruption : Interruption}
    (concluded : Concludes schema name value reply (.error interruption) left) :
    left = value := by
  cases concluded <;> rfl

/-- A reply only ever brings an error of the operation. -/
theorem Concludes.exists_error {schema : Schema α} {name : String} {value left : α}
    {reply : Reply} {interruption : Interruption}
    (concluded : Concludes schema name value reply (.error interruption) left) :
    ∃ error, interruption = .failed error := by
  cases concluded <;> exact ⟨_, rfl⟩

end ShapeQuery
