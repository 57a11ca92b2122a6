import ShapeQuery.Proofs.Execution.Conclusion
import ShapeQuery.Proofs.Execution.Preparation

/-!
# How operations end

An operation ends with an outcome and leaves a value; its log is left aside.  Where the body
of a reply is an envelope, the errors that it reports and the payload that it offers decide
both.
-/

namespace ShapeQuery

variable {α : Type}

/-- The reply arrived whole with a status below 500, and its text is the body. -/
def Reply.Brings (reply : Reply) (body : String) : Prop :=
  ∃ status contentType content, reply = .response status contentType (.bytes content) ∧
    status < 500 ∧ Text.decodeBody contentType content = body

/-- A response whose body is the text, of which nothing else is said. -/
def Reply.saying (status : Nat) (body : String) : Reply :=
  .response status none (.bytes (utf8Bytes body))

/-- A transport on which every request brings the same reply. -/
def Transport.answering (reply : Reply) : Transport Id :=
  ⟨"answering", fun _ => reply⟩

namespace Envelope

/-- The outcome and the value left, by what an envelope reports and offers. -/
def verdict (schema : Schema α) (value : α) :
    List ServerError → Option Json → Except Interruption Unit × α
  | error :: others, _ => (.error (.failed (.server (error :: others))), value)
  | [], none => (.ok (), value)
  | [], some payload =>
    match schema.decode payload with
    | .ok decoded => (.ok (), decoded)
    | .error fault => (.error (.failed (.decode (.data fault))), value)

/-- The outcome and the value left, by what is made of a body. -/
def settle (schema : Schema α) (name : String) (value : α) :
    Except Json.Fault Envelope → Except Interruption Unit × α
  | .error fault => (.error (.failed (.decode fault)), value)
  | .ok envelope => verdict schema value envelope.reported (envelope.payload? name)

end Envelope

theorem ofBody_eq_settle (call : OperationCall) (schema : Schema α) (value : α)
    (logs : List LogEntry) (body : String) :
    ((Execution.ofBody call schema value logs body).outcome,
        (Execution.ofBody call schema value logs body).value) =
      Envelope.settle schema call.name value (Envelope.parse body) := by
  unfold Execution.ofBody
  cases Envelope.parse body with
  | error fault => rfl
  | ok envelope =>
      rw [Envelope.settle]
      dsimp only
      cases envelope.reported with
      | cons error others => rfl
      | nil =>
          dsimp only
          cases envelope.payload? call.name with
          | none => rfl
          | some payload =>
              rw [Envelope.verdict]
              dsimp only
              cases schema.decode payload <;> rfl

section

variable {m : Type → Type} [Monad m]

/-- The operation ends with the outcome and leaves the value. -/
def Ends (run : m (Execution α)) (outcome : Except Interruption Unit) (left : α) : Prop :=
  ∃ logs, run = pure ⟨outcome, left, logs⟩

variable {transport : Transport m} {endpoint : Endpoint} {call : OperationCall}
  {schema : Schema α} {value : α}

theorem ends_of_refused {interruption : Interruption}
    (refused : call.prepare endpoint schema = .error interruption) :
    Ends (execute transport endpoint call schema value) (.error interruption) value :=
  ⟨[], execute_of_refused refused⟩

/-- A request that is answered ends as the body of the answer decides. -/
theorem ends_of_brings [LawfulMonad m] {request : Request} {reply : Reply} {body : String}
    (prepared : call.prepare endpoint schema = .ok request)
    (answered : transport.roundTrip request = pure reply) (brings : reply.Brings body) :
    Ends (execute transport endpoint call schema value)
      (Envelope.settle schema call.name value (Envelope.parse body)).1
      (Envelope.settle schema call.name value (Envelope.parse body)).2 := by
  obtain ⟨status, contentType, content, rfl, low, rfl⟩ := brings
  rw [execute_of_prepared prepared, answered, map_pure, ← ofBody_eq_settle call schema value
    [.debug ("GraphQL " ++ call.label ++ " returned status " ++ Nat.repr status)]]
  simp only [Execution.ofReply, if_neg (Nat.not_le_of_lt low)]
  exact ⟨_, rfl⟩

end

end ShapeQuery
