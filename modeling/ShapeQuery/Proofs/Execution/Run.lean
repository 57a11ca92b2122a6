import ShapeQuery.Proofs.Execution.Conclusion
import ShapeQuery.Proofs.Execution.Preparation

/-!
# Runs of operations

Several operations are executed one after the other on one value.  A run goes
through its exchanges without looking at the value, and the exchanges alone decide
what becomes of it: every operation concludes as `Concludes` describes, and the
value in the end is the decode of the last payload that replaced it.
-/

namespace ShapeQuery

variable {α : Type} {m : Type → Type}

/-- One operation of a run, with the transport and the endpoint it goes through. -/
structure Attempt (m : Type → Type) where
  transport : Transport m
  endpoint : Endpoint
  call : OperationCall

/-- What becomes of the request of an operation: a reply, or why none was sent. -/
abbrev Exchange := Except Interruption Reply

/-- Sends the request of an operation, if one can be prepared. -/
def Attempt.exchange [Monad m] (schema : Schema α) (attempt : Attempt m) : m Exchange :=
  match attempt.call.prepare attempt.endpoint schema with
  | .error interruption => pure (.error interruption)
  | .ok request => Except.ok <$> attempt.transport.roundTrip request

/-- Executes operations one after the other on a value: their outcomes, and the
value in the end. -/
def runAll [Monad m] (schema : Schema α) :
    List (Attempt m) → α → m (List (Except Interruption Unit) × α)
  | [], value => pure ([], value)
  | attempt :: rest, value => do
    let execution ← execute attempt.transport attempt.endpoint attempt.call schema value
    let (outcomes, left) ← runAll schema rest execution.value
    return (execution.outcome :: outcomes, left)

/-- The outcomes of several operations on a value and the value in the end, given
the name of each operation and its exchange. -/
inductive History (schema : Schema α) :
    List (String × Exchange) → α → List (Except Interruption Unit) → α → Prop where
  | done (value : α) : History schema [] value [] value
  | unsent {name : String} {interruption : Interruption} {value left : α}
      {turns : List (String × Exchange)} {outcomes : List (Except Interruption Unit)} :
      History schema turns value outcomes left →
      History schema ((name, .error interruption) :: turns) value
        (.error interruption :: outcomes) left
  | sent {name : String} {reply : Reply} {outcome : Except Interruption Unit}
      {value settled left : α} {turns : List (String × Exchange)}
      {outcomes : List (Except Interruption Unit)} :
      Concludes schema name value reply outcome settled →
      History schema turns settled outcomes left →
      History schema ((name, .ok reply) :: turns) value (outcome :: outcomes) left

/-- The value that an exchange brings in place of the previous one. -/
def Exchange.replacement? (schema : Schema α) : String × Exchange → Option α
  | (_, .error _) => none
  | (name, .ok reply) => reply.replacement? schema name

/-! ## Replaying exchanges -/

/-- The outcome of an operation on a value and the value left, given its exchange. -/
def OperationCall.settle (schema : Schema α) (call : OperationCall) (value : α) :
    Exchange → Except Interruption Unit × α
  | .error interruption => (.error interruption, value)
  | .ok reply =>
    let execution := Execution.ofReply call schema value reply
    (execution.outcome, execution.value)

/-- Settles operations one after the other. -/
def replay (schema : Schema α) :
    List OperationCall → List Exchange → α → List (Except Interruption Unit) × α
  | call :: calls, exchange :: exchanges, value =>
    let (outcome, settled) := call.settle schema value exchange
    let (outcomes, left) := replay schema calls exchanges settled
    (outcome :: outcomes, left)
  | _, _, value => ([], value)

theorem outcome_value_execute [Monad m] [LawfulMonad m] (schema : Schema α)
    (attempt : Attempt m) (value : α) :
    (fun execution => (execution.outcome, execution.value)) <$>
        execute attempt.transport attempt.endpoint attempt.call schema value =
      attempt.call.settle schema value <$> attempt.exchange schema := by
  cases preparation : attempt.call.prepare attempt.endpoint schema with
  | error interruption =>
      rw [execute_of_refused preparation, Attempt.exchange, preparation]
      simp [OperationCall.settle]
  | ok request =>
      rw [execute_of_prepared preparation, Attempt.exchange, preparation]
      simp [OperationCall.settle]

theorem runAll_cons [Monad m] [LawfulMonad m] (schema : Schema α) (attempt : Attempt m)
    (rest : List (Attempt m)) (value : α) :
    runAll schema (attempt :: rest) value =
      attempt.exchange schema >>= fun exchange =>
        let settled := attempt.call.settle schema value exchange
        (fun final => (settled.1 :: final.1, final.2)) <$> runAll schema rest settled.2 := by
  have first := outcome_value_execute schema attempt value
  calc
    runAll schema (attempt :: rest) value
        = ((fun execution => (execution.outcome, execution.value)) <$>
            execute attempt.transport attempt.endpoint attempt.call schema value) >>=
          fun settled =>
            (fun final => (settled.1 :: final.1, final.2)) <$>
              runAll schema rest settled.2 := by
        simp [runAll]
    _ = (attempt.call.settle schema value <$> attempt.exchange schema) >>=
          fun settled =>
            (fun final => (settled.1 :: final.1, final.2)) <$>
              runAll schema rest settled.2 := by
        rw [first]
    _ = _ := by
        rw [bind_map_left]

/-- A run is the replay of its exchanges. -/
theorem runAll_eq_replay [Monad m] [LawfulMonad m] (schema : Schema α)
    (attempts : List (Attempt m)) (value : α) :
    runAll schema attempts value =
      (fun exchanges => replay schema (attempts.map Attempt.call) exchanges value) <$>
        attempts.mapM (Attempt.exchange schema) := by
  -- the value is generalized because the first operation may have replaced it
  induction attempts generalizing value with
  | nil => simp [runAll, replay]
  | cons attempt rest induction =>
      simp only [runAll_cons, induction, List.mapM_cons, List.map_cons, replay,
        ← bind_pure_comp, bind_assoc, pure_bind]

theorem history_replay (schema : Schema α) (calls : List OperationCall)
    (exchanges : List Exchange) (value : α) :
    History schema ((calls.map OperationCall.name).zip exchanges) value
      (replay schema calls exchanges value).1 (replay schema calls exchanges value).2 := by
  induction calls generalizing exchanges value with
  | nil => exact .done value
  | cons call calls induction =>
      cases exchanges with
      | nil => exact .done value
      | cons exchange exchanges =>
          cases exchange with
          | error interruption =>
              apply History.unsent
              exact induction exchanges value
          | ok reply =>
              apply History.sent
              · exact concludes_ofReply call schema value reply
              · exact induction exchanges _

/-- The value in the end is the last replacement, or the first value if there was
none. -/
theorem History.left_eq {schema : Schema α} {turns : List (String × Exchange)}
    {value left : α} {outcomes : List (Except Interruption Unit)}
    (history : History schema turns value outcomes left) :
    left = ((turns.filterMap (Exchange.replacement? schema)).getLast?).getD value := by
  induction history with
  | done value => rfl
  | unsent rest induction => simpa [Exchange.replacement?] using induction
  | @sent name reply outcome value settled left turns outcomes concluded rest induction =>
      rw [induction, concluded.left_eq]
      cases replaced : reply.replacement? schema name with
      | none => simp [Exchange.replacement?, replaced]
      | some replacement =>
          simp [Exchange.replacement?, replaced, List.getLast?_cons]

/-- What becomes of a run is decided by its exchanges alone: each operation keeps or
replaces the value as its reply says, and the value in the end is the last
replacement, or the first value if there was none. -/
theorem runAll_keeps_or_replaces [Monad m] [LawfulMonad m] (schema : Schema α)
    (attempts : List (Attempt m)) (value : α) :
    ∃ settled : List Exchange → List (Except Interruption Unit) × α,
      runAll schema attempts value =
        settled <$> attempts.mapM (Attempt.exchange schema) ∧
      ∀ exchanges : List Exchange,
        let turns := (attempts.map fun attempt => attempt.call.name).zip exchanges
        History schema turns value (settled exchanges).1 (settled exchanges).2 ∧
        (settled exchanges).2 =
          ((turns.filterMap (Exchange.replacement? schema)).getLast?).getD value := by
  refine ⟨fun exchanges => replay schema (attempts.map Attempt.call) exchanges value,
    runAll_eq_replay schema attempts value, ?_⟩
  intro exchanges turns
  have history : History schema turns value
      (replay schema (attempts.map Attempt.call) exchanges value).1
      (replay schema (attempts.map Attempt.call) exchanges value).2 := by
    have replayed := history_replay schema (attempts.map Attempt.call) exchanges value
    rwa [List.map_map] at replayed
  exact ⟨history, history.left_eq⟩

/-- A transport that gives the replies of a script, and fails behind its end. -/
def Transport.scripted : Transport (StateM (List Reply)) where
  description := "scripted"
  roundTrip := fun _ script => (script.headD (.failed "end of script"), script.tail)

/-- A count that is read as an integer. -/
def countSchema : Schema Int where
  selection := .ok []
  decode
    | .integer value => .ok value
    | _ => .error (.missingMember "count")

/-- A query of a count that goes through the script. -/
def countAttempt : Attempt (StateM (List Reply)) :=
  ⟨.scripted, .standard, ⟨.query, "count", .empty⟩⟩

/-- A response whose body writes a value. -/
def Reply.written (status : Nat) (json : Json) : Reply :=
  .response status none (.bytes (utf8Bytes json.render))

/-- The data of a counted reply. -/
def countData (count : Json) : String × Json :=
  ("data", .object [("count", count)])

/-- Two payloads that decode, among replies that replace nothing in different ways. -/
def countReplies : List Reply :=
  [.written 200 (.object [countData (.integer 3)]),
    .written 502 (.object [countData (.integer 4)]),
    .written 404 (.object [countData (.integer 5)]),
    .written 200 (.object [countData (.integer 6),
      ("errors", .list [.object [("message", .text "late")]])]),
    .written 200 (.object [countData (.text "7")]),
    .written 200 (.object [countData .null]),
    .failed "reset"]

theorem runAll_countReplies :
    ((runAll countSchema (List.replicate 7 countAttempt) 0).run countReplies).1.2 = 5 := by
  obtain ⟨settled, run, decided⟩ :=
    runAll_keeps_or_replaces countSchema (List.replicate 7 countAttempt) 0
  have exchanged : ((List.replicate 7 countAttempt).mapM (Attempt.exchange countSchema)).run
      countReplies = (countReplies.map .ok, []) := rfl
  have left := (decided (countReplies.map .ok)).2
  calc
    ((runAll countSchema (List.replicate 7 countAttempt) 0).run countReplies).1.2
        = (settled (countReplies.map .ok)).2 := by
        rw [run, StateT.run_map, exchanged]
        rfl
    _ = _ := left
    _ = 5 := by decide +kernel

end ShapeQuery
