import ShapeQuery.Proofs.Resource.Confirmation

/-!
# Deletions

A deletion counts as confirmed on a payload that says so and on no other reply.  Where the
envelope is silent, or the payload leaves the flag out, the deletion succeeds unconfirmed; every
other reply is an error.
-/

namespace ShapeQuery.Resource

open Decoding

/-! ## The flag of a deletion -/

/-- What a payload answers about a deletion: its flag, or false where it leaves the flag out. -/
inductive Answers : Json → Bool → Prop
  | member {members : List (String × Json)} {flag : Bool}
      (found : Named.find? "ok" members = some (.boolean flag)) : Answers (.object members) flag
  | withoutMember {members : List (String × Json)}
      (absent : Named.find? "ok" members = none) : Answers (.object members) false
  | item (flag : Bool) : Answers (.list [.boolean flag]) flag
  | withoutItem : Answers (.list []) false

theorem readsField_iff_answers {payload : Json} {value : Datum} :
    ReadsField records (.plain "ok" (.scalar .boolean)) payload value ↔
      ∃ flag, value = .boolean flag ∧ Answers payload flag := by
  constructor
  · intro reads
    cases reads with
    | member found decoded =>
        obtain ⟨flag, rfl, rfl⟩ := decode_boolean_iff.mp decoded
        exact ⟨flag, rfl, .member found⟩
    | withoutMember absent => exact ⟨false, rfl, .withoutMember absent⟩
    | item decoded =>
        obtain ⟨flag, rfl, rfl⟩ := decode_boolean_iff.mp decoded
        exact ⟨flag, rfl, .item flag⟩
    | withoutItem => exact ⟨false, rfl, .withoutItem⟩
  · rintro ⟨flag, rfl, answers⟩
    cases answers with
    | member found => exact .member found rfl
    | withoutMember absent => exact .withoutMember absent
    | item => exact .item rfl
    | withoutItem => exact .withoutItem

theorem decode_deletion_iff {payload : Json} (ordered : payload.Ordered) {datum : Datum} :
    decode records payload (.record "DeleteResult") = .ok datum ↔
      ∃ flag, datum = .record [("ok", .boolean flag)] ∧ Answers payload flag := by
  have declared : records.find? "DeleteResult" = some deletionRecord := rfl
  rw [decode_single_iff declared (records_direct.of_find? declared) rfl ordered]
  constructor
  · rintro ⟨value, rfl, reads⟩
    obtain ⟨flag, rfl, answers⟩ := readsField_iff_answers.mp reads
    exact ⟨flag, rfl, answers⟩
  · rintro ⟨flag, rfl, answers⟩
    exact ⟨_, rfl, readsField_iff_answers.mpr ⟨flag, rfl, answers⟩⟩

theorem deletionSchema_decode_iff {payload : Json} (ordered : payload.Ordered) {flag : Bool} :
    deletionSchema.decode payload = .ok ⟨flag⟩ ↔ Answers payload flag := by
  have unfolded : deletionSchema.decode payload =
      (decode records payload (.record "DeleteResult")).map DeletionResult.ofDatum := rfl
  rw [unfolded]
  constructor
  · intro mapped
    obtain ⟨datum, decoded, same⟩ := exists_of_map_eq_ok mapped
    obtain ⟨answer, rfl, answers⟩ := (decode_deletion_iff ordered).mp decoded
    cases same
    exact answers
  · intro answers
    rw [(decode_deletion_iff ordered).mpr ⟨flag, rfl, answers⟩]
    rfl

/-! ## What is reported on a deletion -/

/-- What a deletion reports on one reply, by the payload below a root field. -/
structure ReportsDeletion (root : String) (reply : Reply) (reported : Report DeletionResult) :
    Prop where
  confirmed : reported.outcome = .ok ⟨true⟩ ↔
    ∃ envelope payload, reply.Carries envelope ∧ envelope.payload? root = some payload ∧
      deletionSchema.decode payload = .ok ⟨true⟩
  unconfirmed : reported.outcome = .ok ⟨false⟩ ↔
    ∃ envelope, reply.Carries envelope ∧
      (envelope.payload? root = none ∨
        ∃ payload, envelope.payload? root = some payload ∧
          deletionSchema.decode payload = .ok ⟨false⟩)
  answered : ∀ envelope payload flag, reply.Carries envelope →
    envelope.payload? root = some payload →
      (deletionSchema.decode payload = .ok ⟨flag⟩ ↔ Answers payload flag)
  failed : ∀ error, reported.outcome = .error error ↔
    ∃ failure, error = .interrupted (.failed failure) ∧
      Concludes deletionSchema root ⟨false⟩ reply (.error (.failed failure)) ⟨false⟩

/-- A value that starts as unconfirmed is confirmed by a payload only. -/
theorem concludes_confirmed_iff {root : String} {reply : Reply} :
    Concludes deletionSchema root ⟨false⟩ reply (.ok ()) ⟨true⟩ ↔
      ∃ envelope payload, reply.Carries envelope ∧ envelope.payload? root = some payload ∧
        deletionSchema.decode payload = .ok ⟨true⟩ := by
  rw [concludes_ok_iff]
  constructor
  · rintro ⟨envelope, carries, ⟨_, same⟩ | ⟨payload, offered, decoded⟩⟩
    · cases same
    · exact ⟨envelope, payload, carries, offered, decoded⟩
  · rintro ⟨envelope, payload, carries, offered, decoded⟩
    exact ⟨envelope, carries, .inr ⟨payload, offered, decoded⟩⟩

theorem concludes_unconfirmed_iff {root : String} {reply : Reply} :
    Concludes deletionSchema root ⟨false⟩ reply (.ok ()) ⟨false⟩ ↔
      ∃ envelope, reply.Carries envelope ∧
        (envelope.payload? root = none ∨
          ∃ payload, envelope.payload? root = some payload ∧
            deletionSchema.decode payload = .ok ⟨false⟩) := by
  rw [concludes_ok_iff]
  simp only [and_true]

variable {m : Type → Type} [Monad m] {α : Type} [Resource α]

/-- A deletion is reported as confirmed exactly on the replies with a status below 500 that
carry an envelope without errors and a payload whose flag is true.  It is reported as
unconfirmed where there is no payload or its flag is false or missing, and every other reply
gives the error that it brings. -/
theorem delete_confirmed_only_by_flag [LawfulMonad m] (client : Client m) (id : String) :
    ∃ request reported, delete α client id = reported <$> client.transport.roundTrip request ∧
      ∀ reply, ReportsDeletion (deleteName α) reply (reported reply) := by
  let call : OperationCall :=
    ⟨.mutation, deleteName α, Arguments.empty.insert "id" (.mandatory id)⟩
  have sendable : call.arguments.Sendable :=
    Arguments.sendable_empty.insert (Argument.sendable_mandatory id)
  have selected : deletionSchema.selection = .ok [.leaf "ok"] := rfl
  obtain ⟨request, reported, made, ok, error⟩ := exists_report client sendable selected ⟨false⟩ _
  refine ⟨request, reported, made, fun reply => ⟨?_, ?_, ?_, error reply⟩⟩
  · exact (ok reply ⟨true⟩).trans concludes_confirmed_iff
  · exact (ok reply ⟨false⟩).trans concludes_unconfirmed_iff
  · intro envelope payload flag carries offered
    exact deletionSchema_decode_iff (carries.ordered_payload offered)

theorem delete_confirmed_only_by_flag_key :
    (∃ envelope payload,
      (offering "sshDelete" (.object [("ok", .boolean true)])).Carries envelope ∧
        envelope.payload? "sshDelete" = some payload ∧
        deletionSchema.decode payload = .ok ⟨true⟩) ∧
    ¬ ∃ envelope payload, (offering "sshDelete" (.object [])).Carries envelope ∧
        envelope.payload? "sshDelete" = some payload ∧
        deletionSchema.decode payload = .ok ⟨true⟩ := by
  constructor
  · let reply := offering "sshDelete" (.object [("ok", .boolean true)])
    obtain ⟨request, reported, made, decides⟩ :=
      @delete_confirmed_only_by_flag Id _ SshKey _ _ (answering reply) "k1"
    have succeeded : (delete SshKey (answering reply) "k1").run.outcome = .ok ⟨true⟩ := by
      decide +kernel
    rw [made] at succeeded
    exact (decides reply).confirmed.mp succeeded
  · -- an object without the flag decodes, and leaves the deletion unconfirmed
    let reply := offering "sshDelete" (.object [])
    obtain ⟨request, reported, made, decides⟩ :=
      @delete_confirmed_only_by_flag Id _ SshKey _ _ (answering reply) "k1"
    have unconfirmed : (delete SshKey (answering reply) "k1").run.outcome = .ok ⟨false⟩ := by
      decide +kernel
    rw [made] at unconfirmed
    intro flagged
    cases unconfirmed.symm.trans ((decides reply).confirmed.mpr flagged)

end ShapeQuery.Resource
