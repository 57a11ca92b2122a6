import ShapeQuery.Proofs.Execution.Run
import ShapeQuery.Proofs.Json.Order
import ShapeQuery.Proofs.Resource.Presentation
import ShapeQuery.Proofs.Resource.Request

/-!
# What stands behind a created or changed resource

Creating and changing a resource succeed on replies that carry an envelope without errors.
The resource is read from the member that the envelope has for it, if it has one; where
the envelope is silent, the resource is the default of its record.
-/

namespace ShapeQuery

/-- The reply arrived whole with a status below 500, and its body writes the envelope,
which reports no errors. -/
def Reply.Carries (reply : Reply) (envelope : Envelope) : Prop :=
  ∃ status contentType content,
    reply = .response status contentType (.bytes content) ∧ status < 500 ∧
      Envelope.parse (Text.decodeBody contentType content) = .ok envelope ∧
      (envelope.errors = none ∨ envelope.errors = some [])

/-- An operation succeeds exactly on the replies that carry an envelope without errors
whose payload, if there is one, decodes. -/
theorem concludes_ok_iff {α : Type} {schema : Schema α} {name : String} {value left : α}
    {reply : Reply} :
    Concludes schema name value reply (.ok ()) left ↔
      ∃ envelope, reply.Carries envelope ∧
        ((envelope.payload? name = none ∧ left = value) ∨
          ∃ payload, envelope.payload? name = some payload ∧
            schema.decode payload = .ok left) := by
  constructor
  · intro concluded
    cases concluded with
    | withoutPayload low parsed unreported absent =>
        exact ⟨_, ⟨_, _, _, rfl, low, parsed, unreported⟩,
          .inl ⟨Envelope.payload?_eq_none_iff.mpr absent, rfl⟩⟩
    | replaced low parsed unreported found proper decoding =>
        exact ⟨_, ⟨_, _, _, rfl, low, parsed, unreported⟩,
          .inr ⟨_, Envelope.payload?_eq_some_iff.mpr ⟨found, proper⟩, decoding⟩⟩
  · rintro ⟨envelope, ⟨status, contentType, content, rfl, low, parsed, unreported⟩,
      ⟨absent, rfl⟩ | ⟨payload, offered, decoding⟩⟩
    · exact .withoutPayload low parsed unreported (Envelope.payload?_eq_none_iff.mp absent)
    · obtain ⟨found, proper⟩ := Envelope.payload?_eq_some_iff.mp offered
      exact .replaced low parsed unreported found proper decoding

theorem Reply.Carries.ordered_payload {reply : Reply} {envelope : Envelope}
    (carries : reply.Carries envelope) {name : String} {payload : Json}
    (offered : envelope.payload? name = some payload) : payload.Ordered := by
  obtain ⟨_, _, _, _, _, parsed, _⟩ := carries
  obtain ⟨found, _⟩ := Envelope.payload?_eq_some_iff.mp offered
  obtain ⟨members, data, held⟩ := Option.bind_eq_some_iff.mp found
  exact (Envelope.ordered_of_parse parsed members data).of_find? held

/-- An operation with sendable arguments and a selection sends one request and concludes
from its reply. -/
theorem Client.exists_execution {m : Type → Type} [Monad m] [LawfulMonad m] (client : Client m)
    {α : Type} {call : OperationCall} {schema : Schema α} {fields : List Selection}
    (sendable : call.arguments.Sendable) (selected : schema.selection = .ok fields) (value : α) :
    ∃ request executed,
      client.execute call schema value = executed <$> client.transport.roundTrip request ∧
      ∀ reply outcome left,
        Concludes schema call.name value reply outcome left ↔
          (executed reply).outcome = outcome ∧ (executed reply).value = left := by
  obtain ⟨request, prepared⟩ : ∃ request, call.prepare client.endpoint schema = .ok request :=
    OperationCall.exists_request sendable selected
  refine ⟨request, _, execute_of_prepared prepared, ?_⟩
  -- the log entries play no part in the outcome and the value
  intro reply outcome left
  rw [concludes_iff, eq_comm, @eq_comm _ left]

open Decoding

/-! ## Records of one field -/

section

variable {family : Family} {declaration : RecordDeclaration} {field : FieldDeclaration}
  {name : String} {datum : Datum}

/-- What the one field of a record is read from: its member or the one item, or nothing, which
leaves its default. -/
inductive ReadsField (family : Family) (field : FieldDeclaration) : Json → Datum → Prop
  | member {members : List (String × Json)} {payload : Json} {value : Datum}
      (found : Named.find? field.wireName members = some payload)
      (decoded : decode family payload field.type = .ok value) :
      ReadsField family field (.object members) value
  | withoutMember {members : List (String × Json)}
      (absent : Named.find? field.wireName members = none) :
      ReadsField family field (.object members) (family.default field.type)
  | item {payload : Json} {value : Datum}
      (decoded : decode family payload field.type = .ok value) :
      ReadsField family field (.list [payload]) value
  | withoutItem : ReadsField family field (.list []) (family.default field.type)

theorem settles_iff_readsField {members : List (String × Json)} {value : Datum} :
    Settles family members field value ↔ ReadsField family field (.object members) value := by
  unfold Settles
  cases found : Named.find? field.wireName members with
  | none =>
      constructor
      · rintro rfl
        exact .withoutMember found
      · intro reads
        cases reads with
        | member other => cases found.symm.trans other
        | withoutMember => rfl
  | some payload =>
      constructor
      · exact .member found
      · intro reads
        cases reads with
        | member other decoded =>
            cases found.symm.trans other
            exact decoded
        | withoutMember absent => cases found.symm.trans absent

theorem settlesFields_single_iff {members : List (String × Json)}
    {values : List (String × Datum)} :
    SettlesFields family members [field] values ↔
      ∃ value, values = [(field.wireName, value)] ∧
        ReadsField family field (.object members) value := by
  constructor
  · intro settles
    cases settles with
    | @cons _ entry _ _ head rest =>
        cases rest
        exact ⟨entry.2, congrArg (· :: []) (Prod.ext head.1 rfl),
          settles_iff_readsField.mp head.2⟩
  · rintro ⟨value, rfl, reads⟩
    exact .cons ⟨rfl, settles_iff_readsField.mpr reads⟩ .nil

/-- A record of one field is read from a list of at most one item. -/
theorem fillsFields_single_iff (defaulted : declaration.defaulted = true) {items : List Json}
    {values : List (String × Datum)} :
    FillsFields family declaration [field] items values ↔
      ∃ value, values = [(field.wireName, value)] ∧
        ReadsField family field (.list items) value := by
  constructor
  · intro fills
    cases fills with
    | item decoded behind =>
        cases behind
        exact ⟨_, rfl, .item decoded⟩
    | default _ behind =>
        cases behind
        exact ⟨_, rfl, .withoutItem⟩
  · rintro ⟨value, rfl, reads⟩
    cases reads with
    | item decoded => exact .item decoded .done
    | withoutItem => exact .default (by rw [defaulted, Bool.true_or]) .done

/-- A record of one field is decoded exactly where this field is. -/
theorem decode_single_iff (declared : family.find? name = some declaration)
    (direct : declaration.Direct) (single : declaration.fields = [field]) {payload : Json}
    (ordered : payload.Ordered) :
    decode family payload (.record name) = .ok datum ↔
      ∃ value, datum = .record [(field.wireName, value)] ∧
        ReadsField family field payload value := by
  constructor
  · intro decoded
    obtain ⟨members, rfl⟩ | ⟨items, rfl⟩ := decode_record_cases decoded
    · rw [decode_object_record_iff declared direct ordered.nodup_names, single] at decoded
      obtain ⟨values, rfl, settles⟩ := decoded
      obtain ⟨value, rfl, reads⟩ := settlesFields_single_iff.mp settles
      exact ⟨value, rfl, reads⟩
    · rw [decode_list_record_iff declared, direct.readFields_eq, single] at decoded
      obtain ⟨values, rfl, fills⟩ := decoded
      obtain ⟨value, rfl, reads⟩ := (fillsFields_single_iff direct.1).mp fills
      exact ⟨value, rfl, reads⟩
  · rintro ⟨value, rfl, reads⟩
    cases payload with
    | object members =>
        rw [decode_object_record_iff declared direct ordered.nodup_names, single]
        exact ⟨_, rfl, settlesFields_single_iff.mpr ⟨value, rfl, reads⟩⟩
    | list items =>
        rw [decode_list_record_iff declared, direct.readFields_eq, single]
        exact ⟨_, rfl, (fillsFields_single_iff direct.1).mpr ⟨value, rfl, reads⟩⟩
    | _ => cases reads

end

/-! ## Records that wrap a record -/

/-- A record whose one member is a record itself. -/
def RecordDeclaration.wrapping (wrapper label member inner : String) : RecordDeclaration :=
  ⟨wrapper, [.renamed label member (.record inner)], true, false⟩

/-- The family has a record that wraps another one. -/
structure Family.Wraps (family : Family) (wrapper member inner : String) : Prop where
  declared : ∃ label,
    family.find? wrapper = some (.wrapping wrapper label member inner)
  default : family.default (.record wrapper) =
    .record [(member, family.default (.record inner))]

section

variable {family : Family} {name wrapper member inner : String} {datum : Datum}

/-- Null is no record. -/
theorem ne_null_of_decode_record {payload : Json}
    (decoded : decode family payload (.record name) = .ok datum) : payload ≠ .null := by
  rintro rfl
  obtain ⟨_, same⟩ | ⟨_, same⟩ := decode_record_cases decoded <;> cases same

/-- What a record is read from inside its wrapper: the member or the one item, or nothing,
which leaves the default. -/
inductive Unwraps (family : Family) (member inner : String) : Json → Datum → Prop
  | member {members : List (String × Json)} {payload : Json} {value : Datum}
      (found : Named.find? member members = some payload) (proper : payload ≠ .null)
      (decoded : decode family payload (.record inner) = .ok value) :
      Unwraps family member inner (.object members) value
  | withoutMember {members : List (String × Json)}
      (absent : Named.find? member members = none) :
      Unwraps family member inner (.object members) (family.default (.record inner))
  | item {payload : Json} {value : Datum} (proper : payload ≠ .null)
      (decoded : decode family payload (.record inner) = .ok value) :
      Unwraps family member inner (.list [payload]) value
  | withoutItem :
      Unwraps family member inner (.list []) (family.default (.record inner))

theorem readsField_iff_unwraps (label : String) {payload : Json} {value : Datum} :
    ReadsField family (.renamed label member (.record inner)) payload value ↔
      Unwraps family member inner payload value := by
  constructor
  · intro reads
    cases reads with
    | member found decoded => exact .member found (ne_null_of_decode_record decoded) decoded
    | withoutMember absent => exact .withoutMember absent
    | item decoded => exact .item (ne_null_of_decode_record decoded) decoded
    | withoutItem => exact .withoutItem
  · intro unwraps
    cases unwraps with
    | member found _ decoded => exact .member found decoded
    | withoutMember absent => exact .withoutMember absent
    | item _ decoded => exact .item decoded
    | withoutItem => exact .withoutItem

/-- A wrapper is decoded exactly where the record inside is found or may be left out. -/
theorem Family.Wraps.decode_iff (wraps : family.Wraps wrapper member inner)
    (direct : family.Direct) {payload : Json} (ordered : payload.Ordered) :
    decode family payload (.record wrapper) = .ok datum ↔
      ∃ value, datum = .record [(member, value)] ∧
        Unwraps family member inner payload value := by
  obtain ⟨label, declared⟩ := wraps.declared
  rw [decode_single_iff declared (direct.of_find? declared) rfl ordered]
  exact exists_congr fun value => and_congr_right fun _ => readsField_iff_unwraps label

end

theorem Datum.memberAt_record_single (name : String) (value : Datum) :
    (Datum.record [(name, value)]).memberAt name = value := by
  simp [memberAt, member?]

/-! ## Resources -/

namespace Resource

theorem wraps_repositoryAdded : records.Wraps "RepoAdded" "repoAdded" "BorgRepo" :=
  ⟨⟨_, rfl⟩, rfl⟩

theorem wraps_repositoryEdited : records.Wraps "RepoEdited" "repoEdited" "BorgRepo" :=
  ⟨⟨_, rfl⟩, rfl⟩

theorem wraps_keyAdded : records.Wraps "KeyAdded" "keyAdded" "SshKey" :=
  ⟨⟨_, rfl⟩, rfl⟩

/-- What an envelope says about a record below a root field: the payload of the root field
brings it, or there is no payload and the record is the default. -/
inductive Confirms (root member inner : String) (envelope : Envelope) : Datum → Prop
  | silent (absent : envelope.payload? root = none) :
      Confirms root member inner envelope (records.default (.record inner))
  | brought {payload : Json} {value : Datum} (offered : envelope.payload? root = some payload)
      (unwraps : Unwraps records member inner payload value) :
      Confirms root member inner envelope value

variable {α : Type} {wrapper member inner : String} {ofDatum : Datum → α}

theorem memberSchema_decode_iff (wraps : records.Wraps wrapper member inner) {payload : Json}
    (ordered : payload.Ordered) {resource : α} :
    (memberSchema wrapper member ofDatum).decode payload = .ok resource ↔
      ∃ value, Unwraps records member inner payload value ∧ resource = ofDatum value := by
  have unfolded : (memberSchema wrapper member ofDatum).decode payload =
      (decode records payload (.record wrapper)).map fun datum =>
        ofDatum (datum.memberAt member) := rfl
  rw [unfolded]
  constructor
  · intro mapped
    obtain ⟨datum, decoded, rfl⟩ := exists_of_map_eq_ok mapped
    obtain ⟨value, rfl, unwraps⟩ := (wraps.decode_iff records_direct ordered).mp decoded
    exact ⟨value, unwraps, by rw [Datum.memberAt_record_single]⟩
  · rintro ⟨value, unwraps, rfl⟩
    have decoded := (wraps.decode_iff records_direct ordered).mpr ⟨value, rfl, unwraps⟩
    rw [decoded, Except.map, Datum.memberAt_record_single]

variable {m : Type → Type} [Monad m]

/-- The operation sends one request, and it succeeds exactly on the replies that carry an
envelope without errors, with a resource that the envelope confirms. -/
def Confirmed (client : Client m) (operation : m (Report α)) (root member inner : String)
    (ofDatum : Datum → α) : Prop :=
  ∃ request report, operation = report <$> client.transport.roundTrip request ∧
    ∀ reply resource, (report reply).outcome = .ok resource ↔
      ∃ envelope value, reply.Carries envelope ∧ Confirms root member inner envelope value ∧
        resource = ofDatum value

theorem conclude_outcome_iff {note : α → List LogEntry} {execution : Execution α}
    {resource : α} :
    (conclude note execution).outcome = .ok resource ↔
      execution.outcome = .ok () ∧ execution.value = resource := by
  unfold conclude
  cases outcome : execution.outcome with
  | error interruption => simp
  | ok done => simp

theorem conclude_outcome_error_iff {note : α → List LogEntry} {execution : Execution α}
    {error : ResourceError} :
    (conclude note execution).outcome = .error error ↔
      ∃ interruption, execution.outcome = .error interruption ∧
        error = .interrupted interruption := by
  unfold conclude
  cases outcome : execution.outcome with
  | error interruption => simp [eq_comm]
  | ok done => simp

/-- What is reported on an operation is the value that its reply leaves, or the error that its
reply brings. -/
theorem exists_report [LawfulMonad m] (client : Client m) {call : OperationCall}
    {schema : Schema α} {fields : List Selection} (sendable : call.arguments.Sendable)
    (selected : schema.selection = .ok fields) (value : α) (note : α → List LogEntry) :
    ∃ request reported,
      (do
        let execution ← client.execute call schema value
        return conclude note execution) = reported <$> client.transport.roundTrip request ∧
      (∀ reply resource, (reported reply).outcome = .ok resource ↔
        Concludes schema call.name value reply (.ok ()) resource) ∧
      ∀ reply error, (reported reply).outcome = .error error ↔
        ∃ failure, error = .interrupted (.failed failure) ∧
          Concludes schema call.name value reply (.error (.failed failure)) value := by
  obtain ⟨request, executed, made, decides⟩ := client.exists_execution sendable selected value
  refine ⟨request, fun reply => conclude note (executed reply), ?_, ?_, ?_⟩
  · rw [made, bind_pure_comp, Functor.map_map]
  · intro reply resource
    rw [conclude_outcome_iff, decides]
  · intro reply error
    rw [conclude_outcome_error_iff]
    constructor
    · rintro ⟨interruption, interrupted, rfl⟩
      have concluded := (decides reply _ _).mpr ⟨interrupted, rfl⟩
      obtain ⟨failure, rfl⟩ := concluded.exists_error
      rw [concluded.left_of_error] at concluded
      exact ⟨failure, rfl, concluded⟩
    · rintro ⟨failure, rfl, concluded⟩
      exact ⟨_, ((decides reply _ _).mp concluded).1, rfl⟩

/-- The payload that a schema of a wrapped record decodes is the one that confirms. -/
theorem confirms_iff (wraps : records.Wraps wrapper member inner) {root : String}
    {envelope : Envelope} {reply : Reply} (carries : reply.Carries envelope) {resource : α} :
    ((envelope.payload? root = none ∧ resource = ofDatum (records.default (.record inner))) ∨
        ∃ payload, envelope.payload? root = some payload ∧
          (memberSchema wrapper member ofDatum).decode payload = .ok resource) ↔
      ∃ value, Confirms root member inner envelope value ∧ resource = ofDatum value := by
  constructor
  · rintro (⟨absent, rfl⟩ | ⟨payload, offered, decoded⟩)
    · exact ⟨_, .silent absent, rfl⟩
    · have ordered := carries.ordered_payload offered
      obtain ⟨value, unwraps, rfl⟩ := (memberSchema_decode_iff wraps ordered).mp decoded
      exact ⟨value, .brought offered unwraps, rfl⟩
  · rintro ⟨value, confirms, rfl⟩
    cases confirms with
    | silent absent => exact .inl ⟨absent, rfl⟩
    | brought offered unwraps =>
        have ordered := carries.ordered_payload offered
        exact .inr ⟨_, offered, (memberSchema_decode_iff wraps ordered).mpr ⟨value, unwraps, rfl⟩⟩

/-- A mutation whose value starts as the default of a wrapped record is confirmed. -/
theorem confirmed_mutation [LawfulMonad m] (wraps : records.Wraps wrapper member inner)
    {fields : List Selection} (selected : records.selection (.record wrapper) = .ok fields)
    (client : Client m) (root : String) {arguments : Arguments}
    (sendable : arguments.Sendable) (note : α → List LogEntry) :
    Confirmed client
      (do
        let execution ← client.mutation root arguments (memberSchema wrapper member ofDatum)
          (ofDatum ((records.default (.record wrapper)).memberAt member))
        return conclude note execution)
      root member inner ofDatum := by
  have start : (records.default (.record wrapper)).memberAt member =
      records.default (.record inner) := by
    rw [wraps.default, Datum.memberAt_record_single]
  rw [start]
  let call : OperationCall := ⟨.mutation, root, arguments⟩
  let schema := memberSchema wrapper member ofDatum
  let value := ofDatum (records.default (.record inner))
  obtain ⟨request, report, made, decides, _⟩ :=
    @exists_report _ _ _ _ client call schema fields sendable selected value note
  refine ⟨request, report, made, ?_⟩
  intro reply resource
  calc (report reply).outcome = .ok resource
      ↔ Concludes schema root value reply (.ok ()) resource := decides reply resource
    _ ↔ ∃ envelope, reply.Carries envelope ∧
          ∃ value, Confirms root member inner envelope value ∧ resource = ofDatum value := by
        rw [concludes_ok_iff]
        exact exists_congr fun envelope =>
          and_congr_right fun carries => confirms_iff wraps carries
    _ ↔ _ := by simp only [← exists_and_left]

/-- Creating and changing a resource send one request and succeed exactly on the replies
with a status below 500 that carry an envelope without errors.  The resource is read from
the member of the payload, or is the default of its record where the envelope is silent
about it. -/
theorem created_or_updated_confirmed [LawfulMonad m] (client : Client m) :
    (∀ name region settings,
      Confirmed client (Repository.create client name region settings)
        "repoAdd" "repoAdded" "BorgRepo" Repository.ofDatum) ∧
    (∀ id name? settings,
      Confirmed client (Repository.update client id name? settings)
        "repoEdit" "repoEdited" "BorgRepo" Repository.ofDatum) ∧
    (∀ name publicKey,
      Confirmed client (SshKey.create client name publicKey)
        "sshAdd" "keyAdded" "SshKey" SshKey.ofDatum) := by
  refine ⟨?_, ?_, ?_⟩
  · intro name region settings
    obtain ⟨fields, selected⟩ := ResultKind.repositoryAdded.exists_selection
    apply confirmed_mutation wraps_repositoryAdded selected
    exact settings.sendable_applyTo ((Arguments.sendable_empty.insert
      (Argument.sendable_mandatory name)).insert (Argument.sendable_mandatory region))
  · intro id name? settings
    obtain ⟨fields, selected⟩ := ResultKind.repositoryEdited.exists_selection
    apply confirmed_mutation wraps_repositoryEdited selected
    have identified : (Arguments.empty.insert "id" (.mandatory id)).Sendable :=
      Arguments.sendable_empty.insert (Argument.sendable_mandatory id)
    cases name? with
    | none => exact settings.sendable_applyTo identified
    | some name =>
        exact settings.sendable_applyTo (identified.insert (Argument.sendable_optional name))
  · intro name publicKey
    obtain ⟨fields, selected⟩ := ResultKind.keyAdded.exists_selection
    apply confirmed_mutation wraps_keyAdded selected
    exact (Arguments.sendable_empty.insert (Argument.sendable_optional name)).insert
      (Argument.sendable_optional publicKey)

/-- A client to which every request brings the same reply. -/
def answering (reply : Reply) : Client Id :=
  ⟨⟨"answering", fun _ => reply⟩, .standard⟩

/-- Settings of which none is present. -/
def unset : RepositorySettings :=
  ⟨none, none, none, none, none, none, none, none, none, none⟩

/-- A reply without errors whose data have one payload. -/
def offering (root : String) (payload : Json) : Reply :=
  .written 200 (.object [("data", .object [(root, payload)])])

theorem created_or_updated_confirmed_identifiedKey :
    ∃ envelope value,
      (offering "sshAdd" (.object [("keyAdded", .object [("id", .text "k1")])])).Carries
        envelope ∧
      Confirms "sshAdd" "keyAdded" "SshKey" envelope value ∧
      (⟨"k1", "", "", 0, "", "", none, "", "", ""⟩ : SshKey) = SshKey.ofDatum value := by
  let reply := offering "sshAdd" (.object [("keyAdded", .object [("id", .text "k1")])])
  obtain ⟨request, report, made, decides⟩ :=
    (created_or_updated_confirmed (answering reply)).2.2 "laptop" "ssh-ed25519 AAAAC3Nz"
  have succeeded : (SshKey.create (answering reply) "laptop" "ssh-ed25519 AAAAC3Nz").run.outcome =
      .ok ⟨"k1", "", "", 0, "", "", none, "", "", ""⟩ := by
    decide +kernel
  rw [made] at succeeded
  exact (decides reply _).mp succeeded

/-- The payload of a reply holds an object for a record, and the resource is its decode. -/
def Backed (root member inner : String) (ofDatum : Datum → α) (reply : Reply) (resource : α) :
    Prop :=
  ∃ payload value, (reply.payload? root).bind (Json.member? member) = some payload ∧
    payload.isObject = true ∧ decode records payload (.record inner) = .ok value ∧
    resource = ofDatum value

theorem Backed.isObject {root member inner : String} {ofDatum : Datum → α} {reply : Reply}
    {resource : α} (backed : Backed root member inner ofDatum reply resource) :
    ((reply.payload? root).bind (Json.member? member)).any Json.isObject = true := by
  obtain ⟨payload, _, held, object, _, _⟩ := backed
  rw [held]
  exact object

/-- A null payload, an object without the member and a list all count as success, though
there is no object behind the resource. -/
theorem created_or_updated_without_object :
    ((Repository.create (answering (offering "repoAdd" .null)) "laptop" "eu" unset).run.outcome =
        .ok (Repository.ofDatum (records.default (.record "BorgRepo"))) ∧
      ∀ resource, ¬ Backed "repoAdd" "repoAdded" "BorgRepo" Repository.ofDatum
        (offering "repoAdd" .null) resource) ∧
    ((Repository.update (answering (offering "repoEdit" (.object []))) "7" none
          unset).run.outcome =
        .ok (Repository.ofDatum (records.default (.record "BorgRepo"))) ∧
      ∀ resource, ¬ Backed "repoEdit" "repoEdited" "BorgRepo" Repository.ofDatum
        (offering "repoEdit" (.object [])) resource) ∧
    ((SshKey.create (answering (offering "sshAdd" (.list [.list [.text "k1"]]))) "laptop"
          "ssh-ed25519 AAAAC3Nz").run.outcome =
        .ok ⟨"k1", "", "", 0, "", "", none, "", "", ""⟩ ∧
      ∀ resource, ¬ Backed "sshAdd" "keyAdded" "SshKey" SshKey.ofDatum
        (offering "sshAdd" (.list [.list [.text "k1"]])) resource) := by
  refine ⟨⟨by decide +kernel, ?_⟩, ⟨by decide +kernel, ?_⟩, ⟨by decide +kernel, ?_⟩⟩
  · intro resource backed
    exact absurd backed.isObject (by decide +kernel)
  · intro resource backed
    exact absurd backed.isObject (by decide +kernel)
  · intro resource backed
    exact absurd backed.isObject (by decide +kernel)

end Resource

end ShapeQuery
