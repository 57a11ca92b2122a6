import ShapeQuery.Proofs.Resource.Confirmation

/-!
# Searches by name

A search lists the resources of a name and takes the first one that has exactly this name.
What it finds is read off the reply as a whole: the list that the reply shows decides between
a resource and its absence, and a reply that shows no list is passed on as the failure it is.
-/

namespace ShapeQuery

open Decoding

/-! ## Members of decoded records -/

theorem Datum.memberAt_record_cons (name held : String) (value : Datum)
    (rest : List (String × Datum)) :
    (Datum.record ((held, value) :: rest)).memberAt name =
      if name = held then value else (Datum.record rest).memberAt name := by
  have found := Named.find?_cons name held value rest
  simp only [Named.find?] at found
  simp only [memberAt, member?, found]
  split <;> rfl

/-- The member of a decoded record settles the field of its name. -/
theorem Decoding.SettlesFields.settles_memberAt {family : Family}
    {members : List (String × Json)} {fields : List FieldDeclaration}
    {values : List (String × Datum)} (settles : SettlesFields family members fields values)
    (distinct : (fields.map fun field => field.wireName).Nodup) {field : FieldDeclaration}
    (member : field ∈ fields) :
    Settles family members field ((Datum.record values).memberAt field.wireName) := by
  induction settles with
  | nil => cases member
  | @cons head value fields values settled rest induction =>
      obtain ⟨absent, distinct⟩ := List.nodup_cons.mp distinct
      obtain ⟨same, settled⟩ := settled
      rw [Datum.memberAt_record_cons, same]
      obtain rfl | inRest := List.mem_cons.mp member
      · rw [if_pos rfl]
        exact settled
      · have other : field.wireName ≠ head.wireName := fun equal =>
          absent (List.mem_map.mpr ⟨field, inRest, equal⟩)
        rw [if_neg other]
        exact induction distinct inRest

/-- Items related to what is converted from items that are related themselves. -/
theorem forall₂_converted_iff {α β γ : Type} {relates : α → β → Prop} {convert : β → γ}
    {items : List α} {results : List γ} :
    List.Forall₂ (fun item result => ∃ value, relates item value ∧ result = convert value)
        items results ↔
      ∃ values, List.Forall₂ relates items values ∧ results = values.map convert := by
  constructor
  · intro related
    induction related with
    | nil => exact ⟨[], .nil, rfl⟩
    | cons head _ induction =>
        obtain ⟨value, holds, rfl⟩ := head
        obtain ⟨values, others, rfl⟩ := induction
        exact ⟨value :: values, .cons holds others, rfl⟩
  · rintro ⟨values, related, rfl⟩
    rw [List.forall₂_map_right_iff]
    exact related.imp fun _ value holds => ⟨value, holds, rfl⟩

namespace Resource

variable {α : Type} [Resource α]

/-! ## The name of a resource -/

/-- Resources whose name is a member of their record. -/
structure NamedByRecord (α : Type) [Resource α] : Prop where
  declared : ∃ declaration, records.find? (recordName α) = some declaration ∧
    .plain "name" (.scalar .text) ∈ declaration.fields
  name_eq : ∀ datum, name (ofDatum datum : α) = datum.textAt "name"

theorem namedByRecord_repository : NamedByRecord Repository :=
  ⟨⟨_, rfl, by simp [repositoryRecord]⟩, fun _ => rfl⟩

theorem namedByRecord_key : NamedByRecord SshKey :=
  ⟨⟨_, rfl, by simp [keyRecord]⟩, fun _ => rfl⟩

/-- The members of an object give the name as a text, or leave it out, and then it is empty. -/
def Names (members : List (String × Json)) (given : String) : Prop :=
  Named.find? "name" members = some (.text given) ∨
    Named.find? "name" members = none ∧ given = ""

theorem NamedByRecord.names_of_decode (named : NamedByRecord α)
    {members : List (String × Json)} (ordered : (Json.object members).Ordered) {datum : Datum}
    (decoded : decode records (.object members) (.record (recordName α)) = .ok datum) :
    Names members (name (ofDatum datum : α)) := by
  obtain ⟨declaration, declared, member⟩ := named.declared
  have direct := records_direct.of_find? declared
  rw [decode_object_record_iff declared direct ordered.nodup_names] at decoded
  obtain ⟨values, rfl, settles⟩ := decoded
  have settled : Settles records members (.plain "name" (.scalar .text))
      ((Datum.record values).memberAt "name") :=
    settles.settles_memberAt direct.2.2.2 member
  rw [Names, named.name_eq, Datum.textAt]
  generalize (Datum.record values).memberAt "name" = held at settled ⊢
  cases settles_iff_readsField.mp settled with
  | member found decoded =>
      obtain ⟨text, rfl, rfl⟩ := decode_text_iff.mp decoded
      exact .inl found
  | withoutMember absent => exact .inr ⟨absent, rfl⟩

/-! ## The list that a reply shows -/

/-- The payload is decoded to the resource. -/
def Reads (payload : Json) (item : α) : Prop :=
  ∃ datum, decode records payload (.record (recordName α)) = .ok datum ∧ item = ofDatum datum

/-- What a reply without errors shows as the list of resources: the decode of every item of
the payload in turn, or nothing where the envelope is silent. -/
inductive Lists (reply : Reply) : List α → Prop
  | silent {envelope : Envelope} (carries : reply.Carries envelope)
      (absent : envelope.payload? (listName α) = none) : Lists reply []
  | brought {envelope : Envelope} {payloads : List Json} {items : List α}
      (carries : reply.Carries envelope)
      (offered : envelope.payload? (listName α) = some (.list payloads))
      (reads : List.Forall₂ Reads payloads items) : Lists reply items

theorem listSchema_decode_iff {payload : Json} {items : List α} :
    (listSchema α).decode payload = .ok items ↔
      ∃ payloads, payload = .list payloads ∧ List.Forall₂ Reads payloads items := by
  have unfolded : (listSchema α).decode payload =
      (decode records payload (.list (.record (recordName α)))).map fun datum =>
        datum.items.map ofDatum := rfl
  rw [unfolded]
  constructor
  · intro mapped
    obtain ⟨datum, decoded, rfl⟩ := exists_of_map_eq_ok mapped
    obtain ⟨payloads, values, rfl, rfl, related⟩ := decode_list_iff.mp decoded
    exact ⟨payloads, rfl, forall₂_converted_iff.mpr ⟨values, related, rfl⟩⟩
  · rintro ⟨payloads, rfl, reads⟩
    obtain ⟨values, related, rfl⟩ := forall₂_converted_iff.mp reads
    rw [decode_list_list related]
    rfl

theorem concludes_list_iff {reply : Reply} {items : List α} :
    Concludes (listSchema α) (listName α) [] reply (.ok ()) items ↔ Lists reply items := by
  rw [concludes_ok_iff]
  constructor
  · rintro ⟨envelope, carries, ⟨absent, rfl⟩ | ⟨payload, offered, decoded⟩⟩
    · exact .silent carries absent
    · obtain ⟨payloads, rfl, reads⟩ := listSchema_decode_iff.mp decoded
      exact .brought carries offered reads
  · intro lists
    cases lists with
    | silent carries absent => exact ⟨_, carries, .inl ⟨absent, rfl⟩⟩
    | brought carries offered reads =>
        exact ⟨_, carries, .inr ⟨_, offered, listSchema_decode_iff.mpr ⟨_, rfl, reads⟩⟩⟩

/-! ## The first resource of a name -/

/-- The item has exactly the wanted name, and no earlier item has it. -/
def IsFirstNamed (wanted : String) (items : List α) (item : α) : Prop :=
  ∃ earlier later, items = earlier ++ item :: later ∧ name item = wanted ∧
    ∀ other ∈ earlier, name other ≠ wanted

variable {wanted : String}

theorem firstNamed_eq_ok_iff {items : List α} {item : α} :
    firstNamed wanted items = .ok item ↔ IsFirstNamed wanted items item := by
  have found : firstNamed wanted items = .ok item ↔
      items.find? (fun item => name item == wanted) = some item := by
    unfold firstNamed
    cases items.find? (fun item => name item == wanted) <;> simp
  rw [found, List.find?_eq_some_iff_append]
  constructor
  · rintro ⟨same, earlier, later, split, others⟩
    exact ⟨earlier, later, split, beq_iff_eq.mp same, fun other member => by
      simpa using others other member⟩
  · rintro ⟨earlier, later, split, same, others⟩
    exact ⟨beq_iff_eq.mpr same, earlier, later, split, fun other member => by
      simpa using others other member⟩

theorem firstNamed_eq_error_iff {items : List α} {error : ResourceError} :
    firstNamed wanted items = .error error ↔
      error = .notFound (recordName α) wanted ∧ ∀ item ∈ items, name item ≠ wanted := by
  have missed : firstNamed wanted items = .error error ↔
      error = .notFound (recordName α) wanted ∧
        items.find? (fun item => name item == wanted) = none := by
    unfold firstNamed
    cases items.find? (fun item => name item == wanted) <;> simp [eq_comm]
  rw [missed, List.find?_eq_none]
  simp only [beq_iff_eq, ne_eq]

/-! ## Searches -/

/-- What a list and a search of a name report on one reply. -/
structure Agree (wanted : String) (reply : Reply) (listed : Report (List α))
    (found : Report α) : Prop where
  listed_ok : ∀ items, listed.outcome = .ok items ↔ Lists reply items
  listed_error : ∀ error, listed.outcome = .error error ↔
    ∃ failure, error = .interrupted (.failed failure) ∧
      Concludes (listSchema α) (listName α) [] reply (.error (.failed failure)) []
  found_ok : ∀ item, found.outcome = .ok item ↔
    ∃ items, listed.outcome = .ok items ∧ IsFirstNamed wanted items item
  found_missing : ∀ record sought, found.outcome = .error (.notFound record sought) ↔
    record = recordName α ∧ sought = wanted ∧
      ∃ items, listed.outcome = .ok items ∧ ∀ item ∈ items, name item ≠ wanted
  found_interrupted : ∀ interruption, found.outcome = .error (.interrupted interruption) ↔
    listed.outcome = .error (.interrupted interruption)

/-- A search sends the request of a list of that name, and goes by what the list reports.  The
names it compares are those that the payload gives. -/
structure SearchesBy {m : Type → Type} [Monad m] (client : Client m) (α : Type) [Resource α] :
    Prop where
  agrees : ∀ wanted, ∃ request listed found,
    list α client (some wanted) = listed <$> client.transport.roundTrip request ∧
    find α client wanted = found <$> client.transport.roundTrip request ∧
    ∀ reply, Agree wanted reply (listed reply) (found reply)
  named : ∀ members (item : α), (Json.object members).Ordered → Reads (.object members) item →
    Names members (name item)

/-- The report of a search behind the report of a list. -/
def among (wanted : String) (listed : Report (List α)) : Report α :=
  ⟨listed.outcome.bind (firstNamed wanted), listed.logs⟩

theorem among_outcome_ok_iff {listed : Report (List α)} {item : α} :
    (among wanted listed).outcome = .ok item ↔
      ∃ items, listed.outcome = .ok items ∧ IsFirstNamed wanted items item := by
  unfold among
  cases listed.outcome with
  | error error => simp [Except.bind]
  | ok items => simp [Except.bind, firstNamed_eq_ok_iff]

theorem among_outcome_error_iff {listed : Report (List α)} {error : ResourceError} :
    (among wanted listed).outcome = .error error ↔
      listed.outcome = .error error ∨
        error = .notFound (recordName α) wanted ∧
          ∃ items, listed.outcome = .ok items ∧ ∀ item ∈ items, name item ≠ wanted := by
  unfold among
  cases listed.outcome with
  | error other => simp [Except.bind]
  | ok items => simp [Except.bind, firstNamed_eq_error_iff]

/-- A report on a list that only ever fails with an interruption decides the search. -/
theorem agree_among {reply : Reply} {listed : Report (List α)}
    (ok : ∀ items, listed.outcome = .ok items ↔ Lists reply items)
    (error : ∀ error, listed.outcome = .error error ↔
      ∃ failure, error = .interrupted (.failed failure) ∧
        Concludes (listSchema α) (listName α) [] reply (.error (.failed failure)) []) :
    Agree wanted reply listed (among wanted listed) := by
  refine ⟨ok, error, fun item => among_outcome_ok_iff, ?_, ?_⟩
  · intro record sought
    rw [among_outcome_error_iff]
    constructor
    · rintro (failed | ⟨same, missing⟩)
      · obtain ⟨_, same, _⟩ := (error _).mp failed
        cases same
      · cases same
        exact ⟨rfl, rfl, missing⟩
    · rintro ⟨rfl, rfl, missing⟩
      exact .inr ⟨rfl, missing⟩
  · intro interruption
    rw [among_outcome_error_iff]
    constructor
    · rintro (failed | ⟨same, _⟩)
      · exact failed
      · cases same
    · exact .inl

section

variable {m : Type → Type} [Monad m] [LawfulMonad m]

theorem searchesBy_of_selected (selected : ∃ fields, (listSchema α).selection = .ok fields)
    (named : NamedByRecord α) (client : Client m) : SearchesBy client α := by
  refine ⟨?_, fun members item ordered ⟨datum, decoded, same⟩ =>
    same ▸ named.names_of_decode ordered decoded⟩
  intro wanted
  obtain ⟨fields, selected⟩ := selected
  let call : OperationCall := ⟨.query, listName α, listArguments (some wanted)⟩
  have sendable : call.arguments.Sendable :=
    Arguments.sendable_empty.insert (Argument.sendable_optional wanted)
  obtain ⟨request, listed, made, ok, error⟩ := exists_report client sendable selected [] _
  have listMade : list α client (some wanted) = listed <$> client.transport.roundTrip request :=
    made
  refine ⟨request, listed, fun reply => among wanted (listed reply), listMade, ?_, ?_⟩
  · calc find α client wanted
        = among wanted <$> list α client (some wanted) := (map_eq_pure_bind _ _).symm
      _ = _ := by rw [listMade, Functor.map_map]
  · intro reply
    exact agree_among (fun items => (ok reply items).trans concludes_list_iff) (error reply)

/-- A search finds the first of the listed resources that has exactly the name, and comes to
nothing exactly where a list succeeds without such a resource; a list that fails makes the
search fail with the same error. -/
theorem searches_by_name (client : Client m) :
    SearchesBy client Repository ∧ SearchesBy client SshKey := by
  refine ⟨searchesBy_of_selected ?_ namedByRecord_repository client,
    searchesBy_of_selected ?_ namedByRecord_key client⟩
  · exact ResultKind.repositories.exists_selection
  · exact ResultKind.keys.exists_selection

end

/-- A near match, a key without a name, and two keys of the same name. -/
def laptops : Json :=
  .list
    [.object [("id", .text "k1"), ("name", .text "laptop-2")],
      .object [("id", .text "k2")],
      .object [("id", .text "k3"), ("name", .text "laptop")],
      .object [("id", .text "k4"), ("name", .text "laptop")]]

theorem searches_by_name_laptop :
    ∃ items : List SshKey, Lists (offering "sshList" laptops) items ∧
      IsFirstNamed "laptop" items ⟨"k3", "laptop", "", 0, "", "", none, "", "", ""⟩ := by
  let client := answering (offering "sshList" laptops)
  obtain ⟨request, listed, found, _, made, agree⟩ :=
    (searches_by_name client).2.agrees "laptop"
  have succeeded : (find SshKey client "laptop").run.outcome =
      .ok ⟨"k3", "laptop", "", 0, "", "", none, "", "", ""⟩ := by
    decide +kernel
  rw [made] at succeeded
  obtain ⟨items, listing, first⟩ := ((agree _).found_ok _).mp succeeded
  exact ⟨items, ((agree _).listed_ok items).mp listing, first⟩

end Resource

end ShapeQuery
