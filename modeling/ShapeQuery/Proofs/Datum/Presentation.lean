import ShapeQuery.Proofs.Selection

/-!
# Payloads that give a value

A payload gives the fields of a value under the names that a selection asks for.  A field
that holds its default may be missing, a value that may be null is null where it is empty,
and members that were not asked for are arbitrary.  In a direct family, every payload that
gives a value under the selection of its type is decoded to that value.
-/

namespace ShapeQuery

/-- A field of a record, the entry of a selection that asks for it, and its value. -/
structure Row where
  field : FieldDeclaration
  entry : Selection
  value : Datum

/-- The members of the record that the rows describe. -/
def Row.members (rows : List Row) : List (String × Datum) :=
  rows.map fun row => (row.field.wireName, row.value)

/-- A payload gives a value of a type under a selection.  The names of the members are
those of the selection; the declarations of the records only say what types the fields
have. -/
inductive Gives (family : Family) : Datatype → List Selection → Datum → Json → Prop
  | text {selection : List Selection} (value : String) :
      Gives family (.scalar .text) selection (.text value) (.text value)
  | boolean {selection : List Selection} (value : Bool) :
      Gives family (.scalar .boolean) selection (.boolean value) (.boolean value)
  | integer {selection : List Selection} {kind : ScalarKind} {value : Int}
      (held : kind.holds value = true) :
      Gives family (.scalar kind) selection (.integer value) (.integer value)
  | floating {selection : List Selection} (value : Floating) :
      Gives family (.scalar .float64) selection (.floating value) (.floating value)
  -- a number without a fraction may stand for the nearest floating-point number
  | whole {selection : List Selection} (value : Int) :
      Gives family (.scalar .float64) selection
        (.floating (FloatFormat.double.ofInt value)) (.integer value)
  | absent {type : Datatype} {selection : List Selection} :
      Gives family (.option type) selection .absent .null
  | present {type : Datatype} {selection : List Selection} {value : Datum} {payload : Json}
      (proper : payload ≠ .null) (given : Gives family type selection value payload) :
      Gives family (.option type) selection (.present value) payload
  | null {type : Datatype} {selection : List Selection} :
      Gives family (.nullAsDefault type) selection (family.default type) .null
  | proper {type : Datatype} {selection : List Selection} {value : Datum} {payload : Json}
      (proper : payload ≠ .null) (given : Gives family type selection value payload) :
      Gives family (.nullAsDefault type) selection value payload
  | items {element : Datatype} {selection : List Selection} {pairs : List (Datum × Json)}
      (given : ∀ pair ∈ pairs, Gives family element selection pair.1 pair.2) :
      Gives family (.list element) selection (.list (pairs.map Prod.fst))
        (.list (pairs.map Prod.snd))
  | record {name : String} {declaration : RecordDeclaration} {rows : List Row}
      {members : List (String × Json)} (declared : family.find? name = some declaration)
      (fields : rows.map Row.field = declaration.fields)
      (distinct : (members.map Prod.fst).Nodup)
      (missing : ∀ row ∈ rows, Named.find? row.entry.name members = none →
        row.value = family.default row.field.type)
      (given : ∀ row ∈ rows, ∀ payload, Named.find? row.entry.name members = some payload →
        Gives family row.field.type row.entry.inner row.value payload) :
      Gives family (.record name) (rows.map Row.entry) (.record (Row.members rows))
        (.object members)

/-- A row is given by a member of its own, or is left at its default. -/
theorem Gives.record_of_rows {family : Family} {name : String}
    {declaration : RecordDeclaration} {rows : List Row} {members : List (String × Json)}
    (declared : family.find? name = some declaration)
    (fields : rows.map Row.field = declaration.fields)
    (distinct : (members.map Prod.fst).Nodup)
    (each : ∀ row ∈ rows,
      (Named.find? row.entry.name members = none ∧
        row.value = family.default row.field.type) ∨
      ∃ payload, Named.find? row.entry.name members = some payload ∧
        Gives family row.field.type row.entry.inner row.value payload) :
    Gives family (.record name) (rows.map Row.entry) (.record (Row.members rows))
      (.object members) := by
  refine .record declared fields distinct ?_ ?_
  · intro row member missing
    obtain ⟨_, value⟩ | ⟨payload, found, _⟩ := each row member
    · exact value
    · cases missing.symm.trans found
  · intro row member payload found
    obtain ⟨missing, _⟩ | ⟨other, otherFound, given⟩ := each row member
    · cases missing.symm.trans found
    · cases otherFound.symm.trans found
      exact given

namespace Decoding

variable {family : Family} {type : Datatype} {payload : Json}

theorem decode_null_option : decode family .null (.option type) = .ok .absent := by
  rw [decode, throughLayers]
  rfl

theorem decode_null_nullAsDefault :
    decode family .null (.nullAsDefault type) = .ok (family.default type) := by
  rw [decode, throughLayers]
  rfl

theorem decode_option (proper : payload ≠ .null) :
    decode family payload (.option type) = (decode family payload type).map .present := by
  cases payload with
  | null => exact absurd rfl proper
  | _ => rw [decode, throughLayers]; rfl

theorem decode_nullAsDefault (proper : payload ≠ .null) :
    decode family payload (.nullAsDefault type) = decode family payload type := by
  cases payload with
  | null => exact absurd rfl proper
  | _ => rw [decode, throughLayers]; rfl

theorem decode_list_list {element : Datatype} {items : List Json} {values : List Datum}
    (decoded : List.Forall₂ (fun item value => decode family item element = .ok value)
      items values) :
    decode family (.list items) (.list element) = .ok (.list values) := by
  have converted : (decodeItems family items).mapM (fun item => item element) = .ok values := by
    rw [decodeItems_eq_map, mapM_eq_ok_iff, List.forall₂_map_left_iff]
    exact decoded
  rw [decode, throughLayers_list, fromList, converted]
  rfl

/-- A list is read from a list only, item by item. -/
theorem decode_list_iff {element : Datatype} {value : Datum} :
    decode family payload (.list element) = .ok value ↔
      ∃ items values, payload = .list items ∧ value = .list values ∧
        List.Forall₂ (fun item value => decode family item element = .ok value)
          items values := by
  constructor
  · intro decoded
    cases payload with
    | list items =>
        rw [decode, throughLayers_list, fromList, decodeItems_eq_map] at decoded
        obtain ⟨values, converted, rfl⟩ := exists_of_map_eq_ok decoded
        rw [mapM_eq_ok_iff, List.forall₂_map_left_iff] at converted
        exact ⟨items, values, rfl, rfl, converted⟩
    | _ =>
        rw [decode, throughLayers_list] at decoded
        cases decoded
  · rintro ⟨items, values, rfl, rfl, decoded⟩
    exact decode_list_list decoded

theorem decode_text_iff {value : Datum} :
    decode family payload (.scalar .text) = .ok value ↔
      ∃ text, payload = .text text ∧ value = .text text := by
  constructor
  · intro decoded
    cases payload with
    | text text =>
        cases decoded
        exact ⟨text, rfl, rfl⟩
    | _ => cases decoded
  · rintro ⟨text, rfl, rfl⟩
    rfl

theorem decode_boolean_iff {value : Datum} :
    decode family payload (.scalar .boolean) = .ok value ↔
      ∃ flag, payload = .boolean flag ∧ value = .boolean flag := by
  constructor
  · intro decoded
    cases payload with
    | boolean flag =>
        cases decoded
        exact ⟨flag, rfl, rfl⟩
    | _ => cases decoded
  · rintro ⟨flag, rfl, rfl⟩
    rfl

theorem decode_integer {kind : ScalarKind} {value : Int} (held : kind.holds value = true) :
    decode family (.integer value) (.scalar kind) = .ok (.integer value) := by
  cases kind with
  | signed width | unsigned width =>
      rw [decode, throughLayers_scalar, fromInteger, if_pos held]
  | _ => cases held

end Decoding

open Decoding

/-- A record whose fields are asked for by their names is settled by what gives them. -/
theorem settlesFields_of_rows {family : Family} {members : List (String × Json)}
    {rows : List Row}
    (named : ∀ row ∈ rows, row.entry.name = row.field.wireName)
    (missing : ∀ row ∈ rows, Named.find? row.entry.name members = none →
      row.value = family.default row.field.type)
    (decoded : ∀ row ∈ rows, ∀ payload, Named.find? row.entry.name members = some payload →
      decode family payload row.field.type = .ok row.value) :
    SettlesFields family members (rows.map Row.field) (Row.members rows) := by
  rw [SettlesFields, Row.members, List.forall₂_map_left_iff, List.forall₂_map_right_iff,
    List.forall₂_same]
  intro row member
  refine ⟨rfl, ?_⟩
  unfold Settles
  rw [← named row member]
  cases found : Named.find? row.entry.name members with
  | none => exact missing row member found
  | some payload => exact decoded row member payload found

/-- A selection of a record asks for each of its fields by name, and so again inside. -/
theorem Asks.rows {family : Family} {name : String} {declaration : RecordDeclaration}
    {rows : List Row} (asks : Asks family (.record name) (rows.map Row.entry))
    (declared : family.find? name = some declaration)
    (fields : rows.map Row.field = declaration.fields) :
    ∀ row ∈ rows, row.entry.name = row.field.wireName ∧
      Asks family row.field.type row.entry.inner := by
  generalize asked : rows.map Row.entry = selection at asks
  cases asks with
  | nothing =>
      rw [List.map_eq_nil_iff] at asked
      subst asked
      nofun
  | fields core otherDeclared names inner =>
      cases core
      cases declared.symm.trans otherDeclared
      rw [← asked, ← fields, List.map_map, List.map_map] at names
      rw [← asked, ← fields, List.zip_map'] at inner
      intro row member
      exact ⟨List.map_inj_left.mp names row member, inner _ (List.mem_map_of_mem member)⟩

/-- Where the selection asks for the names that are read, what is given is decoded. -/
theorem decode_of_asked {family : Family} (direct : family.Direct) {type : Datatype}
    {selection : List Selection} {value : Datum} {payload : Json}
    (asks : Asks family type selection) (given : Gives family type selection value payload) :
    decode family payload type = .ok value := by
  -- in a record the fields hold by induction, each under the selection inside its entry
  induction given with
  | text | boolean | floating | whole => rfl
  | integer held => exact decode_integer held
  | absent => exact decode_null_option
  | null => exact decode_null_nullAsDefault
  | present proper _ induction =>
      rw [decode_option proper, induction (asks.of_core rfl)]
      rfl
  | proper proper _ induction =>
      rw [decode_nullAsDefault proper, induction (asks.of_core rfl)]
  | items _ induction =>
      apply decode_list_list
      rw [List.forall₂_map_left_iff, List.forall₂_map_right_iff, List.forall₂_same]
      exact fun pair member => induction pair member (asks.of_core rfl)
  | record declared fields distinct missing _ induction =>
      have asked := asks.rows declared fields
      rw [decode_object_record_iff declared (direct.of_find? declared) distinct, ← fields]
      exact ⟨_, rfl, settlesFields_of_rows (fun row member => (asked row member).1) missing
        fun row member payload found => induction row member payload found (asked row member).2⟩

/-- A payload that gives a value under the selection of its type is decoded to it. -/
theorem Family.decode_of_gives {family : Family} (direct : family.Direct) {type : Datatype}
    {selection : List Selection} (selected : family.selection type = .ok selection)
    {value : Datum} {payload : Json} (given : Gives family type selection value payload) :
    decode family payload type = .ok value :=
  decode_of_asked direct (family.asks_of_selection direct selected) given

end ShapeQuery
