import ShapeQuery.Datum.Decoding
import ShapeQuery.Proofs.Datum.Encoding
import ShapeQuery.Proofs.Named.LastWritten

/-!
# Records from objects

In a direct declaration every field goes by one name only, has a default and is read.
A record of such a declaration is read from an object field by field: from the member
of the name of the field, or as the default where there is none.
-/

namespace ShapeQuery

/-! ## Direct declarations -/

/-- The field is read, and the name that a document asks for is the only one that it is
read from. -/
def FieldDeclaration.Direct (field : FieldDeclaration) : Prop :=
  field.skipped = false ∧ field.aliases = [] ∧ field.label.resolved = field.wireName

instance (field : FieldDeclaration) : Decidable field.Direct :=
  inferInstanceAs (Decidable (_ ∧ _ ∧ _))

/-- Every field is direct and goes by a name of its own; missing members take defaults
and other members are passed over. -/
def RecordDeclaration.Direct (declaration : RecordDeclaration) : Prop :=
  declaration.defaulted = true ∧ declaration.closed = false ∧
    (∀ field ∈ declaration.fields, field.Direct) ∧
    (declaration.fields.map fun field => field.wireName).Nodup

instance (declaration : RecordDeclaration) : Decidable declaration.Direct :=
  inferInstanceAs (Decidable (_ ∧ _ ∧ _ ∧ _))

/-- Every record of the family is direct. -/
def Family.Direct (family : Family) : Prop :=
  ∀ declaration ∈ family, declaration.Direct

instance (family : Family) : Decidable family.Direct :=
  inferInstanceAs (Decidable (∀ declaration ∈ family, declaration.Direct))

theorem Family.Direct.of_find? {family : Family} (direct : family.Direct) {name : String}
    {declaration : RecordDeclaration} (declared : family.find? name = some declaration) :
    declaration.Direct :=
  direct declaration (List.mem_of_find?_eq_some declared)

namespace RecordDeclaration.Direct

variable {declaration : RecordDeclaration}

theorem readFields_eq (direct : declaration.Direct) :
    declaration.readFields = declaration.fields := by
  unfold RecordDeclaration.readFields
  rw [List.filter_eq_self]
  intro field member
  simp [(direct.2.2.1 field member).1]

theorem accepts_eq (direct : declaration.Direct) {field : FieldDeclaration}
    (member : field ∈ declaration.fields) (name : String) :
    field.accepts name = (field.wireName == name) := by
  obtain ⟨read, unaliased, _⟩ := direct.2.2.1 field member
  simp [FieldDeclaration.accepts, read, unaliased]

/-- The field that takes a member is the one of its name. -/
theorem find?_accepts_eq_some_iff (direct : declaration.Direct) {name : String}
    {field : FieldDeclaration} :
    declaration.fields.find? (fun field => field.accepts name) = some field ↔
      field ∈ declaration.fields ∧ field.wireName = name := by
  constructor
  · intro found
    have member := List.mem_of_find?_eq_some found
    have accepted := List.find?_some found
    rw [direct.accepts_eq member] at accepted
    exact ⟨member, beq_iff_eq.mp accepted⟩
  · rintro ⟨member, named⟩
    have accepted : field.accepts name = true := by
      rw [direct.accepts_eq member, named]
      exact beq_self_eq_true name
    obtain ⟨other, found⟩ : ∃ other,
        declaration.fields.find? (fun field => field.accepts name) = some other :=
      Option.isSome_iff_exists.mp (List.find?_isSome.mpr ⟨field, member, accepted⟩)
    have otherMember := List.mem_of_find?_eq_some found
    have otherAccepted := List.find?_some found
    rw [direct.accepts_eq otherMember, beq_iff_eq] at otherAccepted
    have same : other = field :=
      List.inj_on_of_nodup_map direct.2.2.2 otherMember member
        (otherAccepted.trans named.symm)
    rw [found, same]

end RecordDeclaration.Direct

/-! ## Decoding in sequence -/

theorem mapM_eq_ok_iff {α β ε : Type} {convert : α → Except ε β} {items : List α}
    {values : List β} :
    items.mapM convert = .ok values ↔
      List.Forall₂ (fun item value => convert item = .ok value) items values := by
  induction items generalizing values with
  | nil =>
      rw [List.mapM_nil]
      constructor
      · intro converted
        cases converted
        exact .nil
      · intro related
        cases related
        rfl
  | cons item rest induction =>
      rw [List.mapM_cons]
      constructor
      · intro converted
        obtain ⟨value, itemConverted, remaining⟩ := exists_of_bind_eq_ok converted
        obtain ⟨others, restConverted, gathered⟩ := exists_of_bind_eq_ok remaining
        cases gathered
        exact .cons itemConverted (induction.mp restConverted)
      · intro related
        cases related with
        | cons itemConverted restConverted =>
            rw [itemConverted, induction.mpr restConverted]
            rfl

theorem decodeItems_eq_map (family : Family) (items : List Json) :
    decodeItems family items = items.map (decode family) := by
  induction items with
  | nil => rfl
  | cons item rest induction => rw [decodeItems, induction, List.map_cons]

theorem decodeMembers_eq_map (family : Family) (members : List (String × Json)) :
    decodeMembers family members =
      members.map fun entry => (entry.1, decode family entry.2) := by
  induction members with
  | nil => rfl
  | cons entry rest induction => rw [decodeMembers, induction, List.map_cons]

namespace Decoding

/-! ## Types without layers -/

section

variable {isNull : Bool} {defaultOf : Datatype → Datum} {core : Decoder}

@[simp] theorem throughLayers_scalar (kind : ScalarKind) :
    throughLayers isNull defaultOf core (.scalar kind) = core (.scalar kind) := rfl

@[simp] theorem throughLayers_list (element : Datatype) :
    throughLayers isNull defaultOf core (.list element) = core (.list element) := rfl

@[simp] theorem throughLayers_record (name : String) :
    throughLayers isNull defaultOf core (.record name) = core (.record name) := rfl

end

/-! ## Gathering members -/

variable {declaration : RecordDeclaration}

/-- What is gathered for a field: what its member is decoded to, or what was gathered
before where no member goes by its name. -/
def Holds (gathered result : List (String × Datum)) (members : List (String × Decoder))
    (field : FieldDeclaration) : Prop :=
  match Named.find? field.wireName members with
  | none => Named.find? field.wireName result = Named.find? field.wireName gathered
  | some decoder =>
    ∃ value, decoder field.type = .ok value ∧
      Named.find? field.wireName result = some value

theorem gather_cons_of_unknown (direct : declaration.Direct) {name : String}
    {decoder : Decoder} {gathered : List (String × Datum)} {rest : List (String × Decoder)}
    (unknown : ∀ field ∈ declaration.fields, field.wireName ≠ name) :
    gather declaration gathered ((name, decoder) :: rest) =
      gather declaration gathered rest := by
  have untaken : declaration.fields.find? (fun field => field.accepts name) = none := by
    rw [List.find?_eq_none]
    intro field member accepted
    rw [direct.accepts_eq member, beq_iff_eq] at accepted
    exact unknown field member accepted
  rw [gather, untaken]
  simp [direct.2.1]

theorem gather_cons_of_known (direct : declaration.Direct) {field : FieldDeclaration}
    (member : field ∈ declaration.fields) {decoder : Decoder}
    {gathered : List (String × Datum)} {rest : List (String × Decoder)}
    (fresh : Named.find? field.wireName gathered = none) :
    gather declaration gathered ((field.wireName, decoder) :: rest) =
      decoder field.type >>= fun value =>
        gather declaration ((field.wireName, value) :: gathered) rest := by
  have taken := direct.find?_accepts_eq_some_iff.mpr ⟨member, rfl⟩
  have unheld : gathered.lookup field.wireName = none := fresh
  rw [gather, taken]
  simp [unheld]

/-- A gathered member does not stand in the way of members of other names. -/
theorem fresh_cons {name : String} {value : Datum} {gathered : List (String × Datum)}
    {rest : List (String × Decoder)} (unrepeated : name ∉ rest.map Prod.fst)
    (fresh : ∀ entry ∈ rest, Named.find? entry.1 gathered = none) :
    ∀ entry ∈ rest, Named.find? entry.1 ((name, value) :: gathered) = none := by
  intro entry member
  have different : entry.1 ≠ name := by
    rintro rfl
    exact unrepeated (List.mem_map_of_mem member)
  rw [Named.find?_cons, if_neg different]
  exact fresh entry member

/-- What is gathered from members of distinct names is what they hold. -/
theorem holds_of_gather (direct : declaration.Direct) {members : List (String × Decoder)}
    {gathered result : List (String × Datum)} (distinct : (members.map Prod.fst).Nodup)
    (fresh : ∀ entry ∈ members, Named.find? entry.1 gathered = none)
    (success : gather declaration gathered members = .ok result) :
    ∀ field ∈ declaration.fields, Holds gathered result members field := by
  induction members generalizing gathered with
  | nil =>
      cases success
      intro field _
      exact rfl
  | cons entry rest induction =>
      obtain ⟨name, decoder⟩ := entry
      obtain ⟨unrepeated, restDistinct⟩ := List.nodup_cons.mp distinct
      obtain ⟨nameFresh, restFresh⟩ := List.forall_mem_cons.mp fresh
      by_cases known : ∃ taker ∈ declaration.fields, taker.wireName = name
      · obtain ⟨taker, takerMember, rfl⟩ := known
        rw [gather_cons_of_known direct takerMember nameFresh] at success
        obtain ⟨value, decoded, remaining⟩ := exists_of_bind_eq_ok success
        have laterFresh := @fresh_cons _ value _ _ unrepeated restFresh
        intro field member
        have later := induction restDistinct laterFresh remaining field member
        unfold Holds at later ⊢
        by_cases same : field.wireName = taker.wireName
        · have equal : field = taker :=
            List.inj_on_of_nodup_map direct.2.2.2 member takerMember same
          subst equal
          have absent : Named.find? field.wireName rest = none := by
            rw [← Option.not_isSome_iff_eq_none, Named.find?_isSome_iff]
            exact unrepeated
          rw [absent] at later
          simp only [Named.find?_cons, if_true] at later ⊢
          exact ⟨value, decoded, later⟩
        · simp only [Named.find?_cons, if_neg same] at later ⊢
          exact later
      · have unknown : ∀ field ∈ declaration.fields, field.wireName ≠ name :=
          fun field member named => known ⟨field, member, named⟩
        rw [gather_cons_of_unknown direct unknown] at success
        intro field member
        have later := induction restDistinct restFresh success field member
        unfold Holds at later ⊢
        rwa [Named.find?_cons, if_neg (unknown field member)]

theorem exists_gather (direct : declaration.Direct) {members : List (String × Decoder)}
    {gathered : List (String × Datum)} (distinct : (members.map Prod.fst).Nodup)
    (fresh : ∀ entry ∈ members, Named.find? entry.1 gathered = none)
    (decodes : ∀ field ∈ declaration.fields, ∀ decoder,
      (field.wireName, decoder) ∈ members → ∃ value, decoder field.type = .ok value) :
    ∃ result, gather declaration gathered members = .ok result := by
  induction members generalizing gathered with
  | nil => exact ⟨gathered, rfl⟩
  | cons entry rest induction =>
      obtain ⟨name, decoder⟩ := entry
      obtain ⟨unrepeated, restDistinct⟩ := List.nodup_cons.mp distinct
      obtain ⟨nameFresh, restFresh⟩ := List.forall_mem_cons.mp fresh
      have restDecodes : ∀ field ∈ declaration.fields, ∀ decoder,
          (field.wireName, decoder) ∈ rest → ∃ value, decoder field.type = .ok value :=
        fun field member decoder inRest =>
          decodes field member decoder (List.mem_cons_of_mem _ inRest)
      by_cases known : ∃ taker ∈ declaration.fields, taker.wireName = name
      · obtain ⟨taker, takerMember, rfl⟩ := known
        obtain ⟨value, decoded⟩ := decodes taker takerMember decoder List.mem_cons_self
        have laterFresh := @fresh_cons _ value _ _ unrepeated restFresh
        rw [gather_cons_of_known direct takerMember nameFresh, decoded]
        exact induction restDistinct laterFresh restDecodes
      · have unknown : ∀ field ∈ declaration.fields, field.wireName ≠ name :=
          fun field member named => known ⟨field, member, named⟩
        rw [gather_cons_of_unknown direct unknown]
        exact induction restDistinct restFresh restDecodes

/-! ## Settling fields -/

/-- The value of a field is read from the member of its name, or is the default where
there is none. -/
def Settles (family : Family) (members : List (String × Json)) (field : FieldDeclaration)
    (value : Datum) : Prop :=
  match Named.find? field.wireName members with
  | none => value = family.default field.type
  | some json => decode family json field.type = .ok value

theorem settle_eq (direct : declaration.Direct) (family : Family)
    (gathered : List (String × Datum)) (field : FieldDeclaration) :
    settle family declaration gathered field =
      .ok (field.wireName,
        (Named.find? field.wireName gathered).getD (family.default field.type)) := by
  unfold settle Named.find?
  cases gathered.lookup field.wireName <;> simp [direct.1]

theorem settles_of_holds {family : Family} {members : List (String × Json)}
    {result : List (String × Datum)} {field : FieldDeclaration}
    (holds : Holds [] result (decodeMembers family members) field) :
    Settles family members field
      ((Named.find? field.wireName result).getD (family.default field.type)) := by
  unfold Holds at holds
  unfold Settles
  rw [decodeMembers_eq_map, Named.find?_map_value] at holds
  cases found : Named.find? field.wireName members with
  | none =>
      simp only [found, Option.map_none, Named.find?_nil] at holds
      simp [holds]
  | some json =>
      simp only [found, Option.map_some] at holds
      obtain ⟨value, decoded, held⟩ := holds
      simp [held, decoded]

theorem Settles.unique {family : Family} {members : List (String × Json)}
    {field : FieldDeclaration} {left right : Datum}
    (settlesLeft : Settles family members field left)
    (settlesRight : Settles family members field right) : left = right := by
  unfold Settles at settlesLeft settlesRight
  cases found : Named.find? field.wireName members with
  | none =>
      simp only [found] at settlesLeft settlesRight
      rw [settlesLeft, settlesRight]
  | some json =>
      simp only [found] at settlesLeft settlesRight
      rw [settlesLeft] at settlesRight
      exact Except.ok.inj settlesRight

/-- The fields of a record are settled from an object. -/
def SettlesFields (family : Family) (members : List (String × Json))
    (fields : List FieldDeclaration) (values : List (String × Datum)) : Prop :=
  List.Forall₂
    (fun field value => value.1 = field.wireName ∧ Settles family members field value.2)
    fields values

theorem SettlesFields.exists_settles {family : Family} {members : List (String × Json)}
    {fields : List FieldDeclaration} {values : List (String × Datum)}
    (settles : SettlesFields family members fields values) {field : FieldDeclaration}
    (member : field ∈ fields) : ∃ value, Settles family members field value := by
  induction settles with
  | nil => cases member
  | cons head _ induction =>
      obtain rfl | inRest := List.mem_cons.mp member
      · exact ⟨_, head.2⟩
      · exact induction inRest

theorem SettlesFields.unique {family : Family} {members : List (String × Json)}
    {fields : List FieldDeclaration} {left right : List (String × Datum)}
    (settlesLeft : SettlesFields family members fields left)
    (settlesRight : SettlesFields family members fields right) : left = right := by
  induction settlesLeft generalizing right with
  | nil =>
      cases settlesRight
      rfl
  | cons headLeft _ induction =>
      cases settlesRight with
      | cons headRight restRight =>
          rw [induction restRight]
          congr 1
          exact Prod.ext (headLeft.1.trans headRight.1.symm) (headLeft.2.unique headRight.2)

theorem fromObject_record {family : Family} {name : String}
    (declared : family.find? name = some declaration) (whole : Json)
    (members : List (String × Decoder)) :
    fromObject family whole members (.record name) =
      gather declaration [] members >>= fun gathered =>
        declaration.readFields.mapM (settle family declaration gathered) >>= fun settled =>
          .ok (.record settled) := by
  rw [fromObject]
  simp only [declared]
  rfl

end Decoding

open Decoding

/-- A record is read from an object of distinct names exactly where each of its fields
is settled from it. -/
theorem decode_object_record_iff {family : Family} {name : String}
    {declaration : RecordDeclaration} (declared : family.find? name = some declaration)
    (direct : declaration.Direct) {members : List (String × Json)}
    (distinct : (members.map Prod.fst).Nodup) {datum : Datum} :
    decode family (.object members) (.record name) = .ok datum ↔
      ∃ values, datum = .record values ∧
        SettlesFields family members declaration.fields values := by
  have decoderNames : ((decodeMembers family members).map Prod.fst).Nodup := by
    rw [decodeMembers_eq_map, List.map_map]
    exact distinct
  have fresh : ∀ entry ∈ decodeMembers family members,
      Named.find? entry.1 ([] : List (String × Datum)) = none := fun _ _ => rfl
  have unfolded : decode family (.object members) (.record name) =
      fromObject family (.object members) (decodeMembers family members) (.record name) := by
    rw [decode, throughLayers_record]
  -- reading always ends with the values that were gathered
  have settled : ∀ gathered, gather declaration [] (decodeMembers family members) =
        .ok gathered →
      ∃ values, SettlesFields family members declaration.fields values ∧
        decode family (.object members) (.record name) = .ok (.record values) := by
    intro gathered success
    have holds := holds_of_gather direct decoderNames fresh success
    refine ⟨declaration.fields.map fun field => (field.wireName,
      (Named.find? field.wireName gathered).getD (family.default field.type)), ?_, ?_⟩
    · rw [SettlesFields, List.forall₂_map_right_iff, List.forall₂_same]
      intro field member
      exact ⟨rfl, settles_of_holds (holds field member)⟩
    · have converted : declaration.fields.mapM (settle family declaration gathered) =
          .ok (declaration.fields.map fun field => (field.wireName,
            (Named.find? field.wireName gathered).getD (family.default field.type))) := by
        rw [mapM_eq_ok_iff, List.forall₂_map_right_iff, List.forall₂_same]
        intro field _
        exact settle_eq direct family gathered field
      rw [unfolded, fromObject_record declared, success, direct.readFields_eq]
      simp only [bind, Except.bind]
      rw [converted]
  constructor
  · intro decoded
    have success := decoded
    rw [unfolded, fromObject_record declared] at success
    obtain ⟨gathered, gatheredSuccess, _⟩ := exists_of_bind_eq_ok success
    obtain ⟨values, settles, result⟩ := settled gathered gatheredSuccess
    rw [result] at decoded
    exact ⟨values, (Except.ok.inj decoded).symm, settles⟩
  · rintro ⟨values, rfl, settles⟩
    have decodes : ∀ field ∈ declaration.fields, ∀ decoder,
        (field.wireName, decoder) ∈ decodeMembers family members →
          ∃ value, decoder field.type = .ok value := by
      intro field member decoder held
      have found := (Named.find?_eq_some_iff decoderNames).mpr held
      rw [decodeMembers_eq_map, Named.find?_map_value] at found
      obtain ⟨json, jsonFound, rfl⟩ := Option.map_eq_some_iff.mp found
      obtain ⟨value, settlesField⟩ := settles.exists_settles member
      unfold Settles at settlesField
      rw [jsonFound] at settlesField
      exact ⟨value, settlesField⟩
    obtain ⟨gathered, success⟩ := exists_gather direct decoderNames fresh decodes
    obtain ⟨others, settlesOthers, result⟩ := settled gathered success
    rw [result, settlesOthers.unique settles]

/-! ## Records from lists -/

section

variable {family : Family} {name : String} {declaration : RecordDeclaration} {datum : Datum}

/-- A record is read from an object or a list only. -/
theorem decode_record_cases {payload : Json}
    (decoded : decode family payload (.record name) = .ok datum) :
    (∃ members, payload = .object members) ∨ ∃ items, payload = .list items := by
  cases payload with
  | object members => exact .inl ⟨members, rfl⟩
  | list items => exact .inr ⟨items, rfl⟩
  | _ =>
    rw [decode, throughLayers_record] at decoded
    cases decoded

theorem decode_list_record (declared : family.find? name = some declaration)
    (items : List Json) :
    decode family (.list items) (.record name) =
      (positional family declaration items.length 0 declaration.readFields
        (decodeItems family items)).map .record := by
  have length : (decodeItems family items).length = items.length := by
    rw [decodeItems_eq_map, List.length_map]
  rw [decode, throughLayers_record, fromList]
  simp only [declared, length]

/-- The items are read into the fields from left to right, no item is left over, and the fields
behind the last item have defaults. -/
inductive FillsFields (family : Family) (declaration : RecordDeclaration) :
    List FieldDeclaration → List Json → List (String × Datum) → Prop where
  | done : FillsFields family declaration [] [] []
  | item {field : FieldDeclaration} {fields : List FieldDeclaration} {item : Json}
      {items : List Json} {value : Datum} {values : List (String × Datum)}
      (decoded : decode family item field.type = .ok value)
      (behind : FillsFields family declaration fields items values) :
      FillsFields family declaration (field :: fields) (item :: items)
        ((field.wireName, value) :: values)
  | default {field : FieldDeclaration} {fields : List FieldDeclaration}
      {values : List (String × Datum)}
      (defaulted : (declaration.defaulted || field.defaulted) = true)
      (behind : FillsFields family declaration fields [] values) :
      FillsFields family declaration (field :: fields) []
        ((field.wireName, family.default field.type) :: values)

theorem positional_eq_ok_iff {total index : Nat} {fields : List FieldDeclaration}
    {items : List Json} {values : List (String × Datum)} :
    positional family declaration total index fields (decodeItems family items) = .ok values ↔
      FillsFields family declaration fields items values := by
  induction fields generalizing index items values with
  | nil =>
      cases items with
      | nil =>
          rw [decodeItems, positional]
          constructor
          · intro read
            cases read
            exact .done
          · intro fills
            cases fills
            rfl
      | cons item items =>
          rw [decodeItems, positional]
          constructor
          · intro read
            cases read
          · intro fills
            cases fills
  | cons field fields induction =>
      cases items with
      | nil =>
          rw [decodeItems, positional]
          constructor
          · intro read
            split at read
            · rename_i defaulted
              obtain ⟨value, chosen, remaining⟩ := exists_of_bind_eq_ok read
              obtain ⟨rest, behind, made⟩ := exists_of_bind_eq_ok remaining
              cases chosen
              cases made
              exact .default defaulted (induction.mp behind)
            · cases read
          · intro fills
            cases fills with
            | default defaulted behind =>
                have rest := (@induction (index + 1) [] _).mpr behind
                rw [decodeItems] at rest
                rw [if_pos defaulted, rest]
                rfl
      | cons item items =>
          rw [decodeItems, positional]
          constructor
          · intro read
            obtain ⟨value, decoded, remaining⟩ := exists_of_bind_eq_ok read
            obtain ⟨rest, behind, made⟩ := exists_of_bind_eq_ok remaining
            cases made
            exact .item decoded (induction.mp behind)
          · intro fills
            cases fills with
            | item decoded behind =>
                rw [decoded, (@induction (index + 1) _ _).mpr behind]
                rfl

/-- A record is read from a list exactly where its items fill the fields. -/
theorem decode_list_record_iff (declared : family.find? name = some declaration)
    {items : List Json} :
    decode family (.list items) (.record name) = .ok datum ↔
      ∃ values, datum = .record values ∧
        FillsFields family declaration declaration.readFields items values := by
  rw [decode_list_record declared]
  constructor
  · intro decoded
    obtain ⟨values, read, rfl⟩ := exists_of_map_eq_ok decoded
    exact ⟨values, rfl, positional_eq_ok_iff.mp read⟩
  · rintro ⟨values, rfl, fills⟩
    rw [positional_eq_ok_iff.mpr fills]
    rfl

end

end ShapeQuery
