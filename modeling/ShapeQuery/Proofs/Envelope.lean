import ShapeQuery.Envelope
import ShapeQuery.Proofs.Json.Meaning

/-!
# What envelopes mean

The envelope of a body hangs on two members of the body, its data and its errors, and on
nothing but their values.  An envelope that is written as a list is the one of the object
with the items of the list as its data and its errors.
-/

namespace ShapeQuery

namespace Json

/-- The text is well-formed and writes the value. -/
def Writes (source : String) (written : Written) : Prop :=
  lex source.toList = written.tokens

instance (source : String) (written : Written) : Decidable (Writes source written) :=
  inferInstanceAs (Decidable (lex source.toList = written.tokens))

variable {α : Type}

theorem readAll_eq_on {reader : Reader α} (isLocal : reader.Local) {source : String}
    {written : Written} (writes : Writes source written) :
    readAll reader source = reader.on nestingLimit written := by
  have alone := isLocal nestingLimit written []
  rw [List.append_nil] at alone
  rw [readAll, writes, alone]
  cases reader.on nestingLimit written <;> rfl

/-- What a member means that may be missing or null. -/
def optionalMember (meaning : Json → Option α) : Option Json → Option (Option α)
  | none => some none
  | some json => optionalMeaning meaning json

theorem slotMeaning_withDefault (name : String) (reader : Reader (Option α))
    (meaning : Json → Option α) (json? : Option Json) :
    slotMeaning (.withDefault name reader none) (optionalMeaning meaning) json? =
      optionalMember meaning json? := by
  cases json? <;> rfl

end Json

open Json

/-! ## Errors -/

theorem Location.exists_means : ∃ meaning, Location.reader.Means meaning := by
  have word := word32Reader_means
  exact ⟨_, Reader.Means.combine (pairReader_means (by exact word) (by exact word) (by decide)) _⟩

theorem ServerError.exists_means : ∃ meaning, ServerError.reader.Means meaning := by
  obtain ⟨location, locationMeans⟩ := Location.exists_means
  have message := textReader_means
  have locations := optionalReader_means (listReader_means locationMeans)
  let convert (message : String) (locations : Option (List Location)) : ServerError :=
    ⟨message, locations.getD []⟩
  exact ⟨_, Reader.Means.combine
    (pairReader_means (by exact message) (by exact locations) (by decide)) convert⟩

theorem ServerError.reader_local : ServerError.reader.Local := by
  obtain ⟨meaning, means⟩ := ServerError.exists_means
  exact means.isLocal

/-! ## The two members of a body -/

namespace Envelope

def dataSlot : Slot (Option (List (String × Json))) :=
  .withDefault "data" (optionalReader mappingReader) none

def errorsSlot : Slot (Option (List ServerError)) :=
  .withDefault "errors" (optionalReader ServerError.listReader) none

def on (limit : Nat) (written : Written) : Except Fault Envelope :=
  (pairOn "struct GraphqlResponse" dataSlot errorsSlot limit written).map fun both =>
    ⟨both.1, both.2⟩

theorem dataSlot_local : dataSlot.reader.Local :=
  (optionalReader_computes mappingReader_computes.isLocal).isLocal

theorem dataSlot_on (limit : Nat) (written : Written) :
    dataSlot.reader.on limit written = optionalOn mappingReader limit written :=
  (optionalReader_computes mappingReader_computes.isLocal).on_eq limit written

theorem errorsSlot_local : errorsSlot.reader.Local := by
  have list := listReader_computes ServerError.reader_local
  exact (optionalReader_computes list.isLocal).isLocal

theorem errorsSlot_on (limit : Nat) (written : Written) :
    errorsSlot.reader.on limit written = optionalOn ServerError.listReader limit written := by
  have list := listReader_computes ServerError.reader_local
  exact (optionalReader_computes list.isLocal).on_eq limit written

theorem reader_computes : reader.Computes Envelope.on :=
  (pairReader_computes dataSlot_local errorsSlot_local).map fun both =>
    (⟨both.1, both.2⟩ : Envelope)

theorem parse_eq_on {body : String} {written : Written} (writes : Writes body written) :
    parse body = Envelope.on nestingLimit written := by
  rw [parse, readAll_eq_on reader_computes.isLocal writes, reader_computes.on_eq]

/-! ## Bodies that are objects -/

/-- The body is an object in which no name is repeated.  Where it has data and errors, these
are values that repeat no names and that a strict reader gets through. -/
def Shows (body : String) (data? errors? : Option Json) : Prop :=
  ∃ members writes, Writes body (.object members) ∧ (members.map Prod.fst).Nodup ∧
    List.Forall₂ (Written.Offers ["data", "errors"] (nestingLimit - 1)) members writes ∧
    Named.find? "data" writes = data? ∧ Named.find? "errors" writes = errors?

/-- What a body means depends on its data and its errors alone. -/
theorem exists_meaning_of_shows :
    ∃ listed : Json → Option (List ServerError), listed (.list []) = some [] ∧
      ∀ body data? errors?, Shows body data? errors? →
        (parse body).toOption = do
          let data ← optionalMember mappingMeaning data?
          let errors ← optionalMember listed errors?
          return ⟨data, errors⟩ := by
  obtain ⟨item, itemMeans⟩ := ServerError.exists_means
  -- the meaning of a single error stays open
  refine ⟨listMeaning item, rfl, ?_⟩
  rintro body data? errors? ⟨members, writes, written, distinct, offers, rfl, rfl⟩
  have dataMeans : dataSlot.reader.Means (optionalMeaning mappingMeaning) :=
    optionalReader_means mappingReader_means
  have errorsMeans : errorsSlot.reader.Means (optionalMeaning (listMeaning item)) :=
    optionalReader_means (listReader_means itemMeans)
  have different : dataSlot.name ≠ errorsSlot.name := by decide
  have room : ¬ nestingLimit ≤ 1 := by decide
  have data : slotMeaning dataSlot (optionalMeaning mappingMeaning)
      (Named.find? dataSlot.name writes) =
        optionalMember mappingMeaning (Named.find? "data" writes) :=
    slotMeaning_withDefault _ _ _ _
  have errors : slotMeaning errorsSlot (optionalMeaning (listMeaning item))
      (Named.find? errorsSlot.name writes) =
        optionalMember (listMeaning item) (Named.find? "errors" writes) :=
    slotMeaning_withDefault _ _ _ _
  have writesDistinct := Written.nodup_of_names (offers.imp fun _ _ => And.left) distinct
  rw [parse_eq_on written, Envelope.on, toOption_map,
    toOption_pairOn_object dataMeans errorsMeans different room offers writesDistinct,
    pairMeaning, data, errors]
  cases optionalMember mappingMeaning (Named.find? "data" writes) with
  | none => rfl
  | some data => cases optionalMember (listMeaning item) (Named.find? "errors" writes) <;> rfl

theorem gathers_of_on {limit : Nat} {members : List (Except SyntaxFault String × Written)}
    {envelope : Envelope} (parsed : Envelope.on limit (.object members) = .ok envelope) :
    ∃ data errors,
      Gathers "data" dataSlot.reader (limit - 1) members none data ∧
      Gathers "errors" errorsSlot.reader (limit - 1) members none errors ∧
      envelope = ⟨data.getD none, errors.getD none⟩ := by
  obtain ⟨both, paired, rfl⟩ := exists_of_map_eq_ok parsed
  rw [pairOn, enter] at paired
  split at paired
  · cases paired
  · obtain ⟨⟨data, errors⟩, gathered, resolved⟩ := exists_of_bind_eq_ok paired
    have different : dataSlot.name ≠ errorsSlot.name := by decide
    have gathers := gathers_of_foldlM dataSlot_local errorsSlot_local different gathered
    refine ⟨data, errors, gathers.1, gathers.2, ?_⟩
    cases data <;> cases errors <;> cases resolved <;> rfl

/-- Errors that are absent, null or empty are reported as none. -/
theorem reported_eq_nil_of_on {limit : Nat}
    {members : List (Except SyntaxFault String × Written)} {envelope : Envelope}
    (parsed : Envelope.on limit (.object members) = .ok envelope)
    (unreported : ∀ value, (.ok "errors", value) ∈ members →
      value = .word .null ∨ value = .list []) : envelope.reported = [] := by
  obtain ⟨data, errors, _, gathers, rfl⟩ := gathers_of_on parsed
  by_cases present : ∃ value, (.ok "errors", value) ∈ members
  · obtain ⟨value, inMembers⟩ := present
    obtain ⟨_, read, valueRead, rfl⟩ := gathers.named value inMembers
    rw [errorsSlot_on] at valueRead
    rcases unreported value inMembers with rfl | rfl
    · cases valueRead
      rfl
    · obtain ⟨list, listRead, rfl⟩ := exists_of_map_eq_ok valueRead
      have reads := (listReader_computes ServerError.reader_local).on_eq (limit - 1) (.list [])
      rw [ServerError.listReader, reads, listOn, enter] at listRead
      split at listRead <;> cases listRead
      rfl
  · have absent := gathers.unnamed fun value inMembers => present ⟨value, inMembers⟩
    rw [absent]
    rfl

theorem data_eq_of_on {limit : Nat}
    {members inner : List (Except SyntaxFault String × Written)} {envelope : Envelope}
    (parsed : Envelope.on limit (.object members) = .ok envelope)
    (inMembers : (.ok "data", .object inner) ∈ members) :
    ∃ entries, Written.readMembers (limit - 2) [] inner = .ok entries ∧
      envelope.data = some entries := by
  obtain ⟨data, errors, gathers, _, rfl⟩ := gathers_of_on parsed
  obtain ⟨_, read, valueRead, rfl⟩ := gathers.named _ inMembers
  rw [dataSlot_on] at valueRead
  obtain ⟨entries, mapped, rfl⟩ := exists_of_map_eq_ok valueRead
  rw [mappingReader_computes.on_eq, mappingOn] at mapped
  split at mapped
  · cases mapped
  · exact ⟨entries, eq_ok_of_mapError_eq_ok mapped, rfl⟩

/-! ## Bodies that are lists -/

/-- A list of up to two items is read like the object that has them as data and errors. -/
theorem on_list_of_short (limit : Nat) {items : List Written} (short : items.length ≤ 2) :
    Envelope.on limit (.list items) =
      Envelope.on limit (.object ([.ok "data", .ok "errors"].zip items)) := by
  have different : dataSlot.name ≠ errorsSlot.name := by decide
  rw [Envelope.on, Envelope.on,
    pairOn_list_of_short dataSlot_local errorsSlot_local different rfl rfl limit short]
  rfl

theorem on_list_of_long (limit : Nat) {items : List Written} (long : 2 < items.length) :
    ∃ fault, Envelope.on limit (.list items) = .error fault := by
  rw [Envelope.on, pairOn, enter]
  split
  · exact ⟨_, rfl⟩
  · rcases items with _ | ⟨first, _ | ⟨second, _ | ⟨third, rest⟩⟩⟩
    · simp at long
    · simp at long
    · simp at long
    · rw [bothItemsOn_cons_cons]
      cases dataSlot.reader.on (limit - 1) first with
      | error fault => exact ⟨fault, rfl⟩
      | ok read => cases errorsSlot.reader.on (limit - 1) second <;> exact ⟨_, rfl⟩

end Envelope

end ShapeQuery
