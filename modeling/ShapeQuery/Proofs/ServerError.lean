import ShapeQuery.Proofs.Envelope
import ShapeQuery.Proofs.Json.Members

/-!
# Spellings of reported errors

A list of errors can be written in many ways: the members of an error and of a place in any
order, no places as an empty list, as null or not at all, and further members of other names
anywhere.  All of them are read as the same list.
-/

namespace ShapeQuery

open Json

namespace Json

/-- A list is what is made of its items. -/
theorem listOn_of_forall₂ {α : Type} {item : Reader α} {limit : Nat} (room : 1 < limit)
    {items : List Written} {values : List α}
    (each : List.Forall₂ (fun written value => item.on (limit - 1) written = .ok value) items
      values) : listOn item limit (.list items) = .ok values := by
  rw [listOn, enter, if_neg (Nat.not_le_of_lt room)]
  exact mapM_eq_ok_iff.mpr each

end Json

/-! ## Places -/

/-- The number that a line or a column is written as. -/
def Json.Written.word32 (word : UInt32) : Written :=
  .number (.ok (.integer word.toNat))

namespace Location

/-- The value writes the place: an object with its line and its column. -/
inductive WrittenAs (location : Location) : Written → Prop where
  | object {members : List (Except SyntaxFault String × Written)}
      (madeOf : Written.MadeOf ["line", "column"]
        [("line", .word32 location.line), ("column", .word32 location.column)] members) :
      WrittenAs location (.object members)

def lineSlot : Slot UInt32 :=
  .required "line" word32Reader 0 "struct Location with 2 elements"

def columnSlot : Slot UInt32 :=
  .required "column" word32Reader 1 "struct Location with 2 elements"

theorem word32Reader_on (limit : Nat) (word : UInt32) :
    word32Reader.on limit (.word32 word) = .ok word := by
  have inRange : 0 ≤ (word.toNat : Int) ∧ (word.toNat : Int) < Nat.pow 2 32 :=
    ⟨Int.natCast_nonneg _, Int.ofNat_lt.mpr word.toNat_lt⟩
  rw [word32Reader_computes.on_eq, Written.word32, word32On_integer, if_pos inRange, Int.toNat_natCast,
    UInt32.ofNat_toNat]

def on (limit : Nat) (written : Written) : Except Fault Location :=
  (pairOn "struct Location" lineSlot columnSlot limit written).map fun both =>
    ⟨both.1, both.2⟩

theorem reader_computes : reader.Computes Location.on := by
  have isLocal := word32Reader_computes.isLocal
  have pair : (pairReader "struct Location" lineSlot columnSlot).Computes _ :=
    pairReader_computes isLocal isLocal
  exact pair.map fun both => (⟨both.1, both.2⟩ : Location)

theorem on_of_writtenAs {location : Location} {limit : Nat} (room : 1 < limit)
    {written : Written} (spelled : location.WrittenAs written) :
    Location.on limit written = .ok location := by
  obtain ⟨madeOf⟩ := spelled
  have isLocal := word32Reader_computes.isLocal
  have line : lineSlot.Takes (limit - 1) _ location.line := .present (word32Reader_on _ _)
  have column : columnSlot.Takes (limit - 1) _ location.column := .present (word32Reader_on _ _)
  have different : lineSlot.name ≠ columnSlot.name := by decide
  rw [Location.on, pairOn_object_of_takes isLocal isLocal different room madeOf line column rfl]
  rfl

end Location

/-! ## Errors -/

namespace ServerError

/-- How the places of an error are written as its member: as a list, and no places also as null
or not at all. -/
inductive PlacesWrittenAs : List Location → Option Written → Prop where
  | list {locations : List Location} {items : List Written}
      (each : List.Forall₂ Location.WrittenAs locations items) :
      PlacesWrittenAs locations (some (.list items))
  | null : PlacesWrittenAs [] (some (.word .null))
  | absent : PlacesWrittenAs [] none

/-- The value writes the error: an object with its message and its places. -/
inductive WrittenAs (error : ServerError) : Written → Prop where
  | object {places? : Option Written} {members : List (Except SyntaxFault String × Written)}
      (places : PlacesWrittenAs error.locations places?)
      (madeOf : Written.MadeOf ["message", "locations"]
        (("message", .text (.ok error.message)) :: Written.single "locations" places?)
        members) : WrittenAs error (.object members)

def messageSlot : Slot String :=
  .required "message" textReader 0 "struct GraphqlError with 2 elements"

def placesSlot : Slot (Option (List Location)) :=
  .withDefault "locations" (optionalReader (Json.listReader Location.reader)) none

theorem placesSlot_local : placesSlot.reader.Local := by
  have list := listReader_computes Location.reader_computes.isLocal
  exact (optionalReader_computes list.isLocal).isLocal

/-- However the places are written, they are taken. -/
theorem placesSlot_takes {locations : List Location} {places? : Option Written}
    (places : PlacesWrittenAs locations places?) {limit : Nat} (room : 2 < limit) :
    ∃ taken, placesSlot.Takes limit places? taken ∧ taken.getD [] = locations := by
  have computes := listReader_computes Location.reader_computes.isLocal
  cases places with
  | @list _ items each =>
      refine ⟨some locations, Slot.takes_value computes.isLocal _ (by nofun) ?_, rfl⟩
      rw [computes.on_eq]
      apply listOn_of_forall₂ (by omega)
      refine each.flip.imp fun written location spelled => ?_
      rw [Location.reader_computes.on_eq]
      exact Location.on_of_writtenAs (by omega) spelled
  | null => exact ⟨none, Slot.takes_null computes.isLocal _, rfl⟩
  | absent => exact ⟨none, .absent rfl, rfl⟩

def on (limit : Nat) (written : Written) : Except Fault ServerError :=
  (pairOn "struct GraphqlError" messageSlot placesSlot limit written).map fun both =>
    ⟨both.1, both.2.getD []⟩

theorem reader_computes : reader.Computes ServerError.on := by
  have pair : (pairReader "struct GraphqlError" messageSlot placesSlot).Computes _ :=
    pairReader_computes textReader_computes.isLocal placesSlot_local
  exact pair.map fun both => (⟨both.1, both.2.getD []⟩ : ServerError)

theorem on_of_writtenAs {error : ServerError} {limit : Nat} (room : 3 < limit)
    {written : Written} (spelled : error.WrittenAs written) :
    ServerError.on limit written = .ok error := by
  obtain ⟨text, locations⟩ := error
  obtain ⟨places, madeOf⟩ := spelled
  have inside : 2 < limit - 1 := by omega
  obtain ⟨taken, placesTakes, rfl⟩ := placesSlot_takes places inside
  have message : messageSlot.Takes (limit - 1) (some (.text (.ok text))) text :=
    .present (textReader_computes.on_eq _ _)
  have different : messageSlot.name ≠ placesSlot.name := by decide
  rw [ServerError.on, pairOn_object_of_takes textReader_computes.isLocal
    placesSlot_local different (by omega) madeOf message placesTakes rfl]
  rfl

/-- However the errors are written as a list, they are read as they are. -/
theorem listOn_of_writtenAs {errors : List ServerError} {items : List Written} {limit : Nat}
    (room : 4 < limit) (spelled : List.Forall₂ WrittenAs errors items) :
    listOn reader limit (.list items) = .ok errors := by
  apply listOn_of_forall₂ (by omega)
  refine spelled.flip.imp fun written error spelled => ?_
  rw [reader_computes.on_eq]
  exact on_of_writtenAs (by omega) spelled

theorem parseAll_of_writtenAs {errors : List ServerError} {items : List Written}
    (spelled : List.Forall₂ WrittenAs errors items) {source : String}
    (writes : Writes source (.list items)) : parseAll source = .ok errors := by
  have computes := listReader_computes reader_computes.isLocal
  rw [parseAll, listReader, readAll_eq_on computes.isLocal writes, computes.on_eq]
  exact listOn_of_writtenAs (by decide) spelled

end ServerError

end ShapeQuery
