import ShapeQuery.Datum.Encoding
import ShapeQuery.Proofs.Json.Plain
import ShapeQuery.Proofs.Named

/-!
# Values with plain JSON forms

A value without floating-point numbers, all of whose integers fit in 64 bits, has a
plain JSON form if it has one at all.
-/

namespace ShapeQuery

section

variable {α β ε : Type} {first : Except ε α} {result : β}

theorem exists_of_bind_eq_ok {next : α → Except ε β} (bound : first >>= next = .ok result) :
    ∃ value, first = .ok value ∧ next value = .ok result := by
  cases first with
  | error fault => cases bound
  | ok value => exact ⟨value, rfl, bound⟩

theorem eq_ok_of_mapError_eq_ok {ζ : Type} {convert : ε → ζ} {value : α}
    (mapped : first.mapError convert = .ok value) : first = .ok value := by
  cases first with
  | error fault => cases mapped
  | ok value => exact congrArg Except.ok (Except.ok.inj mapped)

theorem exists_of_map_eq_ok {next : α → β} (mapped : first.map next = .ok result) :
    ∃ value, first = .ok value ∧ next value = result := by
  cases first with
  | error fault => cases mapped
  | ok value => exact ⟨value, rfl, Except.ok.inj mapped⟩

end

namespace Datum

mutual

/-- There is no floating-point number, and integers fit in 64 bits, as those of every
integer type do.  A key of a map may be anything, as it is only a name in the JSON
form. -/
def Plain : Datum → Prop
  | .text _ => True
  | .character _ => True
  | .integer value => Json.IsWord value
  | .floating _ => False
  | .boolean _ => True
  | .unit => True
  | .absent => True
  | .present value => Plain value
  | .list items => PlainItems items
  | .map entries => PlainEntries entries
  | .record members => PlainMembers members
  | .json value => value.Plain
  | .refusing _ => True

/-- `Plain` for each item. -/
def PlainItems : List Datum → Prop
  | [] => True
  | item :: rest => Plain item ∧ PlainItems rest

/-- `Plain` for each value of a map. -/
def PlainEntries : List (Datum × Datum) → Prop
  | [] => True
  | (_, value) :: rest => Plain value ∧ PlainEntries rest

/-- `Plain` for each member of a record. -/
def PlainMembers : List (String × Datum) → Prop
  | [] => True
  | (_, value) :: rest => Plain value ∧ PlainMembers rest

end

theorem plain_object_insertAll {members : List (String × Json)}
    (plain : ∀ entry ∈ members, entry.2.Plain) :
    (Json.object (Named.insertAll [] members)).Plain := by
  have empty : Named.Increasing ([] : List (String × Json)) := List.Pairwise.nil
  refine ⟨empty.insertAll, Json.plainMembers_iff.mpr ?_⟩
  intro entry member
  rcases Named.mem_insertAll member with older | written
  · cases older
  · exact plain entry written

mutual

/-- The JSON form of a plain value is plain. -/
theorem plain_of_toJson :
    (value : Datum) → value.Plain → {form : Json} → value.toJson = .ok form → form.Plain
  | .text _, _, form, encoded => by
      cases encoded
      trivial
  | .character _, _, form, encoded => by
      cases encoded
      trivial
  | .integer value, word, form, encoded => by
      cases encoded
      exact word
  | .boolean _, _, form, encoded => by
      cases encoded
      trivial
  | .unit, _, form, encoded => by
      cases encoded
      trivial
  | .absent, _, form, encoded => by
      cases encoded
      trivial
  | .present value, plain, form, encoded => plain_of_toJson value plain encoded
  | .list items, plain, form, encoded => by
      obtain ⟨values, itemsEncoded, rfl⟩ := exists_of_map_eq_ok encoded
      exact Json.plainList_iff.mpr (plain_of_itemsToJson items plain itemsEncoded)
  | .map entries, plain, form, encoded => by
      obtain ⟨members, entriesEncoded, rfl⟩ := exists_of_map_eq_ok encoded
      exact plain_object_insertAll (plain_of_entriesToJson entries plain entriesEncoded)
  | .record entries, plain, form, encoded => by
      obtain ⟨members, entriesEncoded, rfl⟩ := exists_of_map_eq_ok encoded
      exact plain_object_insertAll (plain_of_membersToJson entries plain entriesEncoded)
  | .json value, plain, form, encoded => by
      cases encoded
      exact plain

theorem plain_of_itemsToJson :
    (items : List Datum) → PlainItems items → {values : List Json} →
      itemsToJson items = .ok values → ∀ value ∈ values, value.Plain
  | [], _, values, encoded => by
      cases encoded
      exact nofun
  | item :: rest, plain, values, encoded => by
      obtain ⟨itemPlain, restPlain⟩ := plain
      obtain ⟨first, itemEncoded, remaining⟩ := exists_of_bind_eq_ok encoded
      obtain ⟨others, restEncoded, gathered⟩ := exists_of_bind_eq_ok remaining
      cases gathered
      rw [List.forall_mem_cons]
      exact ⟨plain_of_toJson item itemPlain itemEncoded,
        plain_of_itemsToJson rest restPlain restEncoded⟩

theorem plain_of_entriesToJson :
    (entries : List (Datum × Datum)) → PlainEntries entries →
      {members : List (String × Json)} → entriesToJson entries = .ok members →
      ∀ entry ∈ members, entry.2.Plain
  | [], _, members, encoded => by
      cases encoded
      exact nofun
  | (key, value) :: rest, plain, members, encoded => by
      obtain ⟨valuePlain, restPlain⟩ := plain
      obtain ⟨name, keyed, remaining⟩ := exists_of_bind_eq_ok encoded
      obtain ⟨first, valueEncoded, remaining⟩ := exists_of_bind_eq_ok remaining
      obtain ⟨others, restEncoded, gathered⟩ := exists_of_bind_eq_ok remaining
      cases gathered
      rw [List.forall_mem_cons]
      exact ⟨plain_of_toJson value valuePlain valueEncoded,
        plain_of_entriesToJson rest restPlain restEncoded⟩

theorem plain_of_membersToJson :
    (entries : List (String × Datum)) → PlainMembers entries →
      {members : List (String × Json)} → membersToJson entries = .ok members →
      ∀ entry ∈ members, entry.2.Plain
  | [], _, members, encoded => by
      cases encoded
      exact nofun
  | (name, value) :: rest, plain, members, encoded => by
      obtain ⟨valuePlain, restPlain⟩ := plain
      obtain ⟨first, valueEncoded, remaining⟩ := exists_of_bind_eq_ok encoded
      obtain ⟨others, restEncoded, gathered⟩ := exists_of_bind_eq_ok remaining
      cases gathered
      rw [List.forall_mem_cons]
      exact ⟨plain_of_toJson value valuePlain valueEncoded,
        plain_of_membersToJson rest restPlain restEncoded⟩

end

end Datum

end ShapeQuery
