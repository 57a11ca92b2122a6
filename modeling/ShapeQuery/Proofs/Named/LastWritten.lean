import Mathlib.Data.List.Dedup
import ShapeQuery.Proofs.Named

/-!
# Entries and the last write under each name

Entries in increasing order are determined by what is found under each name, and
what is found after some writes is the last one under the name.
-/

namespace ShapeQuery

namespace Named

variable {α β : Type}

/-- The value last written under a name. -/
def lastWritten? (name : String) (writes : List (String × α)) : Option α :=
  (writes.filter fun write => write.1 = name).getLast?.map Prod.snd

theorem lastWritten?_append (name : String) (earlier later : List (String × α)) :
    lastWritten? name (earlier ++ later) =
      (lastWritten? name later).or (lastWritten? name earlier) := by
  unfold lastWritten?
  rw [List.filter_append, List.getLast?_append, Option.map_or]

theorem lastWritten?_single (name : String) (write : String × α) :
    lastWritten? name [write] = if write.1 = name then some write.2 else none := by
  by_cases same : write.1 = name <;> simp [lastWritten?, same]

theorem lastWritten?_cons (name : String) (write : String × α)
    (later : List (String × α)) :
    lastWritten? name (write :: later) =
      (lastWritten? name later).or (if write.1 = name then some write.2 else none) := by
  rw [← lastWritten?_single, ← lastWritten?_append]
  rfl

theorem lastWritten?_isSome_iff {name : String} {writes : List (String × α)} :
    (lastWritten? name writes).isSome = true ↔ name ∈ writes.map Prod.fst := by
  rw [lastWritten?, Option.isSome_map, List.getLast?_isSome]
  simp

/-! ## Finding after writing -/

theorem find?_insert (name other : String) (value : α) (entries : List (String × α)) :
    find? other (insert name value entries) =
      if name = other then some value else find? other entries := by
  by_cases same : name = other
  · subst same
    simp
  · have different : other ≠ name := fun equal => same equal.symm
    rw [if_neg same, find?_insert_of_ne value different]

/-- What is found behind some writes is the last one under the name, or else what was
found before. -/
theorem find?_insertAll (name : String) (entries writes : List (String × α)) :
    find? name (insertAll entries writes) =
      (lastWritten? name writes).or (find? name entries) := by
  induction writes generalizing entries with
  | nil => rfl
  | cons write later induction =>
      have written : insertAll entries (write :: later) =
          insertAll (insert write.1 write.2 entries) later := rfl
      rw [written, induction, lastWritten?_cons, find?_insert, Option.or_assoc]
      by_cases same : write.1 = name <;> simp [same]

theorem find?_map_value (convert : α → β) (name : String) (entries : List (String × α)) :
    find? name (entries.map fun entry => (entry.1, convert entry.2)) =
      (find? name entries).map convert := by
  induction entries with
  | nil => rfl
  | cons entry rest induction =>
      rw [List.map_cons, find?_cons, find?_cons, induction]
      by_cases same : name = entry.1 <;> simp [same]

/-- Converted entries are found where the entries are, with the converted value. -/
theorem find?_of_converted {ε : Type} {convert : α → Except ε β}
    {entries : List (String × α)} {results : List (String × β)}
    (related : List.Forall₂ (Converted convert) entries results) (name : String) :
    Option.Rel (fun value result => convert value = .ok result)
      (find? name entries) (find? name results) := by
  induction related with
  | nil => exact .none
  | @cons entry result _ _ headRelated _ induction =>
      obtain ⟨sameName, converted⟩ := headRelated
      rw [find?_cons, find?_cons, sameName]
      by_cases same : name = entry.1
      · rw [if_pos same, if_pos same]
        exact .some converted
      · rw [if_neg same, if_neg same]
        exact induction

/-- Where every entry is made from something, its conversion is found as what that is
converted to. -/
theorem find?_of_converted_map {γ ε : Type} {convert : α → Except ε β} {make : γ → α}
    {result : γ → β} (converts : ∀ source, convert (make source) = .ok (result source))
    {entries : List (String × α)} {results : List (String × β)}
    (related : List.Forall₂ (Converted convert) entries results) {name : String}
    {source? : Option γ} (found : find? name entries = source?.map make) :
    find? name results = source?.map result := by
  have converted := find?_of_converted related name
  rw [found] at converted
  generalize find? name results = obtained at converted ⊢
  cases source? with
  | none =>
      cases converted
      rfl
  | some source =>
      cases converted with
      | some made =>
          rw [converts] at made
          cases made
          rfl

/-! ## Entries in increasing order -/

theorem mem_of_find?_eq_some {name : String} {value : α} {entries : List (String × α)}
    (found : find? name entries = some value) : (name, value) ∈ entries := by
  obtain ⟨earlier, later, rfl, _⟩ := List.lookup_eq_some_iff.mp found
  exact List.mem_append_right earlier List.mem_cons_self

theorem find?_isSome_iff {name : String} {entries : List (String × α)} :
    (find? name entries).isSome = true ↔ name ∈ entries.map Prod.fst := by
  rw [find?, List.lookup_isSome_iff, List.mem_map]
  simp only [beq_iff_eq, @eq_comm _ name]

theorem find?_eq_none_iff {name : String} {entries : List (String × α)} :
    find? name entries = none ↔ name ∉ entries.map Prod.fst := by
  rw [← Option.not_isSome_iff_eq_none, find?_isSome_iff]

theorem Increasing.nodup_names {entries : List (String × α)}
    (increasing : Increasing entries) : (entries.map Prod.fst).Nodup := by
  rw [List.nodup_iff_pairwise_ne, List.pairwise_map]
  apply increasing.imp
  intro left right below equal
  rw [equal] at below
  exact String.lt_irrefl _ below

/-- Where names are distinct, every entry is found under its name. -/
theorem find?_eq_some_iff {entries : List (String × α)}
    (distinct : (entries.map Prod.fst).Nodup) {name : String} {value : α} :
    find? name entries = some value ↔ (name, value) ∈ entries := by
  constructor
  · exact mem_of_find?_eq_some
  · intro member
    induction entries with
    | nil => cases member
    | cons entry rest induction =>
        obtain ⟨held, previous⟩ := entry
        obtain ⟨fresh, restDistinct⟩ := List.nodup_cons.mp distinct
        rw [find?_cons]
        rcases List.mem_cons.mp member with equal | inRest
        · cases equal
          rw [if_pos rfl]
        · have named : name ∈ rest.map Prod.fst :=
            List.mem_map.mpr ⟨(name, value), inRest, rfl⟩
          have different : name ≠ held := by
            rintro rfl
            exact fresh named
          rw [if_neg different]
          exact induction restDistinct inRest

/-- Where every name is written once, what is found behind the writes is the write itself. -/
theorem find?_insertAll_of_nodup {writes : List (String × α)}
    (distinct : (writes.map Prod.fst).Nodup) (name : String) :
    find? name (insertAll [] writes) = find? name writes := by
  rw [find?_insertAll, find?_nil, Option.or_none]
  induction writes with
  | nil => rfl
  | cons write later induction =>
      obtain ⟨fresh, laterDistinct⟩ := List.nodup_cons.mp distinct
      rw [lastWritten?_cons, induction laterDistinct, find?_cons]
      by_cases same : name = write.1
      · subst same
        rw [find?_eq_none_iff.mpr fresh, if_pos rfl, Option.none_or]
      · rw [if_neg (Ne.symm same), if_neg same, Option.or_none]

/-- Of rows with distinct names, each with a value or nothing, the value of its row is what is
written last under a name. -/
theorem lastWritten?_flatMap_toList (convert : α → β)
    {rows : List (String × Option α)} (distinct : (rows.map Prod.fst).Nodup) (name : String) :
    lastWritten? name
        (rows.flatMap fun row => row.2.toList.map fun value => (row.1, convert value)) =
      (find? name rows).join.map convert := by
  induction rows with
  | nil => rfl
  | cons row rest induction =>
      obtain ⟨held, value?⟩ := row
      obtain ⟨fresh, restDistinct⟩ := List.nodup_cons.mp distinct
      rw [List.flatMap_cons, lastWritten?_append, induction restDistinct, find?_cons]
      by_cases same : name = held
      · rw [find?_eq_none_iff.mpr (same ▸ fresh), if_pos same]
        cases value? with
        | none => rfl
        | some value => exact (lastWritten?_single name _).trans (if_pos same.symm)
      · rw [if_neg same]
        cases value? with
        | none => exact Option.or_none
        | some value =>
            have other : lastWritten? name [(held, convert value)] = none :=
              (lastWritten?_single name _).trans (if_neg (Ne.symm same))
            exact (congrArg _ other).trans Option.or_none

/-- Entries in increasing order with the same findings are the same entries. -/
theorem Increasing.eq_of_find?_eq {left right : List (String × α)}
    (leftIncreasing : Increasing left) (rightIncreasing : Increasing right)
    (same : ∀ name, find? name left = find? name right) : left = right := by
  have leftDistinct := leftIncreasing.nodup_names
  have rightDistinct := rightIncreasing.nodup_names
  have sameMembers : ∀ entry, entry ∈ left ↔ entry ∈ right := by
    intro entry
    obtain ⟨name, value⟩ := entry
    rw [← find?_eq_some_iff leftDistinct, ← find?_eq_some_iff rightDistinct, same name]
  have permutation : left.Perm right :=
    (List.perm_ext_iff_of_nodup leftDistinct.of_map rightDistinct.of_map).mpr sameMembers
  apply permutation.eq_of_pairwise _ leftIncreasing rightIncreasing
  intro first second _ _ below above
  exact (String.lt_asymm below above).elim

/-- There are as many entries as distinct names, whatever list the names come from. -/
theorem Increasing.length_eq_dedup {entries : List (String × α)} {names : List String}
    (increasing : Increasing entries)
    (covers : ∀ name, name ∈ entries.map Prod.fst ↔ name ∈ names) :
    entries.length = names.dedup.length := by
  have permutation : (entries.map Prod.fst).Perm names.dedup := by
    apply (List.perm_ext_iff_of_nodup increasing.nodup_names (List.nodup_dedup names)).mpr
    intro name
    rw [covers, List.mem_dedup]
  rw [← List.length_map Prod.fst, permutation.length_eq]

end Named

end ShapeQuery
