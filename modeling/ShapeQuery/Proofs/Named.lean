import Mathlib.Data.List.Forall2
import ShapeQuery.Named
import ShapeQuery.Proofs.ByteOrder

/-!
# Converting name-indexed entries

The values of a collection are converted in the order of their names, and the first
value that has no conversion decides how the whole fails.  Since names increase,
that is the failing entry of the smallest name.
-/

namespace ShapeQuery

namespace Named

variable {α β ε : Type}

/-- Converts the value of every entry; the name and the fault of the first entry
that fails. -/
def traverse (convert : α → Except ε β) :
    List (String × α) → Except (String × ε) (List (String × β))
  | [] => .ok []
  | (name, value) :: rest =>
    match convert value with
    | .error fault => .error (name, fault)
    | .ok converted => (traverse convert rest).map ((name, converted) :: ·)

/-- The value has no conversion. -/
def Fails (convert : α → Except ε β) (value : α) : Prop :=
  ∃ fault, convert value = .error fault

/-- Names are kept and values converted. -/
def Converted (convert : α → Except ε β) (entry : String × α) (result : String × β) : Prop :=
  result.1 = entry.1 ∧ convert entry.2 = .ok result.2

/-- The entry of the smallest name, byte by byte, among those whose value has a
property. -/
structure IsLeast (property : α → Prop) (entries : List (String × α))
    (entry : String × α) : Prop where
  member : entry ∈ entries
  holds : property entry.2
  least : ∀ other ∈ entries, property other.2 → utf8Bytes entry.1 ≤ utf8Bytes other.1

variable {convert : α → Except ε β}

theorem not_fails_iff {value : α} :
    ¬ Fails convert value ↔ ∃ converted, convert value = .ok converted := by
  cases result : convert value <;> simp [Fails, result]

theorem traverse_eq_ok_iff {entries : List (String × α)} {results : List (String × β)} :
    traverse convert entries = .ok results ↔
      List.Forall₂ (Converted convert) entries results := by
  induction entries generalizing results with
  | nil =>
      constructor
      · intro converted
        cases converted
        exact .nil
      · intro related
        cases related
        rfl
  | cons entry rest induction =>
      obtain ⟨name, value⟩ := entry
      unfold traverse
      constructor
      · intro converted
        split at converted
        · cases converted
        · rename_i result valueConverted
          cases restConverted : traverse convert rest with
          | error failure =>
              rw [restConverted] at converted
              cases converted
          | ok others =>
              rw [restConverted] at converted
              cases converted
              exact .cons ⟨rfl, valueConverted⟩ (induction.mp restConverted)
      · intro related
        cases related with
        | @cons _ result _ others headRelated restRelated =>
            obtain ⟨resultName, converted⟩ := result
            obtain ⟨sameName, valueConverted⟩ := headRelated
            cases sameName
            simp only at valueConverted
            simp [valueConverted, induction.mpr restRelated, Except.map]

theorem map_name_of_converted {γ : Type} (read : String → γ)
    {entries : List (String × α)} {results : List (String × β)}
    (related : List.Forall₂ (Converted convert) entries results) :
    results.map (fun result => read result.1) = entries.map (fun entry => read entry.1) := by
  induction related with
  | nil => rfl
  | cons headRelated _ induction => simp [headRelated.1, induction]

theorem Increasing.of_converted {entries : List (String × α)} {results : List (String × β)}
    (increasing : Increasing entries)
    (related : List.Forall₂ (Converted convert) entries results) : Increasing results := by
  have names := map_name_of_converted (fun name => name) related
  have ordered : (entries.map fun entry => entry.1).Pairwise (· < ·) :=
    List.pairwise_map.mpr increasing
  rw [← names] at ordered
  exact List.pairwise_map.mp ordered

theorem forall_mem_of_converted (property : β → Prop) {entries : List (String × α)}
    {results : List (String × β)}
    (related : List.Forall₂ (Converted convert) entries results)
    (every : ∀ entry ∈ entries, ∀ converted, convert entry.2 = .ok converted →
      property converted) :
    ∀ result ∈ results, property result.2 := by
  induction related with
  | nil => exact nofun
  | cons headRelated _ induction =>
      rw [List.forall_mem_cons] at every ⊢
      exact ⟨every.1 _ headRelated.2, induction every.2⟩

/-- In increasing order the bytes of the names increase as well. -/
theorem Increasing.utf8Bytes {entries : List (String × α)} (increasing : Increasing entries) :
    (entries.map fun entry => ShapeQuery.utf8Bytes entry.1).Pairwise (· < ·) := by
  rw [List.pairwise_map]
  apply increasing.imp
  intro left right smaller
  exact (lt_iff_utf8Bytes_lt left.1 right.1).mp smaller

theorem traverse_eq_ok_of_not_fails {entries : List (String × α)}
    (noneFails : ∀ entry ∈ entries, ¬ Fails convert entry.2) :
    ∃ results, traverse convert entries = .ok results := by
  induction entries with
  | nil => exact ⟨[], rfl⟩
  | cons entry rest induction =>
      obtain ⟨name, value⟩ := entry
      obtain ⟨converted, valueConverted⟩ :=
        not_fails_iff.mp (noneFails (name, value) List.mem_cons_self)
      obtain ⟨others, restConverted⟩ := induction fun other member =>
        noneFails other (List.mem_cons_of_mem _ member)
      exact ⟨(name, converted) :: others, by
        simp [traverse, valueConverted, restConverted, Except.map]⟩

/-- Where some entry fails, the failing entry of the smallest name decides. -/
theorem traverse_eq_error_of_fails {entries : List (String × α)}
    (increasing : Increasing entries)
    (fails : ∃ entry ∈ entries, Fails convert entry.2) :
    ∃ entry fault, IsLeast (Fails convert) entries entry ∧
      convert entry.2 = .error fault ∧
      traverse convert entries = .error (entry.1, fault) := by
  induction entries with
  | nil =>
      obtain ⟨entry, member, _⟩ := fails
      cases member
  | cons entry rest induction =>
      obtain ⟨name, value⟩ := entry
      obtain ⟨below, restIncreasing⟩ := List.pairwise_cons.mp increasing
      cases result : convert value with
      | error fault =>
          refine ⟨(name, value), fault, ⟨List.mem_cons_self, ⟨fault, result⟩, ?_⟩,
            result, by simp [traverse, result]⟩
          -- the walk stops here, and every later name is larger
          intro other member _
          rw [← le_iff_utf8Bytes_le]
          rcases List.mem_cons.mp member with equal | inRest
          · subst equal
            exact String.le_refl _
          · exact String.not_lt.mp (String.lt_asymm (below other inRest))
      | ok converted =>
          have headOk : ¬ Fails convert value := not_fails_iff.mpr ⟨converted, result⟩
          have restFails : ∃ entry ∈ rest, Fails convert entry.2 := by
            obtain ⟨other, member, otherFails⟩ := fails
            rcases List.mem_cons.mp member with equal | inRest
            · subst equal
              exact (headOk otherFails).elim
            · exact ⟨other, inRest, otherFails⟩
          obtain ⟨first, fault, least, firstFails, restResult⟩ :=
            induction restIncreasing restFails
          refine ⟨first, fault, ⟨List.mem_cons_of_mem _ least.member, least.holds, ?_⟩,
            firstFails, by simp [traverse, result, restResult, Except.map]⟩
          intro other member otherFails
          rcases List.mem_cons.mp member with equal | inRest
          · subst equal
            exact (headOk otherFails).elim
          · exact least.least other inRest otherFails

/-! ## Writing entries -/

theorem increasing_pair {left right : String} (below : left < right) (first second : α) :
    Increasing [(left, first), (right, second)] :=
  List.pairwise_pair.mpr below

theorem mem_insertAll {entry : String × α} {entries additions : List (String × α)}
    (member : entry ∈ insertAll entries additions) : entry ∈ entries ∨ entry ∈ additions := by
  induction additions generalizing entries with
  | nil => exact .inl member
  | cons addition rest induction =>
      rcases induction member with written | later
      · rcases mem_insert written with equal | older
        · exact .inr (equal ▸ List.mem_cons_self)
        · exact .inl older
      · exact .inr (List.mem_cons_of_mem _ later)

/-- An entry whose name is above all others is written behind them. -/
theorem insert_of_above {name : String} {value : α} {entries : List (String × α)}
    (above : ∀ entry ∈ entries, entry.1 < name) :
    insert name value entries = entries ++ [(name, value)] := by
  induction entries with
  | nil => rfl
  | cons entry rest induction =>
      obtain ⟨held, previous⟩ := entry
      have below : held < name := above (held, previous) List.mem_cons_self
      have notAbove : ¬ name < held := String.lt_asymm below
      have different : name ≠ held := by
        rintro rfl
        exact String.lt_irrefl _ below
      have restWritten := induction fun other member =>
        above other (List.mem_cons_of_mem _ member)
      simp [insert, notAbove, different, restWritten]

theorem insertAll_append_of_increasing {entries additions : List (String × α)}
    (increasing : Increasing (entries ++ additions)) :
    insertAll entries additions = entries ++ additions := by
  induction additions generalizing entries with
  | nil => simp [insertAll]
  | cons addition rest induction =>
      obtain ⟨name, value⟩ := addition
      have above : ∀ entry ∈ entries, entry.1 < name := by
        intro entry member
        exact (List.pairwise_append.mp increasing).2.2 entry member (name, value)
          List.mem_cons_self
      have shifted : Increasing ((entries ++ [(name, value)]) ++ rest) := by
        simpa using increasing
      have written := induction shifted
      calc
        insertAll entries ((name, value) :: rest)
            = insertAll (insert name value entries) rest := rfl
        _ = insertAll (entries ++ [(name, value)]) rest := by rw [insert_of_above above]
        _ = entries ++ (name, value) :: rest := by rw [written]; simp

/-- Entries in increasing order are what writing them one by one gives. -/
theorem insertAll_of_increasing {entries : List (String × α)}
    (increasing : Increasing entries) : insertAll [] entries = entries :=
  insertAll_append_of_increasing increasing

end Named

end ShapeQuery
