/-!
# Name-indexed entries

Collections keyed by a text are lists of entries in strictly increasing order
of their names.  Names are compared code point by code point, which is also the
order of their UTF-8 bytes.  Writing under a name keeps the order and replaces
whatever stood there before.
-/

namespace ShapeQuery

namespace Named

variable {α β : Type}

/-- Every name is strictly smaller than all later ones. -/
def Increasing (entries : List (String × α)) : Prop :=
  entries.Pairwise fun left right => left.1 < right.1

/-- Writes `value` under `name`, replacing the entry that held that name. -/
def insert (name : String) (value : α) : List (String × α) → List (String × α)
  | [] => [(name, value)]
  | (held, previous) :: rest =>
    if name < held then (name, value) :: (held, previous) :: rest
    else if name = held then (name, value) :: rest
    else (held, previous) :: insert name value rest

def find? (name : String) (entries : List (String × α)) : Option α :=
  entries.lookup name

/-- Writes the entries of `additions` from left to right, so the last one under
each name stays. -/
def insertAll (entries : List (String × α)) (additions : List (String × α)) :
    List (String × α) :=
  additions.foldl (fun written entry => insert entry.1 entry.2 written) entries

theorem mem_insert {name : String} {value : α} {entry : String × α} :
    {entries : List (String × α)} → entry ∈ insert name value entries →
      entry = (name, value) ∨ entry ∈ entries
  | [], member => by simpa [insert] using member
  | (held, previous) :: rest, member => by
    unfold insert at member
    split at member
    · simpa using member
    · split at member
      · rcases List.mem_cons.mp member with equal | inRest
        · exact .inl equal
        · exact .inr (List.mem_cons_of_mem _ inRest)
      · rcases List.mem_cons.mp member with equal | inRest
        · exact .inr (equal ▸ List.mem_cons_self)
        · rcases mem_insert inRest with equal | older
          · exact .inl equal
          · exact .inr (List.mem_cons_of_mem _ older)

/-- Writing keeps the entries in strictly increasing order. -/
theorem Increasing.insert {name : String} {value : α} :
    {entries : List (String × α)} → Increasing entries →
      Increasing (Named.insert name value entries)
  | [], _ => by simp [Increasing, Named.insert]
  | (held, previous) :: rest, increasing => by
    obtain ⟨above, restIncreasing⟩ := List.pairwise_cons.mp increasing
    unfold Named.insert
    split
    · rename_i below
      refine List.pairwise_cons.mpr ⟨?_, increasing⟩
      intro entry member
      rcases List.mem_cons.mp member with equal | inRest
      · exact equal ▸ below
      · exact String.lt_trans below (above entry inRest)
    · split
      · rename_i equal
        exact List.pairwise_cons.mpr ⟨equal ▸ above, restIncreasing⟩
      · rename_i notBelow different
        refine List.pairwise_cons.mpr ⟨?_, Increasing.insert restIncreasing⟩
        intro entry member
        rcases mem_insert member with equal | older
        · subst equal
          exact String.not_le.mp fun below =>
            different (String.le_antisymm below (String.not_lt.mp notBelow))
        · exact above entry older

theorem Increasing.insertAll {additions : List (String × α)} :
    {entries : List (String × α)} → Increasing entries →
      Increasing (Named.insertAll entries additions) := by
  induction additions with
  | nil => exact fun increasing => increasing
  | cons addition additions induction =>
    exact fun increasing => induction increasing.insert

@[simp] theorem find?_nil (name : String) :
    find? name ([] : List (String × α)) = none := rfl

theorem find?_cons (name held : String) (value : α) (rest : List (String × α)) :
    find? name ((held, value) :: rest) =
      if name = held then some value else find? name rest := by
  unfold find?
  rw [List.lookup_cons]
  by_cases equal : name = held
  · have same : (name == held) = true := by simpa using equal
    rw [same, if_pos equal]
  · have different : (name == held) = false := by simpa using equal
    rw [different, if_neg equal]

/-- Reading back the written name gives the written value. -/
@[simp] theorem find?_insert_self (name : String) (value : α) :
    (entries : List (String × α)) → find? name (insert name value entries) = some value
  | [] => by simp [insert, find?_cons]
  | (held, previous) :: rest => by
    unfold insert
    split
    · simp [find?_cons]
    · split
      · simp [find?_cons]
      · rename_i different
        simp [find?_cons, different, find?_insert_self name value rest]

/-- Writing under one name leaves every other name as it was. -/
theorem find?_insert_of_ne {name other : String} (value : α) (different : other ≠ name) :
    (entries : List (String × α)) →
      find? other (insert name value entries) = find? other entries
  | [] => by simp [insert, find?_cons, different]
  | (held, previous) :: rest => by
    unfold insert
    split
    · simp [find?_cons, different]
    · split
      · rename_i equal
        subst equal
        simp [find?_cons, different]
      · simp [find?_cons, find?_insert_of_ne value different rest]

end Named

end ShapeQuery
