import ShapeQuery.Proofs.Json.Written

/-!
# Values that a strict reader gets through

There are three things that a strict reader refuses in a well-formed value: a number out of
range, a text with an unpaired surrogate, and brackets that are nested too deep.
-/

namespace ShapeQuery

section

variable {α β ε : Type}

theorem exists_map_eq_ok_iff {first : Except ε α} {convert : α → β} :
    (∃ result, first.map convert = .ok result) ↔ ∃ value, first = .ok value := by
  cases first <;> simp [Except.map]

theorem exists_bind_eq_ok_iff {first : Except ε α} {next : α → Except ε β} :
    (∃ result, (first >>= next) = .ok result) ↔
      ∃ value, first = .ok value ∧ ∃ result, next value = .ok result := by
  cases first <;> simp [Bind.bind, Except.bind]

end

namespace Json.Written

mutual

/-- Every number in the value is in range, and every text and every name is made of
characters. -/
def Sound : Written → Prop
  | .word _ => True
  | .number strict => ∃ number, strict = .ok number
  | .text strict => ∃ text, strict = .ok text
  | .list items => SoundItems items
  | .object members => SoundMembers members

def SoundItems : List Written → Prop
  | [] => True
  | item :: rest => Sound item ∧ SoundItems rest

def SoundMembers : List (Except SyntaxFault String × Written) → Prop
  | [] => True
  | (name, value) :: rest => (∃ text, name = .ok text) ∧ Sound value ∧ SoundMembers rest

end

mutual

/-- How many lists and objects stand around the innermost value, itself included. -/
def depth : Written → Nat
  | .list items => depthItems items + 1
  | .object members => depthMembers members + 1
  | _ => 0

def depthItems : List Written → Nat
  | [] => 0
  | item :: rest => max (depth item) (depthItems rest)

def depthMembers : List (Except SyntaxFault String × Written) → Nat
  | [] => 0
  | (_, value) :: rest => max (depth value) (depthMembers rest)

end

mutual

/-- A strict reader gets through a value if and only if the value is sound and not nested
deeper than there is room. -/
theorem exists_read_iff (room : Nat) :
    (written : Written) →
      ((∃ json, written.read room = .ok json) ↔ written.Sound ∧ written.depth ≤ room - 1)
  | .word value => by
      simp [read, Sound, depth]
  | .number strict => by
      simp [read, Sound, depth, exists_map_eq_ok_iff]
  | .text strict => by
      simp [read, Sound, depth, exists_map_eq_ok_iff]
  | .list items => by
      rw [read, Sound, depth]
      split
      · exact iff_of_false nofun fun fits => by omega
      · rw [exists_map_eq_ok_iff, exists_readItems_iff (room - 1) items]
        exact and_congr_right fun _ => by omega
  | .object members => by
      rw [read, Sound, depth]
      split
      · exact iff_of_false nofun fun fits => by omega
      · rw [exists_map_eq_ok_iff, exists_readMembers_iff (room - 1) members []]
        exact and_congr_right fun _ => by omega

theorem exists_readItems_iff (room : Nat) :
    (items : List Written) →
      ((∃ values, readItems room items = .ok values) ↔
        SoundItems items ∧ depthItems items ≤ room - 1)
  | [] => by
      simp [readItems, SoundItems, depthItems]
  | item :: rest => by
      have first := exists_read_iff room item
      have others := exists_readItems_iff room rest
      rw [readItems, SoundItems, depthItems, Nat.max_le, and_and_and_comm, ← first, ← others]
      simp only [exists_bind_eq_ok_iff]
      constructor
      · rintro ⟨value, itemRead, values, restRead, -⟩
        exact ⟨⟨value, itemRead⟩, values, restRead⟩
      · rintro ⟨⟨value, itemRead⟩, values, restRead⟩
        exact ⟨value, itemRead, values, restRead, _, rfl⟩

theorem exists_readMembers_iff (room : Nat) :
    (members : List (Except SyntaxFault String × Written)) → (held : List (String × Json)) →
      ((∃ entries, readMembers room held members = .ok entries) ↔
        SoundMembers members ∧ depthMembers members ≤ room - 1)
  | [], held => by
      simp [readMembers, SoundMembers, depthMembers]
  | (name, value) :: rest, held => by
      have first := exists_read_iff room value
      -- which members are held plays no part in whether the others can be read
      have others := exists_readMembers_iff room rest
      rw [readMembers, SoundMembers, depthMembers, Nat.max_le]
      simp only [exists_bind_eq_ok_iff, others]
      constructor
      · rintro ⟨text, named, json, valueRead, restSound, restFits⟩
        obtain ⟨sound, fits⟩ := first.mp ⟨json, valueRead⟩
        exact ⟨⟨⟨text, named⟩, sound, restSound⟩, fits, restFits⟩
      · rintro ⟨⟨⟨text, named⟩, sound, restSound⟩, fits, restFits⟩
        obtain ⟨json, valueRead⟩ := first.mpr ⟨sound, fits⟩
        exact ⟨text, named, json, valueRead, restSound, restFits⟩

end

end Json.Written

end ShapeQuery
