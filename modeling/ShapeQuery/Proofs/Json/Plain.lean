import ShapeQuery.Json

/-!
# Plain values

A plain value is what integers of at most 64 bits, texts, flags, lists and objects
are made of: it has no floating-point number, and its objects list their members in
increasing order.  The depth of a value counts how many of its lists and objects
stand inside each other.
-/

namespace ShapeQuery

namespace Json

/-- The integers that fit in 64 bits, signed or unsigned. -/
def IsWord (value : Int) : Prop :=
  -(Nat.pow 2 63 : Int) ≤ value ∧ value < Nat.pow 2 64

instance (value : Int) : Decidable (IsWord value) :=
  inferInstanceAs (Decidable (_ ∧ _))

mutual

/-- Integers fit in 64 bits, member names increase, and there is no floating-point
number. -/
def Plain : Json → Prop
  | .null => True
  | .boolean _ => True
  | .integer value => IsWord value
  | .floating _ => False
  | .text _ => True
  | .list items => PlainList items
  | .object members => Named.Increasing members ∧ PlainMembers members

/-- `Plain` for each item. -/
def PlainList : List Json → Prop
  | [] => True
  | item :: rest => Plain item ∧ PlainList rest

/-- `Plain` for the value of each member. -/
def PlainMembers : List (String × Json) → Prop
  | [] => True
  | (_, value) :: rest => Plain value ∧ PlainMembers rest

end

mutual

/-- How many lists and objects stand inside each other. -/
def depth : Json → Nat
  | .list items => depthList items + 1
  | .object members => depthMembers members + 1
  | _ => 0

/-- The largest depth of an item. -/
def depthList : List Json → Nat
  | [] => 0
  | item :: rest => max (depth item) (depthList rest)

/-- The largest depth of the value of a member. -/
def depthMembers : List (String × Json) → Nat
  | [] => 0
  | (_, value) :: rest => max (depth value) (depthMembers rest)

end

theorem depthList_le {items : List Json} {limit : Nat}
    (each : ∀ item ∈ items, item.depth ≤ limit) : depthList items ≤ limit := by
  induction items with
  | nil => exact Nat.zero_le limit
  | cons item rest induction =>
      obtain ⟨head, behind⟩ := List.forall_mem_cons.mp each
      exact Nat.max_le.mpr ⟨head, induction behind⟩

theorem depthMembers_le {members : List (String × Json)} {limit : Nat}
    (each : ∀ entry ∈ members, entry.2.depth ≤ limit) : depthMembers members ≤ limit := by
  induction members with
  | nil => exact Nat.zero_le limit
  | cons entry rest induction =>
      obtain ⟨head, behind⟩ := List.forall_mem_cons.mp each
      exact Nat.max_le.mpr ⟨head, induction behind⟩

theorem plainList_iff {items : List Json} :
    PlainList items ↔ ∀ item ∈ items, item.Plain := by
  induction items with
  | nil => simp [PlainList]
  | cons item rest induction => simp [PlainList, induction]

theorem plainMembers_iff {members : List (String × Json)} :
    PlainMembers members ↔ ∀ entry ∈ members, entry.2.Plain := by
  induction members with
  | nil => simp [PlainMembers]
  | cons entry rest induction => simp [PlainMembers, induction]

end Json

end ShapeQuery
