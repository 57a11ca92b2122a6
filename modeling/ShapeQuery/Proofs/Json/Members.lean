import ShapeQuery.Proofs.Json.Typed

/-!
# Members of a record in any order

A record that is written as an object takes its two members by their names.  The order of the
members plays no part, and neither do further members of other names, whatever their values
are: those are skipped.
-/

namespace ShapeQuery

namespace Json

variable {α β : Type}

namespace Written

/-- The members are some that are known, and further ones under none of the names, in any
order. -/
def MadeOf (names : List String) (known : List (String × Written))
    (members : List (Except SyntaxFault String × Written)) : Prop :=
  ∃ further : List (String × Written), (∀ member ∈ further, member.1 ∉ names) ∧
    members.Perm ((known ++ further).map fun member => (.ok member.1, member.2))

/-- The values of the members of a name. -/
def valuesOf (name : String) (members : List (Except SyntaxFault String × Written)) :
    List Written :=
  members.filterMap fun member => if member.1 = .ok name then some member.2 else none

section

variable {name : String} {value : Written} {rest : List (Except SyntaxFault String × Written)}

theorem valuesOf_cons_same :
    valuesOf name ((.ok name, value) :: rest) = value :: valuesOf name rest :=
  List.filterMap_cons_some (if_pos rfl)

theorem valuesOf_cons_other {other : String} (different : other ≠ name) :
    valuesOf name ((.ok other, value) :: rest) = valuesOf name rest :=
  List.filterMap_cons_none (if_neg fun same => different (Except.ok.inj same))

end

/-- The member that a record has under a name, if it has one. -/
def single (name : String) (value? : Option Written) : List (String × Written) :=
  value?.toList.map fun value => (name, value)

theorem madeOf_reverse (names : List String) (known further : List (String × Written))
    (different : ∀ member ∈ further, member.1 ∉ names) :
    MadeOf names known ((known ++ further).map fun member => (.ok member.1, member.2)).reverse :=
  ⟨further, different, List.reverse_perm _⟩

namespace MadeOf

variable {names : List String} {known : List (String × Written)}
  {members : List (Except SyntaxFault String × Written)}

theorem named (madeOf : MadeOf names known members) :
    ∀ member ∈ members, ∃ name, member.1 = .ok name := by
  obtain ⟨further, -, order⟩ := madeOf
  intro member inMembers
  obtain ⟨source, -, rfl⟩ := List.mem_map.mp (order.mem_iff.mp inMembers)
  exact ⟨source.1, rfl⟩

theorem mem_of_known (madeOf : MadeOf names known members) {name : String} {value : Written}
    (inKnown : (name, value) ∈ known) : (.ok name, value) ∈ members := by
  obtain ⟨further, -, order⟩ := madeOf
  refine order.mem_iff.mpr (List.mem_map.mpr ⟨(name, value), ?_, rfl⟩)
  exact List.mem_append_left further inKnown

/-- Under one of the names stands what is known to stand there. -/
theorem valuesOf_perm (madeOf : MadeOf names known members) {name : String}
    (wanted : name ∈ names) :
    (valuesOf name members).Perm
      (known.filterMap fun member => if member.1 = name then some member.2 else none) := by
  obtain ⟨further, different, order⟩ := madeOf
  have nothing : further.filterMap (fun member =>
      if member.1 = name then some member.2 else none) = [] := by
    refine List.filterMap_eq_nil_iff.mpr fun member inFurther => if_neg ?_
    rintro rfl
    exact different member inFurther wanted
  have permuted := order.filterMap fun member =>
    if member.1 = .ok name then some member.2 else none
  simpa [valuesOf, List.filterMap_map, Function.comp_def, nothing] using permuted

end MadeOf

theorem eq_toList_of_perm {values : List Written} {value? : Option Written}
    (order : values.Perm value?.toList) : values = value?.toList := by
  cases value? with
  | none => exact order.eq_nil
  | some value => exact order.eq_singleton

section

variable {left right : String} {left? right? : Option Written}
  {members : List (Except SyntaxFault String × Written)}

theorem MadeOf.valuesOf_left (different : left ≠ right)
    (madeOf : MadeOf [left, right] (single left left? ++ single right right?) members) :
    valuesOf left members = left?.toList := by
  apply eq_toList_of_perm
  have permuted := madeOf.valuesOf_perm List.mem_cons_self
  cases left? <;> cases right? <;> simpa [single, different.symm] using permuted

theorem MadeOf.valuesOf_right (different : left ≠ right)
    (madeOf : MadeOf [left, right] (single left left? ++ single right right?) members) :
    valuesOf right members = right?.toList := by
  apply eq_toList_of_perm
  have permuted := madeOf.valuesOf_perm (List.mem_cons_of_mem _ List.mem_cons_self)
  cases left? <;> cases right? <;> simpa [single, different] using permuted

end

end Written

/-! ## Slots -/

/-- What a slot comes to hold when the values of its name are read into it: a second value of a
name is refused. -/
inductive Slot.Receives (slot : Slot α) (limit : Nat) :
    Option α → List Written → Option α → Prop where
  | nothing (held : Option α) : Receives slot limit held [] held
  | value {value : Written} {read : α} (valueRead : slot.reader.on limit value = .ok read) :
      Receives slot limit none [value] (some read)

/-- What stands for a member of a record that is written as an object. -/
inductive Slot.Takes (slot : Slot α) (limit : Nat) : Option Written → α → Prop where
  | present {value : Written} {read : α} (valueRead : slot.reader.on limit value = .ok read) :
      Takes slot limit (some value) read
  | absent {default : α} (defaults : slot.absent = .ok default) : Takes slot limit none default

theorem Slot.Takes.receives {slot : Slot α} {limit : Nat} {value? : Option Written} {taken : α}
    (takes : slot.Takes limit value? taken) :
    ∃ held, slot.Receives limit none value?.toList held ∧ slot.resolve held = .ok taken := by
  cases takes with
  | present valueRead => exact ⟨some taken, .value valueRead, rfl⟩
  | absent defaults =>
      refine ⟨none, .nothing none, ?_⟩
      rw [resolve, defaults]
      rfl

section

variable {inner : Reader α} (innerLocal : inner.Local) (name : String) {limit : Nat}

include innerLocal

theorem Slot.takes_null :
    (Slot.withDefault name (optionalReader inner) none).Takes limit (some (.word .null)) none := by
  refine .present ?_
  calc
    (optionalReader inner).on limit (.word .null) = optionalOn inner limit (.word .null) :=
      (optionalReader_computes innerLocal).on_eq limit (.word .null)
    _ = .ok none := rfl

theorem Slot.takes_value {written : Written} (proper : written ≠ .word .null) {read : α}
    (valueRead : inner.on limit written = .ok read) :
    (Slot.withDefault name (optionalReader inner) none).Takes limit (some written)
      (some read) := by
  refine .present ?_
  calc
    (optionalReader inner).on limit written = optionalOn inner limit written :=
      (optionalReader_computes innerLocal).on_eq limit written
    _ = (inner.on limit written).map some := by rw [optionalOn]; exact proper
    _ = .ok (some read) := by rw [valueRead]; rfl

end

section

variable {left : Slot α} {right : Slot β}

/-- Reading members one after the other, each slot receives the values of its own name. -/
theorem foldlM_memberOn_of_receives (leftLocal : left.reader.Local)
    (rightLocal : right.reader.Local) (different : left.name ≠ right.name) {limit : Nat}
    {members : List (Except SyntaxFault String × Written)} {leftHeld leftLast : Option α}
    {rightHeld rightLast : Option β}
    (named : ∀ member ∈ members, ∃ name, member.1 = .ok name)
    (leftReceives :
      left.Receives limit leftHeld (Written.valuesOf left.name members) leftLast)
    (rightReceives :
      right.Receives limit rightHeld (Written.valuesOf right.name members) rightLast) :
    members.foldlM (memberOn (pairChoice left right) limit) (leftHeld, rightHeld) =
      .ok (leftLast, rightLast) := by
  induction members generalizing leftHeld rightHeld with
  | nil =>
      cases leftReceives
      cases rightReceives
      rfl
  | cons member rest induction =>
      obtain ⟨⟨name, first⟩, behind⟩ := List.forall_mem_cons.mp named
      obtain ⟨_, value⟩ := member
      subst first
      rw [List.foldlM_cons]
      by_cases isLeft : name = left.name
      · subst isLeft
        rw [Written.valuesOf_cons_same] at leftReceives
        rw [Written.valuesOf_cons_other different] at rightReceives
        generalize others : Written.valuesOf left.name rest = values at leftReceives
        cases leftReceives with
        | @value _ read valueRead =>
            rw [memberOn_left leftLocal, valueRead]
            exact induction behind (others ▸ .nothing (some read)) rightReceives
      · by_cases isRight : name = right.name
        · subst isRight
          rw [Written.valuesOf_cons_other isLeft] at leftReceives
          rw [Written.valuesOf_cons_same] at rightReceives
          generalize others : Written.valuesOf right.name rest = values at rightReceives
          cases rightReceives with
          | @value _ read valueRead =>
              rw [memberOn_right different rightLocal, valueRead]
              exact induction behind leftReceives (others ▸ .nothing (some read))
        · rw [Written.valuesOf_cons_other isLeft] at leftReceives
          rw [Written.valuesOf_cons_other isRight] at rightReceives
          rw [memberOn_other isLeft isRight]
          exact induction behind leftReceives rightReceives

/-- A record is what its slots take from the members of their names. -/
theorem pairOn_object_of_takes {wanted : String} (leftLocal : left.reader.Local)
    (rightLocal : right.reader.Local) (different : left.name ≠ right.name) {limit : Nat}
    (room : 1 < limit) {known : List (String × Written)}
    {members : List (Except SyntaxFault String × Written)}
    (madeOf : Written.MadeOf [left.name, right.name] known members)
    {left? right? : Option Written} {leftTaken : α} {rightTaken : β}
    (leftTakes : left.Takes (limit - 1) left? leftTaken)
    (rightTakes : right.Takes (limit - 1) right? rightTaken)
    (both : known = Written.single left.name left? ++ Written.single right.name right?) :
    pairOn wanted left right limit (.object members) = .ok (leftTaken, rightTaken) := by
  subst both
  obtain ⟨leftHeld, leftReceives, leftResolves⟩ := leftTakes.receives
  obtain ⟨rightHeld, rightReceives, rightResolves⟩ := rightTakes.receives
  rw [← madeOf.valuesOf_left different] at leftReceives
  rw [← madeOf.valuesOf_right different] at rightReceives
  have gathered := foldlM_memberOn_of_receives leftLocal rightLocal different madeOf.named
    leftReceives rightReceives
  rw [pairOn, enter, if_neg (Nat.not_le_of_lt room), gathered]
  calc
    resolveBoth left right (leftHeld, rightHeld)
        = (left.resolve leftHeld >>= fun leftValue =>
            right.resolve rightHeld >>= fun rightValue => pure (leftValue, rightValue)) := rfl
    _ = .ok (leftTaken, rightTaken) := by rw [leftResolves, rightResolves]; rfl

end

end Json

end ShapeQuery
