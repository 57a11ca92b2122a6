import Mathlib.Data.List.Perm.Subperm
import Mathlib.Logic.Relation
import ShapeQuery.Datatype

/-!
# References between records

A type refers to the records that it is built from, and a record to those that the types of
its fields refer to.  A reference is guarded by an option, a box, a shared pointer or a map
in front of it.  In a guarded family every walk along references that comes back to where it
began passes a guarded one, so unguarded references never lead in a circle, and a chain of
them is no longer than the family.
-/

namespace ShapeQuery

/-- The type refers to the record of that name; the flag says whether the reference is
guarded. -/
inductive Datatype.Refers : Datatype → Bool → String → Prop
  | record (name : String) : Refers (.record name) false name
  | reference {target : Datatype} {guarded : Bool} {name : String} :
      Refers target guarded name → Refers (.reference target) guarded name
  | list {element : Datatype} {guarded : Bool} {name : String} :
      Refers element guarded name → Refers (.list element) guarded name
  | array {element : Datatype} {length : Nat} {guarded : Bool} {name : String} :
      Refers element guarded name → Refers (.array element length) guarded name
  | nullAsDefault {target : Datatype} {guarded : Bool} {name : String} :
      Refers target guarded name → Refers (.nullAsDefault target) guarded name
  | option {target : Datatype} {guarded : Bool} {name : String} :
      Refers target guarded name → Refers (.option target) true name
  | boxed {target : Datatype} {guarded : Bool} {name : String} :
      Refers target guarded name → Refers (.boxed target) true name
  | shared {target : Datatype} {guarded : Bool} {name : String} :
      Refers target guarded name → Refers (.shared target) true name
  | map {value : Datatype} {guarded : Bool} {name : String} :
      Refers value guarded name → Refers (.map value) true name

/-- Every record that the type is built from is declared.  The values of a map have no shape
and need not be declared. -/
def Datatype.Within (family : Family) : Datatype → Prop
  | .record name => ∃ declaration, family.find? name = some declaration
  | .reference target | .option target | .boxed target | .shared target
  | .nullAsDefault target => target.Within family
  | .list element | .array element _ => element.Within family
  | _ => True

namespace Family

variable {family : Family} {name other : String}

/-- The types of all fields are built from declared records. -/
def Closed (family : Family) : Prop :=
  ∀ declaration ∈ family, ∀ field ∈ declaration.fields, field.type.Within family

/-- The type of a field of the record refers to the other one. -/
def Refers (family : Family) (guarded : Bool) (name other : String) : Prop :=
  ∃ declaration field, family.find? name = some declaration ∧ field ∈ declaration.fields ∧
    field.type.Refers guarded other

/-- A walk along references, with the flag of each of them. -/
inductive Walk (family : Family) : String → List Bool → String → Prop
  | stay (name : String) : Walk family name [] name
  | step {name next last : String} {guarded : Bool} {flags : List Bool} :
      family.Refers guarded name next → Walk family next flags last →
      Walk family name (guarded :: flags) last

/-- Every walk that comes back to where it began passes a guarded reference. -/
def Guarded (family : Family) : Prop :=
  ∀ name flags, flags ≠ [] → family.Walk name flags name → true ∈ flags

/-! ## Unguarded references -/

theorem Walk.reachable {flags : List Bool} (walk : family.Walk name flags other)
    (unguarded : true ∉ flags) : Relation.ReflTransGen (family.Refers false) name other := by
  induction walk with
  | stay => exact .refl
  | @step _ _ _ guarded flags reference _ induction =>
      obtain ⟨rfl, later⟩ : guarded = false ∧ true ∉ flags := by simpa using unguarded
      exact .head reference (induction later)

theorem exists_walk_of_transGen
    (reaches : Relation.TransGen (family.Refers false) name other) :
    ∃ flags, flags ≠ [] ∧ family.Walk name flags other ∧ true ∉ flags := by
  induction reaches using Relation.TransGen.head_induction_on with
  | single reference => exact ⟨[false], nofun, .step reference (.stay other), by simp⟩
  | head reference _ induction =>
      obtain ⟨flags, _, walk, unguarded⟩ := induction
      exact ⟨false :: flags, nofun, .step reference walk, by simp [unguarded]⟩

/-- A family is guarded exactly if unguarded references never lead in a circle. -/
theorem guarded_iff :
    family.Guarded ↔ ∀ name, ¬ Relation.TransGen (family.Refers false) name name := by
  constructor
  · intro guarded name circle
    obtain ⟨flags, proper, walk, unguarded⟩ := exists_walk_of_transGen circle
    exact unguarded (guarded name flags proper walk)
  · intro acyclic name flags proper walk
    by_contra unguarded
    cases walk with
    | stay => exact proper rfl
    | @step _ _ _ guarded flags reference walk =>
        obtain ⟨rfl, later⟩ : guarded = false ∧ true ∉ flags := by simpa using unguarded
        exact acyclic name (.head' reference (walk.reachable later))

theorem not_transGen_of_acc
    (ends : Acc (fun next name => family.Refers false name next) name) :
    ¬ Relation.TransGen (family.Refers false) name name := by
  rw [← Relation.transGen_swap]
  have reachable := ends.transGen
  clear ends
  induction reachable with
  | intro name _ induction => exact fun circle => induction name circle circle

theorem mem_of_find? {declaration : RecordDeclaration}
    (declared : family.find? name = some declaration) :
    declaration ∈ family ∧ declaration.name = name := by
  unfold Family.find? at declared
  have named := List.find?_some declared
  exact ⟨List.mem_of_find?_eq_some declared, beq_iff_eq.mp named⟩

/-- A chain of unguarded references between declared records is no longer than the family,
as no record comes twice in it. -/
theorem Guarded.length_le (guarded : family.Guarded) {chain : List String}
    (linked : chain.IsChain (family.Refers false))
    (declared : ∀ name ∈ chain, ∃ declaration, family.find? name = some declaration) :
    chain.length ≤ family.length := by
  have reaching : chain.Pairwise (Relation.TransGen (family.Refers false)) :=
    List.isChain_iff_pairwise.mp (linked.imp fun _ _ => .single)
  have distinct : chain.Nodup := by
    refine reaching.imp fun {name other} reaches equal => ?_
    rw [equal] at reaches
    exact guarded_iff.mp guarded other reaches
  have among : chain ⊆ family.map RecordDeclaration.name := by
    intro name member
    obtain ⟨declaration, found⟩ := declared name member
    obtain ⟨inFamily, rfl⟩ := mem_of_find? found
    exact List.mem_map_of_mem inFamily
  calc chain.length
      ≤ (family.map RecordDeclaration.name).length := (distinct.subperm among).length_le
    _ = family.length := List.length_map _

end Family

end ShapeQuery
