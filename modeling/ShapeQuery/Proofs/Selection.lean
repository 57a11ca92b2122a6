import ShapeQuery.Schema
import ShapeQuery.Proofs.Datum.Decoding

/-!
# What a selection asks for

The selection of a type of a direct family asks for the names under which the fields
of its records are read, at every depth.
-/

namespace ShapeQuery

namespace Selection

/-- The name that an entry asks for. -/
def name : Selection → String
  | .leaf name | .nested name _ => name

/-- What an entry asks for inside; a leaf asks for nothing there. -/
def inner : Selection → List Selection
  | .leaf _ => []
  | .nested _ fields => fields

end Selection

/-- The type below all lists, pointers and optional layers. -/
def Datatype.core : Datatype → Datatype
  | .reference target | .option target | .boxed target | .shared target
  | .nullAsDefault target => target.core
  | .list element | .array element _ => element.core
  | type => type

/-- A selection asks, for each field of the record below the layers of a type, for the
name under which it is read, and so again inside; or it asks for nothing at all. -/
inductive Asks (family : Family) : Datatype → List Selection → Prop
  | nothing (type : Datatype) : Asks family type []
  | fields {type : Datatype} {name : String} {declaration : RecordDeclaration}
      {selection : List Selection} (core : type.core = .record name)
      (declared : family.find? name = some declaration)
      (names : selection.map Selection.name =
        declaration.fields.map fun field => field.wireName)
      (inner : ∀ pair ∈ declaration.fields.zip selection,
        Asks family pair.1.type pair.2.inner) :
      Asks family type selection

theorem Asks.of_core {family : Family} {type other : Datatype} {selection : List Selection}
    (asks : Asks family type selection) (same : other.core = type.core) :
    Asks family other selection := by
  cases asks with
  | nothing => exact .nothing other
  | fields core declared names inner => exact .fields (same.trans core) declared names inner

/-! ## Shapes of types -/

section

variable {recordShape : String → Option (Shape Datatype)} {type : Datatype}
  {shape : Shape Datatype}

/-- An object below lists is the shape of the record below layers. -/
theorem Datatype.exists_record_of_shapeWith {fields : List (FieldLabel × Shape Datatype)}
    (shaped : type.shapeWith recordShape = some shape)
    (object : shape.stripLists = .object fields) :
    ∃ name inner, type.core = .record name ∧ recordShape name = some inner ∧
      inner.stripLists = .object fields := by
  induction type generalizing shape with
  | reference target induction | nullAsDefault target induction =>
      exact induction shaped object
  | list element induction | array element _ induction =>
      obtain ⟨elementShape, elementShaped, rfl⟩ := Option.map_eq_some_iff.mp shaped
      exact induction elementShaped object
  | record name => exact ⟨name, shape, rfl, shaped, object⟩
  | scalar | character | unit | json | option | boxed | shared | map =>
      cases shaped
      cases object

/-- A pointer below lists is one to a type of the same core. -/
theorem Datatype.core_of_shapeWith_pointer {target : Datatype}
    (pointerless : ∀ name inner, recordShape name = some inner →
      inner.stripLists ≠ .pointer target)
    (shaped : type.shapeWith recordShape = some shape)
    (pointer : shape.stripLists = .pointer target) : type.core = target.core := by
  induction type generalizing shape with
  | reference target induction | nullAsDefault target induction =>
      exact induction shaped pointer
  | list element induction | array element _ induction =>
      obtain ⟨elementShape, elementShaped, rfl⟩ := Option.map_eq_some_iff.mp shaped
      exact induction elementShaped pointer
  | record name => exact absurd pointer (pointerless name shape shaped)
  | option | boxed | shared =>
      cases shaped
      cases pointer
      rfl
  | scalar | character | unit | json | map =>
      cases shaped
      cases pointer

end

/-- The labels of the fields, each with the shape of the type of the field. -/
def ShapedFields (recordShape : String → Option (Shape Datatype))
    (declared : List FieldDeclaration) (fields : List (FieldLabel × Shape Datatype)) : Prop :=
  List.Forall₂ (fun field labelled => labelled.1 = field.label ∧
    field.type.shapeWith recordShape = some labelled.2) declared fields

theorem shapedFields_of_mapM {recordShape : String → Option (Shape Datatype)}
    {declared : List FieldDeclaration} {fields : List (FieldLabel × Shape Datatype)}
    (shaped : (declared.mapM fun field => do
      let shape ← field.type.shapeWith recordShape
      return (field.label, shape)) = some fields) :
    ShapedFields recordShape declared fields := by
  induction declared generalizing fields with
  | nil =>
      cases shaped
      exact .nil
  | cons field rest induction =>
      rw [List.mapM_cons] at shaped
      obtain ⟨labelled, fieldShaped, remaining⟩ := Option.bind_eq_some_iff.mp shaped
      obtain ⟨others, restShaped, result⟩ := Option.bind_eq_some_iff.mp remaining
      obtain ⟨shape, typeShaped, paired⟩ := Option.bind_eq_some_iff.mp fieldShaped
      cases paired
      cases result
      exact .cons ⟨rfl, typeShaped⟩ (induction restShaped)

namespace Family

variable {family : Family}

/-- A record is shaped as an object of its fields. -/
theorem recordShape?_succ_eq_some {level : Nat} {name : String} {shape : Shape Datatype}
    (shaped : family.recordShape? (level + 1) name = some shape) :
    ∃ declaration fields, family.find? name = some declaration ∧ shape = .object fields ∧
      ShapedFields (family.recordShape? level) declaration.fields fields := by
  rw [Family.recordShape?] at shaped
  obtain ⟨declaration, declared, remaining⟩ := Option.bind_eq_some_iff.mp shaped
  obtain ⟨fields, fieldsShaped, result⟩ := Option.bind_eq_some_iff.mp remaining
  cases result
  exact ⟨declaration, fields, declared, rfl, shapedFields_of_mapM fieldsShaped⟩

theorem recordShape?_ne_pointer {level : Nat} {name : String} {inner : Shape Datatype}
    (shaped : family.recordShape? level name = some inner) (target : Datatype) :
    inner.stripLists ≠ .pointer target := by
  cases level with
  | zero => cases shaped
  | succ level =>
      obtain ⟨_, fields, _, rfl, _⟩ := recordShape?_succ_eq_some shaped
      nofun

end Family

/-! ## Selections of shapes -/

/-- Where a field has a selection of its own, there is an object below its lists. -/
theorem Shape.nested?_eq_some {τ : Type} {shape : Shape τ} {selection : List Selection}
    (nested : shape.nested? = some selection) :
    ∃ fields, shape.stripLists = .object fields ∧ selection = Shape.selectFields fields := by
  unfold Shape.nested? at nested
  split at nested
  · cases nested
    exact ⟨_, rfl, rfl⟩
  · cases nested
    exact ⟨_, rfl, rfl⟩
  · cases nested

/-- The entry that asks for one field. -/
def FieldLabel.entry {τ : Type} (label : FieldLabel) (shape : Shape τ) : Selection :=
  match shape.nested? with
  | some fields => .nested label.resolved fields
  | none => .leaf label.resolved

theorem FieldLabel.entry_name {τ : Type} (label : FieldLabel) (shape : Shape τ) :
    (label.entry shape).name = label.resolved := by
  unfold FieldLabel.entry
  cases shape.nested? <;> rfl

theorem FieldLabel.entry_inner {τ : Type} (label : FieldLabel) (shape : Shape τ) :
    (label.entry shape).inner = shape.nested?.getD [] := by
  unfold FieldLabel.entry
  cases shape.nested? <;> rfl

theorem Shape.selectFields_eq_map {τ : Type} (fields : List (FieldLabel × Shape τ)) :
    Shape.selectFields fields = fields.map fun labelled => labelled.1.entry labelled.2 := by
  induction fields with
  | nil => rfl
  | cons labelled rest induction =>
      rw [Shape.selectFields, induction]
      rfl

variable {family : Family}

/-- The entries of shaped fields go by the names of the labels. -/
theorem ShapedFields.map_name {recordShape : String → Option (Shape Datatype)}
    {declared : List FieldDeclaration} {fields : List (FieldLabel × Shape Datatype)}
    (shaped : ShapedFields recordShape declared fields) :
    (Shape.selectFields fields).map Selection.name =
      declared.map fun field => field.label.resolved := by
  rw [Shape.selectFields_eq_map, List.map_map]
  induction shaped with
  | nil => rfl
  | cons head _ induction =>
      rw [List.map_cons, List.map_cons, induction, Function.comp_apply, FieldLabel.entry_name,
        head.1]

/-- If the selections of objects at a lower level ask for the fields of their records, then
so do those inside the entries of fields. -/
theorem ShapedFields.asks_inner {level : Nat} {declared : List FieldDeclaration}
    {fields : List (FieldLabel × Shape Datatype)}
    (shaped : ShapedFields (family.recordShape? level) declared fields)
    (lower : ∀ (type : Datatype) shape inner,
      type.shapeWith (family.recordShape? level) = some shape →
      shape.stripLists = .object inner → Asks family type (Shape.selectFields inner)) :
    ∀ pair ∈ declared.zip (Shape.selectFields fields),
      Asks family pair.1.type pair.2.inner := by
  rw [Shape.selectFields_eq_map]
  induction shaped with
  | nil => nofun
  | @cons field labelled _ _ head _ induction =>
      rw [List.map_cons, List.zip_cons_cons]
      refine List.forall_mem_cons.mpr ⟨?_, induction⟩
      rw [FieldLabel.entry_inner]
      cases nested : labelled.2.nested? with
      | none => exact .nothing field.type
      | some selection =>
          obtain ⟨inner, object, rfl⟩ := Shape.nested?_eq_some nested
          exact lower field.type labelled.2 inner head.2 object

/-- What is selected from an object below lists asks for the fields of its record. -/
theorem asks_of_shapeWith (direct : family.Direct) (level : Nat) (type : Datatype)
    (shape : Shape Datatype) (fields : List (FieldLabel × Shape Datatype))
    (shaped : type.shapeWith (family.recordShape? level) = some shape)
    (object : shape.stripLists = .object fields) :
    Asks family type (Shape.selectFields fields) := by
  -- the level bounds how deep records are unfolded inside each other
  induction level generalizing type shape fields with
  | zero =>
      obtain ⟨_, _, _, recordShaped, _⟩ := Datatype.exists_record_of_shapeWith shaped object
      cases recordShaped
  | succ level induction =>
      obtain ⟨name, inner, core, recordShaped, innerObject⟩ :=
        Datatype.exists_record_of_shapeWith shaped object
      obtain ⟨declaration, recordFields, declared, rfl, fieldsShaped⟩ :=
        Family.recordShape?_succ_eq_some recordShaped
      cases innerObject
      have names : (Shape.selectFields fields).map Selection.name =
          declaration.fields.map fun field => field.wireName := by
        rw [fieldsShaped.map_name]
        exact List.map_congr_left fun field member =>
          ((direct.of_find? declared).2.2.1 field member).2.2
      exact .fields core declared names (fieldsShaped.asks_inner induction)

/-- What is left after stripping is the shape below lists, or comes from the target of the
pointer below them. -/
theorem Shape.strip?_eq_some {τ : Type} {resolve : τ → Shape τ} {limit : Nat} {shape : Shape τ}
    {core : Shape.Core τ} (stripped : shape.strip? resolve limit = some core) :
    core.shape = shape.stripLists ∨
      ∃ lower target inner, limit = lower + 1 ∧ shape.stripLists = .pointer target ∧
        (resolve target).strip? resolve lower = some inner ∧ core.shape = inner.shape := by
  rw [Shape.strip?.eq_def] at stripped
  split at stripped
  · cases stripped
  · rename_i target lower pointer
    obtain ⟨inner, innerStripped, rfl⟩ := Option.map_eq_some_iff.mp stripped
    exact .inr ⟨lower, target, inner, rfl, pointer, innerStripped, rfl⟩
  · cases stripped
    exact .inl rfl

/-- A type that resolves to an object or a pointer below lists has that shape. -/
theorem Family.shape?_of_resolve {type : Datatype}
    (mapped : ∀ kind, (family.resolve type).stripLists ≠ .unmapped kind) :
    family.shape? type = some (family.resolve type) := by
  unfold Family.resolve at mapped ⊢
  cases shaped : family.shape? type with
  | none =>
      rw [shaped] at mapped
      exact absurd rfl (mapped "undeclared")
  | some shape => rfl

theorem asks_of_resolve (direct : family.Direct) {type : Datatype}
    {fields : List (FieldLabel × Shape Datatype)}
    (object : (family.resolve type).stripLists = .object fields) :
    Asks family type (Shape.selectFields fields) := by
  have mapped : ∀ kind, (family.resolve type).stripLists ≠ .unmapped kind := by
    rw [object]
    nofun
  exact asks_of_shapeWith direct _ type _ fields (Family.shape?_of_resolve mapped) object

theorem asks_of_strip? (direct : family.Direct) {limit : Nat} {type : Datatype}
    {core : Shape.Core Datatype} {fields : List (FieldLabel × Shape Datatype)}
    (stripped : (family.resolve type).strip? family.resolve limit = some core)
    (object : core.shape = .object fields) : Asks family type (Shape.selectFields fields) := by
  -- the target of a pointer has the same record below its layers as the pointer
  induction limit generalizing type core with
  | zero =>
      obtain left | ⟨_, _, _, followed, _⟩ := Shape.strip?_eq_some stripped
      · exact asks_of_resolve direct (left.symm.trans object)
      · cases followed
  | succ limit induction =>
      obtain left | ⟨lower, target, inner, followed, pointer, innerStripped, same⟩ :=
        Shape.strip?_eq_some stripped
      · exact asks_of_resolve direct (left.symm.trans object)
      · cases followed
        have targetAsks := induction innerStripped (same.symm.trans object)
        have mapped : ∀ kind, (family.resolve type).stripLists ≠ .unmapped kind := by
          rw [pointer]
          nofun
        have core : type.core = target.core := Datatype.core_of_shapeWith_pointer
          (fun _ _ shaped => Family.recordShape?_ne_pointer shaped target)
          (Family.shape?_of_resolve mapped) pointer
        exact targetAsks.of_core core

/-- The selection of a type asks for the names under which the fields are read. -/
theorem Family.asks_of_selection (direct : family.Direct) {type : Datatype}
    {selection : List Selection} (selected : family.selection type = .ok selection) :
    Asks family type selection := by
  unfold Family.selection Shape.project? at selected
  cases stripped : (family.resolve type).strip? family.resolve type.layers with
  | none =>
      rw [stripped] at selected
      cases selected
  | some core =>
      rw [stripped, Option.map_some, Option.getD_some, Shape.select.eq_def] at selected
      split at selected
      · rename_i fields object
        cases selected
        exact asks_of_strip? direct stripped object
      · cases selected

end ShapeQuery
