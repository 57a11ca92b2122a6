import Mathlib.Logic.Relation
import ShapeQuery.Proofs.Document.RoundTrip
import ShapeQuery.Proofs.Execution.Preparation

/-!
# Projections and pointers

`Projects` follows a projection step by step: the outer layers are stripped, an object
is written field by field, and a field of an object, or of a list directly of objects, is
projected in its turn, again with everything stripped.  The targets that are resolved on
the way are part of the relation.  As every inner projection starts at an object, it strips
nothing and never fails, so the targets are those of the outer layers alone.
-/

namespace ShapeQuery

theorem Selection.renderAll_eq_intercalate (selection : List Selection) :
    renderAll selection = String.intercalate " " (selection.map render) := by
  induction selection with
  | nil => rfl
  | cons field rest induction =>
      cases rest with
      | nil => rfl
      | cons next others =>
          rw [renderAll, induction]
          · simp only [List.map_cons, String.intercalate_cons_cons]
          · nofun

namespace Shape

variable {τ : Type} {resolve other : τ → Shape τ} {shape core : Shape τ} {targets : List τ}

/-! ## Outer layers -/

/-- Below its outer list and pointer layers a shape has a core, which is no list and no
pointer.  The targets are those of the pointers among the layers, from the outside in. -/
inductive Strips (resolve : τ → Shape τ) : Shape τ → List τ → Shape τ → Prop where
  | scalar (kind : ScalarKind) : Strips resolve (.scalar kind) [] (.scalar kind)
  | object (fields : List (FieldLabel × Shape τ)) :
      Strips resolve (.object fields) [] (.object fields)
  | unmapped (kind : String) : Strips resolve (.unmapped kind) [] (.unmapped kind)
  | list {element core : Shape τ} {targets : List τ} :
      Strips resolve element targets core → Strips resolve (.list element) targets core
  | pointer {target : τ} {core : Shape τ} {targets : List τ} :
      Strips resolve (resolve target) targets core →
      Strips resolve (.pointer target) (target :: targets) core

/-- Only the targets that were met matter. -/
theorem Strips.congr (stripped : Strips resolve shape targets core)
    (agree : ∀ target ∈ targets, other target = resolve target) :
    Strips other shape targets core := by
  induction stripped with
  | scalar kind => exact .scalar kind
  | object fields => exact .object fields
  | unmapped kind => exact .unmapped kind
  | list _ induction => exact .list (induction agree)
  | pointer _ induction =>
      obtain ⟨first, later⟩ := List.forall_mem_cons.mp agree
      have inner := induction later
      rw [← first] at inner
      exact .pointer inner

theorem Strips.unique {others : List τ} {second : Shape τ}
    (stripped : Strips resolve shape targets core)
    (again : Strips resolve shape others second) : targets = others ∧ core = second := by
  induction stripped generalizing others second with
  | scalar | object | unmapped =>
      cases again
      exact ⟨rfl, rfl⟩
  | list _ induction =>
      cases again with
      | list inner => exact induction inner
  | pointer _ induction =>
      cases again with
      | pointer inner =>
          obtain ⟨rfl, rfl⟩ := induction inner
          exact ⟨rfl, rfl⟩

/-- Stripping finds the core where the bound admits the pointers on the way. -/
theorem Strips.strip?_eq_some (stripped : Strips resolve shape targets core) {limit : Nat}
    (within : targets.length ≤ limit) :
    shape.strip? resolve limit = some ⟨core, targets⟩ := by
  -- every pointer uses up one of the bound, and lists none
  induction stripped generalizing limit with
  | scalar | object | unmapped =>
      rw [strip?.eq_def]
      rfl
  | list _ induction =>
      rw [← induction within, strip?.eq_def, strip?.eq_def, stripLists]
  | pointer _ induction =>
      obtain ⟨lower, rfl⟩ := Nat.exists_eq_add_one_of_ne_zero (Nat.ne_zero_of_lt within)
      rw [strip?.eq_def]
      simp only [stripLists, induction (Nat.le_of_succ_le_succ within), Option.map_some]

/-! ## Projections -/

/-- What a field of this shape is projected from in its turn: an object, also as the
element of a list. -/
def descends? : Shape τ → Option (Shape τ)
  | .object fields => some (.object fields)
  | .list element => if element.isObject then some element else none
  | _ => none

mutual

/-- A projection, with the targets that are resolved on the way, in their order, and the
text or the failure that it ends in. -/
inductive Projects (resolve : τ → Shape τ) :
    Shape τ → List τ → Except NotAnObject String → Prop where
  | refused {shape core : Shape τ} {targets : List τ}
      (stripped : Strips resolve shape targets core) (different : core.isObject = false) :
      Projects resolve shape targets (.error ⟨core.kind⟩)
  | object {shape : Shape τ} {targets inner : List τ}
      {fields : List (FieldLabel × Shape τ)} {written : Except NotAnObject (List String)}
      (stripped : Strips resolve shape targets (.object fields))
      (inside : ProjectsFields resolve fields inner written) :
      Projects resolve shape (targets ++ inner) (written.map (String.intercalate " "))

/-- The projection of fields from left to right, which a failure ends. -/
inductive ProjectsFields (resolve : τ → Shape τ) :
    List (FieldLabel × Shape τ) → List τ → Except NotAnObject (List String) → Prop where
  | nil : ProjectsFields resolve [] [] (.ok [])
  | leaf {label : FieldLabel} {shape : Shape τ} {rest : List (FieldLabel × Shape τ)}
      {targets : List τ} {written : Except NotAnObject (List String)}
      (flat : shape.descends? = none) (behind : ProjectsFields resolve rest targets written) :
      ProjectsFields resolve ((label, shape) :: rest) targets
        (written.map (label.resolved :: ·))
  | nested {label : FieldLabel} {shape object : Shape τ}
      {rest : List (FieldLabel × Shape τ)} {inner targets : List τ} {text : String}
      {written : Except NotAnObject (List String)}
      (descends : shape.descends? = some object)
      (inside : Projects resolve object inner (.ok text))
      (behind : ProjectsFields resolve rest targets written) :
      ProjectsFields resolve ((label, shape) :: rest) (inner ++ targets)
        (written.map ((label.resolved ++ " \x7b " ++ text ++ " \x7d") :: ·))
  | failed {label : FieldLabel} {shape object : Shape τ}
      {rest : List (FieldLabel × Shape τ)} {inner : List τ} {failure : NotAnObject}
      (descends : shape.descends? = some object)
      (inside : Projects resolve object inner (.error failure)) :
      ProjectsFields resolve ((label, shape) :: rest) inner (.error failure)

end

/-- What a field descends into is an object, and its fields are what is selected inside. -/
theorem exists_fields_of_descends? {object : Shape τ} (descends : shape.descends? = some object) :
    ∃ fields, object = .object fields ∧ shape.nested? = some (selectFields fields) := by
  unfold descends? at descends
  split at descends
  · rename_i fields
    cases descends
    exact ⟨fields, rfl, by rw [nested?]⟩
  · rename_i element
    cases element with
    | object fields =>
        cases descends
        exact ⟨fields, rfl, by rw [nested?]⟩
    | _ => cases descends
  · cases descends

theorem nested?_of_flat (flat : shape.descends? = none) : shape.nested? = none := by
  cases shape with
  | object fields => cases flat
  | list element =>
      cases element with
      | object fields => cases flat
      | _ => rw [nested?] <;> nofun
  | _ => rw [nested?] <;> nofun

mutual

/-- A projection ends in what is selected from the core, and resolves nothing but the
targets of the outer layers. -/
theorem Projects.exists_core {shape : Shape τ} {called : List τ}
    {outcome : Except NotAnObject String} :
    Projects resolve shape called outcome →
      ∃ core, Strips resolve shape called core ∧
        outcome = core.select.map Selection.renderAll
  | .refused stripped different =>
      ⟨_, stripped, by rw [select_of_not_isObject different]; rfl⟩
  | .object stripped inside => by
      obtain ⟨rfl, rfl⟩ := inside.eq_selected
      rw [List.append_nil]
      refine ⟨_, stripped, ?_⟩
      simp only [select, Except.map, Selection.renderAll_eq_intercalate]

theorem ProjectsFields.eq_selected {fields : List (FieldLabel × Shape τ)} {called : List τ}
    {written : Except NotAnObject (List String)} :
    ProjectsFields resolve fields called written →
      called = [] ∧ written = .ok ((selectFields fields).map Selection.render)
  | .nil => ⟨rfl, by rw [selectFields]; rfl⟩
  | .leaf flat behind => by
      obtain ⟨rfl, rfl⟩ := behind.eq_selected
      rw [selectFields_cons, nested?_of_flat flat]
      exact ⟨rfl, rfl⟩
  | .nested descends inside behind => by
      obtain ⟨rfl, rfl⟩ := behind.eq_selected
      obtain ⟨_, stripped, equal⟩ := inside.exists_core
      obtain ⟨fields, rfl, nested⟩ := exists_fields_of_descends? descends
      cases stripped
      cases equal
      rw [selectFields_cons, nested]
      exact ⟨rfl, rfl⟩
  | .failed descends inside => by
      obtain ⟨_, stripped, equal⟩ := inside.exists_core
      obtain ⟨fields, rfl, _⟩ := exists_fields_of_descends? descends
      cases stripped
      cases equal

end

/-- Fields are projected one by one if each object inside them is. -/
theorem ProjectsFields.entry {label : FieldLabel} {rest : List (FieldLabel × Shape τ)}
    {texts : List String} (behind : ProjectsFields resolve rest [] (.ok texts))
    (inside : ∀ fields, shape.descends? = some (.object fields) →
      ProjectsFields resolve fields [] (.ok ((selectFields fields).map Selection.render))) :
    ProjectsFields resolve ((label, shape) :: rest) []
      (.ok ((selected label shape.nested?).render :: texts)) := by
  cases descends : shape.descends? with
  | none =>
      rw [nested?_of_flat descends]
      exact .leaf descends behind
  | some object =>
      obtain ⟨fields, rfl, nested⟩ := exists_fields_of_descends? descends
      have text : Projects resolve (.object fields) []
          (.ok (Selection.renderAll (selectFields fields))) := by
        rw [Selection.renderAll_eq_intercalate]
        exact .object (.object fields) (inside fields descends)
      rw [nested]
      exact .nested descends text behind

mutual

theorem projectsFields_inside : (shape : Shape τ) → ∀ fields,
    shape.descends? = some (.object fields) →
      ProjectsFields resolve fields [] (.ok ((selectFields fields).map Selection.render))
  | .object inner, fields, descends => by
      cases descends
      exact projectsFields_selectFields inner
  | .list (.object inner), fields, descends => by
      cases descends
      exact projectsFields_selectFields inner
  | .scalar _, _, descends | .pointer _, _, descends | .unmapped _, _, descends
  | .list (.scalar _), _, descends | .list (.list _), _, descends
  | .list (.pointer _), _, descends | .list (.unmapped _), _, descends => by cases descends

theorem projectsFields_selectFields : (fields : List (FieldLabel × Shape τ)) →
    ProjectsFields resolve fields [] (.ok ((selectFields fields).map Selection.render))
  | [] => by
      rw [selectFields]
      exact .nil
  | (label, shape) :: rest => by
      rw [selectFields_cons]
      exact .entry (projectsFields_selectFields rest) (projectsFields_inside shape)

end

/-- A shape whose outer layers come to an end is projected to what is selected from its
core, on exactly one way. -/
theorem Strips.projects_iff (stripped : Strips resolve shape targets core) {called : List τ}
    {outcome : Except NotAnObject String} :
    Projects resolve shape called outcome ↔
      called = targets ∧ outcome = core.select.map Selection.renderAll := by
  constructor
  · intro projects
    obtain ⟨_, again, equal⟩ := projects.exists_core
    obtain ⟨rfl, rfl⟩ := again.unique stripped
    exact ⟨rfl, equal⟩
  · rintro ⟨rfl, rfl⟩
    cases core with
    | object fields =>
        rw [← List.append_nil called]
        have inside : ProjectsFields resolve fields [] _ := projectsFields_selectFields fields
        simp only [select, Except.map, Selection.renderAll_eq_intercalate]
        exact .object stripped inside
    | _ => exact .refused stripped rfl

/-! ## Inner projections and further layers -/

/-- In the projection of a shape another one is projected, from one of its fields. -/
def Enters (resolve : τ → Shape τ) (shape inner : Shape τ) : Prop :=
  ∃ targets fields field, Strips resolve shape targets (.object fields) ∧ field ∈ fields ∧
    field.2.descends? = some inner

/-- The shape stands inside further list and pointer layers, whose targets are `outer`. -/
inductive Wraps (resolve : τ → Shape τ) (shape : Shape τ) : List τ → Shape τ → Prop where
  | bare : Wraps resolve shape [] shape
  | list {outer : List τ} {wrapped : Shape τ} :
      Wraps resolve shape outer wrapped → Wraps resolve shape outer (.list wrapped)
  | pointer {outer : List τ} {target : τ} :
      Wraps resolve shape outer (resolve target) →
      Wraps resolve shape (target :: outer) (.pointer target)

theorem Wraps.strips {outer : List τ} {wrapped : Shape τ}
    (wraps : Wraps resolve shape outer wrapped) (stripped : Strips resolve shape targets core) :
    Strips resolve wrapped (outer ++ targets) core := by
  generalize reached : wrapped = whole at wraps
  induction wraps generalizing wrapped with
  | bare => exact stripped
  | list _ induction => exact .list (induction rfl)
  | pointer _ induction => exact .pointer (induction rfl)

/-- An object is what is selected from. -/
theorem exists_selected_iff :
    (∃ text, core.select.map Selection.renderAll = .ok text) ↔ core.isObject = true := by
  cases object : core.isObject with
  | true =>
      obtain ⟨fields, selected⟩ := select_of_isObject object
      simp [selected, Except.map]
  | false => simp [select_of_not_isObject object, Except.map]

/-- An inner projection starts at an object. -/
theorem exists_fields_of_enters {inner : Shape τ}
    (entered : Relation.TransGen (Enters resolve) shape inner) :
    ∃ fields, inner = .object fields := by
  obtain ⟨_, _, _, _, _, _, _, descends⟩ := Relation.TransGen.tail'_iff.mp entered
  obtain ⟨fields, object, _⟩ := exists_fields_of_descends? descends
  exact ⟨fields, object⟩

/-- Where the outer layers come to an end, a projection does too.  It resolves each target
of these layers once and nothing else, so it is the same wherever these targets are.  It
gives a text exactly if the core is an object, and no projection inside it fails.  Further
layers around the shape change nothing but what is resolved. -/
theorem project_resolves_outer_targets (stripped : Strips resolve shape targets core)
    (agree : ∀ target ∈ targets, other target = resolve target) :
    let outcome := core.select.map Selection.renderAll
    (∀ called result, Projects resolve shape called result ↔
      called = targets ∧ result = outcome) ∧
    (∀ called result, Projects other shape called result ↔
      called = targets ∧ result = outcome) ∧
    (∀ limit, targets.length ≤ limit →
      shape.strip? resolve limit = some ⟨core, targets⟩ ∧
      shape.project? resolve limit = some core.select ∧
      shape.project? other limit = some core.select) ∧
    ((∃ text, outcome = .ok text) ↔ core.isObject = true) ∧
    (core.isObject = false → ∃ failure, outcome = .error failure ∧
      failure.message = "expected struct, got " ++ core.kind) ∧
    (∀ inner, Relation.TransGen (Enters resolve) shape inner →
      ∃ text, ∀ called result, Projects resolve inner called result ↔
        called = [] ∧ result = .ok text) ∧
    (∀ outer wrapped, Wraps resolve shape outer wrapped → ∀ called result,
      Projects resolve wrapped called result ↔
        called = outer ++ targets ∧ result = outcome) := by
  intro outcome
  have elsewhere : Strips other shape targets core := stripped.congr agree
  refine ⟨fun _ _ => stripped.projects_iff, fun _ _ => elsewhere.projects_iff, ?_,
    exists_selected_iff, ?_, ?_, ?_⟩
  · intro limit within
    have found := stripped.strip?_eq_some within
    have foundElsewhere := elsewhere.strip?_eq_some within
    exact ⟨found, by rw [project?, found, Option.map_some],
      by rw [project?, foundElsewhere, Option.map_some]⟩
  · intro different
    exact ⟨⟨core.kind⟩, by simp only [outcome, select_of_not_isObject different, Except.map],
      rfl⟩
  · intro inner entered
    obtain ⟨fields, rfl⟩ := exists_fields_of_enters entered
    exact ⟨_, fun _ _ => (Strips.object fields).projects_iff⟩
  · intro outer wrapped wraps called result
    exact (wraps.strips stripped).projects_iff

/-- The fields of a record that refers to itself, and to a chain of pointers without an end. -/
def endlessFields : List (FieldLabel × Shape Nat) :=
  [(⟨"id", none, none⟩, .scalar .text),
    (⟨"whole", none, none⟩, .pointer 0),
    (⟨"chain", none, some "links"⟩, .pointer 1),
    (⟨"parts", none, none⟩, .list (.object [(⟨"whole", none, none⟩, .list (.pointer 0))]))]

/-- The record, the chain, and a list of the record behind a pointer. -/
def endless : Nat → Shape Nat
  | 0 => .object endlessFields
  | 1 => .pointer 1
  | _ => .list (.pointer 0)

/-- The same record, with nothing but kinds that are not mapped besides. -/
def cutOff : Nat → Shape Nat
  | 0 => .object endlessFields
  | _ => .unmapped "map"

theorem project_resolves_outer_targets_endless :
    Projects endless (.list (.pointer 0)) [0]
        (.ok "id whole links parts \x7b whole \x7d") ∧
      Projects cutOff (.list (.pointer 0)) [0]
        (.ok "id whole links parts \x7b whole \x7d") ∧
      (Shape.list (.pointer 0)).project? cutOff 1 =
        some (.ok [.leaf "id", .leaf "whole", .leaf "links",
          .nested "parts" [.leaf "whole"]]) ∧
      Projects endless (.list (.pointer 2)) [2, 0]
        (.ok "id whole links parts \x7b whole \x7d") := by
  have stripped : Strips endless (.list (.pointer 0)) [0] (.object endlessFields) :=
    .list (.pointer (.object endlessFields))
  have agree : ∀ target ∈ [0], cutOff target = endless target := by
    simp [cutOff, endless]
  have wraps : Wraps endless (.list (.pointer 0)) [2] (.list (.pointer 2)) :=
    .list (.pointer .bare)
  obtain ⟨here, there, bounded, _, _, _, wrapped⟩ :=
    project_resolves_outer_targets stripped agree
  have written : (Shape.object endlessFields).select.map Selection.renderAll =
      .ok "id whole links parts \x7b whole \x7d" := by
    decide +kernel
  refine ⟨(here _ _).mpr ⟨rfl, written.symm⟩, (there _ _).mpr ⟨rfl, written.symm⟩,
    (bounded 1 (Nat.le_refl 1)).2.2, ?_⟩
  exact (wrapped [2] _ wraps _ _).mpr ⟨rfl, written.symm⟩

end Shape

end ShapeQuery
