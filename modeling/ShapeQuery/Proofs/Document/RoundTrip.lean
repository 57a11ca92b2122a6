import ShapeQuery.Proofs.Argument
import ShapeQuery.Proofs.Document.Reader

/-!
# Reading back assembled documents

An assembled document says what it was assembled from: nothing is lost or mixed up
between the operation, the arguments and the selection.  The selection is compared
with the shape it was derived from by a relation that goes through both level by
level.
-/

namespace ShapeQuery

namespace Shape

variable {τ : Type}

/-- A field of this shape has a selection of its own. -/
def Expands : Shape τ → Prop
  | .object _ => True
  | .list (.object _) => True
  | _ => False

mutual

/-- Every field that a selection inside this shape lists goes by a name of the
language. -/
def InnerNamed : Shape τ → Prop
  | .object fields => FieldsNamed fields
  | .list (.object fields) => FieldsNamed fields
  | _ => True

/-- So does every one of these fields, on this level and on those below. -/
def FieldsNamed : List (FieldLabel × Shape τ) → Prop
  | [] => True
  | (label, shape) :: rest => isName label.resolved ∧ InnerNamed shape ∧ FieldsNamed rest

end

mutual

/-- What is selected for one field. -/
inductive SelectsField : FieldLabel × Shape τ → Selection → Prop where
  | object {label : FieldLabel} {fields : List (FieldLabel × Shape τ)}
      {selection : List Selection} :
      SelectsFields fields selection →
      SelectsField (label, .object fields) (.nested label.resolved selection)
  | objects {label : FieldLabel} {fields : List (FieldLabel × Shape τ)}
      {selection : List Selection} :
      SelectsFields fields selection →
      SelectsField (label, .list (.object fields)) (.nested label.resolved selection)
  | leaf {label : FieldLabel} {shape : Shape τ} :
      ¬ shape.Expands → SelectsField (label, shape) (.leaf label.resolved)

/-- The selection lists all fields in their order. -/
inductive SelectsFields : List (FieldLabel × Shape τ) → List Selection → Prop where
  | nil : SelectsFields [] []
  | cons {field : FieldLabel × Shape τ} {fields : List (FieldLabel × Shape τ)}
      {selected : Selection} {selection : List Selection} :
      SelectsField field selected →
      SelectsFields fields selection →
      SelectsFields (field :: fields) (selected :: selection)

end

/-- What is selected for a field, by its label and the selection inside it. -/
def selected (label : FieldLabel) : Option (List Selection) → Selection
  | some fields => .nested label.resolved fields
  | none => .leaf label.resolved

theorem selectFields_cons (label : FieldLabel) (shape : Shape τ)
    (rest : List (FieldLabel × Shape τ)) :
    selectFields ((label, shape) :: rest) =
      selected label (nested? shape) :: selectFields rest := by
  rw [selectFields]
  cases nested? shape <;> rfl

mutual

theorem selectsField_nested? (label : FieldLabel) :
    (shape : Shape τ) → SelectsField (label, shape) (selected label (nested? shape))
  | .object fields => by
      simp only [nested?, selected]
      exact .object (selectsFields_selectFields fields)
  | .list (.object fields) => by
      simp only [nested?, selected]
      exact .objects (selectsFields_selectFields fields)
  | .scalar _ | .pointer _ | .unmapped _ | .list (.scalar _) | .list (.list _)
  | .list (.pointer _) | .list (.unmapped _) => .leaf (by simp [Expands])

theorem selectsFields_selectFields :
    (fields : List (FieldLabel × Shape τ)) → SelectsFields fields (selectFields fields)
  | [] => by
      rw [selectFields]
      exact .nil
  | (label, shape) :: rest => by
      rw [selectFields_cons]
      exact .cons (selectsField_nested? label shape) (selectsFields_selectFields rest)

end

mutual

theorem named_selected {label : FieldLabel} (written : isName label.resolved) :
    (shape : Shape τ) → InnerNamed shape → (selected label (nested? shape)).Named
  | .object fields, named => by
      simp only [nested?, selected]
      exact ⟨written, allNamed_selectFields fields named⟩
  | .list (.object fields), named => by
      simp only [nested?, selected]
      exact ⟨written, allNamed_selectFields fields named⟩
  | .scalar _, _ | .pointer _, _ | .unmapped _, _ | .list (.scalar _), _
  | .list (.list _), _ | .list (.pointer _), _ | .list (.unmapped _), _ => written

theorem allNamed_selectFields :
    (fields : List (FieldLabel × Shape τ)) → FieldsNamed fields →
      Selection.AllNamed (selectFields fields)
  | [], _ => by
      rw [selectFields]
      trivial
  | (label, shape) :: rest, named => by
      obtain ⟨written, innerNamed, restNamed⟩ := named
      rw [selectFields_cons]
      exact ⟨named_selected written shape innerNamed, allNamed_selectFields rest restNamed⟩

end

end Shape

/-- Variables go by the names of their arguments. -/
theorem isName_declaration {entries : List (String × Argument)}
    {declarations : List (String × VariableType)}
    (related : List.Forall₂ (Named.Converted Argument.variableType) entries declarations)
    (named : ∀ entry ∈ entries, isName entry.1) :
    ∀ declaration ∈ declarations, isName declaration.1 := by
  intro declaration member
  have sameNames : declarations.map Prod.fst = entries.map Prod.fst :=
    Named.map_name_of_converted (fun name => name) related
  have inNames : declaration.1 ∈ entries.map Prod.fst := by
    rw [← sameNames]
    exact List.mem_map_of_mem member
  obtain ⟨entry, listed, equal⟩ := List.mem_map.mp inNames
  rw [← equal]
  exact named entry listed

section

variable {τ : Type}

/-- The text of an assembled document is read back, by one reader for all documents,
as exactly what it was assembled from: the operation, its name in both places, a
declaration of the inferred type and a binding for every argument in the order of the
bytes of the names, and the selection of the shape. -/
theorem ofText?_render_of_assemble {resolve : τ → Shape τ} {limit : Nat} {shape : Shape τ}
    {fields : List (FieldLabel × Shape τ)} {followed : List τ}
    (core : shape.strip? resolve limit = some ⟨.object fields, followed⟩)
    (fieldsNamed : Shape.FieldsNamed fields)
    (operation : Operation) {name : String} (written : isName name) (arguments : Arguments)
    (argumentsNamed : ∀ entry ∈ arguments.toList, isName entry.1)
    (inferred : ∀ entry ∈ arguments.toList, ∃ type, entry.2.variableType = .ok type) :
    ∃ selection document declarations tree,
      shape.project? resolve limit = some selection ∧
      Document.assemble operation name selection arguments = .ok document ∧
      WrittenDocument.ofText? document.render =
        some ⟨operation, name, declarations, name,
          arguments.toList.map (fun entry => (entry.1, entry.1)), tree⟩ ∧
      List.Forall₂ (Named.Converted Argument.variableType) arguments.toList declarations ∧
      (declarations.map fun declaration => utf8Bytes declaration.1).Pairwise (· < ·) ∧
      Shape.SelectsFields fields tree := by
  obtain ⟨declarations, declared⟩ := declareEntries_of_inferred inferred
  have related := declareEntries_eq_ok_iff.mp declared
  let document : Document := ⟨operation, name, declarations, Shape.selectFields fields⟩
  have named : document.Named :=
    ⟨written, isName_declaration related argumentsNamed,
      Shape.allNamed_selectFields fields fieldsNamed⟩
  refine ⟨.ok (Shape.selectFields fields), document, declarations,
    Shape.selectFields fields, ?_, ?_, ?_, related, ?_,
    Shape.selectsFields_selectFields fields⟩
  · simp [Shape.project?, core, Shape.select]
  · simp [Document.assemble, declared, document]
  · rw [WrittenDocument.ofText?, Document.lex_render named, WrittenDocument.ofTokens?_tokens]
    simp [Document.written, document,
      Named.map_name_of_converted (fun name => (name, name)) related]
  · rw [Named.map_name_of_converted utf8Bytes related]
    exact arguments.increasing.utf8Bytes

end

/-- The fields of a record that refers to itself behind a pointer, next to a list of
empty records. -/
def linkedFields : List (FieldLabel × Shape Unit) :=
  [(⟨"id", none, none⟩, .scalar .text),
    (⟨"next", none, some "following"⟩, .pointer ()),
    (⟨"marks", none, none⟩, .list (.object [])),
    (⟨"owner", some "holder", none⟩, .object [(⟨"id", none, none⟩, .scalar (.signed .bits64))])]

theorem ofText?_render_of_assemble_linked :
    (Shape.list (.pointer ())).strip? (fun _ => .object linkedFields) 1 =
        some ⟨.object linkedFields, [()]⟩ ∧
      ∃ selection document declarations tree,
        (Shape.list (.pointer ())).project? (fun _ => .object linkedFields) 1 =
          some selection ∧
        Document.assemble .mutation "linkAll" selection
          (.ofList [("keys", .mandatory ["a"]), ("_all", .optional true)]) = .ok document ∧
        WrittenDocument.ofText? document.render =
          some ⟨.mutation, "linkAll", declarations, "linkAll",
            [("_all", "_all"), ("keys", "keys")], tree⟩ ∧
        List.Forall₂ (Named.Converted Argument.variableType)
          [("_all", .optional true), ("keys", .mandatory ["a"])] declarations ∧
        (declarations.map fun declaration => utf8Bytes declaration.1).Pairwise (· < ·) ∧
        Shape.SelectsFields linkedFields tree := by
  have core : (Shape.list (.pointer ())).strip? (fun _ => .object linkedFields) 1 =
      some ⟨.object linkedFields, [()]⟩ := rfl
  have entries : (Arguments.ofList [("keys", .mandatory ["a"]), ("_all", .optional true)]).toList =
      [("_all", .optional true), ("keys", .mandatory ["a"])] := rfl
  refine ⟨core, ofText?_render_of_assemble core ?_ .mutation (by decide) _ ?_ ?_⟩
  · simp [linkedFields, Shape.FieldsNamed, Shape.InnerNamed]
    decide
  · simp [entries]
    decide
  · simp [entries]
    exact ⟨⟨_, rfl⟩, ⟨_, rfl⟩⟩

end ShapeQuery
