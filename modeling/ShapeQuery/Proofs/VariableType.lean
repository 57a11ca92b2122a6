import ShapeQuery.Proofs.Document.Mark

/-!
# Inferred types of variables

The declared type of a variable can be written from the inside out, where a list is accepted
by the text of its element.  That text is the name of a scalar type only for a scalar, so what
is accepted are the scalars and the lists directly of scalars, under the four names that
documents have for scalars.  The refusals name the shape itself or the element of the outermost
list.  Nothing depends on the targets of pointers.
-/

namespace ShapeQuery

variable {τ σ : Type} {shape element : Shape τ} {required : Bool} {kind : ScalarKind}
  {text name : String}

/-! ## Names -/

/-- The name of a scalar kind in documents, where integers of all sizes go by one name, and
numbers of both formats by another. -/
inductive ScalarKind.NamedAs : ScalarKind → String → Prop
  | text : NamedAs .text "String"
  | signed (width : Width) : NamedAs (.signed width) "Int"
  | unsigned (width : Width) : NamedAs (.unsigned width) "Int"
  | float32 : NamedAs .float32 "Float"
  | float64 : NamedAs .float64 "Float"
  | boolean : NamedAs .boolean "Boolean"

theorem ScalarKind.namedAs_iff : kind.NamedAs name ↔ name = kind.scalarType.name := by
  constructor
  · intro named
    cases named <;> rfl
  · rintro rfl
    cases kind <;> constructor

/-- The name of a shape that is no scalar in a refusal. -/
inductive Shape.RefusedAs : Shape τ → String → Prop
  | list (element : Shape τ) : RefusedAs (.list element) "slice"
  | pointer (target : τ) : RefusedAs (.pointer target) "ptr"
  | object (fields : List (FieldLabel × Shape τ)) : RefusedAs (.object fields) "struct"
  | unmapped (kind : String) : RefusedAs (.unmapped kind) kind

theorem Shape.refusedAs_iff :
    shape.RefusedAs name ↔ (∀ kind, shape ≠ .scalar kind) ∧ name = shape.kind := by
  constructor
  · intro refused
    cases refused <;> exact ⟨nofun, rfl⟩
  · rintro ⟨nonscalar, rfl⟩
    cases shape with
    | scalar kind => exact absurd rfl (nonscalar kind)
    | list | pointer | object | unmapped => constructor

/-! ## Types as texts -/

/-- The names of the scalar types. -/
def ScalarType.names : List String :=
  ["String", "Int", "Float", "Boolean"]

/-- The type of a variable of the shape as a text.  A list is accepted where the text of its
element is the name of a scalar type. -/
def Shape.typeText : Shape τ → Bool → Except TypeError String
  | .scalar kind, required => .ok (kind.scalarType.name ++ VariableType.mark required)
  | .list element, required =>
    match element.typeText false with
    | .ok inner =>
      if inner ∈ ScalarType.names then .ok ("[" ++ inner ++ "]" ++ VariableType.mark required)
      else .error (.invalidElement element.kind)
    | .error _ => .error (.invalidElement element.kind)
  | other, _ => .error (.unsupported other.kind)

theorem ScalarType.name_mem_names (type : ScalarType) : type.name ∈ names := by
  cases type <;> decide

/-- No scalar type has a name that begins with a bracket. -/
theorem ScalarType.bracketed_not_mem_names (rest : String) : "[" ++ rest ∉ names := by
  have unbracketed : ∀ name ∈ names, name.toList.head? ≠ some '[' := by decide
  exact fun member => unbracketed _ member (by simp)

/-- The text of a shape is the name of a scalar type exactly for a scalar. -/
theorem Shape.mem_names_iff (typed : shape.typeText false = .ok text) :
    text ∈ ScalarType.names ↔ ∃ kind, shape = .scalar kind := by
  cases shape with
  | scalar kind =>
      cases typed
      simpa [VariableType.mark] using ScalarType.name_mem_names kind.scalarType
  | list element =>
      refine iff_of_false ?_ ?_
      · rw [typeText] at typed
        split at typed
        · split at typed
          · cases typed
            rw [String.append_assoc, String.append_assoc]
            exact ScalarType.bracketed_not_mem_names _
          · cases typed
        · cases typed
      · rintro ⟨kind, scalar⟩
        cases scalar
  | pointer | object | unmapped => cases typed

/-- A list of anything but scalars is refused for its element. -/
theorem Shape.typeText_list (nested : ∀ kind, element ≠ .scalar kind) :
    (Shape.list element).typeText required = .error (.invalidElement element.kind) := by
  rw [typeText]
  cases typed : element.typeText false with
  | error failure => rfl
  | ok inner =>
      have outside : inner ∉ ScalarType.names := by
        rw [mem_names_iff typed]
        rintro ⟨kind, scalar⟩
        exact nested kind scalar
      exact if_neg outside

theorem Shape.infer_list (nested : ∀ kind, element ≠ .scalar kind) :
    (Shape.list element).infer required = .error (.invalidElement element.kind) := by
  cases element with
  | scalar kind => exact absurd rfl (nested kind)
  | _ => rfl

theorem VariableType.render_single (scalar : ScalarType) (required : Bool) :
    (⟨scalar, false, required⟩ : VariableType).render = scalar.name ++ mark required := by
  cases required <;> simp [render, mark]

theorem VariableType.render_list (scalar : ScalarType) (required : Bool) :
    (⟨scalar, true, required⟩ : VariableType).render =
      "[" ++ scalar.name ++ "]" ++ mark required := by
  cases required <;> simp [render, mark]

theorem Shape.typeText_flat (kind : ScalarKind) (required : Bool) :
    (Shape.list (.scalar kind) : Shape τ).typeText required =
      .ok ("[" ++ kind.scalarType.name ++ "]" ++ VariableType.mark required) := by
  have inside := ScalarType.name_mem_names kind.scalarType
  simp [typeText, VariableType.mark, inside]

/-- The inferred type, written out, is the text that is made from the inside out. -/
theorem Shape.render_infer (shape : Shape τ) (required : Bool) :
    (shape.infer required).map VariableType.render = shape.typeText required := by
  cases shape with
  | scalar kind => exact congrArg Except.ok (VariableType.render_single kind.scalarType required)
  | list element =>
      by_cases flat : ∃ kind, element = .scalar kind
      · obtain ⟨kind, rfl⟩ := flat
        rw [typeText_flat, ← VariableType.render_list]
        rfl
      · have nested := not_exists.mp flat
        rw [infer_list nested, typeText_list nested]
        rfl
  | pointer | object | unmapped => rfl

/-- The text of each kind of shape. -/
theorem Shape.typeText_cases (shape : Shape τ) (required : Bool) :
    (∃ kind, shape = .scalar kind ∧
      shape.typeText required = .ok (kind.scalarType.name ++ VariableType.mark required)) ∨
    (∃ kind, shape = .list (.scalar kind) ∧ shape.typeText required =
      .ok ("[" ++ kind.scalarType.name ++ "]" ++ VariableType.mark required)) ∨
    (∃ element, shape = .list element ∧ (∀ kind, element ≠ .scalar kind) ∧
      shape.typeText required = .error (.invalidElement element.kind)) ∨
    ((∀ kind, shape ≠ .scalar kind) ∧ (∀ element, shape ≠ .list element) ∧
      shape.typeText required = .error (.unsupported shape.kind)) := by
  cases shape with
  | scalar kind => exact .inl ⟨kind, rfl, rfl⟩
  | list element =>
      by_cases flat : ∃ kind, element = .scalar kind
      · obtain ⟨kind, rfl⟩ := flat
        exact .inr (.inl ⟨kind, rfl, typeText_flat kind required⟩)
      · have nested := not_exists.mp flat
        exact .inr (.inr (.inl ⟨element, rfl, nested, typeText_list nested⟩))
  | pointer | object | unmapped => exact .inr (.inr (.inr ⟨nofun, nofun, rfl⟩))

/-! ## Shapes with other targets -/

namespace Shape

mutual

/-- The shape with the targets of its pointers renamed. -/
def retarget (rename : τ → σ) : Shape τ → Shape σ
  | .scalar kind => .scalar kind
  | .list element => .list (element.retarget rename)
  | .pointer target => .pointer (rename target)
  | .object fields => .object (retargetFields rename fields)
  | .unmapped kind => .unmapped kind

def retargetFields (rename : τ → σ) : List (FieldLabel × Shape τ) → List (FieldLabel × Shape σ)
  | [] => []
  | (label, shape) :: rest => (label, shape.retarget rename) :: retargetFields rename rest

end

theorem infer_retarget (rename : τ → σ) (shape : Shape τ) (required : Bool) :
    (shape.retarget rename).infer required = shape.infer required := by
  cases shape with
  | list element => cases element <;> rfl
  | scalar | pointer | object | unmapped => rfl

/-- The inferred type, written out, is the text that is made from the inside out.  What is
accepted are the scalars and the lists directly of scalars, under the name of the scalar; the
mark of a required variable stands behind the type, outside of brackets.  Every other list is
refused for the kind of its element, and every other shape for its own kind, whether required or
not.  The targets of pointers do not matter. -/
theorem infer_accepts_scalars_and_flat_lists (shape : Shape τ) (required : Bool) :
    let outcome := (shape.infer required).map VariableType.render
    outcome = shape.typeText required ∧
    (∀ text, outcome = .ok text ↔ ∃ (kind : ScalarKind) (name : String), kind.NamedAs name ∧
      ((shape = .scalar kind ∧ text = name ++ VariableType.mark required) ∨
      (shape = .list (.scalar kind) ∧
        text = "[" ++ name ++ "]" ++ VariableType.mark required))) ∧
    (∀ failure, outcome = .error failure ↔ ∃ name : String,
      (∃ element, shape = .list element ∧ element.RefusedAs name ∧
        failure = .invalidElement name) ∨
      ((∀ element, shape ≠ .list element) ∧ shape.RefusedAs name ∧
        failure = .unsupported name)) ∧
    (∀ failure, outcome = .error failure ↔
      (shape.infer (!required)).map VariableType.render = .error failure) ∧
    (∀ {σ : Type} (rename : τ → σ),
      ((shape.retarget rename).infer required).map VariableType.render = outcome) := by
  intro outcome
  have written : outcome = shape.typeText required := shape.render_infer required
  refine ⟨written, ?_, ?_, ?_, ?_⟩
  · intro text
    simp only [written, ScalarKind.namedAs_iff, exists_eq_left]
    obtain ⟨kind, rfl, typed⟩ | ⟨kind, rfl, typed⟩ | ⟨element, rfl, nested, typed⟩ |
      ⟨single, proper, typed⟩ := shape.typeText_cases required
    · simp [typed, eq_comm]
    · simp [typed, eq_comm]
    · simp [typed, nested]
    · simp [typed, single, proper]
  · intro failure
    simp only [written, refusedAs_iff]
    obtain ⟨kind, rfl, typed⟩ | ⟨kind, rfl, typed⟩ | ⟨element, rfl, nested, typed⟩ |
      ⟨single, proper, typed⟩ := shape.typeText_cases required
    · simp [typed]
    · simp [typed]
    · simp [typed, nested, eq_comm]
    · simp [typed, single, proper, eq_comm]
  · intro failure
    simp only [outcome]
    rw [infer_eq_map shape required, infer_eq_map shape (!required)]
    cases shape.infer false <;> simp [Except.map]
  · intro σ rename
    rw [infer_retarget]

end Shape

end ShapeQuery
