import ShapeQuery.Shape

/-!
# Selections

A selection lists the fields wanted from an object, each with a selection of its
own where its shape is an object or a list directly of objects.  Pointers inside
an object are never followed.
-/

namespace ShapeQuery

inductive Selection where
  | leaf (name : String)
  | nested (name : String) (fields : List Selection)
  deriving Repr, Inhabited

namespace Selection

mutual

def render : Selection → String
  | .leaf name => name
  | .nested name fields => name ++ " \x7b " ++ renderAll fields ++ " \x7d"

/-- The fields separated by one blank. -/
def renderAll : List Selection → String
  | [] => ""
  | [field] => render field
  | field :: rest => render field ++ " " ++ renderAll rest

end

end Selection

namespace Shape

variable {τ : Type}

mutual

/-- The selection inside a field of this shape, if it has one. -/
def nested? : Shape τ → Option (List Selection)
  | .object fields => some (selectFields fields)
  | .list (.object fields) => some (selectFields fields)
  | _ => none

/-- The selection of all fields in declaration order. -/
def selectFields : List (FieldLabel × Shape τ) → List Selection
  | [] => []
  | (label, shape) :: rest =>
    (match nested? shape with
      | some fields => .nested label.resolved fields
      | none => .leaf label.resolved) :: selectFields rest

end

/-- A shape that is no object where a selection was asked for. -/
structure NotAnObject where
  kind : String
  deriving DecidableEq, Repr

def NotAnObject.message (failure : NotAnObject) : String :=
  "expected struct, got " ++ failure.kind

/-- The selection of a stripped shape. -/
def select : Shape τ → Except NotAnObject (List Selection)
  | .object fields => .ok (selectFields fields)
  | other => .error ⟨other.kind⟩

/-- The selection below the outermost list and pointer layers; `none` when there
are more than `limit` pointers among them. -/
def project? (resolve : τ → Shape τ) (limit : Nat) (shape : Shape τ) :
    Option (Except NotAnObject (List Selection)) :=
  (shape.strip? resolve limit).map fun core => core.shape.select

end Shape

end ShapeQuery
