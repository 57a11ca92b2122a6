import ShapeQuery.Shape

/-!
# Types of variables

A variable has a scalar type or a list type over a scalar, and may be required.
The type is inferred from the shape of the argument; every other shape is
refused with the reason.
-/

namespace ShapeQuery

inductive ScalarType where
  | string
  | int
  | float
  | boolean
  deriving DecidableEq, Repr

def ScalarType.name : ScalarType → String
  | .string => "String"
  | .int => "Int"
  | .float => "Float"
  | .boolean => "Boolean"

/-- The scalar type that stands for a kind. -/
def ScalarKind.scalarType : ScalarKind → ScalarType
  | .text => .string
  | .signed _ | .unsigned _ => .int
  | .float32 | .float64 => .float
  | .boolean => .boolean

structure VariableType where
  scalar : ScalarType
  isList : Bool
  required : Bool
  deriving DecidableEq, Repr

/-- The type as it is declared; the mark of a required variable stands outside
the brackets. -/
def VariableType.render (type : VariableType) : String :=
  let inner := if type.isList then "[" ++ type.scalar.name ++ "]" else type.scalar.name
  if type.required then inner ++ "!" else inner

/-- Why a shape is no type of a variable. -/
inductive TypeError where
  | unsupported (kind : String)
  | invalidElement (kind : String)
  deriving DecidableEq, Repr

def TypeError.message : TypeError → String
  | .unsupported kind => "unknown type " ++ kind
  | .invalidElement kind => "slice type must be scalar, got " ++ kind

/-- The type of a variable of a shape. -/
def Shape.infer {τ : Type} (shape : Shape τ) (required : Bool) :
    Except TypeError VariableType :=
  match shape with
  | .scalar kind => .ok ⟨kind.scalarType, false, required⟩
  | .list (.scalar kind) => .ok ⟨kind.scalarType, true, required⟩
  | .list element => .error (.invalidElement element.kind)
  | other => .error (.unsupported other.kind)

end ShapeQuery
