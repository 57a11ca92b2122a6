/-!
# Shapes

The shape of a type is what documents are derived from: scalars, lists, pointers,
objects with fields in declaration order, and kinds that have no place in a
document.  The target of a pointer is a name `τ` whose shape is looked up only on
demand, so a shape is finite even where a type refers to itself.
-/

namespace ShapeQuery

/-- The size of an integer type. -/
inductive Width where
  | bits8
  | bits16
  | bits32
  | bits64
  | native
  deriving DecidableEq, Repr

namespace Width

/-- The number of bits; the native size is 64. -/
def bits : Width → Nat
  | .bits8 => 8
  | .bits16 => 16
  | .bits32 => 32
  | .bits64 | .native => 64

/-- How the size is written behind the sign letter of an integer type. -/
def label : Width → String
  | .bits8 => "8"
  | .bits16 => "16"
  | .bits32 => "32"
  | .bits64 => "64"
  | .native => "size"

end Width

inductive ScalarKind where
  | text
  | signed (width : Width)
  | unsigned (width : Width)
  | float32
  | float64
  | boolean
  deriving DecidableEq, Repr

/-- The name of a scalar kind. -/
def ScalarKind.name : ScalarKind → String
  | .text => "string"
  | .signed width => "i" ++ width.label
  | .unsigned width => "u" ++ width.label
  | .float32 => "f32"
  | .float64 => "f64"
  | .boolean => "bool"

/-- The names a field may go by. -/
structure FieldLabel where
  declared : String
  explicit : Option String
  serial : Option String
  deriving DecidableEq, Repr, Inhabited

namespace FieldLabel

/-- The part of a text before its first comma. -/
def firstSegment (name : String) : String :=
  String.ofList (name.toList.takeWhile (· != ','))

/-- The name in a document that an explicit name gives. -/
def explicitName? (label : FieldLabel) : Option String :=
  label.explicit.filter (· != "")

/-- The name in a document that a serialization name gives: its first segment,
unless the whole is empty or a single dash, or the segment is empty. -/
def serialName? (label : FieldLabel) : Option String :=
  match label.serial with
  | none => none
  | some name =>
    if name = "" ∨ name = "-" then none
    else
      let segment := firstSegment name
      if segment = "" then none else some segment

/-- The name of the field in a document: the explicit name, else the
serialization name, else the declared one. -/
def resolved (label : FieldLabel) : String :=
  (label.explicitName?.or label.serialName?).getD label.declared

end FieldLabel

/-- The shape of a type, with pointers to targets named by `τ`. -/
inductive Shape (τ : Type) where
  | scalar (kind : ScalarKind)
  | list (element : Shape τ)
  | pointer (target : τ)
  | object (fields : List (FieldLabel × Shape τ))
  | unmapped (kind : String)
  deriving Inhabited

namespace Shape

variable {τ : Type}

/-- A short name for the kind of a shape. -/
def kind : Shape τ → String
  | .scalar kind => kind.name
  | .list _ => "slice"
  | .pointer _ => "ptr"
  | .object _ => "struct"
  | .unmapped kind => kind

/-- Whether the shape is an object. -/
def isObject : Shape τ → Bool
  | .object _ => true
  | _ => false

def stripLists : Shape τ → Shape τ
  | .list element => element.stripLists
  | shape => shape

/-- A shape below its outermost layers, and the targets of the pointers that were
followed to reach it, from the outside in. -/
structure Core (τ : Type) where
  shape : Shape τ
  followed : List τ

/-- Strips the outermost list and pointer layers, following at most `limit`
pointers; nothing when there are more. -/
def strip? (resolve : τ → Shape τ) (limit : Nat) (shape : Shape τ) : Option (Core τ) :=
  match shape.stripLists, limit with
  | .pointer _, 0 => none
  | .pointer target, limit + 1 =>
    ((resolve target).strip? resolve limit).map fun core =>
      ⟨core.shape, target :: core.followed⟩
  | other, _ => some ⟨other, []⟩

end Shape

end ShapeQuery
