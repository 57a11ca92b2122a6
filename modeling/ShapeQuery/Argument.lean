import ShapeQuery.Datatype
import ShapeQuery.Datum.Encoding
import ShapeQuery.VariableType

/-!
# Arguments

An argument is a value with the shape of its type and a required flag.  The flag
appears only in the declared type of the variable; the value that is sent is the
bare one.  The arguments of an operation are kept in increasing order of their
names, each name once.
-/

namespace ShapeQuery

/-- A value passed to an operation. -/
structure Argument where
  shape : Shape Datatype
  value : Datum
  required : Bool
  deriving Inhabited

/-- Types of this language whose values can be arguments. -/
class ArgumentValue (α : Type) where
  shape : Shape Datatype
  datum : α → Datum

instance : ArgumentValue String := ⟨.scalar .text, .text⟩

instance : ArgumentValue Bool := ⟨.scalar .boolean, .boolean⟩

instance : ArgumentValue Int64 := ⟨.scalar (.signed .bits64), fun value => .integer value.toInt⟩

instance {α : Type} [ArgumentValue α] : ArgumentValue (List α) :=
  ⟨.list (ArgumentValue.shape α), fun items => .list (items.map ArgumentValue.datum)⟩

namespace Argument

variable {α : Type} [ArgumentValue α]

/-- An argument that must not be null. -/
def mandatory (value : α) : Argument :=
  ⟨ArgumentValue.shape α, ArgumentValue.datum value, true⟩

/-- An argument that may be null. -/
def optional (value : α) : Argument :=
  ⟨ArgumentValue.shape α, ArgumentValue.datum value, false⟩

/-- The declared type of the variable. -/
def variableType (argument : Argument) : Except TypeError VariableType :=
  argument.shape.infer argument.required

/-- The value that is sent. -/
def toJson (argument : Argument) : Except Datum.EncodingFault Json :=
  argument.value.toJson

end Argument

/-- The arguments of an operation, in increasing order of their names. -/
structure Arguments where
  toList : List (String × Argument)
  increasing : Named.Increasing toList

namespace Arguments

def empty : Arguments :=
  ⟨[], List.Pairwise.nil⟩

instance : Inhabited Arguments := ⟨empty⟩

@[ext] theorem ext {left right : Arguments} (equal : left.toList = right.toList) :
    left = right := by
  cases left
  cases right
  cases equal
  rfl

/-- Writes an argument under a name, replacing the previous one. -/
def insert (arguments : Arguments) (name : String) (argument : Argument) : Arguments :=
  ⟨Named.insert name argument arguments.toList, arguments.increasing.insert⟩

def get? (arguments : Arguments) (name : String) : Option Argument :=
  Named.find? name arguments.toList

/-- Writes an argument and gives the one it replaced. -/
def replace (arguments : Arguments) (name : String) (argument : Argument) :
    Option Argument × Arguments :=
  (arguments.get? name, arguments.insert name argument)

/-- Writes several arguments from left to right. -/
def extend (arguments : Arguments) (additions : List (String × Argument)) : Arguments :=
  ⟨Named.insertAll arguments.toList additions, arguments.increasing.insertAll⟩

/-- The set of several arguments, the last one under each name. -/
def ofList (additions : List (String × Argument)) : Arguments :=
  empty.extend additions

def size (arguments : Arguments) : Nat :=
  arguments.toList.length

def isEmpty (arguments : Arguments) : Bool :=
  arguments.toList.isEmpty

/-- The JSON forms of the values by name; the first fault in name order. -/
def encodeEntries : List (String × Argument) → Except Datum.EncodingFault (List (String × Json))
  | [] => .ok []
  | (name, argument) :: rest => do
    let value ← argument.toJson
    let others ← encodeEntries rest
    return (name, value) :: others

/-- The members of the object that carries the values. -/
def encode (arguments : Arguments) : Except Datum.EncodingFault (List (String × Json)) :=
  encodeEntries arguments.toList

@[simp] theorem toList_insert (arguments : Arguments) (name : String) (argument : Argument) :
    (arguments.insert name argument).toList =
      Named.insert name argument arguments.toList := rfl

@[simp] theorem toList_extend (arguments : Arguments)
    (additions : List (String × Argument)) :
    (arguments.extend additions).toList =
      Named.insertAll arguments.toList additions := rfl

@[simp] theorem get?_insert_self (arguments : Arguments) (name : String)
    (argument : Argument) : (arguments.insert name argument).get? name = some argument :=
  Named.find?_insert_self name argument arguments.toList

end Arguments

end ShapeQuery
