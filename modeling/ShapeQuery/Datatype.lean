import ShapeQuery.Datum
import ShapeQuery.Shape

/-!
# Types and record declarations

A type is built from scalars, lists, pointers and maps over the records of a
family of declarations.  Records may refer to each other, even in cycles; the
shape of a type unfolds records only where no pointer or map stands between, and
a family in which no record directly contains itself has a shape for every type.
-/

namespace ShapeQuery

/-- A type over the records of a family. -/
inductive Datatype where
  | scalar (kind : ScalarKind)
  | character
  | unit
  | json
  | reference (target : Datatype)
  | list (element : Datatype)
  | array (element : Datatype) (length : Nat)
  | option (target : Datatype)
  | boxed (target : Datatype)
  | shared (target : Datatype)
  | map (value : Datatype)
  | nullAsDefault (target : Datatype)
  | record (name : String)
  deriving DecidableEq, Repr, Inhabited

/-- A member of a record: its names, its type, and how it is read.  A skipped
member is part of the shape but never read. -/
structure FieldDeclaration where
  label : FieldLabel
  wireName : String
  aliases : List String
  type : Datatype
  skipped : Bool
  defaulted : Bool
  deriving DecidableEq, Repr, Inhabited

/-- A record: its members in declaration order, whether every member has a
default, and whether unknown members are refused. -/
structure RecordDeclaration where
  name : String
  fields : List FieldDeclaration
  defaulted : Bool
  closed : Bool
  deriving DecidableEq, Repr, Inhabited

/-- The records that types may refer to. -/
abbrev Family := List RecordDeclaration

namespace FieldDeclaration

/-- A field whose only name is the declared one. -/
def plain (name : String) (type : Datatype) : FieldDeclaration :=
  ⟨⟨name, none, none⟩, name, [], type, false, false⟩

/-- A field with a serialization name. -/
def renamed (name wireName : String) (type : Datatype) : FieldDeclaration :=
  ⟨⟨name, none, some wireName⟩, wireName, [], type, false, false⟩

/-- Whether a member of that name is read into this field. -/
def accepts (field : FieldDeclaration) (name : String) : Bool :=
  !field.skipped && (field.wireName == name || field.aliases.contains name)

end FieldDeclaration

namespace RecordDeclaration

/-- The fields that are read. -/
def readFields (declaration : RecordDeclaration) : List FieldDeclaration :=
  declaration.fields.filter fun field => !field.skipped

end RecordDeclaration

def Family.find? (family : Family) (name : String) : Option RecordDeclaration :=
  List.find? (fun declaration => declaration.name == name) family

/-- The shape of a type, given the shapes of records. -/
def Datatype.shapeWith (recordShape : String → Option (Shape Datatype)) :
    Datatype → Option (Shape Datatype)
  | .scalar kind => some (.scalar kind)
  | .character => some (.scalar .text)
  | .unit => some (.unmapped "unit")
  | .json => some (.unmapped "interface")
  | .reference target => target.shapeWith recordShape
  | .list element => (element.shapeWith recordShape).map .list
  | .array element _ => (element.shapeWith recordShape).map .list
  | .option target | .boxed target | .shared target => some (.pointer target)
  | .map _ => some (.unmapped "map")
  | .nullAsDefault target => target.shapeWith recordShape
  | .record name => recordShape name

namespace Family

/-- The shape of a record, unfolding at most `level` records inside each
other. -/
def recordShape? (family : Family) : Nat → String → Option (Shape Datatype)
  | 0, _ => none
  | level + 1, name => do
    let declaration ← family.find? name
    let fields ← declaration.fields.mapM fun field => do
      let shape ← field.type.shapeWith (family.recordShape? level)
      return (field.label, shape)
    return .object fields

/-- The shape of a type; nothing for a record that is not declared or directly
contains itself. -/
def shape? (family : Family) (type : Datatype) : Option (Shape Datatype) :=
  type.shapeWith (family.recordShape? family.length)

/-- The shape of a pointer target. -/
def resolve (family : Family) (type : Datatype) : Shape Datatype :=
  (family.shape? type).getD (.unmapped "undeclared")

end Family

/-- The number of layers of a type. -/
def Datatype.layers : Datatype → Nat
  | .reference target | .list target | .array target _ | .option target
  | .boxed target | .shared target | .map target | .nullAsDefault target =>
    target.layers + 1
  | _ => 1

/-- The default of a type, given the defaults of records. -/
def Datatype.defaultWith (recordDefault : String → Option Datum) :
    Datatype → Option Datum
  | .scalar .text => some (.text "")
  | .scalar .boolean => some (.boolean false)
  | .scalar .float32 | .scalar .float64 => some (.floating Floating.zero)
  | .scalar _ => some (.integer 0)
  | .character => some (.character '\x00')
  | .unit => some .unit
  | .json => some (.json .null)
  | .reference target | .boxed target | .shared target | .nullAsDefault target =>
    target.defaultWith recordDefault
  | .list _ => some (.list [])
  | .array element length =>
    (element.defaultWith recordDefault).map fun item => .list (List.replicate length item)
  | .option _ => some .absent
  | .map _ => some (.map [])
  | .record name => recordDefault name

namespace Family

/-- The default of a record, unfolding at most `level` records inside each
other. -/
def recordDefault? (family : Family) : Nat → String → Option Datum
  | 0, _ => none
  | level + 1, name => do
    let declaration ← family.find? name
    let members ← declaration.readFields.mapM fun field => do
      let value ← field.type.defaultWith (family.recordDefault? level)
      return (field.wireName, value)
    return .record members

/-- The default of a type; nothing for a record that is not declared or directly
contains itself. -/
def default? (family : Family) (type : Datatype) : Option Datum :=
  type.defaultWith (family.recordDefault? family.length)

/-- The default of a type of a family in which no record directly contains
itself. -/
def default (family : Family) (type : Datatype) : Datum :=
  (family.default? type).getD .unit

end Family

end ShapeQuery
