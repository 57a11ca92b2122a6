import ShapeQuery.Argument
import ShapeQuery.Selection

/-!
# Documents

A document is one operation with one root field of the same name.  Every argument
is declared as a variable of its name and bound to it, in name order.
-/

namespace ShapeQuery

inductive Operation where
  | query
  | mutation
  deriving DecidableEq, Repr

def Operation.keyword : Operation → String
  | .query => "query"
  | .mutation => "mutation"

structure Document where
  operation : Operation
  name : String
  declarations : List (String × VariableType)
  selection : List Selection
  deriving Repr

/-- An argument whose shape is no type of a variable. -/
structure AssemblyError where
  argument : String
  source : TypeError
  deriving DecidableEq, Repr

def AssemblyError.message (error : AssemblyError) : String :=
  "failed to convert field " ++ error.argument ++ ": " ++ error.source.message

/-- Why no document could be assembled. -/
inductive AssemblyFailure where
  | argument (error : AssemblyError)
  | schema (failure : Shape.NotAnObject)
  deriving DecidableEq, Repr

/-- The variables of some arguments; the first failure in name order. -/
def declareEntries :
    List (String × Argument) → Except AssemblyError (List (String × VariableType))
  | [] => .ok []
  | (name, argument) :: rest =>
    match argument.variableType with
    | .error source => .error ⟨name, source⟩
    | .ok type => (declareEntries rest).map ((name, type) :: ·)

namespace Document

/-- Assembles the document; a failing argument is reported before a schema that is
no object. -/
def assemble (operation : Operation) (name : String)
    (selection : Except Shape.NotAnObject (List Selection)) (arguments : Arguments) :
    Except AssemblyFailure Document :=
  match declareEntries arguments.toList with
  | .error error => .error (.argument error)
  | .ok declarations =>
    match selection with
    | .error failure => .error (.schema failure)
    | .ok fields => .ok ⟨operation, name, declarations, fields⟩

def declaration (entry : String × VariableType) : String :=
  "$" ++ entry.1 ++ ": " ++ entry.2.render

/-- The binding of an argument to its variable. -/
def binding (entry : String × VariableType) : String :=
  entry.1 ++ ": $" ++ entry.1

def render (document : Document) : String :=
  document.operation.keyword ++ " " ++ document.name ++
    "(" ++ String.intercalate ", " (document.declarations.map declaration) ++ ") \x7b " ++
    document.name ++
    "(" ++ String.intercalate ", " (document.declarations.map binding) ++ ") \x7b " ++
    Selection.renderAll document.selection ++ " \x7d \x7d"

end Document

end ShapeQuery
