import ShapeQuery.Floating.Shortest
import ShapeQuery.Text.Quoted

/-!
# Reading faults

Reading can fail because the text is no JSON (`SyntaxFault`) or because a value
is not of the wanted type (`DataFault`).
-/

namespace ShapeQuery

namespace Json

/-- Why a text is no JSON document. -/
inductive SyntaxFault where
  | endInValue
  | endInList
  | endInObject
  | endInText
  | expectedValue
  | expectedWord
  | expectedListSeparator
  | expectedMemberSeparator
  | expectedColon
  | trailingComma
  | trailingCharacters
  | nameNotText
  | controlCharacter
  | invalidEscape
  | loneSurrogate
  | unfinishedSurrogate
  | invalidNumber
  | numberOutOfRange
  | tooDeep
  deriving DecidableEq, Repr, Inhabited

namespace SyntaxFault

def message : SyntaxFault → String
  | .endInValue => "EOF while parsing a value"
  | .endInList => "EOF while parsing a list"
  | .endInObject => "EOF while parsing an object"
  | .endInText => "EOF while parsing a string"
  | .expectedValue => "expected value"
  | .expectedWord => "expected ident"
  | .expectedListSeparator => "expected `,` or `]`"
  | .expectedMemberSeparator => "expected `,` or `\x7d`"
  | .expectedColon => "expected `:`"
  | .trailingComma => "trailing comma"
  | .trailingCharacters => "trailing characters"
  | .nameNotText => "key must be a string"
  | .controlCharacter =>
    "control character (\\u0000-\\u001F) found while parsing a string"
  | .invalidEscape => "invalid escape"
  | .loneSurrogate => "lone leading surrogate in hex escape"
  | .unfinishedSurrogate => "unexpected end of hex escape"
  | .invalidNumber => "invalid number"
  | .numberOutOfRange => "number out of range"
  | .tooDeep => "recursion limit exceeded"

/-- Whether the text stopped before the document was complete. -/
def isEnd : SyntaxFault → Bool
  | .endInValue | .endInList | .endInObject | .endInText => true
  | _ => false

end SyntaxFault

/-- What stood where a value of another type was wanted. -/
inductive Found where
  | null
  | boolean (value : Bool)
  | integer (value : Int)
  | floating (value : Floating)
  | text (value : String)
  | list
  | object
  deriving DecidableEq, Repr, Inhabited

def Found.message : Found → String
  | .null => "null"
  | .boolean value => "boolean `" ++ (if value then "true" else "false") ++ "`"
  | .integer value => "integer `" ++ Int.repr value ++ "`"
  | .floating value => "floating point `" ++ value.text?.getD "null" ++ "`"
  | .text value => "string " ++ Text.quoted value
  | .list => "sequence"
  | .object => "map"

/-- Why a value is not of the wanted type. -/
inductive DataFault where
  | invalidType (found : Found) (wanted : String)
  | invalidValue (found : Found) (wanted : String)
  | invalidLength (count : Nat) (wanted : String)
  | missingMember (name : String)
  | duplicateMember (name : String)
  | unknownMember (name : String) (known : List String)
  deriving DecidableEq, Repr, Inhabited

namespace DataFault

def ticked (name : String) : String :=
  "`" ++ name ++ "`"

/-- The names that would have been accepted. -/
def oneOf : List String → String
  | [] => "there are no fields"
  | [only] => "expected " ++ ticked only
  | [first, second] => "expected " ++ ticked first ++ " or " ++ ticked second
  | names => "expected one of " ++ String.intercalate ", " (names.map ticked)

def message : DataFault → String
  | .invalidType found wanted =>
    "invalid type: " ++ found.message ++ ", expected " ++ wanted
  | .invalidValue found wanted =>
    "invalid value: " ++ found.message ++ ", expected " ++ wanted
  | .invalidLength count wanted =>
    "invalid length " ++ Nat.repr count ++ ", expected " ++ wanted
  | .missingMember name => "missing field " ++ ticked name
  | .duplicateMember name => "duplicate field " ++ ticked name
  | .unknownMember name known => "unknown field " ++ ticked name ++ ", " ++ oneOf known

end DataFault

/-- Why a text could not be read as a value of the wanted type. -/
inductive Fault where
  | syntactic (fault : SyntaxFault)
  | data (fault : DataFault)
  deriving DecidableEq, Repr, Inhabited

/-- The broad class of a fault. -/
inductive FaultClass where
  | malformed
  | ended
  | data
  deriving DecidableEq, Repr

namespace Fault

def message : Fault → String
  | .syntactic fault => fault.message
  | .data fault => fault.message

def faultClass : Fault → FaultClass
  | .syntactic fault => if fault.isEnd then .ended else .malformed
  | .data _ => .data

end Fault

end Json

end ShapeQuery
