import ShapeQuery.Json
import ShapeQuery.Json.Token

/-!
# Reading JSON values from tokens

A machine takes one token per step and keeps the lists and objects that are
still open on a stack.  It stops behind the last token of a value.  Nesting is
bounded: at the limit the next opening bracket is refused.
-/

namespace ShapeQuery

namespace Json

/-- The number of lists and objects that may be open at once, plus one. -/
def nestingLimit : Nat := 128

/-- A list or an object that is still open: its items in reverse, or its members
and the name read last. -/
inductive Frame where
  | list (items : List Json)
  | object (members : List (String × Json)) (name : String)

inductive Awaiting where
  | value
  | firstItem
  | nextItem
  | firstName
  | nextName
  | colon
  | separator
  deriving DecidableEq, Repr

structure ReaderState where
  stack : List Frame
  awaiting : Awaiting

/-- The outcome of one step: a finished value, or the next state. -/
inductive Progress where
  | finished (json : Json)
  | reading (state : ReaderState)

def ofWord : Word → Json
  | .null => .null
  | .boolean value => .boolean value

def ofNumber : Number → Json
  | .integer value => .integer value
  | .floating value => .floating value

/-- Hands a finished value to the innermost open list or object. -/
def deliver (json : Json) : List Frame → Progress
  | [] => .finished json
  | .list items :: outer => .reading ⟨.list (json :: items) :: outer, .separator⟩
  | .object members name :: outer =>
    .reading ⟨.object (Named.insert name json members) name :: outer, .separator⟩

/-- The value of a frame whose closing bracket has been read. -/
def Frame.close : Frame → Json
  | .list items => .list items.reverse
  | .object members _ => .object members

/-- The first token of a value. -/
def beginValue (limit : Nat) (stack : List Frame) : Token → Except SyntaxFault Progress
  | .word outcome => outcome.map fun word => deliver (ofWord word) stack
  | .number reading => reading.strict.map fun number => deliver (ofNumber number) stack
  | .text reading => reading.strict.map fun value => deliver (.text value) stack
  | .openList =>
    if limit ≤ stack.length + 1 then .error .tooDeep
    else .ok (.reading ⟨.list [] :: stack, .firstItem⟩)
  | .openObject =>
    if limit ≤ stack.length + 1 then .error .tooDeep
    else .ok (.reading ⟨.object [] "" :: stack, .firstName⟩)
  | _ => .error .expectedValue

def beginMember (stack : List Frame) : Token → Except SyntaxFault Progress
  | .text reading =>
    reading.strict.map fun name =>
      match stack with
      | .object members _ :: outer => .reading ⟨.object members name :: outer, .colon⟩
      | _ => .reading ⟨stack, .colon⟩
  | _ => .error .nameNotText

/-- The closing bracket of the innermost open list or object. -/
def closeFrame : List Frame → Progress
  | frame :: outer => deliver frame.close outer
  | [] => .finished .null

/-- A separator or a closing bracket behind a finished value. -/
def separate (stack : List Frame) (token : Token) : Except SyntaxFault Progress :=
  match stack, token with
  | .list _ :: _, .comma => .ok (.reading ⟨stack, .nextItem⟩)
  | .list _ :: _, .closeList => .ok (closeFrame stack)
  | .list _ :: _, _ => .error .expectedListSeparator
  | .object .. :: _, .comma => .ok (.reading ⟨stack, .nextName⟩)
  | .object .. :: _, .closeObject => .ok (closeFrame stack)
  | _, _ => .error .expectedMemberSeparator

def step (limit : Nat) (state : ReaderState) (token : Token) : Except SyntaxFault Progress :=
  match state.awaiting, token with
  | .firstItem, .closeList => .ok (closeFrame state.stack)
  | .nextItem, .closeList => .error .trailingComma
  | .firstName, .closeObject => .ok (closeFrame state.stack)
  | .nextName, .closeObject => .error .trailingComma
  | .value, _ | .firstItem, _ | .nextItem, _ => beginValue limit state.stack token
  | .firstName, _ | .nextName, _ => beginMember state.stack token
  | .colon, .colon => .ok (.reading ⟨state.stack, .value⟩)
  | .colon, _ => .error .expectedColon
  | .separator, _ => separate state.stack token

/-- The fault of a text that ends in a state. -/
def ReaderState.endFault (state : ReaderState) : SyntaxFault :=
  match state.awaiting with
  | .value | .nextItem | .nextName => .endInValue
  | .firstItem => .endInList
  | .firstName | .colon => .endInObject
  | .separator =>
    match state.stack with
    | .object .. :: _ => .endInObject
    | _ => .endInList

/-- Runs the machine until a value is finished. -/
def run (limit : Nat) (state : ReaderState) :
    List Token → Except SyntaxFault (Json × List Token)
  | [] => .error state.endFault
  | token :: rest =>
    match step limit state token with
    | .error fault => .error fault
    | .ok (.finished json) => .ok (json, rest)
    | .ok (.reading next) => run limit next rest

/-- A reader of the tokens of a value, given how many more lists and objects may
be opened, plus one. -/
abbrev Reader (α : Type) :=
  Nat → List Token → Except Fault (α × List Token)

def anyValue : Reader Json :=
  fun limit tokens => (run limit ⟨[], .value⟩ tokens).mapError .syntactic

/-- Reads a whole text, behind which nothing but blanks may stand. -/
def readAll {α : Type} (reader : Reader α) (source : String) : Except Fault α :=
  match reader nestingLimit (lex source.toList) with
  | .ok (value, []) => .ok value
  | .ok (_, _ :: _) => .error (.syntactic .trailingCharacters)
  | .error fault => .error fault

/-- The value that a text writes. -/
def parse (source : String) : Except Fault Json :=
  readAll anyValue source

end Json

end ShapeQuery
