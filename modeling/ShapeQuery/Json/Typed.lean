import ShapeQuery.Json.Reader
import ShapeQuery.Json.Skipper

/-!
# Readers of typed values

Readers that take a value of a wanted type straight from the tokens, so that the
first fault in the order of the text is the one reported.  A value of another
type is refused at its first token, scalars being read whole first.
-/

namespace ShapeQuery

namespace Json

variable {α β σ : Type}

def malformed (fault : SyntaxFault) : Except Fault α :=
  .error (.syntactic fault)

def illTyped (fault : DataFault) : Except Fault α :=
  .error (.data fault)

/-- What a value starts with, for the message that it is of the wrong type. -/
def foundAt : List Token → Except SyntaxFault Found
  | [] => .error .endInValue
  | .word outcome :: _ =>
    outcome.map fun word =>
      match word with
      | .null => .null
      | .boolean value => .boolean value
  | .number reading :: _ =>
    reading.strict.map fun number =>
      match number with
      | .integer value => .integer value
      | .floating value => .floating value
  | .text reading :: _ => reading.strict.map Found.text
  | .openList :: _ => .ok .list
  | .openObject :: _ => .ok .object
  | _ :: _ => .error .expectedValue

/-- Refuses the value at the front. -/
def refuse (wanted : String) (tokens : List Token) : Except Fault α :=
  match foundAt tokens with
  | .ok found => illTyped (.invalidType found wanted)
  | .error fault => malformed fault

/-- Opens a list or an object, unless too many are open. -/
def enter (limit : Nat) (inside : Nat → Except Fault α) : Except Fault α :=
  if limit ≤ 1 then malformed .tooDeep else inside (limit - 1)

def textReader : Reader String := fun _ tokens =>
  match tokens with
  | .text reading :: rest =>
    match reading.strict with
    | .ok value => .ok (value, rest)
    | .error fault => malformed fault
  | _ => refuse "a string" tokens

/-- Reads an integer from zero up to, but not including, `2 ^ 32`. -/
def word32Reader : Reader UInt32 := fun _ tokens =>
  match tokens with
  | .number reading :: rest =>
    match reading.strict with
    | .error fault => malformed fault
    | .ok (.floating value) => illTyped (.invalidType (.floating value) "u32")
    | .ok (.integer value) =>
      if 0 ≤ value ∧ value < Nat.pow 2 32 then .ok (UInt32.ofNat value.toNat, rest)
      else illTyped (.invalidValue (.integer value) "u32")
  | _ => refuse "u32" tokens

def optionalReader (inner : Reader α) : Reader (Option α) := fun limit tokens =>
  match tokens with
  | .word (.ok .null) :: rest => .ok (none, rest)
  | .word (.error fault) :: _ => malformed fault
  | _ => (inner limit tokens).map fun (value, rest) => (some value, rest)

/-- Finds the next item of an open list: the tokens it starts at, or `none` at
the closing bracket. -/
def nextItem? (first : Bool) (tokens : List Token) : Except SyntaxFault (Option (List Token)) :=
  match tokens with
  | [] => .error .endInList
  | .closeList :: _ => .ok none
  | token :: rest =>
    if first then .ok (some tokens)
    else
      match token, rest with
      | .comma, [] => .error .endInValue
      | .comma, .closeList :: _ => .error .trailingComma
      | .comma, _ => .ok (some rest)
      | _, _ => .error .expectedListSeparator

/-- Reads the items of an open list; every item takes a token, so `fuel` need
not exceed the number of tokens. -/
def readItems (item : Reader α) (limit : Nat) :
    Nat → Bool → List Token → Except Fault (List α × List Token)
  | 0, _, _ => malformed .endInList
  | fuel + 1, first, tokens =>
    match nextItem? first tokens with
    | .error fault => malformed fault
    | .ok none => .ok ([], tokens.drop 1)
    | .ok (some start) => do
      let (value, rest) ← item limit start
      let (values, rest) ← readItems item limit fuel false rest
      return (value :: values, rest)

def listReader (item : Reader α) : Reader (List α) := fun limit tokens =>
  match tokens with
  | .openList :: rest =>
    enter limit fun inside => readItems item inside tokens.length true rest
  | _ => refuse "a sequence" tokens

/-- Reads an object of any members; later members replace earlier ones of the
same name. -/
def mappingReader : Reader (List (String × Json)) := fun limit tokens =>
  match tokens with
  | .openObject :: _ => do
    match ← anyValue limit tokens with
    | (.object members, rest) => return (members, rest)
    | _ => refuse "a map" tokens
  | _ => refuse "a map" tokens

/-- What to do with the member of a name: fail, read it into the state, or skip
it. -/
abbrev MemberChoice (σ : Type) :=
  String → σ → Except DataFault (Option (Reader σ))

/-- Finds the name of the next member of an open object: the tokens it starts at,
or `none` at the closing brace. -/
def nextMember? (first : Bool) (tokens : List Token) :
    Except SyntaxFault (Option (List Token)) :=
  match tokens with
  | [] => .error .endInObject
  | .closeObject :: _ => .ok none
  | token :: rest =>
    if first then .ok (some tokens)
    else
      match token, rest with
      | .comma, [] => .error .endInValue
      | .comma, .closeObject :: _ => .error .trailingComma
      | .comma, _ => .ok (some rest)
      | _, _ => .error .expectedMemberSeparator

/-- Reads one member into the state. -/
def readMember (choice : MemberChoice σ) (limit : Nat) (state : σ) :
    List Token → Except Fault (σ × List Token)
  | .text reading :: rest => do
    let name ← reading.strict.mapError Fault.syntactic
    let chosen ← (choice name state).mapError Fault.data
    match rest with
    | .colon :: value =>
      match chosen with
      | some reader => reader limit value
      | none =>
        let rest ← (skip value).mapError Fault.syntactic
        return (state, rest)
    | [] => malformed .endInObject
    | _ => malformed .expectedColon
  | _ => malformed .nameNotText

/-- Reads the members of an open object; every member takes tokens, so `fuel`
need not exceed their number. -/
def readMembers (choice : MemberChoice σ) (limit : Nat) :
    Nat → Bool → σ → List Token → Except Fault (σ × List Token)
  | 0, _, _, _ => malformed .endInObject
  | fuel + 1, first, state, tokens =>
    match nextMember? first tokens with
    | .error fault => malformed fault
    | .ok none => .ok (state, tokens.drop 1)
    | .ok (some start) => do
      let (state, rest) ← readMember choice limit state start
      readMembers choice limit fuel false state rest

/-- A member of a record: its reader, and what stands for it where an object
lacks it or a list ends before it. -/
structure Slot (α : Type) where
  name : String
  reader : Reader α
  absent : Except DataFault α
  short : Except DataFault α

/-- The slot of a member that must be present; `count` members stand before it. -/
def Slot.required (name : String) (reader : Reader α) (count : Nat) (wanted : String) :
    Slot α :=
  ⟨name, reader, .error (.missingMember name), .error (.invalidLength count wanted)⟩

/-- The slot of a member that has a default. -/
def Slot.withDefault (name : String) (reader : Reader α) (value : α) : Slot α :=
  ⟨name, reader, .ok value, .ok value⟩

/-- The choice among the two members of a pair. -/
def pairChoice (left : Slot α) (right : Slot β) : MemberChoice (Option α × Option β) :=
  fun name state =>
    if name = left.name then
      if state.1.isSome then .error (.duplicateMember name)
      else .ok (some fun limit tokens =>
        (left.reader limit tokens).map fun (value, rest) => ((some value, state.2), rest))
    else if name = right.name then
      if state.2.isSome then .error (.duplicateMember name)
      else .ok (some fun limit tokens =>
        (right.reader limit tokens).map fun (value, rest) => ((state.1, some value), rest))
    else .ok none

/-- The value of a slot behind an object. -/
def Slot.resolve (slot : Slot α) (value : Option α) : Except Fault α :=
  match value with
  | some value => .ok value
  | none => slot.absent.mapError .data

/-- Reads the next item of an open list into a slot. -/
def Slot.readItem (slot : Slot α) (limit : Nat) (first : Bool) (tokens : List Token) :
    Except Fault (α × List Token) := do
  match ← (nextItem? first tokens).mapError Fault.syntactic with
  | some start => slot.reader limit start
  | none => return (← slot.short.mapError Fault.data, tokens)

/-- The closing bracket behind the items of a record. -/
def closeItems : List Token → Except SyntaxFault (List Token)
  | [] => .error .endInList
  | .closeList :: rest => .ok rest
  | .comma :: .closeList :: _ => .error .trailingComma
  | _ => .error .trailingCharacters

/-- Reads a record of two members, written as an object or as a list of the two
in order. -/
def pairReader (wanted : String) (left : Slot α) (right : Slot β) : Reader (α × β) :=
  fun limit tokens =>
    match tokens with
    | .openObject :: rest =>
      enter limit fun inside => do
        let ((leftValue, rightValue), rest) ←
          readMembers (pairChoice left right) inside tokens.length true (none, none) rest
        let leftValue ← left.resolve leftValue
        let rightValue ← right.resolve rightValue
        return ((leftValue, rightValue), rest)
    | .openList :: rest =>
      enter limit fun inside => do
        let (leftValue, rest) ← left.readItem inside true rest
        let (rightValue, rest) ← right.readItem inside false rest
        let rest ← (closeItems rest).mapError Fault.syntactic
        return ((leftValue, rightValue), rest)
    | _ => refuse wanted tokens

end Json

end ShapeQuery
