import ShapeQuery.Json.Token

/-!
# Skipping JSON values

A value that nobody asked for is skipped.  Skipping knows no nesting limit and
no ranges of numbers, does not pair surrogates, and behind a comma goes straight
on to the next value or name.
-/

namespace ShapeQuery

namespace Json

/-- A list or an object that is still open. -/
inductive Bracket where
  | list
  | object
  deriving DecidableEq, Repr

inductive SkipAwaiting where
  | value
  | first
  | name
  | colon
  | separator
  deriving DecidableEq, Repr

structure SkipState where
  brackets : List Bracket
  awaiting : SkipAwaiting
  deriving DecidableEq, Repr

/-- The outcome of one step; `none` when the value is complete. -/
abbrev SkipProgress := Option SkipState

/-- Goes on behind a complete value. -/
def skipOnward : List Bracket → SkipProgress
  | [] => none
  | brackets => some ⟨brackets, .separator⟩

/-- The first token of a value. -/
def skipBegin (brackets : List Bracket) : Token → Except SyntaxFault SkipProgress
  | .word outcome => outcome.map fun _ => skipOnward brackets
  | .number reading => reading.loose.map fun _ => skipOnward brackets
  | .text reading => reading.loose.map fun _ => skipOnward brackets
  | .openList => .ok (some ⟨.list :: brackets, .first⟩)
  | .openObject => .ok (some ⟨.object :: brackets, .first⟩)
  | _ => .error .expectedValue

def skipName (brackets : List Bracket) : Token → Except SyntaxFault SkipProgress
  | .text reading => reading.loose.map fun _ => some ⟨brackets, .colon⟩
  | _ => .error .nameNotText

def skipStep (state : SkipState) (token : Token) : Except SyntaxFault SkipProgress :=
  match state.awaiting, state.brackets, token with
  | .first, .list :: outer, .closeList => .ok (skipOnward outer)
  | .first, .object :: outer, .closeObject => .ok (skipOnward outer)
  | .first, .object :: _, _ => skipName state.brackets token
  | .first, _, _ | .value, _, _ => skipBegin state.brackets token
  | .name, _, _ => skipName state.brackets token
  | .colon, _, .colon => .ok (some ⟨state.brackets, .value⟩)
  | .colon, _, _ => .error .expectedColon
  | .separator, .list :: _, .comma => .ok (some ⟨state.brackets, .value⟩)
  | .separator, .list :: outer, .closeList => .ok (skipOnward outer)
  | .separator, .list :: _, _ => .error .expectedListSeparator
  | .separator, .object :: _, .comma => .ok (some ⟨state.brackets, .name⟩)
  | .separator, .object :: outer, .closeObject => .ok (skipOnward outer)
  | .separator, _, _ => .error .expectedMemberSeparator

/-- The fault of a text that ends in a state. -/
def SkipState.endFault (state : SkipState) : SyntaxFault :=
  match state.awaiting, state.brackets with
  | .value, _ => .endInValue
  | .name, _ | .colon, _ => .endInObject
  | .first, .object :: _ | .separator, .object :: _ => .endInObject
  | .first, _ | .separator, _ => .endInList

/-- Runs the machine until the value is complete. -/
def skipRun (state : SkipState) : List Token → Except SyntaxFault (List Token)
  | [] => .error state.endFault
  | token :: rest =>
    match skipStep state token with
    | .error fault => .error fault
    | .ok none => .ok rest
    | .ok (some next) => skipRun next rest

def skip (tokens : List Token) : Except SyntaxFault (List Token) :=
  skipRun ⟨[], .value⟩ tokens

end Json

end ShapeQuery
