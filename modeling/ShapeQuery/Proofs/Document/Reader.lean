import ShapeQuery.Proofs.Document.Token

/-!
# Reading documents

One reader takes the text of any document apart into the operation, the name, the
declared variables, the root field with its bindings, and the selection.  Every
document is read back from its tokens.
-/

namespace ShapeQuery

def ScalarType.ofName? : String → Option ScalarType
  | "String" => some .string
  | "Int" => some .int
  | "Float" => some .float
  | "Boolean" => some .boolean
  | _ => none

theorem ScalarType.ofName?_name (scalar : ScalarType) :
    ScalarType.ofName? scalar.name = some scalar := by
  cases scalar <;> rfl

def Operation.ofKeyword? : String → Option Operation
  | "query" => some .query
  | "mutation" => some .mutation
  | _ => none

theorem Operation.ofKeyword?_keyword (operation : Operation) :
    Operation.ofKeyword? operation.keyword = some operation := by
  cases operation <;> rfl

namespace WrittenDocument

/-- Reads declarations up to the closing parenthesis. -/
def readDeclarations :
    List DocumentToken → Option (List (String × VariableType) × List DocumentToken)
  | .closeParenthesis :: rest => some ([], rest)
  | .dollar :: .word name :: .colon :: .openBracket :: .word scalar :: .closeBracket ::
      .bang :: rest => declare name scalar true true (readDeclarations rest)
  | .dollar :: .word name :: .colon :: .openBracket :: .word scalar :: .closeBracket ::
      rest => declare name scalar true false (readDeclarations rest)
  | .dollar :: .word name :: .colon :: .word scalar :: .bang :: rest =>
    declare name scalar false true (readDeclarations rest)
  | .dollar :: .word name :: .colon :: .word scalar :: rest =>
    declare name scalar false false (readDeclarations rest)
  | _ => none
where
  /-- Puts a declaration before those that follow it. -/
  declare (name scalar : String) (isList required : Bool)
      (others : Option (List (String × VariableType) × List DocumentToken)) :
      Option (List (String × VariableType) × List DocumentToken) := do
    let scalar ← ScalarType.ofName? scalar
    let (declarations, rest) ← others
    return ((name, ⟨scalar, isList, required⟩) :: declarations, rest)

/-- Reads bindings up to the closing parenthesis. -/
def readBindings :
    List DocumentToken → Option (List (String × String) × List DocumentToken)
  | .closeParenthesis :: rest => some ([], rest)
  | .word name :: .colon :: .dollar :: .word target :: rest => do
    let (bindings, rest) ← readBindings rest
    return ((name, target) :: bindings, rest)
  | _ => none

/-- Reads fields up to the closing brace.  `fields` are those read before on this
level, in reverse, and `outer` the names of the open fields, each with what was read
before it. -/
def readFields (outer : List (String × List Selection)) (fields : List Selection) :
    List DocumentToken → Option (List Selection × List DocumentToken)
  | .word name :: .openBrace :: rest => readFields ((name, fields) :: outer) [] rest
  | .word name :: rest => readFields outer (.leaf name :: fields) rest
  | .closeBrace :: rest =>
    match outer with
    | [] => some (fields.reverse, rest)
    | (name, before) :: outer => readFields outer (.nested name fields.reverse :: before) rest
  | _ => none

def ofTokens? : List DocumentToken → Option WrittenDocument
  | .word keyword :: .word name :: .openParenthesis :: rest => do
    let operation ← Operation.ofKeyword? keyword
    let (declarations, rest) ← readDeclarations rest
    let (rootField, rest) ← openRoot rest
    let (bindings, rest) ← readBindings rest
    let (selection, rest) ← openSelection rest
    match rest with
    | [.closeBrace] => return ⟨operation, name, declarations, rootField, bindings, selection⟩
    | _ => none
  | _ => none
where
  /-- The root field, up to its opening parenthesis. -/
  openRoot : List DocumentToken → Option (String × List DocumentToken)
    | .openBrace :: .word rootField :: .openParenthesis :: rest => some (rootField, rest)
    | _ => none
  /-- The selection of the root field, up to its closing brace. -/
  openSelection : List DocumentToken → Option (List Selection × List DocumentToken)
    | .openBrace :: rest => readFields [] [] rest
    | _ => none

/-- Reads the text of a document. -/
def ofText? (text : String) : Option WrittenDocument :=
  ofTokens? (DocumentToken.lex text)

theorem readDeclarations_tokens (declarations : List (String × VariableType))
    (rest : List DocumentToken) :
    readDeclarations (declarations.flatMap declarationTokens ++ .closeParenthesis :: rest) =
      some (declarations, rest) := by
  induction declarations with
  | nil => simp [readDeclarations]
  | cons entry declarations induction =>
      obtain ⟨name, ⟨scalar, isList, required⟩⟩ := entry
      have known := scalar.ofName?_name
      have next : ∀ others, declarations.flatMap declarationTokens ++
          .closeParenthesis :: rest ≠ .bang :: others := by
        intro others
        cases declarations <;> simp [declarationTokens]
      cases isList <;> cases required <;>
        simp [declarationTokens, VariableType.tokens, readDeclarations,
          readDeclarations.declare, known, induction]

theorem readBindings_tokens (bindings : List (String × String))
    (rest : List DocumentToken) :
    readBindings (bindings.flatMap bindingTokens ++ .closeParenthesis :: rest) =
      some (bindings, rest) := by
  induction bindings with
  | nil => simp [readBindings]
  | cons entry bindings induction => simp [bindingTokens, readBindings, induction]

mutual

theorem readFields_tokens : (field : Selection) →
    ∀ outer fields rest, (∀ others, rest ≠ .openBrace :: others) →
      readFields outer fields (field.tokens ++ rest) = readFields outer (field :: fields) rest
  | .leaf name, outer, fields, rest, noBrace => by
      simp [Selection.tokens, readFields]
  | .nested name inner, outer, fields, rest, noBrace => by
      simp [Selection.tokens, readFields, readFields_tokensAll inner]

theorem readFields_tokensAll : (selection : List Selection) →
    ∀ outer fields rest,
      readFields outer fields (Selection.tokensAll selection ++ .closeBrace :: rest) =
        readFields outer (selection.reverse ++ fields) (.closeBrace :: rest)
  | [], outer, fields, rest => by simp [Selection.tokensAll]
  | field :: others, outer, fields, rest => by
      have noBrace : ∀ after, Selection.tokensAll others ++ .closeBrace :: rest ≠
          .openBrace :: after := by
        intro after
        cases others with
        | nil => simp [Selection.tokensAll]
        | cons next others => cases next <;> simp [Selection.tokensAll, Selection.tokens]
      rw [Selection.tokensAll, List.append_assoc,
        readFields_tokens field outer fields _ noBrace,
        readFields_tokensAll others outer (field :: fields) rest]
      simp

end

theorem ofTokens?_tokens (document : WrittenDocument) :
    ofTokens? document.tokens = some document := by
  have known := document.operation.ofKeyword?_keyword
  simp [tokens, ofTokens?, ofTokens?.openRoot, ofTokens?.openSelection, known,
    readDeclarations_tokens, readBindings_tokens, readFields_tokensAll, readFields]

end WrittenDocument

end ShapeQuery
