import ShapeQuery.Document

/-!
# Tokens of documents

A document is a row of words and marks.  Blanks and commas only keep words apart,
so they leave no token behind.  A document whose names are names in the sense of
the language is cut into exactly the tokens it was put together from.
-/

namespace ShapeQuery

inductive DocumentToken where
  | word (text : String)
  | dollar
  | colon
  | bang
  | openParenthesis
  | closeParenthesis
  | openBracket
  | closeBracket
  | openBrace
  | closeBrace
  | stray (character : Char)
  deriving DecidableEq, Repr

/-- Letters, digits and the underscore. -/
def isWordCharacter (character : Char) : Bool :=
  character.isAlpha || character.isDigit || character == '_'

/-- Whether a text is a name: word characters of which the first is no digit. -/
def isName (text : String) : Bool :=
  match text.toList with
  | [] => false
  | first :: rest => (first.isAlpha || first == '_') && rest.all isWordCharacter

namespace DocumentToken

/-- The token of a mark; nothing for blanks and commas. -/
def ofMark? : Char → Option DocumentToken
  | '$' => some .dollar
  | ':' => some .colon
  | '!' => some .bang
  | '(' => some .openParenthesis
  | ')' => some .closeParenthesis
  | '[' => some .openBracket
  | ']' => some .closeBracket
  | '\x7b' => some .openBrace
  | '\x7d' => some .closeBrace
  | ' ' | '\t' | '\n' | '\r' | ',' => none
  | character => some (.stray character)

/-- The word that has been read so far, in reverse. -/
def flush : List Char → List DocumentToken
  | [] => []
  | pending => [.word (String.ofList pending.reverse)]

/-- The tokens of a text behind the beginning of a word, given in reverse. -/
def lexFrom (pending : List Char) : List Char → List DocumentToken
  | [] => flush pending
  | character :: rest =>
    if isWordCharacter character then lexFrom (character :: pending) rest
    else flush pending ++ ((ofMark? character).toList ++ lexFrom [] rest)

def lex (text : String) : List DocumentToken :=
  lexFrom [] text.toList

/-- No word can go on into the text. -/
def Stops : List Char → Prop
  | [] => True
  | character :: _ => isWordCharacter character = false

@[simp] theorem lexFrom_nil : lexFrom [] [] = [] := rfl

@[simp] theorem stops_cons (character : Char) (rest : List Char) :
    Stops (character :: rest) ↔ isWordCharacter character = false := Iff.rfl

theorem lexFrom_of_stops {text : List Char} (stops : Stops text) (pending : List Char) :
    lexFrom pending text = flush pending ++ lexFrom [] text := by
  cases text with
  | nil => simp [lexFrom, flush]
  | cons character rest =>
      have noWord : isWordCharacter character = false := stops
      simp [lexFrom, noWord, flush]

theorem lexFrom_word {word : List Char} (characters : word.all isWordCharacter)
    (pending rest : List Char) :
    lexFrom pending (word ++ rest) = lexFrom (word.reverse ++ pending) rest := by
  induction word generalizing pending with
  | nil => rfl
  | cons character word induction =>
      simp only [List.all_cons, Bool.and_eq_true] at characters
      simp [lexFrom, characters.1, induction characters.2]

private theorem isName_characters {name : String} (written : isName name) :
    name.toList ≠ [] ∧ name.toList.all isWordCharacter := by
  unfold isName at written
  split at written
  · cases written
  · rename_i first rest equal
    simp only [Bool.and_eq_true, Bool.or_eq_true, beq_iff_eq] at written
    constructor
    · simp [equal]
    · rcases written with ⟨letter | underscore, others⟩
      · simp [equal, isWordCharacter, letter, others]
      · simp [equal, isWordCharacter, underscore, others]

theorem lexFrom_name {name : String} (written : isName name) {rest : List Char}
    (stops : Stops rest) :
    lexFrom [] (name.toList ++ rest) = .word name :: lexFrom [] rest := by
  obtain ⟨notEmpty, characters⟩ := isName_characters written
  rw [lexFrom_word characters, lexFrom_of_stops stops, List.append_nil]
  have single : flush name.toList.reverse = [.word name] := by
    unfold flush
    split
    · simp_all
    · simp
  rw [single, List.singleton_append]

theorem lexFrom_mark {character : Char} (noWord : isWordCharacter character = false)
    (rest : List Char) :
    lexFrom [] (character :: rest) = (ofMark? character).toList ++ lexFrom [] rest := by
  simp [lexFrom, noWord, flush]

end DocumentToken

/-! ## The tokens a document is put together from -/

/-- The tokens of a declared type. -/
def VariableType.tokens (type : VariableType) : List DocumentToken :=
  (if type.isList then [.openBracket, .word type.scalar.name, .closeBracket]
    else [.word type.scalar.name]) ++
  if type.required then [.bang] else []

namespace Selection

mutual

/-- The tokens of a selected field. -/
def tokens : Selection → List DocumentToken
  | .leaf name => [.word name]
  | .nested name fields => .word name :: .openBrace :: (tokensAll fields ++ [.closeBrace])

/-- The tokens of selected fields. -/
def tokensAll : List Selection → List DocumentToken
  | [] => []
  | field :: rest => tokens field ++ tokensAll rest

end

mutual

/-- Every field in the selection goes by a name of the language. -/
def Named : Selection → Prop
  | .leaf name => isName name
  | .nested name fields => isName name ∧ AllNamed fields

/-- `Named` for each field. -/
def AllNamed : List Selection → Prop
  | [] => True
  | field :: rest => Named field ∧ AllNamed rest

end

mutual

instance decidableNamed : (field : Selection) → Decidable field.Named
  | .leaf name => inferInstanceAs (Decidable (isName name))
  | .nested name fields =>
    have := decidableAllNamed fields
    inferInstanceAs (Decidable (isName name ∧ AllNamed fields))

instance decidableAllNamed : (fields : List Selection) → Decidable (AllNamed fields)
  | [] => .isTrue trivial
  | field :: rest =>
    have := decidableNamed field
    have := decidableAllNamed rest
    inferInstanceAs (Decidable (field.Named ∧ AllNamed rest))

end

end Selection

/-- What the text of a document says: the operation and its name, the declared
variables, the root field with its bindings, and the selection. -/
structure WrittenDocument where
  operation : Operation
  name : String
  declarations : List (String × VariableType)
  rootField : String
  bindings : List (String × String)
  selection : List Selection
  deriving Repr

namespace WrittenDocument

def declarationTokens (entry : String × VariableType) : List DocumentToken :=
  .dollar :: .word entry.1 :: .colon :: entry.2.tokens

/-- The tokens of a binding of an argument to a variable. -/
def bindingTokens (entry : String × String) : List DocumentToken :=
  [.word entry.1, .colon, .dollar, .word entry.2]

/-- The tokens of a whole document. -/
def tokens (document : WrittenDocument) : List DocumentToken :=
  .word document.operation.keyword :: .word document.name :: .openParenthesis ::
    (document.declarations.flatMap declarationTokens ++
    .closeParenthesis :: .openBrace :: .word document.rootField :: .openParenthesis ::
    (document.bindings.flatMap bindingTokens ++
    .closeParenthesis :: .openBrace ::
    (Selection.tokensAll document.selection ++ [.closeBrace, .closeBrace])))

end WrittenDocument

/-- What a document says: its name is also the only root field, and every argument
is bound to the variable of its name. -/
def Document.written (document : Document) : WrittenDocument where
  operation := document.operation
  name := document.name
  declarations := document.declarations
  rootField := document.name
  bindings := document.declarations.map fun entry => (entry.1, entry.1)
  selection := document.selection

/-! ## Cutting a rendered document -/

namespace DocumentToken

theorem isName_scalar (scalar : ScalarType) : isName scalar.name := by
  cases scalar <;> decide

theorem isName_keyword (operation : Operation) : isName operation.keyword := by
  cases operation <;> decide

theorem lexFrom_render_type (type : VariableType) {rest : List Char} (stops : Stops rest) :
    lexFrom [] (type.render.toList ++ rest) = type.tokens ++ lexFrom [] rest := by
  obtain ⟨scalar, isList, required⟩ := type
  have written := isName_scalar scalar
  cases isList <;> cases required <;>
    simp [VariableType.render, VariableType.tokens, lexFrom_mark, ofMark?,
      isWordCharacter, lexFrom_name written, stops]

/-- Items that are joined by a comma and a blank are cut one by one. -/
theorem lexFrom_intercalate {α : Type} {text : α → String} {tokens : α → List DocumentToken}
    {items : List α}
    (each : ∀ item ∈ items, ∀ {rest}, Stops rest →
      lexFrom [] ((text item).toList ++ rest) = tokens item ++ lexFrom [] rest)
    {rest : List Char} (stops : Stops rest) :
    lexFrom [] ((String.intercalate ", " (items.map text)).toList ++ rest) =
      items.flatMap tokens ++ lexFrom [] rest := by
  induction items with
  | nil => simp
  | cons item items induction =>
      have itemLexed : ∀ {rest}, Stops rest →
          lexFrom [] ((text item).toList ++ rest) = tokens item ++ lexFrom [] rest :=
        each item List.mem_cons_self
      have itemsLexed := induction fun other member =>
        each other (List.mem_cons_of_mem _ member)
      cases items with
      | nil => simp [itemLexed stops]
      | cons next items =>
          rw [List.map_cons, List.map_cons, String.intercalate_cons_cons, ← List.map_cons]
          simp [-String.toList_intercalate, -List.map_cons, itemLexed, lexFrom_mark,
            isWordCharacter, ofMark?, itemsLexed]

theorem lexFrom_declaration {entry : String × VariableType} (written : isName entry.1)
    {rest : List Char} (stops : Stops rest) :
    lexFrom [] ((Document.declaration entry).toList ++ rest) =
      WrittenDocument.declarationTokens entry ++ lexFrom [] rest := by
  simp [Document.declaration, WrittenDocument.declarationTokens, lexFrom_mark, ofMark?,
    isWordCharacter, lexFrom_name written, lexFrom_render_type _ stops]

theorem lexFrom_binding {entry : String × VariableType} (written : isName entry.1)
    {rest : List Char} (stops : Stops rest) :
    lexFrom [] ((Document.binding entry).toList ++ rest) =
      WrittenDocument.bindingTokens (entry.1, entry.1) ++ lexFrom [] rest := by
  simp [Document.binding, WrittenDocument.bindingTokens, lexFrom_mark, ofMark?,
    isWordCharacter, lexFrom_name written, stops]

mutual

theorem lexFrom_selection : (field : Selection) → field.Named → ∀ rest,
    lexFrom [] (field.render.toList ++ ' ' :: rest) = field.tokens ++ lexFrom [] rest
  | .leaf name, named, rest => by
      have written : isName name := named
      simp [Selection.render, Selection.tokens, lexFrom_name written, lexFrom_mark, ofMark?,
        isWordCharacter]
  | .nested name fields, named, rest => by
      obtain ⟨written, fieldsNamed⟩ := named
      have inner := lexFrom_selections fields fieldsNamed ('\x7d' :: ' ' :: rest)
      simp [Selection.render, Selection.tokens, lexFrom_name written, lexFrom_mark, ofMark?,
        isWordCharacter, inner]

theorem lexFrom_selections : (fields : List Selection) → Selection.AllNamed fields →
    ∀ rest, lexFrom [] ((Selection.renderAll fields).toList ++ ' ' :: rest) =
      Selection.tokensAll fields ++ lexFrom [] rest
  | [], _, rest => by
      simp [Selection.renderAll, Selection.tokensAll, lexFrom_mark, ofMark?, isWordCharacter]
  | [field], named, rest => by
      simp [Selection.renderAll, Selection.tokensAll, lexFrom_selection field named.1 rest]
  | field :: next :: others, named, rest => by
      have remaining := lexFrom_selections (next :: others) named.2 rest
      simp only [Selection.renderAll, Selection.tokensAll, String.toList_append,
        List.append_assoc] at remaining ⊢
      have separator : " ".toList = [' '] := rfl
      rw [separator, List.singleton_append, lexFrom_selection field named.1, remaining]

end

end DocumentToken

namespace Document

/-- Every name in a document is a name of the language. -/
structure Named (document : Document) : Prop where
  name : isName document.name
  declarations : ∀ entry ∈ document.declarations, isName entry.1
  selection : Selection.AllNamed document.selection

open DocumentToken in
/-- The text of a document is cut into the tokens of what it says. -/
theorem lex_render {document : Document} (named : document.Named) :
    DocumentToken.lex document.render = document.written.tokens := by
  have keyword := isName_keyword document.operation
  have declarations : ∀ {rest}, Stops rest →
      lexFrom [] ((String.intercalate ", " (document.declarations.map declaration)).toList ++
        rest) = document.declarations.flatMap WrittenDocument.declarationTokens ++
        lexFrom [] rest :=
    lexFrom_intercalate fun entry member => lexFrom_declaration (named.declarations entry member)
  have bindings : ∀ {rest}, Stops rest →
      lexFrom [] ((String.intercalate ", " (document.declarations.map binding)).toList ++
        rest) = (document.declarations.flatMap fun entry =>
          WrittenDocument.bindingTokens (entry.1, entry.1)) ++ lexFrom [] rest :=
    lexFrom_intercalate fun entry member => lexFrom_binding (named.declarations entry member)
  have selection := lexFrom_selections document.selection named.selection
  simp [-String.toList_intercalate, lex, render, written, WrittenDocument.tokens,
    lexFrom_name keyword, lexFrom_name named.name, declarations, bindings, selection,
    lexFrom_mark, ofMark?, isWordCharacter, List.flatMap_map]

end Document

end ShapeQuery
