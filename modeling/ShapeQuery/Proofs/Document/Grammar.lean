import ShapeQuery.Proofs.Document.Lexeme

/-!
# The grammar of operations

The rules of the query language for one operation, written down as data.  Lists that are
written at all have at least one element, and nothing but what a rule names may stand in a
value.  A row of lexemes belongs to an expression if it can be derived from it.
-/

namespace ShapeQuery

namespace Grammar

/-- The rules.  Values, arguments and directives are constant where no variable may be
used in them. -/
inductive Rule where
  | operation
  | operationType
  | selectionSet
  | selection
  | field
  | fieldAlias
  | arguments (constant : Bool)
  | argument (constant : Bool)
  | fragmentSpread
  | inlineFragment
  | typeCondition
  | value (constant : Bool)
  | listValue (constant : Bool)
  | objectValue (constant : Bool)
  | objectField (constant : Bool)
  | variableUse
  | variableDefinitions
  | variableDefinition
  | defaultValue
  | type
  | listType
  | nonNullType
  | directives (constant : Bool)
  | directive (constant : Bool)
  deriving DecidableEq, Repr

/-- What may stand in a place. -/
inductive Expression where
  | lexeme (accepts : Lexeme → Bool)
  | rule (rule : Rule)
  | sequence (parts : List Expression)
  | choice (options : List Expression)
  | maybe (part : Expression)
  | several (part : Expression)

namespace Expression

def mark (character : Char) : Expression :=
  .lexeme (· == .mark character)

def nameThat (allows : String → Bool) : Expression :=
  .lexeme fun
    | .name text => allows text
    | _ => false

def anyName : Expression :=
  .nameThat fun _ => true

end Expression

open Expression in
/-- What a rule stands for.  The words for truth values, the missing value and the values of
enumerations are together all names. -/
def Rule.body : Rule → Expression
  | .operation =>
    .choice [
      .sequence [.rule .operationType, .maybe anyName, .maybe (.rule .variableDefinitions),
        .maybe (.rule (.directives false)), .rule .selectionSet],
      .rule .selectionSet]
  | .operationType => nameThat fun text => ["query", "mutation", "subscription"].contains text
  | .selectionSet => .sequence [mark '\x7b', .several (.rule .selection), mark '\x7d']
  | .selection => .choice [.rule .field, .rule .fragmentSpread, .rule .inlineFragment]
  | .field =>
    .sequence [.maybe (.rule .fieldAlias), anyName, .maybe (.rule (.arguments false)),
      .maybe (.rule (.directives false)), .maybe (.rule .selectionSet)]
  | .fieldAlias => .sequence [anyName, mark ':']
  | .arguments constant =>
    .sequence [mark '(', .several (.rule (.argument constant)), mark ')']
  | .argument constant => .sequence [anyName, mark ':', .rule (.value constant)]
  | .fragmentSpread =>
    .sequence [.lexeme (· == .spread), nameThat (· != "on"), .maybe (.rule (.directives false))]
  | .inlineFragment =>
    .sequence [.lexeme (· == .spread), .maybe (.rule .typeCondition),
      .maybe (.rule (.directives false)), .rule .selectionSet]
  | .typeCondition => .sequence [nameThat (· == "on"), anyName]
  | .value constant =>
    .choice [
      if constant then .choice [] else .rule .variableUse,
      .lexeme (· == .integer), .lexeme (· == .decimal), .lexeme (· == .text), anyName,
      .rule (.listValue constant), .rule (.objectValue constant)]
  | .listValue constant =>
    .sequence [mark '[', .maybe (.several (.rule (.value constant))), mark ']']
  | .objectValue constant =>
    .sequence [mark '\x7b', .maybe (.several (.rule (.objectField constant))), mark '\x7d']
  | .objectField constant => .sequence [anyName, mark ':', .rule (.value constant)]
  | .variableUse => .sequence [mark '$', anyName]
  | .variableDefinitions =>
    .sequence [mark '(', .several (.rule .variableDefinition), mark ')']
  | .variableDefinition =>
    .sequence [.rule .variableUse, mark ':', .rule .type, .maybe (.rule .defaultValue),
      .maybe (.rule (.directives true))]
  | .defaultValue => .sequence [mark '=', .rule (.value true)]
  | .type => .choice [anyName, .rule .listType, .rule .nonNullType]
  | .listType => .sequence [mark '[', .rule .type, mark ']']
  | .nonNullType => .sequence [.choice [anyName, .rule .listType], mark '!']
  | .directives constant => .several (.rule (.directive constant))
  | .directive constant =>
    .sequence [mark '@', anyName, .maybe (.rule (.arguments constant))]

/-- The row of lexemes can be derived from the expression. -/
inductive Derives : Expression → List Lexeme → Prop where
  | lexeme {accepts : Lexeme → Bool} {lexeme : Lexeme} (accepted : accepts lexeme = true) :
      Derives (.lexeme accepts) [lexeme]
  | rule {rule : Rule} {lexemes : List Lexeme} (derived : Derives rule.body lexemes) :
      Derives (.rule rule) lexemes
  | done : Derives (.sequence []) []
  | next {part : Expression} {parts : List Expression} {front rest : List Lexeme}
      (derived : Derives part front) (remaining : Derives (.sequence parts) rest) :
      Derives (.sequence (part :: parts)) (front ++ rest)
  | choice {options : List Expression} {option : Expression} {lexemes : List Lexeme}
      (offered : option ∈ options) (derived : Derives option lexemes) :
      Derives (.choice options) lexemes
  | absent {part : Expression} : Derives (.maybe part) []
  | present {part : Expression} {lexemes : List Lexeme} (derived : Derives part lexemes) :
      Derives (.maybe part) lexemes
  | last {part : Expression} {lexemes : List Lexeme} (derived : Derives part lexemes) :
      Derives (.several part) lexemes
  | more {part : Expression} {front rest : List Lexeme} (derived : Derives part front)
      (remaining : Derives (.several part) rest) :
      Derives (.several part) (front ++ rest)

/-- The text is one operation. -/
def Generates (text : String) : Prop :=
  ∃ lexemes, Lexeme.lex? text = some lexemes ∧ Derives (.rule .operation) lexemes

namespace Derives

variable {part : Expression} {parts : List Expression} {front rest : List Lexeme}

theorem step {accepts : Lexeme → Bool} {lexeme : Lexeme} (accepted : accepts lexeme = true)
    (remaining : Derives (.sequence parts) rest) :
    Derives (.sequence (.lexeme accepts :: parts)) (lexeme :: rest) :=
  .next (.lexeme accepted) remaining

theorem skip (remaining : Derives (.sequence parts) rest) :
    Derives (.sequence (.maybe part :: parts)) rest :=
  .next .absent remaining

theorem take (derived : Derives part front) (remaining : Derives (.sequence parts) rest) :
    Derives (.sequence (.maybe part :: parts)) (front ++ rest) :=
  .next (.present derived) remaining

theorem only (derived : Derives part front) : Derives (.sequence [part]) front := by
  have sequence := Derives.next derived .done
  rwa [List.append_nil] at sequence

theorem anyName (text : String) : Derives .anyName [.name text] :=
  .lexeme rfl

theorem several {α : Type} {lexemes : α → List Lexeme} {items : List α} (filled : items ≠ [])
    (each : ∀ item ∈ items, Derives part (lexemes item)) :
    Derives (.several part) (items.flatMap lexemes) := by
  induction items with
  | nil => exact absurd rfl filled
  | cons item items induction =>
      obtain ⟨first, others⟩ := List.forall_mem_cons.mp each
      cases items with
      | nil =>
          rw [List.flatMap_cons, List.flatMap_nil, List.append_nil]
          exact .last first
      | cons next items => exact .more first (induction (List.cons_ne_nil _ _) others)

end Derives

/-! ## Openings -/

/-- Every row that can be derived from the expression begins with one of the marks. -/
def Expression.Opens (expression : Expression) (marks : List Char) : Prop :=
  ∀ lexemes, Derives expression lexemes →
    ∃ character rest, character ∈ marks ∧ lexemes = .mark character :: rest

namespace Expression.Opens

variable {part : Expression} {parts : List Expression} {marks others : List Char}

theorem mark (character : Char) : (Expression.mark character).Opens [character] := by
  intro lexemes derived
  cases derived with
  | lexeme accepted =>
      rw [beq_iff_eq] at accepted
      exact ⟨character, [], List.mem_singleton_self character, by rw [accepted]⟩

theorem rule {rule : Rule} (opens : rule.body.Opens marks) :
    (Expression.rule rule).Opens marks := by
  intro lexemes derived
  cases derived with
  | rule derived => exact opens lexemes derived

theorem sequence (opens : part.Opens marks) :
    (Expression.sequence (part :: parts)).Opens marks := by
  intro lexemes derived
  cases derived with
  | next derived remaining =>
      obtain ⟨character, rest, listed, rfl⟩ := opens _ derived
      exact ⟨character, _, listed, rfl⟩

theorem several (opens : part.Opens marks) : (Expression.several part).Opens marks := by
  intro lexemes derived
  cases derived with
  | last derived => exact opens _ derived
  | more derived remaining =>
      obtain ⟨character, rest, listed, rfl⟩ := opens _ derived
      exact ⟨character, _, listed, rfl⟩

/-- A part that may be missing leaves the opening to what follows. -/
theorem maybe (opens : part.Opens marks) (otherwise : (Expression.sequence parts).Opens others) :
    (Expression.sequence (.maybe part :: parts)).Opens (marks ++ others) := by
  intro lexemes derived
  cases derived with
  | next derived remaining =>
      cases derived with
      | absent =>
          obtain ⟨character, rest, listed, rfl⟩ := otherwise _ remaining
          exact ⟨character, rest, List.mem_append_right _ listed, rfl⟩
      | present derived =>
          obtain ⟨character, rest, listed, rfl⟩ := opens _ derived
          exact ⟨character, _, List.mem_append_left _ listed, rfl⟩

theorem selectionSet : (Expression.rule .selectionSet).Opens ['\x7b'] :=
  .rule (.sequence (.mark _))

theorem directives (constant : Bool) : (Expression.rule (.directives constant)).Opens ['@'] :=
  .rule (.several (.rule (.sequence (.mark _))))

theorem variableDefinitions : (Expression.rule .variableDefinitions).Opens ['('] :=
  .rule (.sequence (.mark _))

theorem variableDefinition : (Expression.rule .variableDefinition).Opens ['$'] :=
  .rule (.sequence (.rule (.sequence (.mark _))))

theorem afterVariables :
    (Expression.sequence [.maybe (.rule (.directives false)), .rule .selectionSet]).Opens
      ['@', '\x7b'] :=
  .maybe (.directives false) (.sequence .selectionSet)

theorem afterName :
    (Expression.sequence [.maybe (.rule .variableDefinitions),
      .maybe (.rule (.directives false)), .rule .selectionSet]).Opens ['(', '@', '\x7b'] :=
  .maybe .variableDefinitions .afterVariables

end Expression.Opens

/-! ## Empty lists -/

namespace Derives

variable {part : Expression} {parts : List Expression} {lexemes : List Lexeme}

theorem of_rule {rule : Rule} (derived : Derives (.rule rule) lexemes) :
    Derives rule.body lexemes := by
  cases derived with
  | rule derived => exact derived

theorem exists_of_sequence (derived : Derives (.sequence (part :: parts)) lexemes) :
    ∃ front rest, lexemes = front ++ rest ∧ Derives part front ∧
      Derives (.sequence parts) rest := by
  cases derived with
  | next derived remaining => exact ⟨_, _, rfl, derived, remaining⟩

theorem of_maybe (derived : Derives (.maybe part) lexemes) :
    lexemes = [] ∨ Derives part lexemes := by
  cases derived with
  | absent => exact .inl rfl
  | present derived => exact .inr derived

end Derives

variable {rest : List Lexeme}

/-- The variables of an operation have at least one element. -/
theorem not_derives_variableDefinitions (tail : List Lexeme) {front : List Lexeme}
    (derived : Derives (.rule .variableDefinitions) front) :
    front ++ tail ≠ .mark '(' :: .mark ')' :: rest := by
  intro same
  obtain ⟨opening, inner, rfl, opened, remaining⟩ := derived.of_rule.exists_of_sequence
  obtain ⟨elements, closing, rfl, several, _⟩ := remaining.exists_of_sequence
  -- the first element begins with a dollar sign, where the parenthesis would have to close
  obtain ⟨character, others, listed, rfl⟩ :=
    Expression.Opens.variableDefinition.several _ several
  obtain rfl := List.mem_singleton.mp listed
  cases opened with
  | lexeme accepted => cases same

/-- An empty pair of parentheses does not follow the name of an operation. -/
theorem not_derives_afterName :
    ¬ Derives (.sequence [.maybe (.rule .variableDefinitions),
      .maybe (.rule (.directives false)), .rule .selectionSet])
      (.mark '(' :: .mark ')' :: rest) := by
  intro derived
  obtain ⟨front, tail, same, declared, remaining⟩ := derived.exists_of_sequence
  obtain rfl | declared := declared.of_maybe
  · -- without variables a directive or the selection would have to stand here
    obtain ⟨character, others, listed, opened⟩ := Expression.Opens.afterVariables _ remaining
    cases same.trans opened
    exact absurd listed (by decide)
  · exact not_derives_variableDefinitions tail declared same.symm

theorem not_derives_operation {keyword name : String} :
    ¬ Derives (.rule .operation)
      (.name keyword :: .name name :: .mark '(' :: .mark ')' :: rest) := by
  intro derived
  cases derived.of_rule with
  | choice offered derived =>
      obtain rfl | single := List.mem_cons.mp offered
      · obtain ⟨type, behindType, same, typed, remaining⟩ := derived.exists_of_sequence
        cases typed.of_rule with
        | lexeme accepted =>
            obtain ⟨rfl, rfl⟩ := List.cons.inj same
            obtain ⟨named, behindName, same, naming, remaining⟩ := remaining.exists_of_sequence
            obtain rfl | naming := naming.of_maybe
            · -- an operation without a name would go on with a mark, not with a name
              obtain ⟨character, others, _, unnamed⟩ :=
                Expression.Opens.afterName _ remaining
              cases same.trans unnamed
            · cases naming with
              | lexeme accepted =>
                  obtain ⟨rfl, rfl⟩ := List.cons.inj same
                  exact not_derives_afterName remaining
      · -- the short form is a selection alone
        obtain rfl := List.mem_singleton.mp single
        obtain ⟨character, others, _, same⟩ := Expression.Opens.selectionSet _ derived
        cases same

end Grammar

end ShapeQuery
