import ShapeQuery.Proofs.Document.Grammar
import ShapeQuery.Proofs.Document.RoundTrip

/-!
# Deriving documents

A document of at least one argument is one operation in the sense of the grammar.  The
derivation follows the way the text was put together.  Without arguments the parentheses
stay, and they may not be empty.
-/

namespace ShapeQuery

open Grammar

/-! ## Selections -/

namespace Selection

mutual

/-- No selection inside the field is empty. -/
def Filled : Selection → Prop
  | .leaf _ => True
  | .nested _ fields => fields ≠ [] ∧ AllFilled fields

def AllFilled : List Selection → Prop
  | [] => True
  | field :: rest => Filled field ∧ AllFilled rest

end

mutual

instance decidableFilled : (field : Selection) → Decidable field.Filled
  | .leaf _ => .isTrue trivial
  | .nested _ [] => .isFalse fun filled => filled.1 rfl
  | .nested _ (field :: rest) =>
    have := decidableAllFilled (field :: rest)
    inferInstanceAs (Decidable (field :: rest ≠ [] ∧ AllFilled (field :: rest)))

instance decidableAllFilled : (fields : List Selection) → Decidable (AllFilled fields)
  | [] => .isTrue trivial
  | field :: rest =>
    have := decidableFilled field
    have := decidableAllFilled rest
    inferInstanceAs (Decidable (field.Filled ∧ AllFilled rest))

end

def lexemes (field : Selection) : List Lexeme :=
  field.tokens.map DocumentToken.lexeme

def lexemesAll (fields : List Selection) : List Lexeme :=
  (tokensAll fields).map DocumentToken.lexeme

theorem lexemes_nested (name : String) (fields : List Selection) :
    (nested name fields).lexemes =
      .name name :: .mark '\x7b' :: (lexemesAll fields ++ [.mark '\x7d']) := by
  simp [lexemes, lexemesAll, tokens, DocumentToken.lexeme]

theorem lexemesAll_cons (field : Selection) (rest : List Selection) :
    lexemesAll (field :: rest) = field.lexemes ++ lexemesAll rest := by
  simp [lexemes, lexemesAll, tokensAll]

theorem derives_selectionSet {inner : List Lexeme}
    (derived : Derives (.several (.rule .selection)) inner) :
    Derives (.rule .selectionSet) (.mark '\x7b' :: (inner ++ [.mark '\x7d'])) :=
  .rule (.step rfl (.next derived (.step rfl .done)))

mutual

theorem derives_field : (field : Selection) → field.Filled →
    Derives (.rule .selection) field.lexemes
  | .leaf name, _ =>
      .rule (.choice List.mem_cons_self
        (.rule (.skip (.step rfl (.skip (.skip (.skip .done)))))))
  | .nested name fields, filled => by
      obtain ⟨notEmpty, inner⟩ := filled
      have selectionSet := derives_selectionSet (derives_fields fields notEmpty inner)
      rw [lexemes_nested]
      exact .rule (.choice List.mem_cons_self
        (.rule (.skip (.step rfl (.skip (.skip (.only (.present selectionSet))))))))

theorem derives_fields : (fields : List Selection) → fields ≠ [] → AllFilled fields →
    Derives (.several (.rule .selection)) (lexemesAll fields)
  | [], notEmpty, _ => absurd rfl notEmpty
  | [field], _, filled => by
      have single := derives_field field filled.1
      rw [lexemesAll_cons]
      exact (List.append_nil field.lexemes).symm ▸ .last single
  | field :: next :: rest, _, filled => by
      rw [lexemesAll_cons]
      exact .more (derives_field field filled.1)
        (derives_fields (next :: rest) (List.cons_ne_nil _ _) filled.2)

end

mutual

theorem isPlain_tokens : (field : Selection) → field.Named →
    ∀ token ∈ field.tokens, token.isPlain
  | .leaf name, named => by
      have written : isName name := named
      simpa [tokens, DocumentToken.isPlain] using written
  | .nested name fields, named => by
      obtain ⟨written, inner⟩ := named
      have plain := isPlain_tokensAll fields inner
      simpa [tokens, DocumentToken.isPlain, written, or_imp, forall_and] using plain

theorem isPlain_tokensAll : (fields : List Selection) → AllNamed fields →
    ∀ token ∈ tokensAll fields, token.isPlain
  | [], _ => nofun
  | field :: rest, named => by
      rw [tokensAll]
      exact List.forall_mem_append.mpr
        ⟨isPlain_tokens field named.1, isPlain_tokensAll rest named.2⟩

end

end Selection

/-! ## Variables -/

def VariableType.lexemes (type : VariableType) : List Lexeme :=
  type.tokens.map DocumentToken.lexeme

theorem VariableType.isPlain_tokens (type : VariableType) :
    ∀ token ∈ type.tokens, token.isPlain := by
  have named := DocumentToken.isName_scalar type.scalar
  unfold tokens
  split <;> split <;> simp [DocumentToken.isPlain, named]

theorem VariableType.derives (type : VariableType) : Derives (.rule .type) type.lexemes := by
  obtain ⟨scalar, isList, required⟩ := type
  have named : Derives .anyName [.name scalar.name] := .anyName _
  have anyType : Derives (.rule .type) [.name scalar.name] :=
    .rule (.choice List.mem_cons_self named)
  have list : Derives (.rule .listType) [.mark '[', .name scalar.name, .mark ']'] :=
    .rule (.step rfl (.next anyType (.step rfl .done)))
  have nonNull : ∀ {inner}, Derives (.choice [.anyName, .rule .listType]) inner →
      Derives (.rule .type) (inner ++ [.mark '!']) := fun derived =>
    .rule (.choice (.tail _ (.tail _ (.head _))) (.rule (.next derived (.step rfl .done))))
  cases isList with
  | false =>
      cases required with
      | false => exact anyType
      | true => exact nonNull (.choice List.mem_cons_self named)
  | true =>
      cases required with
      | false => exact .rule (.choice (.tail _ (.head _)) list)
      | true => exact nonNull (.choice (.tail _ (.head _)) list)

namespace WrittenDocument

theorem derives_declaration (entry : String × VariableType) :
    Derives (.rule .variableDefinition)
      ((declarationTokens entry).map DocumentToken.lexeme) := by
  have use : Derives (.rule .variableUse) [.mark '$', .name entry.1] :=
    .rule (.step rfl (.step rfl .done))
  have typed : Derives (.sequence [.rule .type, .maybe (.rule .defaultValue),
      .maybe (.rule (.directives true))]) (entry.2.lexemes ++ []) :=
    .next entry.2.derives (.skip (.skip .done))
  rw [List.append_nil] at typed
  exact .rule (.next use (.step rfl typed))

theorem derives_binding (entry : String × String) :
    Derives (.rule (.argument false)) ((bindingTokens entry).map DocumentToken.lexeme) := by
  have use : Derives (.rule .variableUse) [.mark '$', .name entry.2] :=
    .rule (.step rfl (.step rfl .done))
  exact .rule (.step rfl (.step rfl (.only (.rule (.choice List.mem_cons_self use)))))

theorem isPlain_declarationTokens {entry : String × VariableType} (named : isName entry.1) :
    ∀ token ∈ declarationTokens entry, token.isPlain := by
  simp only [declarationTokens, List.forall_mem_cons]
  exact ⟨rfl, named, rfl, entry.2.isPlain_tokens⟩

theorem isPlain_bindingTokens {name : String} (named : isName name) :
    ∀ token ∈ bindingTokens (name, name), token.isPlain := by
  simp only [bindingTokens, List.forall_mem_cons]
  exact ⟨named, rfl, rfl, named, List.forall_mem_nil _⟩

end WrittenDocument

/-! ## Documents -/

namespace Document

/-- Neither the selection of the document nor one inside it is empty. -/
def Filled (document : Document) : Prop :=
  document.selection ≠ [] ∧ Selection.AllFilled document.selection

theorem Named.isPlain_tokens {document : Document} (named : document.Named) :
    ∀ token ∈ document.written.tokens, token.isPlain := by
  have keyword := DocumentToken.isName_keyword document.operation
  have declarations := List.forall_mem_flatMap.mpr fun entry member =>
    WrittenDocument.isPlain_declarationTokens (named.declarations entry member)
  have bindings : ∀ token ∈ document.declarations.flatMap fun entry =>
      WrittenDocument.bindingTokens (entry.1, entry.1), token.isPlain :=
    List.forall_mem_flatMap.mpr fun entry member =>
      WrittenDocument.isPlain_bindingTokens (named.declarations entry member)
  have selection := Selection.isPlain_tokensAll document.selection named.selection
  simp only [written, WrittenDocument.tokens, List.forall_mem_cons, List.forall_mem_append,
    List.flatMap_map]
  exact ⟨keyword, named.name, rfl, declarations, rfl, rfl, named.name, rfl, bindings, rfl, rfl,
    selection, rfl, rfl, List.forall_mem_nil _⟩

/-- The lexemes of the declared variables in their parentheses. -/
def declarationLexemes (document : Document) : List Lexeme :=
  .mark '(' :: ((document.declarations.flatMap fun entry =>
    (WrittenDocument.declarationTokens entry).map DocumentToken.lexeme) ++ [.mark ')'])

def bindingLexemes (document : Document) : List Lexeme :=
  .mark '(' :: ((document.declarations.flatMap fun entry =>
    (WrittenDocument.bindingTokens (entry.1, entry.1)).map DocumentToken.lexeme) ++ [.mark ')'])

def rootLexemes (document : Document) : List Lexeme :=
  .name document.name :: (document.bindingLexemes ++
    .mark '\x7b' :: (Selection.lexemesAll document.selection ++ [.mark '\x7d']))

theorem lexemes_written (document : Document) :
    document.written.tokens.map DocumentToken.lexeme =
      .name document.operation.keyword :: .name document.name ::
        (document.declarationLexemes ++
          .mark '\x7b' :: (document.rootLexemes ++ [.mark '\x7d'])) := by
  simp [written, WrittenDocument.tokens, declarationLexemes, rootLexemes, bindingLexemes,
    DocumentToken.lexeme, Selection.lexemesAll, List.map_flatMap, List.flatMap_map]

variable {document : Document}

theorem derives_declarations (declared : document.declarations ≠ []) :
    Derives (.rule .variableDefinitions) document.declarationLexemes := by
  have declarations := Derives.several declared fun entry _ =>
    WrittenDocument.derives_declaration entry
  exact .rule (.step rfl (.next declarations (.step rfl .done)))

theorem derives_bindings (declared : document.declarations ≠ []) :
    Derives (.rule (.arguments false)) document.bindingLexemes := by
  have bindings := Derives.several declared fun entry _ =>
    WrittenDocument.derives_binding (entry.1, entry.1)
  exact .rule (.step rfl (.next bindings (.step rfl .done)))

theorem derives_root (filled : document.Filled) (declared : document.declarations ≠ []) :
    Derives (.rule .selection) document.rootLexemes := by
  have selectionSet := Selection.derives_selectionSet
    (Selection.derives_fields document.selection filled.1 filled.2)
  have arguments := derives_bindings declared
  -- no alias, the name, the arguments, no directives, and the selection
  exact .rule (.choice List.mem_cons_self
    (.rule (.skip (.step rfl (.take arguments (.skip (.only (.present selectionSet))))))))

theorem derives_written (filled : document.Filled) (declared : document.declarations ≠ []) :
    Derives (.rule .operation) (document.written.tokens.map DocumentToken.lexeme) := by
  have keyword : Derives (.rule .operationType) [.name document.operation.keyword] := by
    cases document.operation with
    | query => exact .rule (.lexeme (by decide))
    | mutation => exact .rule (.lexeme (by decide))
  have selectionSet := Selection.derives_selectionSet (.last (derives_root filled declared))
  rw [lexemes_written]
  exact .rule (.choice List.mem_cons_self (.next keyword (.take (.anyName document.name)
    (.take (derives_declarations declared) (.skip (.only selectionSet))))))

/-- A document whose names are names and whose selections are not empty is an operation
exactly if it declares a variable. -/
theorem generates_render_iff (named : document.Named) (filled : document.Filled) :
    Generates document.render ↔ document.declarations ≠ [] := by
  have lexed : Lexeme.lex? document.render =
      some (document.written.tokens.map DocumentToken.lexeme) := by
    rw [← lex_render named]
    apply Lexeme.lex?_of_plain
    rw [lex_render named]
    exact named.isPlain_tokens
  constructor
  · -- the parentheses are written without variables too, and stay empty
    rintro ⟨lexemes, cut, derived⟩ undeclared
    obtain rfl := Option.some.inj (lexed.symm.trans cut)
    rw [lexemes_written, declarationLexemes, undeclared] at derived
    exact not_derives_operation derived
  · intro declared
    exact ⟨_, lexed, derives_written filled declared⟩

end Document

/-! ## Assembled documents -/

namespace Shape

variable {τ : Type}

mutual

/-- Every object that a selection inside this shape expands has a field. -/
def InnerFilled : Shape τ → Prop
  | .object fields => fields ≠ [] ∧ FieldsFilled fields
  | .list (.object fields) => fields ≠ [] ∧ FieldsFilled fields
  | _ => True

def FieldsFilled : List (FieldLabel × Shape τ) → Prop
  | [] => True
  | (_, shape) :: rest => InnerFilled shape ∧ FieldsFilled rest

end

theorem selectFields_ne_nil {fields : List (FieldLabel × Shape τ)} (filled : fields ≠ []) :
    selectFields fields ≠ [] := by
  cases fields with
  | nil => exact absurd rfl filled
  | cons field rest =>
      rw [selectFields_cons]
      exact List.cons_ne_nil _ _

mutual

theorem filled_selected (label : FieldLabel) :
    (shape : Shape τ) → InnerFilled shape → (selected label (nested? shape)).Filled
  | .object fields, filled => by
      simp only [nested?, selected]
      exact ⟨selectFields_ne_nil filled.1, allFilled_selectFields fields filled.2⟩
  | .list (.object fields), filled => by
      simp only [nested?, selected]
      exact ⟨selectFields_ne_nil filled.1, allFilled_selectFields fields filled.2⟩
  | .scalar _, _ | .pointer _, _ | .unmapped _, _ | .list (.scalar _), _
  | .list (.list _), _ | .list (.pointer _), _ | .list (.unmapped _), _ => trivial

theorem allFilled_selectFields :
    (fields : List (FieldLabel × Shape τ)) → FieldsFilled fields →
      Selection.AllFilled (selectFields fields)
  | [], _ => by
      rw [selectFields]
      trivial
  | (label, shape) :: rest, filled => by
      rw [selectFields_cons]
      exact ⟨filled_selected label shape filled.1, allFilled_selectFields rest filled.2⟩

end

end Shape

namespace Selection

/-- A selection that a document may have: all fields go by names of the language, and no
level is empty. -/
structure Derivable (fields : List Selection) : Prop where
  named : AllNamed fields
  notEmpty : fields ≠ []
  filled : AllFilled fields

theorem Derivable.nested {fields : List Selection} (derivable : Derivable fields) {name : String}
    (written : isName name) : Derivable [.nested name fields] where
  named := ⟨⟨written, derivable.named⟩, trivial⟩
  notEmpty := List.cons_ne_nil _ _
  filled := ⟨⟨derivable.notEmpty, derivable.filled⟩, trivial⟩

end Selection

def Arguments.Named (arguments : Arguments) : Prop :=
  ∀ entry ∈ arguments.toList, isName entry.1

namespace Document

/-- The text of an assembled document is an operation exactly if there are arguments. -/
theorem generates_render_of_assemble {operation : Operation} {name : String}
    {selection : Except Shape.NotAnObject (List Selection)} {fields : List Selection}
    {arguments : Arguments} {document : Document}
    (assembled : assemble operation name selection arguments = .ok document)
    (selected : selection = .ok fields) (derivable : Selection.Derivable fields)
    (written : isName name) (argumentsNamed : arguments.Named) :
    Generates document.render ↔ arguments.toList ≠ [] := by
  obtain ⟨declarations, _, declared, same, rfl⟩ := assemble_eq_ok_iff.mp assembled
  obtain rfl := Except.ok.inj (selected.symm.trans same)
  have related := declareEntries_eq_ok_iff.mp declared
  have named : Named ⟨operation, name, declarations, fields⟩ :=
    ⟨written, isName_declaration related argumentsNamed, derivable.named⟩
  have filled : Filled ⟨operation, name, declarations, fields⟩ :=
    ⟨derivable.notEmpty, derivable.filled⟩
  have sameLength := related.length_eq
  rw [generates_render_iff named filled, ← List.length_pos_iff, ← List.length_pos_iff, sameLength]

/-- A document is assembled from a shape of named fields, and its text is an operation exactly
if there are arguments. -/
theorem exists_assembled {τ : Type} {resolve : τ → Shape τ} {limit : Nat} {shape : Shape τ}
    {fields : List (FieldLabel × Shape τ)} {followed : List τ}
    (core : shape.strip? resolve limit = some ⟨.object fields, followed⟩)
    (fieldsNamed : Shape.FieldsNamed fields) (notEmpty : fields ≠ [])
    (filled : Shape.FieldsFilled fields) (operation : Operation) {name : String}
    (written : isName name) {arguments : Arguments} (argumentsNamed : arguments.Named)
    (inferred : ∀ entry ∈ arguments.toList, ∃ type, entry.2.variableType = .ok type) :
    ∃ selection document, shape.project? resolve limit = some selection ∧
      assemble operation name selection arguments = .ok document ∧
      (Generates document.render ↔ arguments.toList ≠ []) := by
  obtain ⟨declarations, declared⟩ := declareEntries_of_inferred inferred
  have projected : shape.project? resolve limit = some (.ok (Shape.selectFields fields)) := by
    rw [Shape.project?, core]
    rfl
  have derivable : Selection.Derivable (Shape.selectFields fields) :=
    ⟨Shape.allNamed_selectFields fields fieldsNamed, Shape.selectFields_ne_nil notEmpty,
      Shape.allFilled_selectFields fields filled⟩
  let document : Document := ⟨operation, name, declarations, Shape.selectFields fields⟩
  have assembled : assemble operation name (.ok (Shape.selectFields fields)) arguments =
      .ok document :=
    assemble_eq_ok_iff.mpr ⟨declarations, _, declared, rfl, rfl⟩
  exact ⟨_, document, projected, assembled,
    generates_render_of_assemble assembled rfl derivable written argumentsNamed⟩

end Document

end ShapeQuery
