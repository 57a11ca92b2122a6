import ShapeQuery.Proofs.Argument.History
import ShapeQuery.Proofs.Execution.Preparation

/-!
# Names and marks of variables

The variables that a document declares, those it binds and the values that are sent
go by the same names in the same order.  Whether an argument is required shows in one
place only: everything else is assembled and encoded from the argument without its
mark, and the mark is written behind the declared type.
-/

namespace ShapeQuery

variable {α τ : Type}

/-! ## Types -/

/-- What is written behind the type of a variable. -/
def VariableType.mark (required : Bool) : String :=
  if required then "!" else ""

theorem Shape.infer_eq_map (shape : Shape τ) (required : Bool) :
    shape.infer required =
      (shape.infer false).map fun type => { type with required := required } := by
  cases shape with
  | list element => cases element <;> rfl
  | scalar kind => rfl
  | pointer target => rfl
  | object fields => rfl
  | unmapped kind => rfl

theorem VariableType.render_required (type : VariableType) (required : Bool) :
    { type with required := required }.render =
      { type with required := false }.render ++ VariableType.mark required := by
  cases required <;> simp [VariableType.render, VariableType.mark]

theorem Shape.not_required_of_infer {shape : Shape τ} {type : VariableType}
    (inferred : shape.infer false = .ok type) : { type with required := false } = type := by
  rw [Shape.infer_eq_map] at inferred
  cases result : shape.infer false with
  | error source =>
      rw [result] at inferred
      cases inferred
  | ok inner =>
      rw [result] at inferred
      cases inferred
      rfl

/-! ## Arguments without their marks -/

/-- The argument as an optional one. -/
def Argument.unmarked (argument : Argument) : Argument :=
  { argument with required := false }

theorem Argument.variableType_eq_map (argument : Argument) :
    argument.variableType =
      argument.unmarked.variableType.map fun type =>
        { type with required := argument.required } :=
  argument.shape.infer_eq_map argument.required

namespace Arguments

theorem increasing_unmarked (arguments : Arguments) :
    Named.Increasing
      (arguments.toList.map fun entry => (entry.1, entry.2.unmarked)) := by
  unfold Named.Increasing
  rw [List.pairwise_map]
  exact arguments.increasing

/-- The same arguments as optional ones. -/
def unmarked (arguments : Arguments) : Arguments :=
  ⟨arguments.toList.map fun entry => (entry.1, entry.2.unmarked),
    arguments.increasing_unmarked⟩

def names (arguments : Arguments) : List String :=
  arguments.toList.map Prod.fst

/-- Which arguments are required, in the order of their names. -/
def marks (arguments : Arguments) : List Bool :=
  arguments.toList.map fun entry => entry.2.required

/-- The same names hold the same values; only the marks may differ. -/
def AgreeUpToMarks (left right : Arguments) : Prop :=
  ∀ name, (left.get? name).map Argument.unmarked = (right.get? name).map Argument.unmarked

theorem get?_unmarked (arguments : Arguments) (name : String) :
    arguments.unmarked.get? name = (arguments.get? name).map Argument.unmarked :=
  Named.find?_map_value Argument.unmarked name arguments.toList

theorem names_unmarked (arguments : Arguments) :
    arguments.unmarked.names = arguments.names := by
  rw [names, names, unmarked, List.map_map]
  rfl

theorem agreeUpToMarks_iff {left right : Arguments} :
    left.AgreeUpToMarks right ↔ left.unmarked = right.unmarked := by
  constructor
  · intro agree
    apply eq_of_get?_eq
    intro name
    rw [get?_unmarked, get?_unmarked, agree name]
  · intro equal name
    rw [← get?_unmarked, ← get?_unmarked, equal]

/-- Values are encoded without looking at the marks. -/
theorem encode_unmarked (arguments : Arguments) :
    arguments.unmarked.encode = arguments.encode := by
  have entries : ∀ entries : List (String × Argument),
      encodeEntries (entries.map fun entry => (entry.1, entry.2.unmarked)) =
        encodeEntries entries := by
    intro entries
    induction entries with
    | nil => rfl
    | cons entry rest induction =>
        rw [List.map_cons, encodeEntries, induction]
        rfl
  exact entries arguments.toList

end Arguments

/-- The declarations with the marks of the arguments. -/
def markedLike (entries : List (String × Argument))
    (declarations : List (String × VariableType)) : List (String × VariableType) :=
  List.zipWith
    (fun entry declaration =>
      (declaration.1, { declaration.2 with required := entry.2.required }))
    entries declarations

theorem declareEntries_eq_map (entries : List (String × Argument)) :
    declareEntries entries =
      (declareEntries (entries.map fun entry => (entry.1, entry.2.unmarked))).map
        (markedLike entries) := by
  induction entries with
  | nil => rfl
  | cons entry rest induction =>
      obtain ⟨name, argument⟩ := entry
      rw [List.map_cons, declareEntries, declareEntries, Argument.variableType_eq_map]
      cases argument.unmarked.variableType with
      | error source => rfl
      | ok type =>
          rw [induction]
          cases declareEntries (rest.map fun entry => (entry.1, entry.2.unmarked)) <;> rfl

/-- The declarations before they are marked. -/
def UnmarkedDeclarations (entries : List (String × Argument))
    (declarations : List (String × VariableType)) : Prop :=
  List.Forall₂
    (fun entry declaration =>
      declaration.1 = entry.1 ∧ entry.2.unmarked.variableType = .ok declaration.2)
    entries declarations

theorem unmarkedDeclarations_of_declared {entries : List (String × Argument)}
    {declarations : List (String × VariableType)}
    (declared : declareEntries (entries.map fun entry => (entry.1, entry.2.unmarked)) =
      .ok declarations) :
    UnmarkedDeclarations entries declarations :=
  List.forall₂_map_left_iff.mp (declareEntries_eq_ok_iff.mp declared)

/-! ## Texts -/

namespace Document

/-- The texts of declarations with marks behind them. -/
def marked (declared : List String) (marks : List Bool) : List String :=
  List.zipWith (fun text required => text ++ VariableType.mark required) declared marks

/-- The text of a document around the texts of its declarations and bindings. -/
def template (operation : Operation) (name : String) (declared bound : List String)
    (fields : List Selection) : String :=
  operation.keyword ++ " " ++ name ++
    "(" ++ String.intercalate ", " declared ++ ") \x7b " ++ name ++
    "(" ++ String.intercalate ", " bound ++ ") \x7b " ++
    Selection.renderAll fields ++ " \x7d \x7d"

/-- The text that binds a root argument to the variable of the same name. -/
def bindingTo (name : String) : String :=
  name ++ ": $" ++ name

theorem render_eq_template (document : Document) :
    document.render =
      template document.operation document.name (document.declarations.map declaration)
        ((document.declarations.map Prod.fst).map bindingTo) document.selection := by
  rw [List.map_map]
  rfl

theorem declaration_required (name : String) (type : VariableType) (required : Bool) :
    declaration (name, { type with required := required }) =
      declaration (name, { type with required := false }) ++ VariableType.mark required := by
  unfold declaration
  rw [VariableType.render_required type required, ← String.append_assoc]

theorem map_declaration_markedLike {entries : List (String × Argument)}
    {declarations : List (String × VariableType)}
    (declared : UnmarkedDeclarations entries declarations) :
    (markedLike entries declarations).map declaration =
      marked (declarations.map declaration) (entries.map fun entry => entry.2.required) := by
  induction declared with
  | nil => rfl
  | @cons entry held _ _ headDeclared _ induction =>
      obtain ⟨name, type⟩ := held
      have unmarked : { type with required := false } = type :=
        Shape.not_required_of_infer headDeclared.2
      have head : declaration (name, { type with required := entry.2.required }) =
          declaration (name, type) ++ VariableType.mark entry.2.required := by
        rw [declaration_required, unmarked]
      simp only [markedLike, marked, List.zipWith_cons_cons, List.map_cons] at induction ⊢
      rw [head, induction]

theorem map_name_markedLike {entries : List (String × Argument)}
    {declarations : List (String × VariableType)}
    (declared : UnmarkedDeclarations entries declarations) :
    (markedLike entries declarations).map Prod.fst = entries.map Prod.fst := by
  induction declared with
  | nil => rfl
  | cons headDeclared _ induction =>
      simp only [markedLike, List.zipWith_cons_cons, List.map_cons] at induction ⊢
      rw [induction, headDeclared.1]

end Document

/-! ## Two argument sets -/

/-- How the assemblies from two argument sets compare: both fail alike, or both give a
text around the same declarations, each with the marks of its own arguments. -/
inductive SameUpToMarks (operation : Operation) (name : String) (left right : Arguments) :
    Except AssemblyFailure Document → Except AssemblyFailure Document → Prop where
  | failed (failure : AssemblyFailure) :
      SameUpToMarks operation name left right (.error failure) (.error failure)
  | assembled {leftDocument rightDocument : Document}
      {declarations : List (String × VariableType)} {fields : List Selection} :
      left.names = right.names →
      UnmarkedDeclarations left.toList declarations →
      UnmarkedDeclarations right.toList declarations →
      leftDocument.render =
        Document.template operation name
          (Document.marked (declarations.map Document.declaration) left.marks)
          (left.names.map Document.bindingTo) fields →
      rightDocument.render =
        Document.template operation name
          (Document.marked (declarations.map Document.declaration) right.marks)
          (left.names.map Document.bindingTo) fields →
      SameUpToMarks operation name left right (.ok leftDocument) (.ok rightDocument)

namespace Document

/-- The marks are written over the document of the unmarked arguments. -/
theorem assemble_eq_map (operation : Operation) (name : String)
    (selection : Except Shape.NotAnObject (List Selection)) (arguments : Arguments) :
    assemble operation name selection arguments =
      (assemble operation name selection arguments.unmarked).map fun document =>
        { document with
          declarations := markedLike arguments.toList document.declarations } := by
  unfold assemble
  rw [declareEntries_eq_map, Arguments.unmarked]
  cases declareEntries (arguments.toList.map fun entry => (entry.1, entry.2.unmarked)) with
  | error error => rfl
  | ok declarations => cases selection <;> rfl

/-- The text with the marks of some arguments. -/
theorem render_markedLike (operation : Operation) (name : String) (arguments : Arguments)
    {declarations : List (String × VariableType)} (fields : List Selection)
    (declared : UnmarkedDeclarations arguments.toList declarations) :
    (Document.mk operation name (markedLike arguments.toList declarations) fields).render =
      template operation name (marked (declarations.map declaration) arguments.marks)
        (arguments.names.map bindingTo) fields := by
  rw [render_eq_template]
  simp only [map_declaration_markedLike declared, map_name_markedLike declared]
  rfl

end Document

/-- Sets that agree up to marks are assembled to the same up to marks. -/
theorem sameUpToMarks_assemble {left right : Arguments} (agree : left.AgreeUpToMarks right)
    (operation : Operation) (name : String)
    (selection : Except Shape.NotAnObject (List Selection)) :
    SameUpToMarks operation name left right
      (Document.assemble operation name selection left)
      (Document.assemble operation name selection right) := by
  have equal := Arguments.agreeUpToMarks_iff.mp agree
  have names : left.names = right.names := by
    rw [← left.names_unmarked, ← right.names_unmarked, equal]
  rw [Document.assemble_eq_map operation name selection left,
    Document.assemble_eq_map operation name selection right, equal]
  cases assembled : Document.assemble operation name selection right.unmarked with
  | error failure => exact .failed failure
  | ok document =>
      obtain ⟨declarations, fields, declared, _, rfl⟩ :=
        Document.assemble_eq_ok_iff.mp assembled
      have rightDeclared : UnmarkedDeclarations right.toList declarations :=
        unmarkedDeclarations_of_declared declared
      have leftDeclared : UnmarkedDeclarations left.toList declarations := by
        apply unmarkedDeclarations_of_declared
        rw [← equal] at declared
        exact declared
      apply SameUpToMarks.assembled names leftDeclared rightDeclared
      · exact Document.render_markedLike operation name left fields leftDeclared
      · rw [names]
        exact Document.render_markedLike operation name right fields rightDeclared

/-- In a prepared request the declared variables, the bound ones and the values go by
the names of the arguments, in their order.  Arguments that differ in their marks alone
are encoded alike, and assembled to the same up to marks. -/
theorem prepare_aligned (call : OperationCall) (endpoint : Endpoint) (schema : Schema α) :
    (∀ prepared, call.prepare endpoint schema = .ok prepared →
      ∃ document declarations fields values,
        Document.assemble call.operation call.name schema.selection call.arguments =
          .ok document ∧
        call.arguments.encode = .ok values ∧
        prepared = OperationCall.request endpoint document values ∧
        document.render =
          Document.template call.operation call.name
            (declarations.map Document.declaration)
            (call.arguments.names.map Document.bindingTo) fields ∧
        declarations.map Prod.fst = call.arguments.names ∧
        values.map Prod.fst = call.arguments.names ∧
        (call.arguments.names.map utf8Bytes).Pairwise (· < ·) ∧
        List.Forall₂ (Named.Converted Argument.variableType) call.arguments.toList
          declarations ∧
        List.Forall₂ (Named.Converted Argument.toJson) call.arguments.toList values) ∧
    (∀ other, call.arguments.AgreeUpToMarks other →
      call.arguments.encode = other.encode ∧
      SameUpToMarks call.operation call.name call.arguments other
        (Document.assemble call.operation call.name schema.selection call.arguments)
        (Document.assemble call.operation call.name schema.selection other)) := by
  constructor
  · intro prepared passed
    obtain ⟨document, values, assembled, encoded, requested⟩ :=
      OperationCall.prepare_eq_ok_iff.mp passed
    obtain ⟨declarations, fields, declared, _, rfl⟩ :=
      Document.assemble_eq_ok_iff.mp assembled
    have declaredEntries := declareEntries_eq_ok_iff.mp declared
    have encodedEntries := Arguments.encodeEntries_eq_ok_iff.mp encoded
    have declaredNames : declarations.map Prod.fst = call.arguments.names :=
      Named.map_name_of_converted (fun name => name) declaredEntries
    have encodedNames : values.map Prod.fst = call.arguments.names :=
      Named.map_name_of_converted (fun name => name) encodedEntries
    refine ⟨_, declarations, fields, values, assembled, encoded, requested, ?_,
      declaredNames, encodedNames, ?_, declaredEntries, encodedEntries⟩
    · rw [Document.render_eq_template, declaredNames]
    · rw [Arguments.names, List.map_map]
      exact call.arguments.increasing.utf8Bytes
  · intro other agree
    constructor
    · rw [← call.arguments.encode_unmarked, ← other.encode_unmarked,
        Arguments.agreeUpToMarks_iff.mp agree]
    · exact sameUpToMarks_assemble agree call.operation call.name schema.selection

/-- A search in which the filter is required and the kinds are optional. -/
def filteredCall : OperationCall where
  operation := .query
  name := "list"
  arguments := .ofList [("name", .mandatory "a"), ("kinds", .optional ["b", "c"])]

/-- The same arguments with the marks the other way round. -/
def oppositeArguments : Arguments :=
  .ofList [("kinds", .mandatory ["b", "c"]), ("name", .optional "a")]

/-- The schema of a record of an identifier. -/
def identifiedSchema : Schema Unit :=
  ⟨.ok [.leaf "id"], fun _ => .ok ()⟩

theorem prepare_aligned_filteredCall :
    ∃ prepared, filteredCall.prepare .standard identifiedSchema = .ok prepared ∧
      filteredCall.arguments.AgreeUpToMarks oppositeArguments ∧
      (filteredCall.arguments.names.map utf8Bytes).Pairwise (· < ·) ∧
      oppositeArguments.encode =
        .ok [("kinds", .list [.text "b", .text "c"]), ("name", .text "a")] ∧
      ∃ left right,
        SameUpToMarks .query "list" filteredCall.arguments oppositeArguments
          (.ok left) (.ok right) ∧
        left.render =
          "query list($kinds: [String], $name: String!) \x7b " ++
            "list(kinds: $kinds, name: $name) \x7b id \x7d \x7d" ∧
        right.render =
          "query list($kinds: [String]!, $name: String) \x7b " ++
            "list(kinds: $kinds, name: $name) \x7b id \x7d \x7d" := by
  have agree : filteredCall.arguments.AgreeUpToMarks oppositeArguments :=
    Arguments.agreeUpToMarks_iff.mpr rfl
  obtain ⟨prepared, passed⟩ : ∃ prepared,
      filteredCall.prepare .standard identifiedSchema = .ok prepared := ⟨_, rfl⟩
  obtain ⟨aligned, marked⟩ := prepare_aligned filteredCall .standard identifiedSchema
  obtain ⟨document, declarations, fields, values, assembled, encoded, _, _, _, _, ordered,
    _, _⟩ := aligned prepared passed
  obtain ⟨sameValues, sameText⟩ := marked oppositeArguments agree
  refine ⟨prepared, passed, agree, ordered, ?_, _, _, sameText, ?_, ?_⟩
  · rw [← sameValues]
    rfl
  · decide +kernel
  · decide +kernel

end ShapeQuery
