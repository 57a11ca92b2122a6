import ShapeQuery.Datum.Decoding
import ShapeQuery.Proofs.Execution.Preflight
import ShapeQuery.Proofs.Named.LastWritten

/-!
# Null values of variables

The declared type of a variable is inferred from the shape of its argument and the
required flag, and the value that is sent is the JSON form of the value alone.  Of the
values that can be declared, only a number that is not finite has the form null, and
the flag does not change that.
-/

namespace ShapeQuery

/-! ## Values of scalar and list types -/

/-- The value is one of the type with this shape, where the type is a scalar, a character,
or a list of such types. -/
inductive Shape.Fits {τ : Type} : Shape τ → Datum → Prop
  | text (value : String) : Fits (.scalar .text) (.text value)
  | character (value : Char) : Fits (.scalar .text) (.character value)
  | integer {kind : ScalarKind} {value : Int} (held : kind.holds value = true) :
      Fits (.scalar kind) (.integer value)
  | single (value : Floating) : Fits (.scalar .float32) (.ofSingle value)
  | double (value : Floating) : Fits (.scalar .float64) (.floating value)
  | boolean (value : Bool) : Fits (.scalar .boolean) (.boolean value)
  | list {element : Shape τ} {items : List Datum} (every : ∀ item ∈ items, Fits element item) :
      Fits (.list element) (.list items)

namespace Datum

/-- The value is a single number that is an infinity or not-a-number. -/
def IsNonFinite (value : Datum) : Prop :=
  ∃ number, value = .floating number ∧ number.isFinite = false

/-- Where each item has a form, the forms stand in the order of the items. -/
theorem itemsToJson_of_related {relation : Datum → Json → Prop} {items : List Datum}
    (every : ∀ item ∈ items, ∃ written, item.toJson = .ok written ∧ relation item written) :
    ∃ written, itemsToJson items = .ok written ∧ List.Forall₂ relation items written := by
  induction items with
  | nil => exact ⟨[], rfl, .nil⟩
  | cons item rest induction =>
      obtain ⟨head, later⟩ := List.forall_mem_cons.mp every
      obtain ⟨first, itemWritten, related⟩ := head
      obtain ⟨others, restWritten, restRelated⟩ := induction later
      refine ⟨first :: others, ?_, .cons related restRelated⟩
      rw [itemsToJson, itemWritten, restWritten]
      rfl

theorem toJson_floating (number : Floating) :
    ∃ written, (floating number).toJson = .ok written ∧
      (written = .null ↔ (floating number).IsNonFinite) := by
  cases finite : number.isFinite with
  | false =>
      refine ⟨.null, by simp [toJson, finite], ?_⟩
      exact iff_of_true rfl ⟨number, rfl, finite⟩
  | true =>
      refine ⟨.floating number, by simp [toJson, finite], iff_of_false ?_ ?_⟩
      · intro isNull
        cases isNull
      · rintro ⟨_, ⟨⟩, nonFinite⟩
        rw [finite] at nonFinite
        cases nonFinite

end Datum

/-- Every value of a scalar or list type has a JSON form, which is null exactly for a
number that is not finite. -/
theorem Shape.Fits.exists_json {τ : Type} {shape : Shape τ} {value : Datum}
    (fits : shape.Fits value) :
    ∃ written, value.toJson = .ok written ∧ (written = .null ↔ value.IsNonFinite) := by
  induction fits with
  | text value | character value | integer held | boolean value =>
      exact ⟨_, rfl, iff_of_false nofun nofun⟩
  | single value | double value => exact Datum.toJson_floating _
  | @list element items every induction =>
      obtain ⟨written, itemsWritten, -⟩ := Datum.itemsToJson_of_related induction
      refine ⟨.list written, ?_, iff_of_false nofun nofun⟩
      rw [Datum.toJson, itemsWritten]
      rfl

/-! ## Declared types -/

/-- The declared type ends with the mark of required variables. -/
def VariableType.IsMarked (type : VariableType) : Prop :=
  ∃ inner, type.render = inner ++ "!"

/-- No scalar name and no bracket ends like the mark. -/
theorem VariableType.isMarked_iff {type : VariableType} :
    type.IsMarked ↔ type.required = true := by
  obtain ⟨scalar, isList, required⟩ := type
  cases required with
  | true => exact iff_of_true ⟨_, rfl⟩ rfl
  | false =>
      refine iff_of_false ?_ nofun
      rintro ⟨inner, marked⟩
      have last := congrArg (fun text => text.toList.getLast?) marked
      cases scalar <;> cases isList <;>
        simp [render, ScalarType.name, String.toList_append] at last

/-- A type is declared for scalars and for lists directly of scalars. -/
theorem Shape.declared_cases {τ : Type} {shape : Shape τ} {required : Bool}
    {type : VariableType} (inferred : shape.infer required = .ok type) :
    ∃ kind : ScalarKind,
      (shape = .scalar kind ∧ type = ⟨kind.scalarType, false, required⟩) ∨
      (shape = .list (.scalar kind) ∧ type = ⟨kind.scalarType, true, required⟩) := by
  unfold infer at inferred
  split at inferred
  · cases inferred
    exact ⟨_, .inl ⟨rfl, rfl⟩⟩
  · cases inferred
    exact ⟨_, .inr ⟨rfl, rfl⟩⟩
  · cases inferred
  · cases inferred

theorem Shape.required_of_infer {τ : Type} {shape : Shape τ} {required : Bool}
    {type : VariableType} (inferred : shape.infer required = .ok type) :
    type.required = required := by
  obtain ⟨kind, ⟨-, rfl⟩ | ⟨-, rfl⟩⟩ := declared_cases inferred
  · rfl
  · rfl

/-! ## Sent requests -/

namespace Arguments

variable {arguments : Arguments} {declarations : List (String × VariableType)}
  {values : List (String × Json)} {name : String} {type : VariableType}

/-- A declared variable has the argument of its name, and the form of the value of that
argument is sent under the name. -/
theorem exists_of_declared (declared : declareEntries arguments.toList = .ok declarations)
    (encoded : arguments.encode = .ok values)
    (found : Named.find? name declarations = some type) :
    ∃ argument written, arguments.get? name = some argument ∧
      Named.find? name values = some written ∧
      argument.variableType = .ok type ∧ argument.toJson = .ok written := by
  have typed := Named.find?_of_converted (declareEntries_eq_ok_iff.mp declared) name
  have sent := Named.find?_of_converted (encodeEntries_eq_ok_iff.mp encoded) name
  rw [found] at typed
  generalize held : Named.find? name arguments.toList = kept at typed sent
  generalize written : Named.find? name values = json at sent
  cases typed with
  | some inferred =>
      cases sent with
      | some converted => exact ⟨_, _, held, rfl, inferred, converted⟩

/-- Every argument is a value of a scalar or list type. -/
def Fit (arguments : Arguments) : Prop :=
  ∀ entry ∈ arguments.toList, entry.2.shape.Fits entry.2.value

/-- A declared variable is marked where its argument is required, and the value that is
sent for it is null where that argument is a number that is not finite. -/
theorem Fit.declared (fit : arguments.Fit)
    (declared : declareEntries arguments.toList = .ok declarations)
    (encoded : arguments.encode = .ok values)
    (found : Named.find? name declarations = some type) :
    ∃ argument written, arguments.get? name = some argument ∧
      Named.find? name values = some written ∧
      (type.IsMarked ↔ argument.required = true) ∧
      (written = .null ↔ argument.value.IsNonFinite) := by
  obtain ⟨argument, written, held, sent, inferred, converted⟩ :=
    exists_of_declared declared encoded found
  refine ⟨argument, written, held, sent, ?_, ?_⟩
  · rw [VariableType.isMarked_iff, Shape.required_of_infer inferred]
  · have fits := fit (name, argument) (Named.mem_of_find?_eq_some held)
    obtain ⟨form, made, nullIff⟩ := fits.exists_json
    cases made.symm.trans converted
    exact nullIff

end Arguments

/-- Where all arguments are values of scalar and list types, an operation is refused with
nothing sent or sends one request.  Each variable that the document of that request
declares has a value in it.  The declared type ends with the mark of required variables
exactly where the argument is required, and marked or not, the value is null exactly for
an argument that is a single number and not finite. -/
theorem run_execute_required_null_iff {α : Type} {m : Type → Type} [Monad m] [LawfulMonad m]
    (transport : Transport m) (endpoint : Endpoint) {call : OperationCall}
    (schema : Schema α) (value : α) (fit : call.arguments.Fit) (sent : List Request) :
    let run := (execute transport.recorded endpoint call schema value).run sent
    (∃ interruption, run = pure (⟨.error interruption, value, []⟩, sent)) ∨
    ∃ document values,
      Document.assemble call.operation call.name schema.selection call.arguments =
        .ok document ∧
      call.arguments.encode = .ok values ∧
      (∀ name type, Named.find? name document.declarations = some type →
        ∃ argument written, call.arguments.get? name = some argument ∧
          Named.find? name values = some written ∧
          (type.IsMarked ↔ argument.required = true) ∧
          (written = .null ↔ argument.value.IsNonFinite)) ∧
      run = (fun reply =>
        let execution := Execution.ofReply call schema value reply
        ({ execution with logs := Execution.sending call endpoint :: execution.logs },
          sent ++ [OperationCall.request endpoint document values])) <$>
        transport.roundTrip (OperationCall.request endpoint document values) := by
  intro run
  cases prepared : call.prepare endpoint schema with
  | error interruption =>
      exact .inl ⟨interruption, run_execute_of_refused value sent prepared⟩
  | ok request =>
      obtain ⟨document, values, assembled, encoded, rfl⟩ :=
        OperationCall.prepare_eq_ok_iff.mp prepared
      refine .inr ⟨document, values, assembled, encoded, ?_,
        run_execute_of_prepared value sent prepared⟩
      obtain ⟨declarations, fields, declared, _, rfl⟩ :=
        Document.assemble_eq_ok_iff.mp assembled
      intro name type found
      exact fit.declared declared encoded found

/-- A required number that is not one, and a required list with an infinity in it. -/
def nonFiniteCall : OperationCall where
  operation := .query
  name := "widget"
  arguments := .ofList
    [("limit", ⟨.scalar .float64, .floating .nan, true⟩),
      ("range", ⟨.list (.scalar .float32), .list [.ofSingle (.infinite false)], true⟩)]

theorem toList_nonFiniteCall :
    nonFiniteCall.arguments.toList =
      [("limit", ⟨.scalar .float64, .floating .nan, true⟩),
        ("range", ⟨.list (.scalar .float32), .list [.ofSingle (.infinite false)], true⟩)] := rfl

theorem fit_nonFiniteCall : nonFiniteCall.arguments.Fit := by
  intro entry member
  rw [toList_nonFiniteCall] at member
  simp only [List.mem_cons, List.not_mem_nil, or_false] at member
  obtain rfl | rfl := member
  · exact .double _
  · exact .list (List.forall_mem_singleton.mpr (.single _))

/-- The schema of a record with an identifier. -/
def widgetSchema : Schema Unit :=
  ⟨.ok [.leaf "id"], fun _ => .ok ()⟩

/-- Null is sent for the number, but not for the list. -/
theorem run_execute_required_null_iff_nonFiniteCall :
    nonFiniteCall.arguments.Fit ∧
    ∃ document values,
      Named.find? "limit" values = some .null ∧
      (∃ written, Named.find? "range" values = some written ∧ written ≠ .null) ∧
      ((execute Transport.disconnected.recorded .standard nonFiniteCall widgetSchema ()).run
        []).2 = [OperationCall.request .standard document values] := by
  refine ⟨fit_nonFiniteCall, ?_⟩
  obtain ⟨interruption, refused⟩ | ⟨document, values, assembled, encoded, declared, run⟩ :=
    run_execute_required_null_iff Transport.disconnected .standard widgetSchema ()
      fit_nonFiniteCall []
  · cases refused
  cases assembled
  obtain ⟨_, limit, ⟨⟩, limitSent, _, limitNull⟩ := declared "limit" _ rfl
  obtain ⟨_, range, ⟨⟩, rangeSent, _, rangeNull⟩ := declared "range" _ rfl
  refine ⟨_, values, ?_, ⟨range, rangeSent, ?_⟩, congrArg Prod.snd run⟩
  · rw [limitSent, limitNull.mpr ⟨.nan, rfl, rfl⟩]
  · rw [Ne, rangeNull]
    rintro ⟨_, ⟨⟩, _⟩

/-- A variable is declared as one that is never null, and null is sent for it. -/
theorem sends_null_of_required :
    nonFiniteCall.arguments.Fit ∧
    ∃ document values type,
      ((execute Transport.disconnected.recorded .standard nonFiniteCall widgetSchema ()).run
        []).2 = [OperationCall.request .standard document values] ∧
      Named.find? "limit" document.declarations = some type ∧ type.render = "Float!" ∧
      Named.find? "limit" values = some .null :=
  ⟨fit_nonFiniteCall, _, _, _, rfl, rfl, rfl, rfl⟩

end ShapeQuery
