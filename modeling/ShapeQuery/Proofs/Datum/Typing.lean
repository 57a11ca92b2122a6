import ShapeQuery.Argument
import ShapeQuery.Proofs.Datatype.Unfolding
import ShapeQuery.Proofs.Execution.NullValue
import ShapeQuery.Proofs.Floating.Widening
import ShapeQuery.Proofs.VariableType

/-!
# Values of types and their JSON forms

The type of an argument decides how its variable is declared, and its value what is sent.
For a value of a type that can be declared the two agree: a text is sent under the name of
texts, an integer of any width under that of integers, and a number under that of numbers,
unless it is not finite.  A list is sent item by item.  A type with a value whose form is an
object, a list of lists or null cannot be declared, numbers that are not finite aside.
-/

namespace ShapeQuery

/-- The value is one of the type. -/
inductive Datum.Inhabits (family : Family) : Datum → Datatype → Prop
  | text (value : String) : Inhabits family (.text value) (.scalar .text)
  | character (value : Char) : Inhabits family (.character value) .character
  | integer {kind : ScalarKind} {value : Int} (held : kind.holds value = true) :
      Inhabits family (.integer value) (.scalar kind)
  | single {value : Floating} (held : FloatFormat.single.Holds value) :
      Inhabits family (.ofSingle value) (.scalar .float32)
  | double {value : Floating} (held : FloatFormat.double.Holds value) :
      Inhabits family (.floating value) (.scalar .float64)
  | boolean (value : Bool) : Inhabits family (.boolean value) (.scalar .boolean)
  | unit : Inhabits family .unit .unit
  | json (value : Json) : Inhabits family (.json value) .json
  | reference {value : Datum} {target : Datatype} :
      Inhabits family value target → Inhabits family value (.reference target)
  | boxed {value : Datum} {target : Datatype} :
      Inhabits family value target → Inhabits family value (.boxed target)
  | shared {value : Datum} {target : Datatype} :
      Inhabits family value target → Inhabits family value (.shared target)
  | nullAsDefault {value : Datum} {target : Datatype} :
      Inhabits family value target → Inhabits family value (.nullAsDefault target)
  | absent (target : Datatype) : Inhabits family .absent (.option target)
  | present {value : Datum} {target : Datatype} :
      Inhabits family value target → Inhabits family (.present value) (.option target)
  | list {items : List Datum} {element : Datatype}
      (every : ∀ item ∈ items, Inhabits family item element) :
      Inhabits family (.list items) (.list element)
  | array {items : List Datum} {element : Datatype}
      (every : ∀ item ∈ items, Inhabits family item element) :
      Inhabits family (.list items) (.array element items.length)
  | map {entries : List (Datum × Datum)} {type : Datatype}
      (every : ∀ entry ∈ entries, Inhabits family entry.2 type) :
      Inhabits family (.map entries) (.map type)
  | record {name : String} {declaration : RecordDeclaration}
      {members : List (String × Datum)} (declared : family.find? name = some declaration)
      (names : members.map Prod.fst =
        declaration.readFields.map FieldDeclaration.wireName)
      (every : ∀ pair ∈ declaration.readFields.zip members,
        Inhabits family pair.2.2 pair.1.type) :
      Inhabits family (.record members) (.record name)

/-- The JSON value is what is sent for a value of a scalar kind under the name of a declared
type.  A number of the single format is sent as the number of the double format that equals
it. -/
inductive ScalarKind.Sends : ScalarKind → String → Datum → Json → Prop
  | text (value : String) : Sends .text "String" (.text value) (.text value)
  | character (value : Char) :
      Sends .text "String" (.character value) (.text (String.singleton value))
  | integer {kind : ScalarKind} {value : Int} (held : kind.holds value = true) :
      Sends kind "Int" (.integer value) (.integer value)
  | boolean (value : Bool) : Sends .boolean "Boolean" (.boolean value) (.boolean value)
  | double {value : Floating} (finite : value.isFinite = true) :
      Sends .float64 "Float" (.floating value) (.floating value)
  | single {value sent : Floating} (finite : value.isFinite = true)
      (held : FloatFormat.double.Holds sent) (same : sent.SameNumber value) :
      Sends .float32 "Float" (.ofSingle value) (.floating sent)
  | notDouble {value : Floating} (infinite : value.isFinite = false) :
      Sends .float64 "Float" (.floating value) .null
  | notSingle {value : Floating} (infinite : value.isFinite = false) :
      Sends .float32 "Float" (.ofSingle value) .null

/-- The JSON value is a list or an object. -/
def Json.IsStructured : Json → Prop
  | .list _ | .object _ => True
  | _ => False

/-- The JSON value is null, an object, or a list with a list or an object in it. -/
def Json.IsNullOrNested : Json → Prop
  | .null | .object _ => True
  | .list items => ∃ item ∈ items, item.IsStructured
  | _ => False

variable {family : Family} {type : Datatype} {shape : Shape Datatype} {kind : ScalarKind}
  {name : String} {value : Datum} {written : Json}

/-! ## Forms of scalars -/

theorem FloatFormat.ofSingle_eq {number : Floating} (held : single.Holds number) :
    ∃ wide, Datum.ofSingle number = .floating wide ∧ wide.SameNumber number ∧
      double.Holds wide := by
  have wider := holds_double_of_single held
  exact ⟨_, rfl, sameNumber_convert wider⟩

theorem ScalarKind.exists_sends_single {number : Floating}
    (held : FloatFormat.single.Holds number) :
    ∃ written, (Datum.ofSingle number).toJson = .ok written ∧
      Sends .float32 "Float" (.ofSingle number) written := by
  obtain ⟨wide, equal, same, wideHeld⟩ := FloatFormat.ofSingle_eq held
  cases finite : number.isFinite with
  | true =>
      refine ⟨.floating wide, ?_, .single finite wideHeld same⟩
      rw [equal, Datum.toJson, same.isFinite_eq, finite]
      rfl
  | false =>
      refine ⟨.null, ?_, .notSingle finite⟩
      rw [equal, Datum.toJson, same.isFinite_eq, finite]
      rfl

theorem ScalarKind.exists_sends_double (number : Floating) :
    ∃ written, (Datum.floating number).toJson = .ok written ∧
      Sends .float64 "Float" (.floating number) written := by
  cases finite : number.isFinite with
  | true => exact ⟨.floating number, by rw [Datum.toJson, finite]; rfl, .double finite⟩
  | false => exact ⟨.null, by rw [Datum.toJson, finite]; rfl, .notDouble finite⟩

/-- A value of a type with the shape of a scalar is sent under the name of the scalar. -/
theorem Datum.Inhabits.exists_sends (inhabits : value.Inhabits family type)
    (shaped : family.Shapes type (.scalar kind)) (named : kind.NamedAs name) :
    ∃ written, value.toJson = .ok written ∧ kind.Sends name value written := by
  -- only a reference or a marked default leads to a smaller type; a pointer has no scalar shape
  induction inhabits with
  | text value =>
      cases shaped
      cases named
      exact ⟨_, rfl, .text value⟩
  | character value =>
      cases shaped
      cases named
      exact ⟨_, rfl, .character value⟩
  | integer held =>
      cases shaped
      -- no integer is held by a kind of another name
      cases named with
      | signed width => exact ⟨_, rfl, .integer held⟩
      | unsigned width => exact ⟨_, rfl, .integer held⟩
      | text | float32 | float64 | boolean => cases held
  | boolean value =>
      cases shaped
      cases named
      exact ⟨_, rfl, .boolean value⟩
  | single held =>
      cases shaped
      cases named
      exact ScalarKind.exists_sends_single held
  | double =>
      cases shaped
      cases named
      exact ScalarKind.exists_sends_double _
  | reference _ induction =>
      cases shaped with
      | reference inner => exact induction inner
  | nullAsDefault _ induction =>
      cases shaped with
      | nullAsDefault inner => exact induction inner
  | unit | json | boxed | shared | absent | present | list | array | map | record => cases shaped

/-! ## Forms of lists -/

/-- The items of a list of scalars are sent under the name of the scalar. -/
theorem Datum.exists_sends_items {items : List Datum}
    (every : ∀ item ∈ items, item.Inhabits family type)
    (shaped : family.Shapes type (.scalar kind)) (named : kind.NamedAs name) :
    ∃ written, (Datum.list items).toJson = .ok (.list written) ∧
      List.Forall₂ (kind.Sends name) items written := by
  obtain ⟨written, itemsWritten, related⟩ := itemsToJson_of_related fun item member =>
    (every item member).exists_sends shaped named
  exact ⟨written, by rw [toJson, itemsWritten]; rfl, related⟩

/-- A value of a type with the shape of a list of scalars is a list, and its items are sent
under the name of the scalar. -/
theorem Datum.Inhabits.exists_sends_list (inhabits : value.Inhabits family type)
    (shaped : family.Shapes type (.list (.scalar kind))) (named : kind.NamedAs name) :
    ∃ items written, value = .list items ∧ value.toJson = .ok (.list written) ∧
      List.Forall₂ (kind.Sends name) items written := by
  induction inhabits with
  | list every =>
      cases shaped with
      | list inner =>
          obtain ⟨written, listWritten, related⟩ := exists_sends_items every inner named
          exact ⟨_, written, rfl, listWritten, related⟩
  | array every =>
      cases shaped with
      | array inner =>
          obtain ⟨written, listWritten, related⟩ := exists_sends_items every inner named
          exact ⟨_, written, rfl, listWritten, related⟩
  | reference _ induction =>
      cases shaped with
      | reference inner => exact induction inner
  | nullAsDefault _ induction =>
      cases shaped with
      | nullAsDefault inner => exact induction inner
  | text | character | integer | single | double | boolean | unit | json | boxed | shared
  | absent | present | map | record => cases shaped

/-! ## Null and nested forms -/

/-- Null is sent for a scalar only under the name of numbers and for one that is not finite, and
an object or a list is never sent. -/
theorem ScalarKind.Sends.eq_null (sends : kind.Sends name value written)
    (stray : written.IsNullOrNested) : written = .null ∧ name = "Float" ∧ value.IsNonFinite := by
  cases sends with
  | text | character | integer | boolean | double | single => cases stray
  | notDouble infinite => exact ⟨rfl, rfl, _, rfl, infinite⟩
  | @notSingle number infinite =>
      refine ⟨rfl, rfl, _, rfl, ?_⟩
      cases number with
      | finite => cases infinite
      | infinite | nan => rfl

theorem ScalarKind.Sends.not_structured (sends : kind.Sends name value written) :
    ¬ written.IsStructured := by
  cases sends <;> exact id

theorem ScalarKind.Sends.list_not_nested {items : List Datum} {forms : List Json}
    (sends : List.Forall₂ (kind.Sends name) items forms) : ¬ (Json.list forms).IsNullOrNested := by
  rintro ⟨form, member, structured⟩
  induction sends with
  | nil => cases member
  | cons head _ induction =>
      obtain rfl | later := List.mem_cons.mp member
      · exact head.not_structured structured
      · exact induction later

/-! ## Arguments -/

/-- A type is declared for scalars and for lists directly of scalars, under the name of the
scalar. -/
theorem Shape.declared_named {shape : Shape Datatype} {required : Bool} {declared : VariableType}
    (inferred : shape.infer required = .ok declared) :
    ∃ (kind : ScalarKind) (name : String), kind.NamedAs name ∧
      ((shape = .scalar kind ∧ declared.render = name ++ VariableType.mark required) ∨
      (shape = .list (.scalar kind) ∧
        declared.render = "[" ++ name ++ "]" ++ VariableType.mark required)) := by
  obtain ⟨kind, ⟨rfl, rfl⟩ | ⟨rfl, rfl⟩⟩ := Shape.declared_cases inferred
  · exact ⟨kind, _, ScalarKind.namedAs_iff.mpr rfl, .inl ⟨rfl, VariableType.render_single _ _⟩⟩
  · exact ⟨kind, _, ScalarKind.namedAs_iff.mpr rfl, .inr ⟨rfl, VariableType.render_list _ _⟩⟩

/-- Where a type is declared for an argument, its name is that of the scalar kind, in brackets
for a list, and the value is sent as one of that name: a text, an integer, a boolean or a number,
or the list of such values in the order of the items.  Where the value has a form that is null or
nested, no type is declared, unless it is a number that is not finite.  Numbers of the single
format are widened without a loss. -/
theorem Argument.sends_value_of_declared_type {argument : Argument}
    (shaped : family.shape? type = some argument.shape)
    (inhabits : argument.value.Inhabits family type) :
    (∀ declared, argument.variableType = .ok declared →
      ∃ (kind : ScalarKind) (name : String), kind.NamedAs name ∧
        ((argument.shape = .scalar kind ∧
          declared.render = name ++ VariableType.mark argument.required ∧
          ∃ written, argument.toJson = .ok written ∧ kind.Sends name argument.value written) ∨
        (argument.shape = .list (.scalar kind) ∧
          declared.render = "[" ++ name ++ "]" ++ VariableType.mark argument.required ∧
          ∃ items written, argument.value = .list items ∧ argument.toJson = .ok (.list written) ∧
            List.Forall₂ (kind.Sends name) items written))) ∧
    (∀ written, argument.toJson = .ok written → written.IsNullOrNested →
      (∃ failure, argument.variableType = .error failure) ∨
      (written = .null ∧ argument.value.IsNonFinite ∧ ∃ declared,
        argument.variableType = .ok declared ∧
          declared.render = "Float" ++ VariableType.mark argument.required)) ∧
    (∀ number, FloatFormat.single.Holds number → ∃ wide,
      Datum.ofSingle number = .floating wide ∧ wide.SameNumber number ∧
        FloatFormat.double.Holds wide) := by
  obtain ⟨shape, value, required⟩ := argument
  have computed : family.Shapes type shape := Family.shapes_of_shape? shaped
  refine ⟨?_, ?_, fun number held => FloatFormat.ofSingle_eq held⟩
  · intro declared inferred
    obtain ⟨kind, name, named, ⟨rfl, single⟩ | ⟨rfl, flat⟩⟩ := Shape.declared_named inferred
    · exact ⟨kind, name, named, .inl ⟨rfl, single, inhabits.exists_sends computed named⟩⟩
    · exact ⟨kind, name, named, .inr ⟨rfl, flat, inhabits.exists_sends_list computed named⟩⟩
  · intro written converted stray
    cases inferred : Argument.variableType ⟨shape, value, required⟩ with
    | error failure => exact .inl ⟨failure, rfl⟩
    | ok declared =>
        obtain ⟨kind, name, named, ⟨rfl, single⟩ | ⟨rfl, -⟩⟩ := Shape.declared_named inferred
        · obtain ⟨form, formWritten, sends⟩ := inhabits.exists_sends computed named
          obtain rfl : form = written := Except.ok.inj (formWritten.symm.trans converted)
          obtain ⟨isNull, rfl, nonFinite⟩ := sends.eq_null stray
          exact .inr ⟨isNull, nonFinite, declared, rfl, single⟩
        · obtain ⟨items, forms, -, listWritten, related⟩ :=
            inhabits.exists_sends_list computed named
          obtain rfl : Json.list forms = written :=
            Except.ok.inj (listWritten.symm.trans converted)
          exact absurd stray (ScalarKind.Sends.list_not_nested related)

namespace Argument

/-- A reference to a text. -/
def title : Argument :=
  ⟨.scalar .text, .text "a \"b\"", true⟩

/-- The greatest integer that any kind holds. -/
def greatest : Argument :=
  ⟨.scalar (.unsigned .bits64), .integer 18446744073709551615, false⟩

/-- An array of two booleans. -/
def flags : Argument :=
  ⟨.list (.scalar .boolean), .list [.boolean true, .boolean false], true⟩

/-- A reference to single numbers, the second of them an infinity. -/
def singles : Argument :=
  ⟨.list (.scalar .float32), .list [.ofSingle (.finite false 3 (-1)), .ofSingle (.infinite true)],
    true⟩

/-- An optional number that is absent, behind a reference. -/
def missing : Argument :=
  ⟨.pointer (.scalar .float64), .absent, false⟩

theorem title_inhabits : title.value.Inhabits [] (.reference (.scalar .text)) :=
  .reference (.text _)

theorem greatest_inhabits : greatest.value.Inhabits [] (.scalar (.unsigned .bits64)) :=
  .integer (by decide)

theorem flags_inhabits : flags.value.Inhabits [] (.array (.scalar .boolean) 2) := by
  refine .array ?_
  rw [List.forall_mem_cons, List.forall_mem_singleton]
  exact ⟨.boolean true, .boolean false⟩

theorem singles_inhabits : singles.value.Inhabits [] (.reference (.list (.scalar .float32))) := by
  refine .reference (.list ?_)
  rw [List.forall_mem_cons, List.forall_mem_singleton]
  refine ⟨.single ?_, .single trivial⟩
  simp [FloatFormat.Holds, FloatFormat.single]

theorem missing_inhabits : missing.value.Inhabits [] (.reference (.option (.scalar .float64))) :=
  .reference (.absent _)

theorem sends_value_of_declared_type_samples :
    (title.variableType.map VariableType.render = .ok "String!" ∧
      ∃ written, title.toJson = .ok written ∧
        ScalarKind.Sends .text "String" title.value written) ∧
    (greatest.variableType.map VariableType.render = .ok "Int" ∧
      ∃ written, greatest.toJson = .ok written ∧
        ScalarKind.Sends (.unsigned .bits64) "Int" greatest.value written) ∧
    (flags.variableType.map VariableType.render = .ok "[Boolean]!" ∧
      ∃ items written, flags.value = .list items ∧ flags.toJson = .ok (.list written) ∧
        List.Forall₂ (ScalarKind.Sends .boolean "Boolean") items written) ∧
    (singles.variableType.map VariableType.render = .ok "[Float]!" ∧
      ∃ items written, singles.value = .list items ∧ singles.toJson = .ok (.list written) ∧
        List.Forall₂ (ScalarKind.Sends .float32 "Float") items written) ∧
    (missing.toJson = .ok .null ∧ ∃ failure, missing.variableType = .error failure) := by
  refine ⟨⟨rfl, ?_⟩, ⟨rfl, ?_⟩, ⟨rfl, ?_⟩, ⟨rfl, ?_⟩, rfl, ?_⟩
  · obtain ⟨typed, -⟩ := sends_value_of_declared_type rfl title_inhabits
    obtain ⟨kind, name, named, ⟨single, -, sends⟩ | ⟨flat, -⟩⟩ := typed _ rfl
    · cases single
      cases named
      exact sends
    · cases flat
  · obtain ⟨typed, -⟩ := sends_value_of_declared_type rfl greatest_inhabits
    obtain ⟨kind, name, named, ⟨single, -, sends⟩ | ⟨flat, -⟩⟩ := typed _ rfl
    · cases single
      cases named
      exact sends
    · cases flat
  · obtain ⟨typed, -⟩ := sends_value_of_declared_type rfl flags_inhabits
    obtain ⟨kind, name, named, ⟨single, -⟩ | ⟨flat, -, sends⟩⟩ := typed _ rfl
    · cases single
    · cases flat
      cases named
      exact sends
  · obtain ⟨typed, -⟩ := sends_value_of_declared_type rfl singles_inhabits
    obtain ⟨kind, name, named, ⟨single, -⟩ | ⟨flat, -, sends⟩⟩ := typed _ rfl
    · cases single
    · cases flat
      cases named
      exact sends
  · obtain ⟨-, refused, -⟩ := sends_value_of_declared_type rfl missing_inhabits
    obtain failure | ⟨-, ⟨number, ⟨⟩, -⟩, -⟩ := refused _ rfl trivial
    exact failure

end Argument

end ShapeQuery
