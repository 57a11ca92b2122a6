import ShapeQuery.Proofs.Datatype.Reference
import ShapeQuery.Proofs.Projection
import ShapeQuery.Proofs.Selection

/-!
# Unfolding records that refer to each other

`Shapes` computes the shape of a type without a bound on how deep records are unfolded
inside each other: lists and records are shaped at once, and only at a pointer or a map does
the computation stop.  In a closed family it comes to an end for every type exactly if the
family is guarded.  Then it also does for each target that is met, however many of them are
followed, so stripping and projecting come to an end as well.
-/

namespace ShapeQuery

namespace Family

mutual

/-- The computation of the shape of a type. -/
inductive Shapes (family : Family) : Datatype → Shape Datatype → Prop
  | scalar (kind : ScalarKind) : Shapes family (.scalar kind) (.scalar kind)
  | character : Shapes family .character (.scalar .text)
  | unit : Shapes family .unit (.unmapped "unit")
  | json : Shapes family .json (.unmapped "interface")
  | reference {target : Datatype} {shape : Shape Datatype} :
      Shapes family target shape → Shapes family (.reference target) shape
  | nullAsDefault {target : Datatype} {shape : Shape Datatype} :
      Shapes family target shape → Shapes family (.nullAsDefault target) shape
  | list {element : Datatype} {shape : Shape Datatype} :
      Shapes family element shape → Shapes family (.list element) (.list shape)
  | array {element : Datatype} {length : Nat} {shape : Shape Datatype} :
      Shapes family element shape → Shapes family (.array element length) (.list shape)
  | option (target : Datatype) : Shapes family (.option target) (.pointer target)
  | boxed (target : Datatype) : Shapes family (.boxed target) (.pointer target)
  | shared (target : Datatype) : Shapes family (.shared target) (.pointer target)
  | map (value : Datatype) : Shapes family (.map value) (.unmapped "map")
  | record {name : String} {declaration : RecordDeclaration}
      {fields : List (FieldLabel × Shape Datatype)}
      (declared : family.find? name = some declaration)
      (inside : ShapesFields family declaration.fields fields) :
      Shapes family (.record name) (.object fields)

/-- The computation of the shapes of fields, one after the other. -/
inductive ShapesFields (family : Family) :
    List FieldDeclaration → List (FieldLabel × Shape Datatype) → Prop
  | nil : ShapesFields family [] []
  | cons {field : FieldDeclaration} {shape : Shape Datatype} {rest : List FieldDeclaration}
      {fields : List (FieldLabel × Shape Datatype)} :
      Shapes family field.type shape → ShapesFields family rest fields →
      ShapesFields family (field :: rest) ((field.label, shape) :: fields)

end

variable {family : Family} {type target : Datatype} {shape : Shape Datatype} {name : String}
  {declared : List FieldDeclaration} {fields : List (FieldLabel × Shape Datatype)}

mutual

theorem Shapes.unique : {type : Datatype} → {shape other : Shape Datatype} →
    family.Shapes type shape → family.Shapes type other → shape = other
  | _, _, _, .scalar _, .scalar _ | _, _, _, .character, .character
  | _, _, _, .unit, .unit | _, _, _, .json, .json | _, _, _, .option _, .option _
  | _, _, _, .boxed _, .boxed _ | _, _, _, .shared _, .shared _ | _, _, _, .map _, .map _ => rfl
  | _, _, _, .reference inner, .reference again
  | _, _, _, .nullAsDefault inner, .nullAsDefault again => inner.unique again
  | _, _, _, .list inner, .list again | _, _, _, .array inner, .array again =>
      congrArg Shape.list (inner.unique again)
  | _, _, _, .record found inside, .record foundAgain insideAgain => by
      cases found.symm.trans foundAgain
      rw [inside.unique insideAgain]

theorem ShapesFields.unique : {declared : List FieldDeclaration} →
    {fields others : List (FieldLabel × Shape Datatype)} →
    family.ShapesFields declared fields → family.ShapesFields declared others → fields = others
  | _, _, _, .nil, .nil => rfl
  | _, _, _, .cons head tail, .cons headAgain tailAgain => by
      rw [head.unique headAgain, tail.unique tailAgain]

end

/-! ## Shapes within a bound -/

/-- What is found from the shapes of records is what is computed. -/
theorem shapes_of_shapeWith {recordShape : String → Option (Shape Datatype)}
    (records : ∀ name shape, recordShape name = some shape →
      family.Shapes (.record name) shape)
    (shaped : type.shapeWith recordShape = some shape) : family.Shapes type shape := by
  induction type generalizing shape with
  | reference target induction => exact .reference (induction shaped)
  | nullAsDefault target induction => exact .nullAsDefault (induction shaped)
  | list element induction =>
      obtain ⟨inner, elementShaped, rfl⟩ := Option.map_eq_some_iff.mp shaped
      exact .list (induction elementShaped)
  | array element _ induction =>
      obtain ⟨inner, elementShaped, rfl⟩ := Option.map_eq_some_iff.mp shaped
      exact .array (induction elementShaped)
  | record name => exact records name shape shaped
  | scalar | character | unit | json | option | boxed | shared | map =>
      cases shaped
      constructor

theorem shapesFields_of_shapedFields {recordShape : String → Option (Shape Datatype)}
    (records : ∀ name shape, recordShape name = some shape →
      family.Shapes (.record name) shape)
    (shaped : ShapedFields recordShape declared fields) :
    family.ShapesFields declared fields := by
  induction shaped with
  | nil => exact .nil
  | @cons field labelled rest others head _ induction =>
      obtain ⟨label, inner⟩ := labelled
      obtain ⟨rfl, fieldShaped⟩ := head
      exact .cons (shapes_of_shapeWith records fieldShaped) induction

theorem shapes_of_recordShape? {level : Nat}
    (shaped : family.recordShape? level name = some shape) :
    family.Shapes (.record name) shape := by
  induction level generalizing name shape with
  | zero => cases shaped
  | succ level induction =>
      obtain ⟨declaration, fields, declared, rfl, inside⟩ := recordShape?_succ_eq_some shaped
      exact .record declared
        (shapesFields_of_shapedFields (fun _ _ shaped => induction shaped) inside)

theorem shapes_of_shape? (shaped : family.shape? type = some shape) :
    family.Shapes type shape :=
  shapes_of_shapeWith (fun _ _ shaped => shapes_of_recordShape? shaped) shaped

/-- A type of declared records is without a shape only for a record without one, to which it
refers unguarded. -/
theorem exists_record_of_unshaped {recordShape : String → Option (Shape Datatype)}
    (within : type.Within family) (unshaped : type.shapeWith recordShape = none) :
    ∃ name, type.Refers false name ∧ recordShape name = none ∧
      ∃ declaration, family.find? name = some declaration := by
  induction type with
  | reference target induction =>
      obtain ⟨name, refers, rest⟩ := induction within unshaped
      exact ⟨name, .reference refers, rest⟩
  | nullAsDefault target induction =>
      obtain ⟨name, refers, rest⟩ := induction within unshaped
      exact ⟨name, .nullAsDefault refers, rest⟩
  | list element induction =>
      obtain ⟨name, refers, rest⟩ := induction within (Option.map_eq_none_iff.mp unshaped)
      exact ⟨name, .list refers, rest⟩
  | array element _ induction =>
      obtain ⟨name, refers, rest⟩ := induction within (Option.map_eq_none_iff.mp unshaped)
      exact ⟨name, .array refers, rest⟩
  | record name => exact ⟨name, .record name, unshaped, within⟩
  | scalar | character | unit | json | option | boxed | shared | map => cases unshaped

theorem exists_fields_of_shaped {recordShape : String → Option (Shape Datatype)}
    (shaped : ∀ field ∈ declared, field.type.shapeWith recordShape ≠ none) :
    ∃ fields, (declared.mapM fun field => do
      let shape ← field.type.shapeWith recordShape
      return (field.label, shape)) = some fields := by
  induction declared with
  | nil => exact ⟨[], rfl⟩
  | cons field rest induction =>
      obtain ⟨fieldShaped, restShaped⟩ := List.forall_mem_cons.mp shaped
      obtain ⟨shape, found⟩ := Option.ne_none_iff_exists'.mp fieldShaped
      obtain ⟨others, othersFound⟩ := induction restShaped
      exact ⟨(field.label, shape) :: others, by rw [List.mapM_cons, othersFound, found]; rfl⟩

/-- A declared record is without a shape only for a field without one. -/
theorem exists_field_of_unshaped {level : Nat} {declaration : RecordDeclaration}
    (found : family.find? name = some declaration)
    (unshaped : family.recordShape? (level + 1) name = none) :
    ∃ field ∈ declaration.fields,
      field.type.shapeWith (family.recordShape? level) = none := by
  by_contra! shaped
  obtain ⟨fields, fieldsFound⟩ := exists_fields_of_shaped shaped
  rw [recordShape?, found, Option.bind_eq_bind, Option.bind_some, fieldsFound] at unshaped
  cases unshaped

/-- A record without a shape at a level begins a chain of as many unguarded references. -/
theorem Closed.exists_chain (closed : family.Closed) (level : Nat)
    (declared : ∃ declaration, family.find? name = some declaration)
    (unshaped : family.recordShape? level name = none) :
    ∃ chain : List String, chain.length = level ∧
      (name :: chain).IsChain (family.Refers false) ∧
      ∀ member ∈ name :: chain, ∃ declaration, family.find? member = some declaration := by
  induction level generalizing name with
  | zero => exact ⟨[], rfl, .singleton name, List.forall_mem_singleton.mpr declared⟩
  | succ level induction =>
      obtain ⟨declaration, found⟩ := declared
      obtain ⟨field, member, fieldUnshaped⟩ := exists_field_of_unshaped found unshaped
      have within := closed declaration (mem_of_find? found).1 field member
      obtain ⟨next, refers, nextUnshaped, nextDeclared⟩ :=
        exists_record_of_unshaped within fieldUnshaped
      obtain ⟨chain, length, linked, chainDeclared⟩ := induction nextDeclared nextUnshaped
      refine ⟨next :: chain, congrArg (· + 1) length, ?_, ?_⟩
      · exact List.isChain_cons_cons.mpr ⟨⟨declaration, field, found, member, refers⟩, linked⟩
      · exact List.forall_mem_cons.mpr ⟨⟨declaration, found⟩, chainDeclared⟩

/-- In a guarded family the length of the family is a level at which every type has its
shape. -/
theorem Guarded.shape?_eq (guarded : family.Guarded) (closed : family.Closed)
    (within : type.Within family) : family.shape? type = some (family.resolve type) := by
  cases shaped : family.shape? type with
  | some shape => rw [resolve, shaped, Option.getD_some]
  | none =>
      obtain ⟨name, _, unshaped, declared⟩ := exists_record_of_unshaped within shaped
      obtain ⟨chain, length, linked, chainDeclared⟩ :=
        closed.exists_chain family.length declared unshaped
      have bound := guarded.length_le linked chainDeclared
      rw [List.length_cons, length] at bound
      exact absurd bound (Nat.not_succ_le_self _)

/-- In a guarded family the shape of every type is computed, and it is the one that is
found within the bound. -/
theorem Guarded.shapes_iff (guarded : family.Guarded) (closed : family.Closed)
    (within : type.Within family) : family.Shapes type shape ↔ shape = family.resolve type := by
  have computed := shapes_of_shape? (guarded.shape?_eq closed within)
  constructor
  · exact fun shapes => shapes.unique computed
  · rintro rfl
    exact computed

/-! ## Circles of unguarded references -/

mutual

/-- Where a shape is computed, every chain of unguarded references comes to an end. -/
theorem Shapes.acc : {type : Datatype} → {shape : Shape Datatype} → {name : String} →
    family.Shapes type shape → type.Refers false name →
      Acc (fun next name => family.Refers false name next) name
  | _, _, _, .reference inner, .reference refers
  | _, _, _, .nullAsDefault inner, .nullAsDefault refers
  | _, _, _, .list inner, .list refers | _, _, _, .array inner, .array refers =>
      inner.acc refers
  | _, _, name, .record found inside, .record _ => by
      refine .intro name ?_
      rintro next ⟨declaration, field, foundAgain, member, refers⟩
      cases found.symm.trans foundAgain
      exact inside.acc member refers

theorem ShapesFields.acc : {declared : List FieldDeclaration} →
    {fields : List (FieldLabel × Shape Datatype)} → {field : FieldDeclaration} →
    {name : String} → family.ShapesFields declared fields → field ∈ declared →
      field.type.Refers false name → Acc (fun next name => family.Refers false name next) name
  | _, _, _, _, .cons head tail, member, refers => by
      obtain rfl | later := List.mem_cons.mp member
      · exact head.acc refers
      · exact tail.acc later refers

end

/-- Where every declared record has a shape, the family is guarded. -/
theorem guarded_of_shapes
    (shapes : ∀ name declaration, family.find? name = some declaration →
      ∃ shape, family.Shapes (.record name) shape) : family.Guarded := by
  rw [guarded_iff]
  intro name circle
  obtain ⟨next, ⟨declaration, _, found, _⟩, _⟩ := Relation.TransGen.head'_iff.mp circle
  obtain ⟨shape, computed⟩ := shapes name declaration found
  exact not_transGen_of_acc (computed.acc (.record name)) circle

end Family

/-! ## Following pointers -/

/-- The target of a pointer somewhere in the shape. -/
inductive Shape.Targets {τ : Type} : Shape τ → τ → Prop
  | pointer (target : τ) : Targets (.pointer target) target
  | list {element : Shape τ} {target : τ} :
      Targets element target → Targets (.list element) target
  | object {fields : List (FieldLabel × Shape τ)} {field : FieldLabel × Shape τ} {target : τ}
      (member : field ∈ fields) : Targets field.2 target → Targets (.object fields) target

namespace Family

variable {family : Family} {type target : Datatype} {shape : Shape Datatype} {name : String}
  {declared : List FieldDeclaration} {fields : List (FieldLabel × Shape Datatype)}

/-- The shape of the type has a pointer to the target. -/
def Points (family : Family) (type target : Datatype) : Prop :=
  ∃ shape, family.Shapes type shape ∧ shape.Targets target

mutual

/-- In a closed family the targets that are met are built from declared records. -/
theorem Shapes.within : {type : Datatype} → {shape : Shape Datatype} →
    family.Shapes type shape → family.Closed → type.Within family → shape.Targets target →
      target.Within family
  | _, _, .reference inner, closed, within, met
  | _, _, .nullAsDefault inner, closed, within, met => inner.within closed within met
  | _, _, .list inner, closed, within, .list met
  | _, _, .array inner, closed, within, .list met => inner.within closed within met
  | _, _, .option _, _, within, .pointer _ | _, _, .boxed _, _, within, .pointer _
  | _, _, .shared _, _, within, .pointer _ => within
  | _, _, .record found inside, closed, _, .object member met =>
      inside.within closed (closed _ (mem_of_find? found).1) member met

theorem ShapesFields.within : {declared : List FieldDeclaration} →
    {fields : List (FieldLabel × Shape Datatype)} → {field : FieldLabel × Shape Datatype} →
    family.ShapesFields declared fields → family.Closed →
      (∀ field ∈ declared, field.type.Within family) → field ∈ fields →
      field.2.Targets target → target.Within family
  | _, _, _, .cons head tail, closed, within, member, met => by
      obtain ⟨first, later⟩ := List.forall_mem_cons.mp within
      obtain rfl | inRest := List.mem_cons.mp member
      · exact head.within closed first met
      · exact tail.within closed later inRest met

end

theorem Closed.within_of_points (closed : family.Closed) (within : type.Within family)
    (reached : Relation.ReflTransGen family.Points type target) : target.Within family := by
  induction reached with
  | refl => exact within
  | tail _ points induction =>
      obtain ⟨shape, computed, met⟩ := points
      exact computed.within closed induction met

/-- The outer layers of the type come to an end, at the shape of the type below them.  The
targets on the way are reached from the type, and are no more than it has layers. -/
def Ends (family : Family) (type : Datatype) : Prop :=
  ∃ targets core, Shape.Strips family.resolve (family.resolve type) targets core ∧
    targets.length ≤ type.layers ∧
    (∀ target ∈ targets, Relation.TransGen family.Points type target) ∧
    family.Shapes type.core core

theorem Ends.pointer {other : Datatype} (ends : family.Ends target)
    (resolved : family.resolve other = .pointer target)
    (computed : family.Shapes other (.pointer target))
    (layers : other.layers = target.layers + 1) (core : other.core = target.core) :
    family.Ends other := by
  obtain ⟨targets, inner, stripped, length, reached, innermost⟩ := ends
  have points : family.Points other target := ⟨_, computed, .pointer target⟩
  refine ⟨target :: targets, inner, ?_, ?_, ?_, core ▸ innermost⟩
  · rw [resolved]
    exact .pointer stripped
  · rw [layers]
    exact Nat.succ_le_succ length
  · exact List.forall_mem_cons.mpr
      ⟨.single points, fun next member => .head points (reached next member)⟩

/-- A layer without a target of its own changes nothing. -/
theorem Ends.layer {other : Datatype} (ends : family.Ends target)
    (strips : ∀ targets core, Shape.Strips family.resolve (family.resolve target) targets core →
      Shape.Strips family.resolve (family.resolve other) targets core)
    (same : ∀ next, family.Points target next → family.Points other next)
    (layers : other.layers = target.layers + 1) (core : other.core = target.core) :
    family.Ends other := by
  obtain ⟨targets, inner, stripped, length, reached, innermost⟩ := ends
  refine ⟨targets, inner, strips _ _ stripped, ?_, ?_, core ▸ innermost⟩
  · rw [layers]
    exact Nat.le_succ_of_le length
  · intro next member
    obtain ⟨first, points, rest⟩ := Relation.TransGen.head'_iff.mp (reached next member)
    exact .head' (same first points) rest

/-- In a guarded family the outer layers of every type come to an end. -/
theorem Guarded.ends (guarded : family.Guarded) (closed : family.Closed)
    (within : type.Within family) : family.Ends type := by
  -- every layer leads to a type with one layer less, and a record to its own shape
  induction type with
  | scalar | character | unit | json | map =>
      refine ⟨[], _, ?_, Nat.zero_le _, nofun, shapes_of_shape? rfl⟩
      constructor
  | record name =>
      have computed := shapes_of_shape? (guarded.shape?_eq closed within)
      refine ⟨[], family.resolve (.record name), ?_, Nat.zero_le _, nofun, computed⟩
      generalize family.resolve (.record name) = shape at computed
      cases computed
      constructor
  | option target induction => exact (induction within).pointer rfl (.option target) rfl rfl
  | boxed target induction => exact (induction within).pointer rfl (.boxed target) rfl rfl
  | shared target induction => exact (induction within).pointer rfl (.shared target) rfl rfl
  | reference target induction =>
      refine (induction within).layer (fun _ _ stripped => stripped) ?_ rfl rfl
      exact fun _ ⟨shape, computed, met⟩ => ⟨shape, .reference computed, met⟩
  | nullAsDefault target induction =>
      refine (induction within).layer (fun _ _ stripped => stripped) ?_ rfl rfl
      exact fun _ ⟨shape, computed, met⟩ => ⟨shape, .nullAsDefault computed, met⟩
  | list element induction =>
      have elementWithin : element.Within family := within
      have inner := (guarded.shapes_iff closed elementWithin).mpr rfl
      have resolved := (guarded.shapes_iff closed within).mp inner.list
      refine (induction within).layer (fun _ _ stripped => resolved ▸ stripped.list) ?_ rfl rfl
      exact fun _ ⟨shape, computed, met⟩ => ⟨.list shape, .list computed, .list met⟩
  | array element length induction =>
      have elementWithin : element.Within family := within
      have inner := (guarded.shapes_iff closed elementWithin).mpr rfl
      have resolved := (guarded.shapes_iff closed within).mp inner.array
      refine (induction within).layer (fun _ _ stripped => resolved ▸ stripped.list) ?_ rfl rfl
      exact fun _ ⟨shape, computed, met⟩ => ⟨.list shape, .array computed, .list met⟩

/-- The shape of the type below the layers is an object exactly for a record. -/
theorem isObject_iff_core (computed : family.Shapes type.core shape) :
    shape.isObject = true ↔ ∃ name, type.core = .record name := by
  induction type with
  | reference _ induction | option _ induction | boxed _ induction | shared _ induction
  | nullAsDefault _ induction | list _ induction | array _ _ induction =>
      exact induction computed
  | record name =>
      cases computed
      exact iff_of_true rfl ⟨name, rfl⟩
  | scalar | character | unit | json | map =>
      cases computed
      exact iff_of_false nofun nofun

/-- The bound on the pointers that are followed for a selection admits all there are. -/
theorem selection_eq_of_strips {targets : List Datatype} {core : Shape Datatype}
    (stripped : Shape.Strips family.resolve (family.resolve type) targets core)
    (within : targets.length ≤ type.layers) : family.selection type = core.select := by
  rw [selection, Shape.project?, stripped.strip?_eq_some within]
  rfl

/-- In a closed family the shape of every type is computed exactly if the family is guarded.
Then the same holds for every target that is reached from a type by following pointers, and
the shape is the one that is found within the bound.  The outer layers come to an end, with
nothing but such targets on the way, and every projection comes to one, too.  It gives a text
exactly if there is a record below the layers. -/
theorem shapes_and_projections_end (closed : family.Closed) :
    (family.Guarded ↔ ∀ type, type.Within family → ∃ shape, family.Shapes type shape) ∧
    (family.Guarded → ∀ type, type.Within family →
      (∀ target, Relation.ReflTransGen family.Points type target →
        family.shape? target = some (family.resolve target) ∧
        ∀ shape, family.Shapes target shape ↔ shape = family.resolve target) ∧
      ∃ targets core,
        Shape.Strips family.resolve (family.resolve type) targets core ∧
        (∀ target ∈ targets, Relation.ReflTransGen family.Points type target) ∧
        (∀ called outcome, Shape.Projects family.resolve (family.resolve type) called outcome ↔
          called = targets ∧ outcome = (family.selection type).map Selection.renderAll) ∧
        ((∃ text, (family.selection type).map Selection.renderAll = .ok text) ↔
          ∃ name, type.core = .record name)) := by
  refine ⟨⟨?_, ?_⟩, ?_⟩
  · intro guarded type within
    exact ⟨_, (guarded.shapes_iff closed within).mpr rfl⟩
  · intro shapes
    refine guarded_of_shapes fun name declaration found => ?_
    exact shapes (.record name) ⟨declaration, found⟩
  · intro guarded type within
    constructor
    · intro target reached
      have targetWithin := closed.within_of_points within reached
      exact ⟨guarded.shape?_eq closed targetWithin,
        fun _ => guarded.shapes_iff closed targetWithin⟩
    · obtain ⟨targets, core, stripped, length, reached, innermost⟩ := guarded.ends closed within
      rw [selection_eq_of_strips stripped length]
      refine ⟨targets, core, stripped, ?_, fun _ _ => stripped.projects_iff, ?_⟩
      · exact fun target member => (reached target member).to_reflTransGen
      · rw [Shape.exists_selected_iff, isObject_iff_core innermost]

/-- Nodes with a way up and edges, and edges with a way back to their nodes. -/
def graph : Family :=
  [⟨"Node",
      [.plain "id" (.scalar .text), .plain "parent" (.option (.boxed (.record "Node"))),
        .plain "edges" (.list (.record "Edge"))],
      false, false⟩,
    ⟨"Edge",
      [.plain "weight" (.scalar .float64), .plain "target" (.shared (.record "Node")),
        .plain "detours" (.map (.list (.record "Edge")))],
      false, false⟩]

theorem closed_graph : graph.Closed := by
  simp [graph, Closed, Datatype.Within, FieldDeclaration.plain, find?]

theorem guarded_graph : graph.Guarded := by
  refine guarded_of_shapes fun name declaration found => ?_
  obtain ⟨member, rfl⟩ := mem_of_find? found
  simp only [graph, List.mem_cons, List.not_mem_nil, or_false] at member
  obtain rfl | rfl := member
  · exact ⟨_, shapes_of_shape? rfl⟩
  · exact ⟨_, shapes_of_shape? rfl⟩

/-- Neither the parent nor the target of an edge is followed, and what is reached from them
has a shape again. -/
theorem shapes_and_projections_end_graph :
    graph.Closed ∧ graph.Guarded ∧
    (∃ shape, graph.Shapes (.boxed (.record "Node")) shape) ∧
    Shape.Projects graph.resolve
      (graph.resolve (.option (.list (.reference (.record "Node")))))
      [.list (.reference (.record "Node"))]
      (.ok "id parent edges \x7b weight target detours \x7d") := by
  obtain ⟨_, terminates⟩ := shapes_and_projections_end closed_graph
  have within : (Datatype.option (.list (.reference (.record "Node")))).Within graph :=
    ⟨_, rfl⟩
  obtain ⟨reached, targets, core, stripped, _, projects, _⟩ := terminates guarded_graph _ within
  refine ⟨closed_graph, guarded_graph, ?_, ?_⟩
  · have first : graph.Points (.option (.list (.reference (.record "Node"))))
        (.list (.reference (.record "Node"))) := ⟨_, .option _, .pointer _⟩
    have second : graph.Points (.list (.reference (.record "Node"))) (.boxed (.record "Node")) :=
      ⟨_, shapes_of_shape? rfl, .list (.object (.tail _ (.head _)) (.pointer _))⟩
    exact ⟨_, ((reached _ (.tail (.single first) second)).2 _).mpr rfl⟩
  · have again : Shape.Strips graph.resolve
        (graph.resolve (.option (.list (.reference (.record "Node")))))
        [.list (.reference (.record "Node"))] _ := .pointer (.list (.object _))
    obtain ⟨rfl, _⟩ := stripped.unique again
    exact (projects _ _).mpr ⟨rfl, by decide +kernel⟩

end Family

end ShapeQuery
