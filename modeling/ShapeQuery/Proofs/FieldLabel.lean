import Mathlib.Data.List.TakeWhile
import ShapeQuery.Shape

/-!
# Names of fields

A field goes by its explicit name, else by the first segment of its serialization name, else
by its declared name.  `NamedBy` states this chain with the condition left open under which
a serialization name counts.  The name that is resolved refuses a serialization name that is
a single dash as a whole.  It differs from the name that one gets by refusing every first
segment that is a single dash, and only for serialization names that go on behind a dash and
a comma.
-/

namespace ShapeQuery

namespace FieldLabel

variable {label : FieldLabel} {name segment : String} {admits : String → String → Prop}

/-- The segment is the part of the name before its first comma, or the whole name if it has
none. -/
def IsFirstSegment (name segment : String) : Prop :=
  ',' ∉ segment.toList ∧ (name = segment ∨ ∃ rest, name = segment ++ "," ++ rest)

/-- There is no explicit name, or an empty one. -/
def IsBare (label : FieldLabel) : Prop :=
  ∀ name, label.explicit = some name → name = ""

/-- The serialization name goes on behind a dash and a comma. -/
def IsDashed (label : FieldLabel) : Prop :=
  ∃ rest, label.serial = some ("-," ++ rest)

/-- The names by which a field may go, the first of which counts.  A serialization name is
looked at as a whole and at its first segment, and counts where both are admitted. -/
inductive NamedBy (admits : String → String → Prop) (label : FieldLabel) : String → Prop
  | explicit {name : String} (given : label.explicit = some name) (proper : name ≠ "") :
      NamedBy admits label name
  | serial {whole segment : String} (bare : label.IsBare) (given : label.serial = some whole)
      (first : IsFirstSegment whole segment) (proper : segment ≠ "")
      (admitted : admits whole segment) : NamedBy admits label segment
  | declared (bare : label.IsBare)
      (refused : ∀ whole segment, label.serial = some whole → IsFirstSegment whole segment →
        segment ≠ "" → ¬ admits whole segment) :
      NamedBy admits label label.declared

/-! ## First segments -/

theorem isFirstSegment_firstSegment (name : String) :
    IsFirstSegment name (firstSegment name) := by
  have whole := List.takeWhile_append_dropWhile (p := (· != ',')) (l := name.toList)
  have boundary := List.head?_dropWhile_not (· != ',') name.toList
  constructor
  · intro member
    rw [firstSegment, String.toList_ofList] at member
    simpa using List.mem_takeWhile_imp member
  · cases behind : name.toList.dropWhile (· != ',') with
    | nil =>
        rw [behind, List.append_nil] at whole
        rw [firstSegment, whole, String.ofList_toList]
        exact .inl rfl
    | cons comma rest =>
        rw [behind, List.head?_cons] at boundary
        obtain rfl : comma = ',' := by simpa using boundary
        refine .inr ⟨String.ofList rest, String.toList_inj.mp ?_⟩
        calc name.toList
            = name.toList.takeWhile (· != ',') ++ ',' :: rest := by rw [← behind, whole]
          _ = (firstSegment name ++ "," ++ String.ofList rest).toList := by
            simp [firstSegment]

theorem IsFirstSegment.eq_firstSegment (first : IsFirstSegment name segment) :
    segment = firstSegment name := by
  obtain ⟨plain, divided⟩ := first
  have inside : ∀ character ∈ segment.toList, (character != ',') = true := by
    intro character member
    rw [bne_iff_ne]
    rintro rfl
    exact plain member
  rw [firstSegment, ← String.toList_inj, String.toList_ofList]
  obtain rfl | ⟨rest, rfl⟩ := divided
  · exact (List.takeWhile_eq_self_iff.mpr inside).symm
  · rw [String.toList_append, String.toList_append, List.append_assoc,
      List.takeWhile_append_of_pos inside]
    simp

theorem isFirstSegment_iff : IsFirstSegment name segment ↔ segment = firstSegment name := by
  constructor
  · exact IsFirstSegment.eq_firstSegment
  · rintro rfl
    exact isFirstSegment_firstSegment name

/-- The first segment is a single dash for a single dash, and for what goes on behind a dash
and a comma. -/
theorem firstSegment_eq_dash_iff :
    firstSegment name = "-" ↔ name = "-" ∨ ∃ rest, name = "-," ++ rest := by
  rw [eq_comm, ← isFirstSegment_iff]
  simp [IsFirstSegment]

/-! ## The chain -/

theorem explicitName?_eq_some_iff :
    label.explicitName? = some name ↔ label.explicit = some name ∧ name ≠ "" := by
  simp [explicitName?, Option.filter_eq_some_iff]

theorem explicitName?_eq_none_iff : label.explicitName? = none ↔ label.IsBare := by
  simp [explicitName?, Option.filter_eq_none_iff, IsBare]

theorem serialName?_eq_some_iff :
    label.serialName? = some segment ↔
      ∃ whole, label.serial = some whole ∧ segment = firstSegment whole ∧ segment ≠ "" ∧
        whole ≠ "-" := by
  unfold serialName?
  cases label.serial with
  | none => simp
  | some whole =>
      simp only [Option.some.injEq, exists_eq_left', Option.ite_none_left_eq_some, not_or]
      constructor
      · rintro ⟨⟨_, undashed⟩, proper, rfl⟩
        exact ⟨rfl, proper, undashed⟩
      · rintro ⟨rfl, proper, undashed⟩
        refine ⟨⟨?_, undashed⟩, proper, rfl⟩
        rintro rfl
        exact proper rfl

/-- The chain that refuses a single dash as a whole gives the resolved name and no other. -/
theorem namedBy_iff_resolved :
    label.NamedBy (fun whole _ => whole ≠ "-") name ↔ name = label.resolved := by
  constructor
  · intro named
    cases named with
    | explicit given proper =>
        rw [resolved, explicitName?_eq_some_iff.mpr ⟨given, proper⟩]
        rfl
    | serial bare given first proper undashed =>
        have found := serialName?_eq_some_iff.mpr
          ⟨_, given, first.eq_firstSegment, proper, undashed⟩
        rw [resolved, explicitName?_eq_none_iff.mpr bare, found]
        rfl
    | declared bare refused =>
        have missing : label.serialName? = none := by
          rw [Option.eq_none_iff_forall_ne_some]
          intro segment found
          obtain ⟨whole, given, first, proper, undashed⟩ := serialName?_eq_some_iff.mp found
          exact refused whole segment given (isFirstSegment_iff.mpr first) proper undashed
        rw [resolved, explicitName?_eq_none_iff.mpr bare, missing]
        rfl
  · rintro rfl
    cases explicit : label.explicitName? with
    | some name =>
        obtain ⟨given, proper⟩ := explicitName?_eq_some_iff.mp explicit
        rw [resolved, explicit]
        exact .explicit given proper
    | none =>
        have bare := explicitName?_eq_none_iff.mp explicit
        cases serial : label.serialName? with
        | some segment =>
            obtain ⟨whole, given, first, proper, undashed⟩ := serialName?_eq_some_iff.mp serial
            rw [resolved, explicit, serial]
            exact .serial bare given (isFirstSegment_iff.mpr first) proper undashed
        | none =>
            rw [resolved, explicit, serial]
            refine .declared bare fun whole segment given first proper undashed => ?_
            have found := serialName?_eq_some_iff.mpr
              ⟨whole, given, first.eq_firstSegment, proper, undashed⟩
            cases serial.symm.trans found

/-- Two chains that admit the same serialization names name a field alike. -/
theorem NamedBy.congr {other : String → String → Prop} (named : label.NamedBy admits name)
    (alike : label.IsBare → ∀ whole, label.serial = some whole →
      (other whole (firstSegment whole) ↔ admits whole (firstSegment whole))) :
    label.NamedBy other name := by
  cases named with
  | explicit given proper => exact .explicit given proper
  | serial bare given first proper admitted =>
      cases first.eq_firstSegment
      exact .serial bare given first proper ((alike bare _ given).mpr admitted)
  | declared bare refused =>
      refine .declared bare fun whole segment given first proper admitted => ?_
      cases first.eq_firstSegment
      exact refused whole _ given first proper ((alike bare whole given).mp admitted)

/-- Behind a dash and a comma the first segment is a dash, which leaves the declared name to
the chain that refuses it. -/
theorem IsDashed.namedBy_iff (dashed : label.IsDashed) (bare : label.IsBare) :
    label.NamedBy (fun _ segment => segment ≠ "-") name ↔ name = label.declared := by
  obtain ⟨rest, given⟩ := dashed
  have segment : firstSegment ("-," ++ rest) = "-" :=
    firstSegment_eq_dash_iff.mpr (.inr ⟨rest, rfl⟩)
  constructor
  · intro named
    cases named with
    | explicit given proper => exact absurd (bare _ given) proper
    | serial _ givenAgain first _ undashed =>
        cases given.symm.trans givenAgain
        exact absurd (first.eq_firstSegment.trans segment) undashed
    | declared => rfl
  · rintro rfl
    refine .declared bare fun whole other givenAgain first _ undashed => ?_
    cases given.symm.trans givenAgain
    exact undashed (first.eq_firstSegment.trans segment)

theorem IsDashed.resolved_eq (dashed : label.IsDashed) (bare : label.IsBare) :
    label.resolved = "-" := by
  obtain ⟨rest, given⟩ := dashed
  have first : IsFirstSegment ("-," ++ rest) "-" := ⟨by decide, .inr ⟨rest, rfl⟩⟩
  have longer : "-," ++ rest ≠ "-" := by
    intro equal
    simpa using congrArg String.toList equal
  exact (namedBy_iff_resolved.mp (.serial bare given first (by decide) longer)).symm

/-- The resolved name is the one that the chain gives which refuses a single dash as a whole.
It is also the one that the chain gives which refuses every first segment that is a single
dash, unless the serialization name goes on behind a dash and a comma where it counts, and the
field is not declared as a dash.  So a field goes by a dash only if that is its explicit or
declared name, or if its serialization name goes on behind a dash and a comma. -/
theorem resolved_documented_iff (label : FieldLabel) :
    (∀ name, label.NamedBy (fun whole _ => whole ≠ "-") name ↔ name = label.resolved) ∧
    (label.NamedBy (fun _ segment => segment ≠ "-") label.resolved ↔
      ¬ (label.IsBare ∧ label.IsDashed) ∨ label.declared = "-") ∧
    (label.resolved = "-" →
      label.explicit = some "-" ∨ label.declared = "-" ∨ label.IsDashed) := by
  have named : label.NamedBy (fun whole _ => whole ≠ "-") label.resolved :=
    namedBy_iff_resolved.mpr rfl
  refine ⟨fun _ => namedBy_iff_resolved, ?_, ?_⟩
  · by_cases both : label.IsBare ∧ label.IsDashed
    · obtain ⟨bare, dashed⟩ := both
      rw [dashed.namedBy_iff bare, dashed.resolved_eq bare]
      simp [bare, dashed, eq_comm]
    · refine iff_of_true (named.congr fun bare whole given => not_congr ?_) (.inl both)
      rw [firstSegment_eq_dash_iff]
      refine or_iff_left ?_
      rintro ⟨rest, rfl⟩
      exact both ⟨bare, rest, given⟩
  · generalize label.resolved = name at named
    intro dash
    cases named with
    | explicit given proper => exact .inl (dash ▸ given)
    | serial bare given first proper undashed =>
        rw [first.eq_firstSegment, firstSegment_eq_dash_iff] at dash
        obtain equal | ⟨rest, rfl⟩ := dash
        · exact absurd equal undashed
        · exact .inr (.inr ⟨rest, given⟩)
    | declared => exact .inr (.inl dash)

/-- A serialization name whose first segment is a dash counts. -/
theorem not_namedBy_dashed :
    let label : FieldLabel := ⟨"declared", none, some "-,y"⟩
    label.resolved = "-" ∧
    ¬ label.NamedBy (fun _ segment => segment ≠ "-") label.resolved ∧
    label.NamedBy (fun _ segment => segment ≠ "-") "declared" := by
  intro label
  have bare : label.IsBare := nofun
  have dashed : label.IsDashed := ⟨"y", rfl⟩
  rw [dashed.namedBy_iff bare, dashed.namedBy_iff bare, dashed.resolved_eq bare]
  decide

end FieldLabel

end ShapeQuery
