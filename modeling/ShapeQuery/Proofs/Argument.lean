import ShapeQuery.Document
import ShapeQuery.Proofs.Named

/-!
# Declaring and encoding arguments

Variables are declared and values are encoded by walking through the arguments in
the order of their names.  Both walks convert every entry, or fail with what the
smallest failing name brings.
-/

namespace ShapeQuery

theorem declareEntries_eq_traverse (entries : List (String × Argument)) :
    declareEntries entries =
      (Named.traverse Argument.variableType entries).mapError fun failure =>
        ⟨failure.1, failure.2⟩ := by
  induction entries with
  | nil => rfl
  | cons entry rest induction =>
      obtain ⟨name, argument⟩ := entry
      unfold declareEntries Named.traverse
      cases argument.variableType with
      | error source => rfl
      | ok type =>
          rw [induction]
          cases Named.traverse Argument.variableType rest <;> rfl

theorem Arguments.encodeEntries_eq_traverse (entries : List (String × Argument)) :
    Arguments.encodeEntries entries =
      (Named.traverse Argument.toJson entries).mapError Prod.snd := by
  induction entries with
  | nil => rfl
  | cons entry rest induction =>
      obtain ⟨name, argument⟩ := entry
      unfold Arguments.encodeEntries Named.traverse
      cases argument.toJson with
      | error fault => rfl
      | ok value =>
          rw [induction]
          cases Named.traverse Argument.toJson rest <;> rfl

theorem declareEntries_eq_ok_iff {entries : List (String × Argument)}
    {declarations : List (String × VariableType)} :
    declareEntries entries = .ok declarations ↔
      List.Forall₂ (Named.Converted Argument.variableType) entries declarations := by
  rw [declareEntries_eq_traverse, ← Named.traverse_eq_ok_iff]
  cases Named.traverse Argument.variableType entries <;> simp [Except.mapError]

theorem Arguments.encodeEntries_eq_ok_iff {entries : List (String × Argument)}
    {values : List (String × Json)} :
    Arguments.encodeEntries entries = .ok values ↔
      List.Forall₂ (Named.Converted Argument.toJson) entries values := by
  rw [Arguments.encodeEntries_eq_traverse, ← Named.traverse_eq_ok_iff]
  cases Named.traverse Argument.toJson entries <;> simp [Except.mapError]

theorem declareEntries_of_inferred {entries : List (String × Argument)}
    (inferred : ∀ entry ∈ entries, ∃ type, entry.2.variableType = .ok type) :
    ∃ declarations, declareEntries entries = .ok declarations := by
  obtain ⟨declarations, declared⟩ := Named.traverse_eq_ok_of_not_fails fun entry member =>
    Named.not_fails_iff.mpr (inferred entry member)
  exact ⟨declarations, by rw [declareEntries_eq_traverse, declared]; rfl⟩

/-- A document is assembled exactly where the arguments are declared and there is a
selection. -/
theorem Document.assemble_eq_ok_iff {operation : Operation} {name : String}
    {selection : Except Shape.NotAnObject (List Selection)} {arguments : Arguments}
    {document : Document} :
    assemble operation name selection arguments = .ok document ↔
      ∃ declarations fields,
        declareEntries arguments.toList = .ok declarations ∧ selection = .ok fields ∧
        document = ⟨operation, name, declarations, fields⟩ := by
  unfold assemble
  constructor
  · intro assembled
    cases declared : declareEntries arguments.toList with
    | error error => simp [declared] at assembled
    | ok declarations =>
        cases selection with
        | error failure => simp [declared] at assembled
        | ok fields =>
            simp only [declared, Except.ok.injEq] at assembled
            exact ⟨declarations, fields, rfl, rfl, assembled.symm⟩
  · rintro ⟨declarations, fields, declared, rfl, rfl⟩
    simp [declared]

end ShapeQuery
