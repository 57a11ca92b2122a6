import ShapeQuery.Document
import ShapeQuery.Proofs.Named.LastWritten

/-!
# Histories of argument sets

A set of arguments is written to one by one or in bulk, and may start from a
collected list.  Whatever the writes, the set reflects only the last one under each
name, so two histories that agree on these build the same set and lead to the same
documents and values.
-/

namespace ShapeQuery

namespace Arguments

/-- One write to a set: of an argument, of an argument while the previous one is
given back, or of several. -/
inductive Write where
  | insert (name : String) (argument : Argument)
  | replace (name : String) (argument : Argument)
  | extend (additions : List (String × Argument))

/-- The entries that are written, in their order. -/
def Write.entries : Write → List (String × Argument)
  | .insert name argument => [(name, argument)]
  | .replace name argument => [(name, argument)]
  | .extend additions => additions

def Write.apply (arguments : Arguments) : Write → Arguments
  | .insert name argument => arguments.insert name argument
  | .replace name argument => (arguments.replace name argument).2
  | .extend additions => arguments.extend additions

/-- How a set comes about: it starts empty or is collected from a list, and is then
written to. -/
structure History where
  collected : Option (List (String × Argument))
  writes : List Write

namespace History

/-- The set at the start. -/
def initial (history : History) : Arguments :=
  match history.collected with
  | none => Arguments.empty
  | some entries => Arguments.ofList entries

/-- The set behind the last write. -/
def build (history : History) : Arguments :=
  history.writes.foldl Write.apply history.initial

/-- All entries that are ever written, in their order. -/
def entries (history : History) : List (String × Argument) :=
  history.collected.getD [] ++ history.writes.flatMap Write.entries

/-- The argument last written under a name. -/
def last? (history : History) (name : String) : Option Argument :=
  Named.lastWritten? name history.entries

end History

/-! ## One write -/

theorem Write.get?_apply (arguments : Arguments) (write : Write) (name : String) :
    (write.apply arguments).get? name =
      (Named.lastWritten? name write.entries).or (arguments.get? name) := by
  cases write with
  | insert written argument =>
      exact Named.find?_insertAll name arguments.toList [(written, argument)]
  | replace written argument =>
      exact Named.find?_insertAll name arguments.toList [(written, argument)]
  | extend additions =>
      exact Named.find?_insertAll name arguments.toList additions

/-- Replacing gives back what was there and changes nothing under other names. -/
theorem get?_replace (arguments : Arguments) (name : String) (argument : Argument)
    (other : String) :
    (arguments.replace name argument).2.get? other =
      if name = other then some argument else arguments.get? other :=
  Named.find?_insert name other argument arguments.toList

/-- Sets in which the same argument is found under every name are equal. -/
theorem eq_of_get?_eq {left right : Arguments}
    (same : ∀ name, left.get? name = right.get? name) : left = right := by
  apply Arguments.ext
  exact left.increasing.eq_of_find?_eq right.increasing same

/-! ## Whole histories -/

theorem get?_foldl_apply (writes : List Write) (arguments : Arguments) (name : String) :
    (writes.foldl Write.apply arguments).get? name =
      (Named.lastWritten? name (writes.flatMap Write.entries)).or
        (arguments.get? name) := by
  -- the set is generalized because every write hands on another one
  induction writes generalizing arguments with
  | nil => rfl
  | cons write later induction =>
      rw [List.foldl_cons, induction, Write.get?_apply, List.flatMap_cons,
        Named.lastWritten?_append, Option.or_assoc]

namespace History

theorem get?_initial (history : History) (name : String) :
    history.initial.get? name =
      Named.lastWritten? name (history.collected.getD []) := by
  unfold initial
  cases history.collected with
  | none => rfl
  | some entries =>
      have written := Named.find?_insertAll name [] entries
      simpa [Arguments.ofList, Arguments.get?, Arguments.empty] using written

/-- Under every name stands the argument last written there. -/
theorem get?_build (history : History) (name : String) :
    history.build.get? name = history.last? name := by
  rw [build, get?_foldl_apply, get?_initial, last?, entries, Named.lastWritten?_append]

/-- The set holds every argument last written under its name, once and in the order
of the bytes of the names, and nothing else. -/
structure Reflects (history : History) (arguments : Arguments) : Prop where
  get? : ∀ name, arguments.get? name = history.last? name
  mem : ∀ name argument,
    (name, argument) ∈ arguments.toList ↔ history.last? name = some argument
  ordered : (arguments.toList.map fun entry => utf8Bytes entry.1).Pairwise (· < ·)
  size : arguments.size = (history.entries.map Prod.fst).dedup.length
  isEmpty : arguments.isEmpty = true ↔ history.entries = []
  replaced : ∀ name argument, (arguments.replace name argument).1 = history.last? name
  kept : ∀ name argument other,
    (arguments.replace name argument).2.get? other =
      if name = other then some argument else arguments.get? other

theorem names_build (history : History) (name : String) :
    name ∈ history.build.toList.map Prod.fst ↔ name ∈ history.entries.map Prod.fst := by
  have found := history.get?_build name
  rw [← Named.find?_isSome_iff, ← Named.lastWritten?_isSome_iff]
  exact iff_of_eq (congrArg (fun result => result.isSome = true) found)

theorem reflects_build (history : History) : history.Reflects history.build where
  get? := history.get?_build
  mem := by
    intro name argument
    rw [← history.get?_build name]
    exact (Named.find?_eq_some_iff history.build.increasing.nodup_names).symm
  ordered := history.build.increasing.utf8Bytes
  size := history.build.increasing.length_eq_dedup history.names_build
  isEmpty := by
    have names := history.names_build
    unfold Arguments.isEmpty
    rw [List.isEmpty_iff]
    constructor
    · intro empty
      simpa [empty, List.eq_nil_iff_forall_not_mem] using names
    · intro unwritten
      simpa [unwritten, List.eq_nil_iff_forall_not_mem] using names
  replaced := by
    intro name argument
    exact history.get?_build name
  kept := by
    intro name argument other
    exact history.build.get?_replace name argument other

/-- Sets whose histories agree on the last write under each name cannot be told
apart, neither by looking into them nor by what is assembled and encoded from them. -/
theorem build_agrees {left right : History}
    (same : ∀ name, left.last? name = right.last? name) :
    left.Reflects left.build ∧ right.Reflects right.build ∧
      left.build.size = right.build.size ∧
      left.build.isEmpty = right.build.isEmpty ∧
      (∀ name, left.build.get? name = right.build.get? name) ∧
      left.build.toList = right.build.toList ∧
      (∀ operation name selection,
        Document.assemble operation name selection left.build =
          Document.assemble operation name selection right.build) ∧
      left.build.encode = right.build.encode := by
  have equal : left.build = right.build := by
    apply eq_of_get?_eq
    intro name
    calc
      left.build.get? name = left.last? name := left.get?_build name
      _ = right.last? name := same name
      _ = right.build.get? name := (right.get?_build name).symm
  refine ⟨left.reflects_build, right.reflects_build, ?_⟩
  rw [equal]
  exact ⟨rfl, rfl, fun _ => rfl, rfl, fun _ _ _ => rfl, rfl⟩

/-- A history that collects two arguments under one name and then adds a third. -/
def collectedHistory : History where
  collected := some [("a", .mandatory "old"), ("b", .optional true), ("a", .optional "new")]
  writes := [.replace "c" (.mandatory ["x"])]

/-- A history that writes in another order, and in part in bulk. -/
def gradualHistory : History where
  collected := none
  writes :=
    [.extend [("c", .optional false), ("b", .optional true)], .insert "a" (.optional "new"),
      .extend [("c", .mandatory "y"), ("c", .mandatory ["x"])]]

theorem build_agrees_gradualHistory :
    (∀ name, collectedHistory.last? name = gradualHistory.last? name) ∧
      gradualHistory.build.size = 3 ∧
      collectedHistory.build.toList = gradualHistory.build.toList ∧
      collectedHistory.build.encode = gradualHistory.build.encode ∧
      (gradualHistory.build.replace "a" (.mandatory true)).1 = some (.optional "new") := by
  have same : ∀ name, collectedHistory.last? name = gradualHistory.last? name := by
    intro name
    simp only [last?, entries, collectedHistory, gradualHistory, Option.getD, Write.entries,
      List.flatMap_cons, List.flatMap_nil, List.cons_append, List.nil_append,
      Named.lastWritten?_cons]
    -- each name is written on both sides, or on neither
    by_cases a : "a" = name
    · subst a
      rfl
    · by_cases b : "b" = name
      · subst b
        rfl
      · by_cases c : "c" = name
        · subst c
          rfl
        · simp only [a, b, c, if_false, Option.or_none]
  obtain ⟨_, reflected, _, _, _, sameEntries, _, sameValues⟩ := build_agrees same
  refine ⟨same, ?_, sameEntries, sameValues, ?_⟩
  · rw [reflected.size]
    decide
  · rw [reflected.replaced]
    rfl

end History

end Arguments

end ShapeQuery
