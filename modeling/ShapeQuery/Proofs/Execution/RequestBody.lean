import ShapeQuery.Proofs.Datum.Encoding
import ShapeQuery.Proofs.Execution.Preparation
import ShapeQuery.Proofs.Json.Reader

/-!
# Reading back request bodies

The body of a request is JSON text that holds the variables as JSON text inside one
of its members, so every text in them is escaped twice.  Reading twice undoes both.
-/

namespace ShapeQuery

variable {α : Type}

theorem Arguments.plain_of_encode {arguments : Arguments} {values : List (String × Json)}
    (plain : ∀ entry ∈ arguments.toList, entry.2.value.Plain)
    (encoded : arguments.encode = .ok values) : (Json.object values).Plain := by
  have related := Arguments.encodeEntries_eq_ok_iff.mp encoded
  constructor
  · exact arguments.increasing.of_converted related
  · apply Json.plainMembers_iff.mpr
    apply Named.forall_mem_of_converted Json.Plain related
    intro entry member form converted
    exact Datum.plain_of_toJson entry.2.value (plain entry member) converted

namespace OperationCall

theorem parse_body (document : Document) (values : List (String × Json)) :
    Json.parse (body document values).render = .ok (body document values) := by
  have plain : (body document values).Plain :=
    ⟨increasing_body _ _, trivial, trivial, trivial⟩
  have shallow : (body document values).depth < Json.nestingLimit := by
    simp [body, Json.depth, Json.depthMembers, Json.nestingLimit]
  rw [Json.parse_eq_parseWithin]
  exact Json.parseWithin_render plain shallow

/-- The body of a request is read back as the document and one text.  Reading that
text gives every argument the JSON form of its value, and nothing else; only values
that nest too deeply ask for more than the usual bound on the nesting. -/
theorem parse_body_of_prepare {call : OperationCall} {endpoint : Endpoint}
    {schema : Schema α} {prepared : Request}
    (passed : call.prepare endpoint schema = .ok prepared)
    (plain : ∀ entry ∈ call.arguments.toList, entry.2.value.Plain) :
    ∃ document values written,
      Document.assemble call.operation call.name schema.selection call.arguments =
        .ok document ∧
      call.arguments.encode = .ok values ∧
      Json.parse prepared.body =
        .ok (.object [("query", .text document.render), ("variables", .text written)]) ∧
      ((Json.object values).depth < Json.nestingLimit →
        Json.parse written = .ok (.object values)) ∧
      (∀ limit, (Json.object values).depth < limit →
        Json.parseWithin limit written = .ok (.object values)) ∧
      List.Forall₂ (Named.Converted Argument.toJson) call.arguments.toList values := by
  obtain ⟨document, values, assembled, encoded, rfl⟩ := prepare_eq_ok_iff.mp passed
  have valuesPlain := Arguments.plain_of_encode plain encoded
  have within : ∀ limit, (Json.object values).depth < limit →
      Json.parseWithin limit (Json.object values).render = .ok (.object values) := by
    intro limit shallow
    exact Json.parseWithin_render valuesPlain shallow
  refine ⟨document, values, (Json.object values).render, assembled, encoded, ?_, ?_,
    within, ?_⟩
  · exact parse_body document values
  · intro shallow
    rw [Json.parse_eq_parseWithin]
    exact within Json.nestingLimit shallow
  · exact Arguments.encodeEntries_eq_ok_iff.mp encoded

/-- A mutation whose name, argument names and texts are all in need of escapes. -/
def awkwardCall : OperationCall where
  operation := .mutation
  name := "say \"hi\""
  arguments := .ofList
    [("key\\", .mandatory ["tab\t", "\u0001\u007f", "\"\\\"", "größe 😀"]),
      ("\n", .optional (-9223372036854775808 : Int64))]

/-- The schema of a record of one field. -/
def notedSchema : Schema Unit :=
  ⟨.ok [.leaf "note"], fun _ => .ok ()⟩

theorem parse_body_of_prepare_awkward :
    ∃ prepared, awkwardCall.prepare .standard notedSchema = .ok prepared ∧
      ∃ document written,
        Json.parse prepared.body =
          .ok (.object [("query", .text document), ("variables", .text written)]) ∧
        Json.parse written =
          .ok (.object
            [("\n", .integer (-9223372036854775808)),
              ("key\\", .list
                [.text "tab\t", .text "\u0001\u007f", .text "\"\\\"",
                  .text "größe 😀"])]) := by
  have entries : awkwardCall.arguments.toList =
      [("\n", .optional (-9223372036854775808 : Int64)),
        ("key\\", .mandatory
          ["tab\t", "\u0001\u007f", "\"\\\"", "größe 😀"])] := rfl
  have plain : ∀ entry ∈ awkwardCall.arguments.toList, entry.2.value.Plain := by
    rw [entries]
    simp only [List.forall_mem_cons, List.not_mem_nil, false_implies, implies_true, and_true]
    constructor
    · show Json.IsWord (-9223372036854775808)
      decide
    · exact ⟨trivial, trivial, trivial, trivial, trivial⟩
  obtain ⟨prepared, passed⟩ : ∃ prepared,
      awkwardCall.prepare .standard notedSchema = .ok prepared := ⟨_, rfl⟩
  obtain ⟨document, values, written, assembled, encoded, outer, inner, _, _⟩ :=
    parse_body_of_prepare passed plain
  refine ⟨prepared, passed, document.render, written, outer, ?_⟩
  cases encoded
  apply inner
  decide

end OperationCall

end ShapeQuery
