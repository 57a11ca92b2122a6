import ShapeQuery.Proofs.Client.Authorization
import ShapeQuery.Proofs.Configuration.Builder
import ShapeQuery.Proofs.Execution.Ending

/-!
# When a client is created

No step of a builder looks at the text of the caller for the user agent, so a configuration may
hold any text there.  A client is created from it if and only if a header field can carry the
text; the endpoint, the key and the time limit play no part in this.
-/

namespace ShapeQuery

/-- There is a text that has a byte which no header field carries: a control character other
than the tab. -/
def Uncarried (text? : Option String) : Prop :=
  ∃ text, text? = some text ∧
    ∃ byte ∈ utf8Bytes text, byte < 0x20 ∧ byte ≠ 0x09 ∨ byte = 0x7F

theorem uncarried_iff {text? : Option String} :
    Uncarried text? ↔ ∃ text, text? = some text ∧ isFieldText text = false := by
  have refused (byte : UInt8) :
      byte < 0x20 ∧ byte ≠ 0x09 ∨ byte = 0x7F ↔ ¬ ((0x20 ≤ byte ∨ byte = 0x09) ∧ byte ≠ 0x7F) := by
    rw [not_and_or, not_or, UInt8.not_le, not_not]
  simp only [Uncarried, refused, ← Bool.not_eq_true, isFieldText_iff, not_forall, exists_prop]

namespace UserAgent

/-- The words of the client itself can always be carried. -/
theorem isFieldText_describe {caller? : Option String} :
    isFieldText (describe caller?) = true ↔ ¬ Uncarried caller? := by
  have separator : isFieldText " | " = true := by decide +kernel
  have named : isFieldText product = true := by decide +kernel
  cases caller? with
  | none =>
      have nobody : ¬ Uncarried none := fun ⟨_, given, _⟩ => nomatch given
      exact iff_of_true named nobody
  | some caller =>
      rw [describe, isFieldText_append, isFieldText_append, uncarried_iff]
      simp [separator, named]

theorem ofCaller_of_uncarried {caller? : Option String} (uncarried : Uncarried caller?) :
    ofCaller caller? = .error ⟨describe caller?⟩ :=
  if_neg fun carried => isFieldText_describe.mp carried uncarried

theorem ofCaller_of_carried {caller? : Option String} (carried : ¬ Uncarried caller?) :
    ofCaller caller? = .ok ⟨describe caller?⟩ :=
  if_pos (isFieldText_describe.mpr carried)

end UserAgent

namespace Client

variable {m : Type → Type}

theorem create_of_uncarried (connect : Connector m) {configuration : Configuration}
    (uncarried : Uncarried configuration.userAgentPrefix) :
    create connect configuration =
      .error ⟨UserAgent.describe configuration.userAgentPrefix⟩ := by
  rw [create, UserAgent.ofCaller_of_uncarried uncarried]

theorem create_of_carried (connect : Connector m) {configuration : Configuration}
    (carried : ¬ Uncarried configuration.userAgentPrefix) :
    ∃ logs, create connect configuration =
      .ok (⟨(connect ⟨UserAgent.describe configuration.userAgentPrefix⟩
          configuration.timeout).keyed configuration.apiKey, configuration.endpoint⟩, logs) := by
  rw [create, UserAgent.ofCaller_of_carried carried]
  cases configuration.apiKey with
  | none => exact ⟨_, rfl⟩
  | some key => exact ⟨_, rfl⟩

/-- From what the steps of a builder set a client is created, unless no header field can carry
the text of the caller that they set last. -/
theorem create_of_run (connect : Connector m) {token? : Option String}
    {steps : List BuilderStep} {builder : ConfigurationBuilder}
    (ran : ConfigurationBuilder.run token? steps = .ok builder) :
    let caller? := lastSet? BuilderStep.userAgentPrefix? steps
    (Uncarried caller? ∧
      create connect builder.build = .error ⟨UserAgent.describe caller?⟩) ∨
    (¬ Uncarried caller? ∧ ∃ logs, create connect builder.build =
      .ok (⟨(connect ⟨UserAgent.describe caller?⟩ builder.timeout).keyed builder.apiKey,
        builder.build.endpoint⟩, logs)) := by
  intro caller?
  have set : builder.build.userAgentPrefix = caller? :=
    (ConfigurationBuilder.holds_of_run ran).userAgentPrefix
  by_cases uncarried : Uncarried caller?
  · rw [← set] at uncarried ⊢
    exact .inl ⟨uncarried, create_of_uncarried connect uncarried⟩
  · rw [← set] at uncarried ⊢
    exact .inr ⟨uncarried, create_of_carried connect uncarried⟩

theorem create_of_run_named :
    ∃ builder, ConfigurationBuilder.run (some "token")
        [.userAgentPrefix "my-tool/2.0", .apiKeyFromEnvironment] = .ok builder ∧
      ¬ Uncarried (some "my-tool/2.0") ∧
      ∃ logs, create (fun _ _ => Transport.answering (.failed "refused")) builder.build =
        .ok (⟨(Transport.answering (.failed "refused")).authenticated ⟨"token"⟩,
          Endpoint.standard⟩, logs) := by
  have ran : ConfigurationBuilder.run (some "token")
      [.userAgentPrefix "my-tool/2.0", .apiKeyFromEnvironment] =
        .ok ⟨none, some ⟨"token"⟩, none, some "my-tool/2.0"⟩ := by
    decide +kernel
  have carried : ¬ Uncarried (some "my-tool/2.0") := by
    rw [uncarried_iff]
    rintro ⟨text, given, refused⟩
    cases given
    revert refused
    decide +kernel
  refine ⟨_, ran, carried, ?_⟩
  rcases create_of_run (fun _ _ => Transport.answering (.failed "refused")) ran with
    ⟨uncarried, -⟩ | ⟨-, created⟩
  · exact absurd uncarried carried
  · exact created

/-- A line feed in the text of the caller passes every step and leaves no client. -/
theorem not_created_lineFeed :
    ∃ builder, ConfigurationBuilder.run none [.userAgentPrefix "a\nb"] = .ok builder ∧
      ¬ ∃ client logs, create (fun _ _ => Transport.answering (.failed "refused"))
        builder.build = .ok (client, logs) := by
  refine ⟨⟨none, none, none, some "a\nb"⟩, rfl, ?_⟩
  have uncarried : Uncarried (some "a\nb") :=
    ⟨_, rfl, 0x0A, by decide +kernel, .inl ⟨by decide, by decide⟩⟩
  rintro ⟨client, logs, created⟩
  rw [create_of_uncarried _ uncarried] at created
  cases created

end Client

end ShapeQuery
