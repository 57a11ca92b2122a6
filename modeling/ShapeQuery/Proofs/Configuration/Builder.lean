import Mathlib.Data.List.Induction
import ShapeQuery.Configuration
import ShapeQuery.Proofs.Configuration.ApiKey

/-!
# Building a configuration step by step

The steps of a builder are taken in any order and any number of times, under one value of the
environment variable.  Of several values of a kind the last one counts, and a key that is set
counts before the one of the environment, whichever comes first.
-/

namespace ShapeQuery

/-- A step of building a configuration. -/
inductive BuilderStep where
  | endpoint (address : Endpoint)
  | apiKey (key : ApiKey)
  | apiKeyFromEnvironment
  | timeout (limit : Timeout)
  | userAgentPrefix (text : String)
  deriving DecidableEq

namespace BuilderStep

/-- Takes the step, where the environment variable has a value. -/
def apply (token? : Option String) (builder : ConfigurationBuilder) :
    BuilderStep → Except ConfigError ConfigurationBuilder
  | .endpoint address => .ok (builder.setEndpoint address)
  | .apiKey key => .ok (builder.setApiKey key)
  | .apiKeyFromEnvironment => (builder.fillApiKey token?).map Prod.fst
  | .timeout limit => .ok (builder.setTimeout limit)
  | .userAgentPrefix text => .ok (builder.setUserAgentPrefix text)

@[simp]
def endpoint? : BuilderStep → Option Endpoint
  | .endpoint address => some address
  | _ => none

@[simp]
def apiKey? : BuilderStep → Option ApiKey
  | .apiKey key => some key
  | _ => none

@[simp]
def timeout? : BuilderStep → Option Timeout
  | .timeout limit => some limit
  | _ => none

@[simp]
def userAgentPrefix? : BuilderStep → Option String
  | .userAgentPrefix text => some text
  | _ => none

end BuilderStep

section

variable {α : Type}

/-- The last value that is read off the steps. -/
def lastSet? (read : BuilderStep → Option α) (steps : List BuilderStep) : Option α :=
  (steps.filterMap read).getLast?

@[simp]
theorem lastSet?_append_singleton (read : BuilderStep → Option α) (steps : List BuilderStep)
    (step : BuilderStep) :
    lastSet? read (steps ++ [step]) = (read step).or (lastSet? read steps) := by
  rw [lastSet?, lastSet?, List.filterMap_append, List.getLast?_append]
  cases value : read step with
  | none => simp [value]
  | some set => simp [value]

theorem lastSet?_eq_none_iff {read : BuilderStep → Option α} {steps : List BuilderStep} :
    lastSet? read steps = none ↔ ∀ step ∈ steps, read step = none := by
  rw [lastSet?, List.getLast?_eq_none_iff, List.filterMap_eq_nil_iff]

end

/-! ## The key of the environment -/

/-- The variable has a text that is not empty and is no key. -/
def Unusable (token? : Option String) : Prop :=
  ∃ text, token? = some text ∧ text ≠ "" ∧
    ∃ character ∈ text.toList, character.toNat < 0x21 ∨ 0x7E < character.toNat

/-- The key of the variable, unless it is unset or empty. -/
def environmentKey? (token? : Option String) : Option ApiKey :=
  (token?.filter (· ≠ "")).map ApiKey.mk

theorem unusable_some_iff {text : String} :
    Unusable (some text) ↔ text ≠ "" ∧ ¬ ApiKey.Visible text := by
  rw [ApiKey.visible_iff_characters]
  simp only [Unusable, Option.some.injEq, not_forall, not_and_or, Nat.not_le, exists_prop]
  constructor
  · rintro ⟨_, rfl, unusable⟩
    exact unusable
  · intro unusable
    exact ⟨text, rfl, unusable⟩

namespace ConfigurationBuilder

theorem fillApiKey_of_held (token? : Option String) {builder : ConfigurationBuilder}
    {key : ApiKey} (held : builder.apiKey = some key) :
    builder.fillApiKey token? = .ok (builder, []) := by
  rw [fillApiKey, held]
  rfl

theorem fillApiKey_of_unset {token? : Option String} {builder : ConfigurationBuilder}
    (free : builder.apiKey = none) (unset : token? = none ∨ token? = some "") :
    ∃ logs, builder.fillApiKey token? = .ok (builder, logs) := by
  rw [fillApiKey, free]
  rcases unset with rfl | rfl
  · exact ⟨_, rfl⟩
  · exact ⟨_, rfl⟩

theorem fillApiKey_of_set {builder : ConfigurationBuilder} {text : String}
    (free : builder.apiKey = none) (nonempty : text ≠ "") :
    builder.fillApiKey (some text) =
      (ApiKey.ofText text).map fun key => (builder.setApiKey key, []) := by
  have kept : (some text).filter (· != "") = some text := by
    rw [Option.filter_some, bne_iff_ne.mpr nonempty, if_pos rfl]
  simp only [fillApiKey, free, Option.isSome_none, Bool.false_eq_true, if_false, kept]

/-- The step of the environment fails where no key is held and the variable is unusable, and
fills in the key of the variable where no key is held otherwise. -/
theorem apply_apiKeyFromEnvironment (token? : Option String) (builder : ConfigurationBuilder) :
    (builder.apiKey = none ∧ Unusable token? ∧
      BuilderStep.apply token? builder .apiKeyFromEnvironment = .error .invalidApiKey) ∨
    (¬ (builder.apiKey = none ∧ Unusable token?) ∧
      BuilderStep.apply token? builder .apiKeyFromEnvironment =
        .ok { builder with apiKey := builder.apiKey.or (environmentKey? token?) }) := by
  rw [BuilderStep.apply]
  cases held : builder.apiKey with
  | some key =>
      rw [fillApiKey_of_held token? held, Option.some_or, ← held]
      exact .inr ⟨fun free => (nomatch held.symm.trans free.1), rfl⟩
  | none =>
      by_cases unset : token? = none ∨ token? = some ""
      · obtain ⟨logs, filled⟩ := fillApiKey_of_unset held unset
        have nothing : environmentKey? token? = none := by
          rcases unset with rfl | rfl <;> rfl
        have usable : ¬ Unusable token? := by
          rintro ⟨text, rfl, nonempty, _⟩
          rcases unset with none | empty
          · cases none
          · exact nonempty (Option.some.inj empty)
        rw [filled, nothing, Option.or_none, ← held]
        exact .inr ⟨fun refused => usable refused.2, rfl⟩
      · rw [not_or] at unset
        obtain ⟨text, rfl⟩ := Option.ne_none_iff_exists'.mp unset.1
        have nonempty : text ≠ "" := fun empty => unset.2 (congrArg some empty)
        rw [fillApiKey_of_set held nonempty]
        by_cases visible : ApiKey.Visible text
        · have filled : environmentKey? (some text) = some ⟨text⟩ := by
            simp [environmentKey?, nonempty]
          rw [ApiKey.ofText_of_visible nonempty visible, filled, Option.none_or]
          exact .inr ⟨fun refused => (unusable_some_iff.mp refused.2).2 visible, rfl⟩
        · rw [ApiKey.ofText_of_not_visible nonempty visible]
          exact .inl ⟨rfl, unusable_some_iff.mpr ⟨nonempty, visible⟩, rfl⟩

/-! ## Runs -/

/-- Takes steps one after the other, from the empty builder on. -/
def run (token? : Option String) (steps : List BuilderStep) :
    Except ConfigError ConfigurationBuilder :=
  steps.foldlM (BuilderStep.apply token?) empty

theorem run_append_singleton (token? : Option String) (steps : List BuilderStep)
    (step : BuilderStep) :
    run token? (steps ++ [step]) =
      run token? steps >>= fun builder => BuilderStep.apply token? builder step := by
  simp only [run, List.foldlM_append, List.foldlM_cons, List.foldlM_nil, bind_pure]

/-- The key that is held after the steps. -/
def heldKey? (token? : Option String) (steps : List BuilderStep) : Option ApiKey :=
  (lastSet? BuilderStep.apiKey? steps).or
    (if .apiKeyFromEnvironment ∈ steps then environmentKey? token? else none)

/-- What a builder holds after the steps. -/
structure Holds (token? : Option String) (steps : List BuilderStep)
    (builder : ConfigurationBuilder) : Prop where
  endpoint : builder.endpoint = lastSet? BuilderStep.endpoint? steps
  apiKey : builder.apiKey = heldKey? token? steps
  timeout : builder.timeout = lastSet? BuilderStep.timeout? steps
  userAgentPrefix : builder.userAgentPrefix = lastSet? BuilderStep.userAgentPrefix? steps

@[simp]
theorem heldKey?_of_set (token? : Option String) (steps : List BuilderStep) (key : ApiKey) :
    heldKey? token? (steps ++ [.apiKey key]) = some key := by
  rw [heldKey?, lastSet?_append_singleton]
  rfl

@[simp]
theorem heldKey?_of_environment (token? : Option String) (steps : List BuilderStep) :
    heldKey? token? (steps ++ [.apiKeyFromEnvironment]) =
      (heldKey? token? steps).or (environmentKey? token?) := by
  have present : BuilderStep.apiKeyFromEnvironment ∈ steps ++ [.apiKeyFromEnvironment] :=
    List.mem_append_right steps List.mem_cons_self
  have unset : BuilderStep.apiKeyFromEnvironment.apiKey? = none := rfl
  rw [heldKey?, heldKey?, lastSet?_append_singleton, if_pos present, unset, Option.none_or]
  -- the variable has one value, so filling in its key twice is filling it in once
  split
  · rw [Option.or_assoc, Option.or_self]
  · rw [Option.or_none]

theorem heldKey?_of_other (token? : Option String) (steps : List BuilderStep)
    (step : BuilderStep) (unset : step.apiKey? = none)
    (other : BuilderStep.apiKeyFromEnvironment ≠ step) :
    heldKey? token? (steps ++ [step]) = heldKey? token? steps := by
  have same : BuilderStep.apiKeyFromEnvironment ∈ steps ++ [step] ↔
      BuilderStep.apiKeyFromEnvironment ∈ steps := by
    rw [List.mem_append, List.mem_singleton, or_iff_left other]
  simp only [heldKey?, lastSet?_append_singleton, unset, Option.none_or, same]

/-- The step is the one of the environment, no key is held, and the variable is unusable. -/
def Refuses (token? : Option String) (builder : ConfigurationBuilder) (step : BuilderStep) :
    Prop :=
  step = .apiKeyFromEnvironment ∧ builder.apiKey = none ∧ Unusable token?

/-- One step fails if it is refused, and otherwise leaves what the steps up to it set. -/
theorem Holds.apply {token? : Option String} {steps : List BuilderStep}
    {builder : ConfigurationBuilder} (holds : Holds token? steps builder) (step : BuilderStep) :
    (Refuses token? builder step ∧
      BuilderStep.apply token? builder step = .error .invalidApiKey) ∨
    (¬ Refuses token? builder step ∧
      ∃ next, BuilderStep.apply token? builder step = .ok next ∧
        Holds token? (steps ++ [step]) next) := by
  obtain ⟨endpoint, apiKey, timeout, userAgentPrefix⟩ := holds
  cases step with
  | apiKeyFromEnvironment =>
      rcases apply_apiKeyFromEnvironment token? builder with
        ⟨free, unusable, refused⟩ | ⟨usable, filled⟩
      · exact .inl ⟨⟨rfl, free, unusable⟩, refused⟩
      · refine .inr ⟨fun refuses => usable refuses.2, _, filled, ?_⟩
        constructor <;> simp [*]
  | apiKey key =>
      refine .inr ⟨fun refuses => (nomatch refuses.1), _, rfl, ?_⟩
      constructor <;> simp [setApiKey, *]
  | endpoint address =>
      have key := heldKey?_of_other token? steps (.endpoint address) rfl nofun
      refine .inr ⟨fun refuses => (nomatch refuses.1), _, rfl, ?_⟩
      constructor <;> simp [setEndpoint, *]
  | timeout limit =>
      have key := heldKey?_of_other token? steps (.timeout limit) rfl nofun
      refine .inr ⟨fun refuses => (nomatch refuses.1), _, rfl, ?_⟩
      constructor <;> simp [setTimeout, *]
  | userAgentPrefix text =>
      have key := heldKey?_of_other token? steps (.userAgentPrefix text) rfl nofun
      refine .inr ⟨fun refuses => (nomatch refuses.1), _, rfl, ?_⟩
      constructor <;> simp [setUserAgentPrefix, *]

/-- Some step of the environment is taken while no key is held, and the variable is unusable. -/
def Falters (token? : Option String) (steps : List BuilderStep) : Prop :=
  ∃ earlier builder, earlier ++ [.apiKeyFromEnvironment] <+: steps ∧
    run token? earlier = .ok builder ∧ builder.apiKey = none ∧ Unusable token?

theorem falters_append_singleton {token? : Option String} {steps : List BuilderStep}
    {step : BuilderStep} :
    Falters token? (steps ++ [step]) ↔
      Falters token? steps ∨
        ∃ builder, run token? steps = .ok builder ∧ Refuses token? builder step := by
  constructor
  · rintro ⟨earlier, builder, upTo, ran, free, unusable⟩
    rcases List.prefix_concat_iff.mp upTo with whole | upTo
    · obtain ⟨rfl, rfl⟩ := List.append_singleton_inj.mp whole
      exact .inr ⟨builder, ran, rfl, free, unusable⟩
    · exact .inl ⟨earlier, builder, upTo, ran, free, unusable⟩
  · rintro (⟨earlier, builder, upTo, ran, free, unusable⟩ | ⟨builder, ran, rfl, free, unusable⟩)
    · exact ⟨earlier, builder, upTo.trans (List.prefix_append _ _), ran, free, unusable⟩
    · exact ⟨steps, builder, List.prefix_rfl, ran, free, unusable⟩

/-- A run fails if a step falters, and otherwise ends with what its steps set. -/
theorem run_spec (token? : Option String) (steps : List BuilderStep) :
    (Falters token? steps ∧ run token? steps = .error .invalidApiKey) ∨
    (¬ Falters token? steps ∧
      ∃ builder, run token? steps = .ok builder ∧ Holds token? steps builder) := by
  induction steps using List.reverseRecOn with
  | nil =>
      have sound : ¬ Falters token? [] := by
        rintro ⟨earlier, builder, upTo, -⟩
        exact List.append_ne_nil_of_right_ne_nil earlier (List.cons_ne_nil _ _)
          (List.prefix_nil.mp upTo)
      exact .inr ⟨sound, empty, rfl, ⟨rfl, rfl, rfl, rfl⟩⟩
  | append_singleton steps step hypothesis =>
      rw [falters_append_singleton, run_append_singleton]
      rcases hypothesis with ⟨falters, failed⟩ | ⟨sound, builder, ran, holds⟩
      · rw [failed]
        exact .inl ⟨.inl falters, rfl⟩
      · have last : (∃ held, run token? steps = .ok held ∧ Refuses token? held step) ↔
            Refuses token? builder step := by
          simp [ran]
        rw [or_iff_right sound, last, ran]
        exact holds.apply step

theorem holds_of_run {token? : Option String} {steps : List BuilderStep}
    {builder : ConfigurationBuilder} (ran : run token? steps = .ok builder) :
    Holds token? steps builder := by
  rcases run_spec token? steps with ⟨-, failed⟩ | ⟨-, held, again, holds⟩
  · exact nomatch ran.symm.trans failed
  · cases ran.symm.trans again
    exact holds

/-- An unusable variable makes a run fail just if a step of the environment stands before every
step that sets a key. -/
theorem falters_iff {token? : Option String} {steps : List BuilderStep} :
    Falters token? steps ↔
      Unusable token? ∧ ∃ earlier, earlier ++ [.apiKeyFromEnvironment] <+: steps ∧
        ∀ step ∈ earlier, step.apiKey? = none := by
  constructor
  · rintro ⟨earlier, builder, upTo, ran, free, unusable⟩
    have nothing := Option.or_eq_none_iff.mp ((holds_of_run ran).apiKey.symm.trans free)
    exact ⟨unusable, earlier, upTo, lastSet?_eq_none_iff.mp nothing.1⟩
  · rintro ⟨unusable, earlier, upTo, unset⟩
    -- the first step of the environment is the one that falters
    obtain ⟨first, rest, split, fresh⟩ :=
      List.eq_append_cons_of_mem (List.mem_append_right earlier List.mem_cons_self)
    have firstUpTo : first ++ [.apiKeyFromEnvironment] <+: steps := by
      refine List.IsPrefix.trans ⟨rest, ?_⟩ upTo
      rw [split, List.append_assoc, List.singleton_append]
    have firstUnset : ∀ step ∈ first, step.apiKey? = none := by
      intro step member
      have within : step ∈ earlier ++ [.apiKeyFromEnvironment] :=
        split ▸ List.mem_append_left _ member
      rcases List.mem_append.mp within with before | last
      · exact unset step before
      · rw [List.mem_singleton.mp last]
        rfl
    rcases run_spec token? first with
      ⟨⟨earlier, builder, upTo, falters⟩, -⟩ | ⟨-, builder, ran, holds⟩
    · exact ⟨earlier, builder, upTo.trans ((List.prefix_append _ _).trans firstUpTo), falters⟩
    · refine ⟨first, builder, firstUpTo, ran, ?_, unusable⟩
      rw [holds.apiKey, heldKey?, lastSet?_eq_none_iff.mpr firstUnset, if_neg fresh, Option.none_or]

/-! ## The built configuration -/

/-- Of the keys that are set the last one counts, wherever the steps of the environment stand;
without any, the variable is asked; the other values are the ones set last. -/
theorem run_by_precedence (token? : Option String) (steps : List BuilderStep) :
    (Falters token? steps ∧ run token? steps = .error .invalidApiKey) ∨
    (¬ Falters token? steps ∧
      ∃ builder, run token? steps = .ok builder ∧
        builder.build =
          { endpoint := (lastSet? BuilderStep.endpoint? steps).getD Endpoint.standard
            apiKey := (lastSet? BuilderStep.apiKey? steps).or
              (if .apiKeyFromEnvironment ∈ steps then
                (token?.filter (· ≠ "")).map ApiKey.mk else none)
            timeout := lastSet? BuilderStep.timeout? steps
            userAgentPrefix := lastSet? BuilderStep.userAgentPrefix? steps }) := by
  rcases run_spec token? steps with ⟨falters, failed⟩ | ⟨sound, builder, ran, holds⟩
  · exact .inl ⟨falters, failed⟩
  · refine .inr ⟨sound, builder, ran, ?_⟩
    rw [build, holds.endpoint, holds.apiKey, holds.timeout, holds.userAgentPrefix]
    rfl

-- where the requests go when no endpoint is set
example : Endpoint.standard.render = "https://api.borgbase.com/graphql" := by decide +kernel

end ConfigurationBuilder

end ShapeQuery
