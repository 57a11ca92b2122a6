import ShapeQuery.Proofs.Execution.Preflight
import ShapeQuery.Resource.Operations

/-!
# Where the key of a client goes

A client sends its key in the authorization header and uses it for nothing else.  So two
sessions that differ only in the key hand over the same requests but for that header, and where
they receive the same replies, they come to the same results.
-/

namespace ShapeQuery

/-! ## Authorization headers -/

namespace Request

/-- The values of the authorization header. -/
def authorizations (request : Request) : List String :=
  (request.headers.filter (·.name == "authorization")).map Header.value

/-- The request without its authorization header. -/
def anonymous (request : Request) : Request :=
  { request with headers := request.headers.filter (·.name != "authorization") }

/-- The request as it is handed over with a key, where there is one. -/
def keyed (key? : Option ApiKey) (request : Request) : Request :=
  match key? with
  | some key => request.setHeader (Transport.authorizationHeader key)
  | none => request

variable (request : Request)

theorem authorizations_setHeader (key : ApiKey) :
    (request.setHeader (Transport.authorizationHeader key)).authorizations =
      ["bearer " ++ key.text] := by
  simp [authorizations, setHeader, Transport.authorizationHeader, ApiKey.authorization]

theorem anonymous_setHeader (key : ApiKey) :
    (request.setHeader (Transport.authorizationHeader key)).anonymous = request.anonymous := by
  simp [anonymous, setHeader, Transport.authorizationHeader]

/-- Of two settings of one header the later one stays. -/
theorem setHeader_setHeader {first second : Header} (same : first.name = second.name) :
    (request.setHeader first).setHeader second = request.setHeader second := by
  simp [setHeader, same]

theorem anonymous_keyed (key? : Option ApiKey) :
    (request.keyed key?).anonymous = request.anonymous := by
  cases key? with
  | none => rfl
  | some key => exact request.anonymous_setHeader key

theorem authorizations_keyed (unauthorized : request.authorizations = [])
    (key? : Option ApiKey) :
    (request.keyed key?).authorizations = key?.toList.map fun key => "bearer " ++ key.text := by
  cases key? with
  | none => exact unauthorized
  | some key => exact request.authorizations_setHeader key

end Request

/-! ## Authenticated transports -/

namespace Transport

section

variable {m : Type → Type}

/-- The transport that sends a key along, where there is one. -/
def keyed (key? : Option ApiKey) (base : Transport m) : Transport m :=
  match key? with
  | some key => base.authenticated key
  | none => base

theorem roundTrip_keyed (key? : Option ApiKey) (base : Transport m) (request : Request) :
    (base.keyed key?).roundTrip request = base.roundTrip (request.keyed key?) := by
  cases key? <;> rfl

/-- Authenticated transports around each other, the first one outermost. -/
def stacked (keys : List ApiKey) (base : Transport m) : Transport m :=
  keys.foldr authenticated base

/-- Only the innermost key of a stack is left on a request. -/
theorem roundTrip_stacked_append (keys : List ApiKey) (innermost : ApiKey)
    (base : Transport m) (request : Request) :
    (base.stacked (keys ++ [innermost])).roundTrip request =
      base.roundTrip (request.setHeader (authorizationHeader innermost)) := by
  induction keys generalizing request with
  | nil => rfl
  | cons outer rest induction =>
      calc
        (base.stacked (outer :: rest ++ [innermost])).roundTrip request
            = (base.stacked (rest ++ [innermost])).roundTrip
                (request.setHeader (authorizationHeader outer)) := rfl
        _ = base.roundTrip ((request.setHeader (authorizationHeader outer)).setHeader
                (authorizationHeader innermost)) := induction _
        _ = base.roundTrip (request.setHeader (authorizationHeader innermost)) :=
              congrArg base.roundTrip (request.setHeader_setHeader rfl)

end

variable {m : Type → Type} [Monad m]

/-- The transport that also records every request it is handed, with the reply to it. -/
def logged (transport : Transport m) : Transport (StateT (List (Request × Reply)) m) where
  description := transport.description
  roundTrip := fun request log => do
    let reply ← transport.roundTrip request
    return (reply, log ++ [(request, reply)])

end Transport

/-! ## Plans -/

/-- What comes of an operation: a result at once, or a request and what the reply to it
decides. -/
inductive Plan (ρ : Type) where
  | ended (result : ρ)
  | sends (request : Request) (decide : Reply → ρ)

namespace Plan

variable {ρ α β : Type}

def perform {m : Type → Type} [Monad m] (transport : Transport m) : Plan ρ → m ρ
  | .ended result => pure result
  | .sends request decide => decide <$> transport.roundTrip request

def map (convert : α → β) : Plan α → Plan β
  | .ended result => .ended (convert result)
  | .sends request decide => .sends request fun reply => convert (decide reply)

/-- The request of the plan, if there is one, has no authorization header. -/
def Unauthorized : Plan ρ → Prop
  | .ended _ => True
  | .sends request _ => request.authorizations = []

theorem perform_map {m : Type → Type} [Monad m] [LawfulMonad m] (transport : Transport m)
    (convert : α → β) (plan : Plan α) :
    (plan.map convert).perform transport = convert <$> plan.perform transport := by
  cases plan with
  | ended result => rw [map, perform, perform, map_pure]
  | sends request decide => rw [map, perform, perform, Functor.map_map]

theorem Unauthorized.map {plan : Plan α} (unauthorized : plan.Unauthorized)
    (convert : α → β) : (plan.map convert).Unauthorized := by
  cases plan with
  | ended result => trivial
  | sends request decide => exact unauthorized

end Plan

/-- At an endpoint the operation follows one plan over every transport, and the plan does not
set the authorization header. -/
def Planned {α : Type} (endpoint : Endpoint)
    (operation : ∀ (m : Type → Type) [Monad m], Client m → m α) : Prop :=
  ∃ plan : Plan α, plan.Unauthorized ∧
    ∀ (m : Type → Type) [Monad m] [LawfulMonad m] (transport : Transport m),
      operation m ⟨transport, endpoint⟩ = plan.perform transport

namespace Planned

variable {α β : Type} {endpoint : Endpoint}

theorem bind_pure {operation : ∀ (m : Type → Type) [Monad m], Client m → m α}
    (planned : Planned endpoint operation) (convert : α → β) :
    Planned endpoint fun m _ client => do
      let result ← operation m client
      return convert result := by
  obtain ⟨plan, unauthorized, performs⟩ := planned
  refine ⟨plan.map convert, unauthorized.map convert, ?_⟩
  intro m _ _ transport
  calc
    (do
      let result ← operation m ⟨transport, endpoint⟩
      return convert result)
        = convert <$> operation m ⟨transport, endpoint⟩ := bind_pure_comp _ _
    _ = convert <$> plan.perform transport := by rw [performs m transport]
    _ = (plan.map convert).perform transport := (Plan.perform_map transport convert plan).symm

theorem execute (call : OperationCall) (schema : Schema α) (value : α) :
    Planned endpoint fun _ _ client => client.execute call schema value := by
  cases prepared : call.prepare endpoint schema with
  | error interruption =>
      refine ⟨.ended ⟨.error interruption, value, []⟩, trivial, ?_⟩
      intro m _ _ transport
      exact execute_of_refused prepared
  | ok request =>
      have unauthorized : request.authorizations = [] := by
        obtain ⟨document, values, _, _, rfl⟩ := OperationCall.prepare_eq_ok_iff.mp prepared
        rfl
      let decide := fun reply =>
        let execution := Execution.ofReply call schema value reply
        { execution with logs := Execution.sending call endpoint :: execution.logs }
      refine ⟨.sends request decide, unauthorized, ?_⟩
      intro m _ _ transport
      exact execute_of_prepared prepared

end Planned

/-! ## Sessions -/

/-- A call of a client, and what is read from its result: an operation of its own, or one on
resources. -/
inductive ClientCall (ρ : Type) where
  | execute {α : Type} (call : OperationCall) (schema : Schema α) (value : α)
      (read : Execution α → ρ)
  | list (α : Type) [Resource α] (name? : Option String) (read : Report (List α) → ρ)
  | find (α : Type) [Resource α] (wanted : String) (read : Report α → ρ)
  | delete (α : Type) [Resource α] (id : String) (read : Report DeletionResult → ρ)
  | createRepository (name region : String) (settings : RepositorySettings)
      (read : Report Repository → ρ)
  | updateRepository (id : String) (name? : Option String) (settings : RepositorySettings)
      (read : Report Repository → ρ)
  | createKey (name publicKey : String) (read : Report SshKey → ρ)

namespace ClientCall

variable {ρ : Type}

def perform {m : Type → Type} [Monad m] (client : Client m) : ClientCall ρ → m ρ
  | .execute call schema value read => do
    let execution ← client.execute call schema value
    return read execution
  | @list _ α _ name? read => do
    let report ← Resource.list α client name?
    return read report
  | @find _ α _ wanted read => do
    let report ← Resource.find α client wanted
    return read report
  | @delete _ α _ id read => do
    let report ← Resource.delete α client id
    return read report
  | .createRepository name region settings read => do
    let report ← Repository.create client name region settings
    return read report
  | .updateRepository id name? settings read => do
    let report ← Repository.update client id name? settings
    return read report
  | .createKey name publicKey read => do
    let report ← SshKey.create client name publicKey
    return read report

theorem planned (endpoint : Endpoint) (called : ClientCall ρ) :
    Planned endpoint fun _ _ client => called.perform client := by
  have list : ∀ (α : Type) [Resource α] (name? : Option String),
      Planned endpoint fun _ _ client => Resource.list α client name? :=
    fun _ _ _ => (Planned.execute _ _ _).bind_pure _
  cases called with
  | execute call schema value read => exact (Planned.execute call schema value).bind_pure read
  | list α name? read => exact (list α name?).bind_pure read
  | find α wanted read => exact ((list α (some wanted)).bind_pure _).bind_pure read
  | delete α id read => exact ((Planned.execute _ _ _).bind_pure _).bind_pure read
  | createRepository name region settings read =>
      exact ((Planned.execute _ _ _).bind_pure _).bind_pure read
  | updateRepository id name? settings read =>
      exact ((Planned.execute _ _ _).bind_pure _).bind_pure read
  | createKey name publicKey read =>
      exact ((Planned.execute _ _ _).bind_pure _).bind_pure read

/-- The results of several calls, one after the other. -/
def performAll {m : Type → Type} [Monad m] (client : Client m) (calls : List (ClientCall ρ)) :
    m (List ρ) :=
  calls.mapM (perform client)

/-- At an endpoint the calls of a session follow their plans over every transport. -/
theorem exists_plans (endpoint : Endpoint) (calls : List (ClientCall ρ)) :
    ∃ plans : List (Plan ρ), (∀ plan ∈ plans, plan.Unauthorized) ∧
      ∀ (m : Type → Type) [Monad m] [LawfulMonad m] (transport : Transport m),
        performAll ⟨transport, endpoint⟩ calls = plans.mapM (Plan.perform transport) := by
  induction calls with
  | nil => exact ⟨[], List.forall_mem_nil _, fun _ _ _ _ => rfl⟩
  | cons called rest induction =>
      obtain ⟨plan, unauthorized, performs⟩ := called.planned endpoint
      obtain ⟨plans, restUnauthorized, restPerforms⟩ := induction
      refine ⟨plan :: plans, List.forall_mem_cons.mpr ⟨unauthorized, restUnauthorized⟩, ?_⟩
      intro m _ _ transport
      have first : called.perform ⟨transport, endpoint⟩ = plan.perform transport :=
        performs m transport
      have behind := restPerforms m transport
      rw [performAll] at behind ⊢
      rw [List.mapM_cons, List.mapM_cons, first, behind]

end ClientCall

/-- One after the other the plans come to these results by these exchanges, where the requests
are handed over with a key. -/
inductive Unfolds {ρ : Type} (key? : Option ApiKey) :
    List (Plan ρ) → List ρ → List (Request × Reply) → Prop
  | nil : Unfolds key? [] [] []
  | ended {plans : List (Plan ρ)} {results : List ρ} {exchanges : List (Request × Reply)}
      (result : ρ) :
      Unfolds key? plans results exchanges →
      Unfolds key? (.ended result :: plans) (result :: results) exchanges
  | sends {plans : List (Plan ρ)} {results : List ρ} {exchanges : List (Request × Reply)}
      (request : Request) (decide : Reply → ρ) (reply : Reply) :
      Unfolds key? plans results exchanges →
      Unfolds key? (.sends request decide :: plans) (decide reply :: results)
        ((request.keyed key?, reply) :: exchanges)

section

variable {ρ σ : Type}

/-- Over a transport with a state of its own, whatever its replies are, one plan makes at most
one exchange. -/
theorem Plan.run_perform (base : Transport (StateM σ)) (key? : Option ApiKey) (plan : Plan ρ)
    (log : List (Request × Reply)) (world : σ) :
    (∃ result, plan = .ended result ∧
      ((plan.perform (base.logged.keyed key?)).run log).run world = ((result, log), world)) ∨
    ∃ request decide reply later, plan = .sends request decide ∧
      ((plan.perform (base.logged.keyed key?)).run log).run world =
        ((decide reply, log ++ [(request.keyed key?, reply)]), later) := by
  cases plan with
  | ended result => exact .inl ⟨result, rfl, rfl⟩
  | sends request decide =>
      refine .inr ⟨request, decide, ((base.roundTrip (request.keyed key?)).run world).1,
        ((base.roundTrip (request.keyed key?)).run world).2, rfl, ?_⟩
      rw [perform, Transport.roundTrip_keyed]
      rfl

theorem run_bind_of_run {α β : Type} {first : StateT (List (Request × Reply)) (StateM σ) α}
    (next : α → StateT (List (Request × Reply)) (StateM σ) β)
    {log exchanges : List (Request × Reply)} {world later : σ} {result : α}
    (run : (first.run log).run world = ((result, exchanges), later)) :
    ((first >>= next).run log).run world = ((next result).run exchanges).run later := by
  rw [StateT.run_bind, StateT.run_bind, run]
  rfl

/-- Over a transport with a state of its own, whatever its replies are, the plans are followed
one after the other. -/
theorem exists_unfolds (base : Transport (StateM σ)) (key? : Option ApiKey)
    (plans : List (Plan ρ)) (log : List (Request × Reply)) (world : σ) :
    ∃ results exchanges later,
      ((plans.mapM (Plan.perform (base.logged.keyed key?))).run log).run world =
        ((results, log ++ exchanges), later) ∧
      Unfolds key? plans results exchanges := by
  induction plans generalizing log world with
  | nil =>
      refine ⟨[], [], world, ?_, .nil⟩
      rw [List.append_nil]
      rfl
  | cons plan rest induction =>
      rcases plan.run_perform base key? log world with
        ⟨result, rfl, run⟩ | ⟨request, decide, reply, later, rfl, run⟩
      · obtain ⟨results, exchanges, last, restRun, unfolds⟩ := induction log world
        refine ⟨result :: results, exchanges, last, ?_, .ended result unfolds⟩
        rw [List.mapM_cons, run_bind_of_run _ run, run_bind_of_run _ restRun]
        rfl
      · obtain ⟨results, exchanges, last, restRun, unfolds⟩ :=
          induction (log ++ [(request.keyed key?, reply)]) later
        refine ⟨decide reply :: results, (request.keyed key?, reply) :: exchanges, last, ?_,
          .sends request decide reply unfolds⟩
        rw [List.mapM_cons, run_bind_of_run _ run, run_bind_of_run _ restRun,
          List.append_assoc]
        rfl

end

/-- Two runs of the same plans with any two keys, and with any replies, hand over the same
requests but for the authorization, and the same replies lead to the same results. -/
theorem Unfolds.alike {ρ : Type} {left right : Option ApiKey} {plans : List (Plan ρ)}
    {results others : List ρ} {exchanges otherExchanges : List (Request × Reply)}
    (unfolds : Unfolds left plans results exchanges)
    (otherUnfolds : Unfolds right plans others otherExchanges) :
    exchanges.map (fun exchange => exchange.1.anonymous) =
      otherExchanges.map (fun exchange => exchange.1.anonymous) ∧
    (exchanges.map Prod.snd = otherExchanges.map Prod.snd → results = others) := by
  -- the plans decide how the second run goes on, whatever the replies were so far
  induction unfolds generalizing others otherExchanges with
  | nil =>
      cases otherUnfolds
      exact ⟨rfl, fun _ => rfl⟩
  | ended result _ induction =>
      cases otherUnfolds with
      | ended _ behind =>
          obtain ⟨sameRequests, sameResults⟩ := induction behind
          exact ⟨sameRequests, fun sameReplies => congrArg _ (sameResults sameReplies)⟩
  | sends request decide reply _ induction =>
      cases otherUnfolds with
      | sends _ _ otherReply behind =>
          obtain ⟨sameRequests, sameResults⟩ := induction behind
          constructor
          · rw [List.map_cons, List.map_cons, sameRequests, request.anonymous_keyed,
              request.anonymous_keyed]
          · intro sameReplies
            obtain ⟨rfl, restReplies⟩ := List.cons.inj sameReplies
            exact congrArg _ (sameResults restReplies)

/-- Every request is handed over with the key and no other authorization. -/
theorem Unfolds.authorizations_eq {ρ : Type} {key? : Option ApiKey} {plans : List (Plan ρ)}
    {results : List ρ} {exchanges : List (Request × Reply)}
    (unfolds : Unfolds key? plans results exchanges)
    (unauthorized : ∀ plan ∈ plans, plan.Unauthorized) :
    ∀ exchange ∈ exchanges,
      exchange.1.authorizations = key?.toList.map fun key => "bearer " ++ key.text := by
  induction unfolds with
  | nil => exact List.forall_mem_nil _
  | ended result _ induction =>
      exact induction (List.forall_mem_cons.mp unauthorized).2
  | sends request decide reply _ induction =>
      obtain ⟨first, behind⟩ := List.forall_mem_cons.mp unauthorized
      exact List.forall_mem_cons.mpr
        ⟨request.authorizations_keyed first key?, induction behind⟩

/-! ## Clients with and without a key -/

namespace Client

/-- The transport beneath is opened without the key, and what is logged depends only on whether
there is one. -/
theorem exists_created {configuration : Configuration} {agent : UserAgent}
    (accepted : UserAgent.ofCaller configuration.userAgentPrefix = .ok agent) :
    ∃ logs : Bool → List LogEntry, ∀ {m : Type → Type} (connect : Connector m)
        (key? : Option ApiKey),
      create connect { configuration with apiKey := key? } =
        .ok (⟨(connect agent configuration.timeout).keyed key?, configuration.endpoint⟩,
          logs key?.isSome) := by
  refine ⟨fun
    | true => []
    | false => [.debug ("Creating unauthenticated BorgBase client for " ++
        configuration.endpoint.render)], ?_⟩
  intro m connect key?
  rw [create, accepted]
  cases key? with
  | none => rfl
  | some key => rfl

theorem create_of_illegal {configuration : Configuration} {illegal : IllegalUserAgent}
    (refused : UserAgent.ofCaller configuration.userAgentPrefix = .error illegal)
    {m : Type → Type} (connect : Connector m) (key? : Option ApiKey) :
    create connect { configuration with apiKey := key? } = .error illegal := by
  rw [create, refused]

variable {ρ σ : Type}

/-- What a session of a new client comes to: the result of every call, and every exchange of
the transport beneath. -/
def observe (connect : Connector (StateM σ)) (configuration : Configuration)
    (calls : List (ClientCall ρ)) (world : σ) :
    Except IllegalUserAgent (List ρ × List (Request × Reply)) :=
  (create (fun agent timeout => (connect agent timeout).logged) configuration).map fun created =>
    (((ClientCall.performAll created.1 calls).run []).run world).1

/-- A session follows the plans of its calls, with the key of the configuration. -/
theorem observe_eq (connect : Connector (StateM σ)) {configuration : Configuration}
    {agent : UserAgent} (accepted : UserAgent.ofCaller configuration.userAgentPrefix = .ok agent)
    (key? : Option ApiKey) {calls : List (ClientCall ρ)} {plans : List (Plan ρ)}
    (performs : ∀ transport : Transport (StateT (List (Request × Reply)) (StateM σ)),
      ClientCall.performAll ⟨transport, configuration.endpoint⟩ calls =
        plans.mapM (Plan.perform transport)) (world : σ) :
    ∃ results exchanges,
      observe connect { configuration with apiKey := key? } calls world =
        .ok (results, exchanges) ∧
      Unfolds key? plans results exchanges := by
  obtain ⟨results, exchanges, later, run, unfolds⟩ :=
    exists_unfolds (connect agent configuration.timeout) key? plans [] world
  obtain ⟨logs, created⟩ := exists_created accepted
  refine ⟨results, exchanges, ?_, unfolds⟩
  rw [observe, created, Except.map, performs, run]
  rfl

theorem observe_of_illegal (connect : Connector (StateM σ)) {configuration : Configuration}
    {illegal : IllegalUserAgent}
    (refused : UserAgent.ofCaller configuration.userAgentPrefix = .error illegal)
    (key? : Option ApiKey) (calls : List (ClientCall ρ)) (world : σ) :
    observe connect { configuration with apiKey := key? } calls world = .error illegal := by
  rw [observe, create_of_illegal refused]
  rfl

end Client

/-- The key of a client is sent in the authorization header and goes nowhere else.  The client is
made of one transport, opened with a user agent and a time limit that do not depend on the key,
and at most adds the key to it; what is logged tells only whether there is one.  For two
configurations that differ only in the key, any calls and any replies: either no client can be
made of both, or the sessions hand over the same requests but for that header, with the key as
its one value where there is a key and without the header otherwise, and equal replies lead to
equal results.  Around any other transport, for any request, the innermost key replaces every
authorization there is, and the request is handed over once. -/
theorem key_only_authorizes :
    (∀ configuration : Configuration,
      (∃ illegal, ∀ {m : Type → Type} (connect : Connector m) (key? : Option ApiKey),
        Client.create connect { configuration with apiKey := key? } = .error illegal) ∨
      ∃ (agent : UserAgent) (logs : Bool → List LogEntry),
        ∀ {m : Type → Type} (connect : Connector m) (key? : Option ApiKey),
          Client.create connect { configuration with apiKey := key? } =
            .ok (⟨(connect agent configuration.timeout).keyed key?, configuration.endpoint⟩,
              logs key?.isSome)) ∧
    (∀ {ρ σ τ : Type} (connect : Connector (StateM σ)) (otherConnect : Connector (StateM τ))
        (configuration : Configuration) (left right : Option ApiKey)
        (calls : List (ClientCall ρ)) (world : σ) (otherWorld : τ),
      let first := Client.observe connect { configuration with apiKey := left } calls world
      let second :=
        Client.observe otherConnect { configuration with apiKey := right } calls otherWorld
      (∃ illegal, first = .error illegal ∧ second = .error illegal) ∨
      ∃ results others exchanges otherExchanges,
        first = .ok (results, exchanges) ∧ second = .ok (others, otherExchanges) ∧
        exchanges.map (fun exchange => exchange.1.anonymous) =
          otherExchanges.map (fun exchange => exchange.1.anonymous) ∧
        (∀ exchange ∈ exchanges, exchange.1.authorizations =
          left.toList.map fun key => "bearer " ++ key.text) ∧
        (∀ exchange ∈ otherExchanges, exchange.1.authorizations =
          right.toList.map fun key => "bearer " ++ key.text) ∧
        (exchanges.map Prod.snd = otherExchanges.map Prod.snd → results = others)) ∧
    (∀ {m : Type → Type} [Monad m] [LawfulMonad m] (base : Transport m) (outer : List ApiKey)
        (innermost : ApiKey) (request : Request) (sent : List Request),
      ∃ handed : Request, handed.anonymous = request.anonymous ∧
        handed.authorizations = ["bearer " ++ innermost.text] ∧
        ((base.recorded.stacked (outer ++ [innermost])).roundTrip request).run sent =
          (fun reply => (reply, sent ++ [handed])) <$> base.roundTrip handed) := by
  refine ⟨?_, ?_, ?_⟩
  · intro configuration
    cases accepted : UserAgent.ofCaller configuration.userAgentPrefix with
    | error illegal => exact .inl ⟨illegal, Client.create_of_illegal accepted⟩
    | ok agent => exact .inr ⟨agent, Client.exists_created accepted⟩
  · intro ρ σ τ connect otherConnect configuration left right calls world otherWorld first second
    cases accepted : UserAgent.ofCaller configuration.userAgentPrefix with
    | error illegal =>
        exact .inl ⟨illegal, Client.observe_of_illegal connect accepted left calls world,
          Client.observe_of_illegal otherConnect accepted right calls otherWorld⟩
    | ok agent =>
        obtain ⟨plans, unauthorized, performs⟩ :=
          ClientCall.exists_plans configuration.endpoint calls
        obtain ⟨results, exchanges, observed, unfolds⟩ :=
          Client.observe_eq connect accepted left (performs _) world
        obtain ⟨others, otherExchanges, otherObserved, otherUnfolds⟩ :=
          Client.observe_eq otherConnect accepted right (performs _) otherWorld
        obtain ⟨sameRequests, sameResults⟩ := unfolds.alike otherUnfolds
        exact .inr ⟨results, others, exchanges, otherExchanges, observed, otherObserved,
          sameRequests, unfolds.authorizations_eq unauthorized,
          otherUnfolds.authorizations_eq unauthorized, sameResults⟩
  · intro m _ _ base outer innermost request sent
    refine ⟨request.setHeader (Transport.authorizationHeader innermost),
      request.anonymous_setHeader innermost, request.authorizations_setHeader innermost, ?_⟩
    rw [Transport.roundTrip_stacked_append]
    simp [Transport.recorded, StateT.run]

/-- A transport that counts the requests it is handed and answers none of them. -/
def Transport.counting : Transport (StateM Nat) where
  description := "counting"
  roundTrip := fun _ count => (.failed (Nat.repr count), count + 1)

/-- A call without arguments, of which the outcome is read. -/
def pingCall : ClientCall (Except Interruption Unit) :=
  .execute ⟨.query, "ping", .empty⟩ ⟨.ok [.leaf "ok"], fun _ => .ok ()⟩ () Execution.outcome

/-- A request that already brings two authorizations along. -/
def overloadedRequest : Request where
  method := "POST"
  url := Endpoint.standard.url
  headers := [⟨"authorization", "basic a", false⟩, ⟨"accept", "text/plain", false⟩,
    ⟨"authorization", "bearer b", true⟩]
  body := ""

theorem ofCaller_none : UserAgent.ofCaller none = .ok ⟨UserAgent.product⟩ := by
  have visible : UserAgent.product.toUTF8.data.all isFieldByte = true := by decide +kernel
  exact if_pos visible

/-- Both calls fail with what the transport says, whatever the key is. -/
theorem observe_pingCall (key? : Option ApiKey) :
    ∃ exchanges,
      Client.observe (fun _ _ => .counting) { Configuration.standard with apiKey := key? }
          [pingCall, pingCall] 0 =
        .ok ([.error (.failed (.transport "0")), .error (.failed (.transport "1"))],
          exchanges) ∧
      exchanges.map Prod.snd = [.failed "0", .failed "1"] := by
  have accepted : UserAgent.ofCaller Configuration.standard.userAgentPrefix =
      .ok ⟨UserAgent.product⟩ := ofCaller_none
  obtain ⟨logs, created⟩ := Client.exists_created accepted
  rw [Client.observe, created, Except.map]
  cases key? with
  | none => exact ⟨_, rfl, rfl⟩
  | some key => exact ⟨_, rfl, rfl⟩

theorem key_only_authorizes_pingCall :
    (∃ (agent : UserAgent) (logs : Bool → List LogEntry), ∀ key? : Option ApiKey,
      Client.create (fun agent _ => ⟨agent.text, Transport.counting.roundTrip⟩)
          { Configuration.standard with apiKey := key? } =
        .ok (⟨Transport.keyed key? ⟨agent.text, Transport.counting.roundTrip⟩,
          Configuration.standard.endpoint⟩, logs key?.isSome)) ∧
    (∃ exchanges otherExchanges,
      Client.observe (fun _ _ => .counting)
          { Configuration.standard with apiKey := some ⟨"k1"⟩ } [pingCall, pingCall] 0 =
        .ok ([.error (.failed (.transport "0")), .error (.failed (.transport "1"))],
          exchanges) ∧
      Client.observe (fun _ _ => .counting)
          { Configuration.standard with apiKey := none } [pingCall, pingCall] 0 =
        .ok ([.error (.failed (.transport "0")), .error (.failed (.transport "1"))],
          otherExchanges) ∧
      exchanges.map (fun exchange => exchange.1.anonymous) =
        otherExchanges.map (fun exchange => exchange.1.anonymous) ∧
      ∀ exchange ∈ exchanges, exchange.1.authorizations = ["bearer k1"]) ∧
    ∃ handed : Request, handed.anonymous = overloadedRequest.anonymous ∧
      handed.authorizations = ["bearer inner"] ∧
      ((Transport.counting.recorded.stacked [⟨"outer"⟩, ⟨"inner"⟩]).roundTrip
          overloadedRequest).run [] =
        (fun reply => (reply, [handed])) <$> Transport.counting.roundTrip handed := by
  obtain ⟨opened, sessions, layered⟩ := key_only_authorizes
  refine ⟨?_, ?_, layered .counting [⟨"outer"⟩] ⟨"inner"⟩ overloadedRequest []⟩
  · obtain ⟨illegal, refused⟩ | ⟨agent, logs, created⟩ := opened .standard
    · obtain ⟨_, made, _⟩ := observe_pingCall none
      rw [Client.observe, refused] at made
      cases made
    · exact ⟨agent, logs, created fun agent _ => ⟨agent.text, Transport.counting.roundTrip⟩⟩
  obtain ⟨_, refused, _⟩ | ⟨results, others, exchanges, otherExchanges, observed, otherObserved,
      sameRequests, authorized, _, sameResults⟩ :=
    sessions (fun _ _ => .counting) (fun _ _ => .counting) .standard (some ⟨"k1"⟩) none
      [pingCall, pingCall] 0 0
  · obtain ⟨_, made, _⟩ := observe_pingCall (some ⟨"k1"⟩)
    cases made.symm.trans refused
  · obtain ⟨_, made, _⟩ := observe_pingCall (some ⟨"k1"⟩)
    obtain ⟨_, otherMade, _⟩ := observe_pingCall none
    cases made.symm.trans observed
    cases otherMade.symm.trans otherObserved
    exact ⟨_, _, made, otherMade, sameRequests, authorized⟩

end ShapeQuery
