import CyreneExchange.Gateway.Audit

/-! Whole unary requests: exactly when the observer sees one rejection or one
start and one end, and no provider before its accepted start. -/
namespace CyreneExchange.Gateway
open CyreneExchange.General

section Routed

variable (env : Collaborators) (requestId : Str) (principal : RequestPrincipal)

/-- The plan of the router starts with this target. -/
def Selects (request : RoutedRequest) (target : RouteTarget) : Prop :=
  env.router = .ok true ∧ ∃ rest, env.plan request principal = .ok (target :: rest)

/-- The metadata of a request that runs on this target. -/
def requestMetadata (model : Str) (stream : Bool) (target : RouteTarget) : RequestMetadata :=
  { requestId, model, stream, routeId := target.routeName, providerRef := target.providerRef
    principal }

/-- The rejection of this request, with what is known of its model and stream flag. -/
def requestRejection (model : Option Str) (stream : Option Bool) (status errorType : Str) :
    Rejection :=
  { requestId, principal := some principal, status, errorType, model, stream }

/-- `handle_openai_chat` once the model is permitted. -/
def runChat (maxRouteAttempts : Nat) (request : NormalizedInferenceRequest) :
    Handling GatewayResponse := do
  let rejection := requestRejection requestId principal (some request.model) (some request.stream)
  let candidates ← route env maxRouteAttempts rejection (.chat (requestForRouting request)) principal
  let request ← guarded env (resolveMediaArtifacts env request principal) (reportMedia rejection)
  attempts env chatClauses (requestMetadata requestId principal request.model request.stream)
    rejection (fun attempt target metadata => chatCall env attempt request target metadata) 0
    candidates

/-- `handle_openai_embeddings` once the model is permitted. -/
def runEmbeddings (maxRouteAttempts : Nat) (request : NormalizedEmbeddingRequest) :
    Handling GatewayResponse := do
  let rejection := requestRejection requestId principal (some request.model) (some false)
  let candidates ← route env maxRouteAttempts rejection (.embedding request) principal
  attempts env embeddingClauses (requestMetadata requestId principal request.model false)
    rejection (fun attempt target metadata => embeddingCall env attempt request target metadata) 0
    candidates

/-- No exception gets past the handler between routing and the chat answer,
and the observer accepts the start. -/
structure ChatRunHandled (request : NormalizedInferenceRequest) : Prop where
  routing : ¬ RoutingInterrupted env (.chat (requestForRouting request)) principal
  media : ∀ target, Selects env principal (.chat (requestForRouting request)) target →
    ¬ MediaInterrupted env request principal
  attempt : ∀ target, Selects env principal (.chat (requestForRouting request)) target →
    ∀ resolved, resolveMediaArtifacts env request principal = .ok resolved →
      env.cancelled (.beforeAttempt 0) = false →
        env.observer (.started
          (requestMetadata requestId principal resolved.model resolved.stream target)) = none ∧
          ¬ ChatCallEscapes env 0 resolved target

/-- No exception gets past the handler between routing and the embeddings,
and the observer accepts the start. -/
structure EmbeddingRunHandled (request : NormalizedEmbeddingRequest) : Prop where
  routing : ¬ RoutingInterrupted env (.embedding request) principal
  attempt : ∀ target, Selects env principal (.embedding request) target →
    env.cancelled (.beforeAttempt 0) = false →
      env.observer (.started (requestMetadata requestId principal request.model false target)) =
        none ∧ ¬ EmbeddingCallEscapes env 0 request target

variable {env requestId principal}

theorem requestRejection_id {model : Option Str} {stream : Option Bool} (status errorType : Str) :
    (requestRejection requestId principal model stream status errorType).requestId = requestId :=
  rfl

/-- Behind a gate a request is audited when the gate does not leak and what
comes after it is audited. -/
theorem audited_behind {α : Type} {leaks : Prop} {x : Handling α} {f : α → Handling GatewayResponse}
    (hGate : Traced.Gate isObserved (Rejected requestId) leaks x) :
    Audited requestId ((x >>= f).observed isObserved) ↔
      ¬ leaks ∧ ∀ a, x.result = .ok a → Audited requestId ((f a).observed isObserved) :=
  hGate.lawful_bind_iff (fun _ h => .inl h) not_audited_nil

theorem route_single {rejection : Str → Str → Rejection} {request : RoutedRequest}
    {candidates : List RouteTarget} :
    (route env 1 rejection request principal).result = .ok candidates ↔
      ∃ target, Selects env principal request target ∧ candidates = [target] := by
  rw [route_result]
  constructor
  · rintro ⟨hRouter, targets, hPlan, rfl, hSome⟩
    cases targets with
    | nil => exact (hSome rfl).elim
    | cons target rest => exact ⟨target, ⟨hRouter, rest, hPlan⟩, rfl⟩
  · rintro ⟨target, ⟨hRouter, rest, hPlan⟩, rfl⟩
    exact ⟨hRouter, target :: rest, hPlan, rfl, by simp⟩

theorem resolveMediaArtifacts_stream {request resolved : NormalizedInferenceRequest}
    (h : resolveMediaArtifacts env request principal = .ok resolved) :
    resolved.stream = request.stream := by
  obtain ⟨out, -, hOut⟩ := except_bind_eq_ok.mp h
  cases hOut
  rfl

/-- A single attempt is audited when the observer accepts its start and no
exception of its provider call stays uncaught. -/
theorem audited_single {clauses : Bool → Raise → Handled}
    {metadata : RouteTarget → RequestMetadata} {rejection : Str → Str → Rejection}
    {call : Nat → RouteTarget → RequestMetadata → Handling GatewayResponse} {target : RouteTarget}
    (hRejection : ∀ status errorType, (rejection status errorType).requestId = requestId)
    (hMetadata : (metadata target).requestId = requestId)
    (hEvents : ∀ event ∈ (call 0 target (metadata target)).events,
      event = .invoked target.providerRef)
    (hUnary : ∀ response, (call 0 target (metadata target)).result = .ok response →
      response.body.Unary)
    (hClauses : ∀ cancelled e, clauses cancelled e = .escapes ↔ Uncaught e) :
    Audited requestId
        ((attempts env clauses metadata rejection call 0 [target]).observed isObserved) ↔
      (env.cancelled (.beforeAttempt 0) = false →
        env.observer (.started (metadata target)) = none ∧
          ¬ ∃ e, (call 0 target (metadata target)).result = .error e ∧ Uncaught e) := by
  have hSilent : (call 0 target (metadata target)).observed isObserved = [] := by
    rw [Traced.observed_eq_nil]
    intro event hEvent
    rw [hEvents event hEvent]
    rfl
  rw [audited_attempts hRejection hMetadata hSilent hUnary]
  simp only [ne_eq, hClauses, not_exists, not_and]

theorem audited_runChat {request : NormalizedInferenceRequest} (hUnary : request.stream = false) :
    Audited requestId ((runChat env requestId principal 1 request).observed isObserved) ↔
      ChatRunHandled env requestId principal request := by
  have hCall : ∀ (resolved : NormalizedInferenceRequest) (target : RouteTarget)
      (rejection : Str → Str → Rejection),
      (∀ status errorType, (rejection status errorType).requestId = requestId) →
      resolved.stream = false →
      (Audited requestId ((attempts env chatClauses
        (requestMetadata requestId principal resolved.model resolved.stream) rejection
        (fun attempt target metadata => chatCall env attempt resolved target metadata) 0
        [target]).observed isObserved) ↔
        (env.cancelled (.beforeAttempt 0) = false →
          env.observer (.started
            (requestMetadata requestId principal resolved.model resolved.stream target)) = none ∧
            ¬ ChatCallEscapes env 0 resolved target)) := by
    intro resolved target rejection hRejection hStream
    rw [audited_single hRejection rfl (fun _ => chatCall_events) (fun _ => chatCall_unary hStream)
      fun _ _ => chatClauses_escapes, chatCall_uncaught hStream]
  unfold runChat
  dsimp only
  simp only [audited_behind (gate_route requestRejection_id),
    audited_behind (gate_media requestRejection_id), route_single, guarded_result]
  constructor
  · rintro ⟨hRouting, hRest⟩
    refine ⟨hRouting, ?_, ?_⟩
    · intro target hSelects
      exact (hRest [target] ⟨target, hSelects, rfl⟩).1
    · intro target hSelects resolved hResolved
      have hStream := (resolveMediaArtifacts_stream hResolved).trans hUnary
      refine (hCall resolved target _ ?_ hStream).mp
        ((hRest [target] ⟨target, hSelects, rfl⟩).2 resolved hResolved)
      exact fun _ _ => rfl
  · rintro ⟨hRouting, hMedia, hAttempt⟩
    refine ⟨hRouting, ?_⟩
    rintro _ ⟨target, hSelects, rfl⟩
    refine ⟨hMedia target hSelects, fun resolved hResolved => ?_⟩
    have hStream := (resolveMediaArtifacts_stream hResolved).trans hUnary
    exact (hCall resolved target _ (fun _ _ => rfl) hStream).mpr
      (hAttempt target hSelects resolved hResolved)

theorem audited_runEmbeddings {request : NormalizedEmbeddingRequest} :
    Audited requestId ((runEmbeddings env requestId principal 1 request).observed isObserved) ↔
      EmbeddingRunHandled env requestId principal request := by
  have hCall : ∀ (target : RouteTarget) (rejection : Str → Str → Rejection),
      (∀ status errorType, (rejection status errorType).requestId = requestId) →
      (Audited requestId ((attempts env embeddingClauses
        (requestMetadata requestId principal request.model false) rejection
        (fun attempt target metadata => embeddingCall env attempt request target metadata) 0
        [target]).observed isObserved) ↔
        (env.cancelled (.beforeAttempt 0) = false →
          env.observer (.started
            (requestMetadata requestId principal request.model false target)) = none ∧
            ¬ EmbeddingCallEscapes env 0 request target)) := by
    intro target rejection hRejection
    rw [audited_single hRejection rfl (fun _ => embeddingCall_events)
      (fun _ => embeddingCall_unary) fun _ _ => embeddingClauses_escapes, embeddingCall_uncaught]
  unfold runEmbeddings
  dsimp only
  simp only [audited_behind (gate_route requestRejection_id), route_single]
  constructor
  · rintro ⟨hRouting, hRest⟩
    refine ⟨hRouting, fun target hSelects => ?_⟩
    exact (hCall target _ fun _ _ => rfl).mp (hRest [target] ⟨target, hSelects, rfl⟩)
  · rintro ⟨hRouting, hAttempt⟩
    refine ⟨hRouting, ?_⟩
    rintro _ ⟨target, hSelects, rfl⟩
    exact (hCall target _ fun _ _ => rfl).mpr (hAttempt target hSelects)

end Routed

section Requests

variable (env : Collaborators) (requestId : Str) (headers : List (Str × Str)) (payload : Dict)

/-- No exception gets past the handler of a chat request, and the observer
accepts its start. -/
structure ChatHandled : Prop where
  authentication : ¬ PrincipalInterrupted env headers
  parsing : ∀ principal, Admits env headers principal → ChatReadable payload
  run : ∀ principal, Admits env headers principal →
    ∀ request, NormalizedInferenceRequest.fromOpenai (.dict payload) = .ok request →
      principal.permits request.model = true → ChatRunHandled env requestId principal request

/-- No exception gets past the handler of an embeddings request, and the
observer accepts its start. -/
structure EmbeddingsHandled : Prop where
  authentication : ¬ PrincipalInterrupted env headers
  parsing : ∀ principal, Admits env headers principal → EmbeddingReadable payload
  run : ∀ principal, Admits env headers principal →
    ∀ request, NormalizedEmbeddingRequest.fromOpenai (.dict payload) = .ok request →
      principal.permits request.model = true → EmbeddingRunHandled env requestId principal request

variable {env requestId headers payload}

theorem handleOpenaiChat_eq (maxRouteAttempts : Nat) :
    handleOpenaiChat env maxRouteAttempts requestId headers payload = (do
      let principal ← admission env requestId headers (payloadModel payload) (payloadStream payload)
      let request ← parsed env
        (requestRejection requestId principal (payloadModel payload) (payloadStream payload))
        (NormalizedInferenceRequest.fromOpenai (.dict payload))
      permitted env
        (requestRejection requestId principal (some request.model) (some request.stream))
        principal request.model
      runChat env requestId principal maxRouteAttempts request) := rfl

theorem handleOpenaiEmbeddings_eq (maxRouteAttempts : Nat) :
    handleOpenaiEmbeddings env maxRouteAttempts requestId headers payload = (do
      let principal ← admission env requestId headers (payloadModel payload) (some false)
      let request ← parsed env
        (requestRejection requestId principal (payloadModel payload) (some false))
        (NormalizedEmbeddingRequest.fromOpenai (.dict payload))
      permitted env (requestRejection requestId principal (some request.model) (some false))
        principal request.model
      runEmbeddings env requestId principal maxRouteAttempts request) := rfl

/-- The stream flag of an accepted payload. -/
theorem stream_of_fromOpenai {request : NormalizedInferenceRequest}
    (hParsed : NormalizedInferenceRequest.fromOpenai (.dict payload) = .ok request) :
    payload.getD "stream" (.bool false) = .bool request.stream := by
  obtain ⟨_, hDict, h⟩ := except_bind_eq_ok.mp hParsed
  cases hDict
  obtain ⟨_, -, h⟩ := except_bind_eq_ok.mp h
  obtain ⟨_, -, h⟩ := except_bind_eq_ok.mp h
  obtain ⟨_, -, h⟩ := except_bind_eq_ok.mp h
  obtain ⟨_, -, h⟩ := except_bind_eq_ok.mp h
  obtain ⟨_, -, h⟩ := except_bind_eq_ok.mp h
  obtain ⟨stream, hStream, h⟩ := except_bind_eq_ok.mp h
  obtain ⟨_, -, h⟩ := except_bind_eq_ok.mp h
  obtain ⟨_, -, h⟩ := except_bind_eq_ok.mp h
  obtain ⟨_, -, h⟩ := except_bind_eq_ok.mp h
  obtain ⟨_, -, h⟩ := except_bind_eq_ok.mp h
  obtain ⟨_, -, h⟩ := except_bind_eq_ok.mp h
  obtain ⟨_, -, h⟩ := except_bind_eq_ok.mp h
  obtain ⟨_, -, h⟩ := except_bind_eq_ok.mp h
  obtain ⟨_, -, h⟩ := except_bind_eq_ok.mp h
  cases h
  rwa [expect_eq_ok, Value.asBool_eq_some] at hStream

/-- An accepted payload that does not ask for a stream gives a unary request. -/
theorem stream_of_accepted {request : NormalizedInferenceRequest}
    (hParsed : NormalizedInferenceRequest.fromOpenai (.dict payload) = .ok request)
    (hUnary : payload.get "stream" ≠ .bool true) : request.stream = false := by
  have hStream := stream_of_fromOpenai hParsed
  cases hFlag : request.stream with
  | false => rfl
  | true =>
      refine absurd ?_ hUnary
      rw [hFlag] at hStream
      unfold Dict.get Dict.getD at *
      cases hLookup : List.lookup (text "stream") payload with
      | none =>
          rw [hLookup] at hStream
          cases hStream
      | some value =>
          rw [hLookup] at hStream
          exact hStream

/-- An accepted payload that asks for a stream gives a streaming request. -/
theorem stream_of_asked {request : NormalizedInferenceRequest}
    (hParsed : NormalizedInferenceRequest.fromOpenai (.dict payload) = .ok request)
    (hAsked : payload.get "stream" = .bool true) : request.stream = true := by
  have hStream := stream_of_fromOpenai hParsed
  have hPresent : payload.get "stream" ≠ .none := by
    rw [hAsked]
    simp
  rw [Dict.getD_of_get_ne hPresent, hAsked] at hStream
  exact (Value.bool.inj hStream).symm

theorem audited_chat (hUnary : payload.get "stream" ≠ .bool true) :
    Audited requestId
        ((handleOpenaiChat env 1 requestId headers payload).observed isObserved) ↔
      ChatHandled env requestId headers payload := by
  rw [handleOpenaiChat_eq]
  simp only [audited_behind gate_admission, audited_behind (gate_parsed requestRejection_id),
    audited_behind (gate_permitted requestRejection_id), admission_result, parsed_result,
    permitted_result, settles_chat, not_not, not_false_eq_true, true_and, forall_const]
  constructor
  · rintro ⟨hPrincipal, hRest⟩
    refine ⟨hPrincipal, fun principal hAdmits => (hRest principal hAdmits).1, ?_⟩
    intro principal hAdmits request hParsed hPermits
    exact (audited_runChat (stream_of_accepted hParsed hUnary)).mp
      ((hRest principal hAdmits).2 request hParsed hPermits)
  · rintro ⟨hPrincipal, hPayload, hRun⟩
    refine ⟨hPrincipal, fun principal hAdmits => ⟨hPayload principal hAdmits, ?_⟩⟩
    intro request hParsed hPermits
    exact (audited_runChat (stream_of_accepted hParsed hUnary)).mpr
      (hRun principal hAdmits request hParsed hPermits)

theorem audited_embeddings :
    Audited requestId
        ((handleOpenaiEmbeddings env 1 requestId headers payload).observed isObserved) ↔
      EmbeddingsHandled env requestId headers payload := by
  rw [handleOpenaiEmbeddings_eq]
  simp only [audited_behind gate_admission, audited_behind (gate_parsed requestRejection_id),
    audited_behind (gate_permitted requestRejection_id), admission_result, parsed_result,
    permitted_result, settles_embedding, not_not, not_false_eq_true, true_and, forall_const,
    audited_runEmbeddings]
  constructor
  · rintro ⟨hPrincipal, hRest⟩
    exact ⟨hPrincipal, fun principal hAdmits => (hRest principal hAdmits).1,
      fun principal hAdmits => (hRest principal hAdmits).2⟩
  · rintro ⟨hPrincipal, hPayload, hRun⟩
    exact ⟨hPrincipal, fun principal hAdmits => ⟨hPayload principal hAdmits, hRun principal hAdmits⟩⟩

end Requests

section Order

variable {env : Collaborators} {requestId : Str}

/-- The start of a run on this provider, accepted by the observer. -/
def StartedOn (providerRef : Str) (event : Event) : Prop :=
  ∃ metadata : RequestMetadata, metadata.providerRef = providerRef ∧
    event = .observed (.started metadata) true

/-- Each provider is invoked only after the observer accepted its start. -/
def StartsFirst (events : List Event) : Prop :=
  ∀ providerRef, Traced.Permitted (· = .invoked providerRef) (StartedOn providerRef) events

theorem startsFirst_of_none {events : List Event}
    (h : ∀ providerRef, Event.invoked providerRef ∉ events) : StartsFirst events := by
  intro providerRef
  refine Traced.permitted_of_none ?_
  rintro _ hMem rfl
  exact h providerRef hMem

/-- What invokes no provider may come first. -/
theorem StartsFirst.bind {α β : Type} {x : Handling α} {f : α → Handling β}
    (hQuiet : ∀ providerRef, Event.invoked providerRef ∉ x.events)
    (hRest : ∀ a, x.result = .ok a → StartsFirst (f a).events) :
    StartsFirst (x >>= f).events := fun providerRef =>
  Traced.Permitted.bind (startsFirst_of_none hQuiet providerRef) fun a ha =>
    .inr (hRest a ha providerRef)

variable {event : Event}

theorem mem_observe {call : ObserverCall} (h : event ∈ (observe env call).events) :
    isObserved event = true := by
  obtain ⟨accepted, hEvents, -⟩ := @observe_events env call
  rw [hEvents, List.mem_singleton] at h
  rw [h]
  rfl

theorem mem_guarded {α : Type} {check : Except Raise α}
    {report : Raise → Option (Rejection × Raise)}
    (h : event ∈ (guarded env check report).events) : isObserved event = true := by
  unfold guarded at h
  split at h
  · cases h
  · split at h
    · rw [reject, Traced.mem_events_bind] at h
      rcases h with h | ⟨_, -, h⟩
      · exact mem_observe h
      · cases h
    · cases h

theorem mem_admission {headers : List (Str × Str)} {model : Option Str} {stream : Option Bool}
    (h : event ∈ (admission env requestId headers model stream).events) :
    isObserved event = true := by
  simp only [admission, Traced.mem_events_bind] at h
  rcases h with h | ⟨_, -, h | ⟨_, -, h | ⟨_, -, h⟩⟩⟩
  · exact mem_guarded h
  · exact mem_guarded h
  · exact mem_guarded h
  · cases h

theorem mem_route {maxRouteAttempts : Nat} {rejection : Str → Str → Rejection}
    {request : RoutedRequest} {principal : RequestPrincipal}
    (h : event ∈ (route env maxRouteAttempts rejection request principal).events) :
    isObserved event = true ∨ event = .planned request := by
  simp only [route, Traced.mem_events_bind] at h
  rcases h with h | ⟨_, -, h | ⟨_, -, h | ⟨_, -, h⟩⟩⟩
  · exact .inl (mem_guarded h)
  · exact .inr (List.mem_singleton.mp h)
  · exact .inl (mem_guarded h)
  · exact .inl (mem_guarded h)

theorem guarded_not_invoked {α : Type} {check : Except Raise α}
    {report : Raise → Option (Rejection × Raise)} (providerRef : Str) :
    Event.invoked providerRef ∉ (guarded env check report).events := by
  intro h
  cases mem_guarded h

theorem admission_not_invoked {headers : List (Str × Str)} {model : Option Str}
    {stream : Option Bool} (providerRef : Str) :
    Event.invoked providerRef ∉ (admission env requestId headers model stream).events := by
  intro h
  cases mem_admission h

theorem route_not_invoked {maxRouteAttempts : Nat} {rejection : Str → Str → Rejection}
    {request : RoutedRequest} {principal : RequestPrincipal} (providerRef : Str) :
    Event.invoked providerRef ∉
      (route env maxRouteAttempts rejection request principal).events := by
  intro h
  rcases mem_route h with h | h <;> cases h

theorem observe_not_invoked {call : ObserverCall} (providerRef : Str) :
    Event.invoked providerRef ∉ (observe env call).events := by
  intro h
  cases mem_observe h

theorem mem_conclude {clauses : Bool → Raise → Handled} {md : RequestMetadata} {attempt : Nat}
    {next : Handling GatewayResponse} {outcome : Except Raise GatewayResponse}
    (h : event ∈ (conclude env clauses md attempt next outcome).events) :
    isObserved event = true ∨ event ∈ next.events := by
  have hFinish : ∀ (call : ObserverCall) (last : Handling GatewayResponse),
      event ∈ (observe env call >>= fun _ => last).events →
        isObserved event = true ∨ event ∈ last.events := by
    intro call last hMem
    rw [Traced.mem_events_bind] at hMem
    rcases hMem with hMem | ⟨_, -, hMem⟩
    · exact .inl (mem_observe hMem)
    · exact .inr hMem
  unfold conclude at h
  cases outcome with
  | ok response =>
      dsimp only at h
      cases hBody : response.body with
      | stream =>
          rw [hBody] at h
          cases h
      | answer =>
          rw [hBody] at h
          exact (hFinish _ _ h).imp_right fun hMem => by cases hMem
      | embeddings =>
          rw [hBody] at h
          exact (hFinish _ _ h).imp_right fun hMem => by cases hMem
  | error e =>
      dsimp only at h
      cases hClause : clauses (env.cancelled (.afterFailure attempt)) e with
      | escapes =>
          rw [hClause] at h
          cases h
      | finishes status usage errorType raised =>
          rw [hClause] at h
          refine (hFinish _ _ h).imp_right fun hMem => ?_
          cases raised with
          | none => exact hMem
          | some raised => cases hMem

/-- The candidate loop is seen by the observer and by the invoked providers. -/
theorem mem_attempts {clauses : Bool → Raise → Handled} {metadata : RouteTarget → RequestMetadata}
    {rejection : Str → Str → Rejection}
    {call : Nat → RouteTarget → RequestMetadata → Handling GatewayResponse}
    (hEvents : ∀ attempt target md, ∀ event ∈ (call attempt target md).events,
      event = .invoked target.providerRef)
    {attempt : Nat} {targets : List RouteTarget}
    (h : event ∈ (attempts env clauses metadata rejection call attempt targets).events) :
    isObserved event = true ∨ ∃ providerRef, event = .invoked providerRef := by
  induction targets generalizing attempt with
  | nil => cases h
  | cons target rest ih =>
      rw [attempts_cons] at h
      simp only [Traced.mem_events_bind] at h
      rcases h with h | ⟨_, -, h | ⟨_, -, h | ⟨outcome, -, h⟩⟩⟩
      · exact .inl (mem_guarded h)
      · exact .inl (mem_observe h)
      · exact .inr ⟨_, hEvents _ _ _ _ h⟩
      · exact (mem_conclude h).elim .inl ih

/-- The chat handler shows the router the scrubbed request and nothing else. -/
theorem mem_handleOpenaiChat {maxRouteAttempts : Nat} {headers : List (Str × Str)} {payload : Dict}
    (h : event ∈ (handleOpenaiChat env maxRouteAttempts requestId headers payload).events) :
    isObserved event = true ∨
      (∃ request, NormalizedInferenceRequest.fromOpenai (.dict payload) = .ok request ∧
        event = .planned (.chat (requestForRouting request))) ∨
      ∃ providerRef, event = .invoked providerRef := by
  simp only [handleOpenaiChat, Traced.mem_events_bind, parsed_result] at h
  rcases h with h | ⟨_, -, h | ⟨request, hParsed, h | ⟨_, -, h | ⟨_, -, h | ⟨_, -, h⟩⟩⟩⟩⟩
  · exact .inl (mem_admission h)
  · exact .inl (mem_guarded h)
  · exact .inl (mem_guarded h)
  · exact (mem_route h).imp_right fun h => .inl ⟨request, hParsed, h⟩
  · exact .inl (mem_guarded h)
  · exact (mem_attempts (fun _ _ _ _ => chatCall_events) h).imp_right .inr

/-- What follows an attempt starts first when the later candidates do. -/
theorem conclude_startsFirst {clauses : Bool → Raise → Handled} {md : RequestMetadata}
    {attempt : Nat} {next : Handling GatewayResponse} {outcome : Except Raise GatewayResponse}
    (hNext : StartsFirst next.events) :
    StartsFirst (conclude env clauses md attempt next outcome).events := by
  have hSilent : ∀ e : Raise, StartsFirst (Traced.fail e : Handling GatewayResponse).events :=
    fun _ => startsFirst_of_none (by simp)
  have hPure : ∀ response : GatewayResponse,
      StartsFirst (pure response : Handling GatewayResponse).events :=
    fun _ => startsFirst_of_none (by simp)
  have hFinish : ∀ (call : ObserverCall) (last : Handling GatewayResponse),
      StartsFirst last.events → StartsFirst (observe env call >>= fun _ => last).events :=
    fun call last hLast => StartsFirst.bind observe_not_invoked fun _ _ => hLast
  unfold conclude
  cases outcome with
  | ok response =>
      dsimp only
      cases response.body with
      | stream => exact hPure response
      | answer => exact hFinish _ _ (hPure response)
      | embeddings => exact hFinish _ _ (hPure response)
  | error e =>
      dsimp only
      cases clauses (env.cancelled (.afterFailure attempt)) e with
      | escapes => exact hSilent e
      | finishes status usage errorType raised =>
          cases raised with
          | none => exact hFinish _ _ hNext
          | some raised => exact hFinish _ _ (hSilent raised)

/-- Every candidate of the loop is started before its provider is invoked. -/
theorem attempts_startsFirst {clauses : Bool → Raise → Handled}
    {metadata : RouteTarget → RequestMetadata} {rejection : Str → Str → Rejection}
    {call : Nat → RouteTarget → RequestMetadata → Handling GatewayResponse}
    (hMetadata : ∀ target, (metadata target).providerRef = target.providerRef)
    (hEvents : ∀ attempt target md, ∀ event ∈ (call attempt target md).events,
      event = .invoked target.providerRef)
    (attempt : Nat) (targets : List RouteTarget) :
    StartsFirst (attempts env clauses metadata rejection call attempt targets).events := by
  induction targets generalizing attempt with
  | nil => exact startsFirst_of_none (by simp [attempts])
  | cons target rest ih =>
      rw [attempts_cons]
      refine StartsFirst.bind guarded_not_invoked fun _ _ providerRef => ?_
      obtain ⟨accepted, hStart, hAccepted, hOk⟩ :=
        @observe_events env (.started (metadata target))
      refine Traced.Permitted.bind
        (startsFirst_of_none observe_not_invoked providerRef) fun u hu => ?_
      by_cases hSame : target.providerRef = providerRef
      · refine .inl ⟨_, ?_, metadata target, (hMetadata target).trans hSame, rfl⟩
        rw [hStart, hAccepted.mpr (hOk.mp hu)]
        exact List.mem_singleton_self _
      · refine .inr (Traced.Permitted.bind (Traced.permitted_of_none ?_) fun outcome _ =>
          .inr (conclude_startsFirst (ih (attempt + 1)) providerRef))
        rintro event hMem rfl
        cases hEvents attempt target (metadata target) _ hMem
        exact hSame rfl

theorem chat_startsFirst {maxRouteAttempts : Nat} {headers : List (Str × Str)} {payload : Dict} :
    StartsFirst (handleOpenaiChat env maxRouteAttempts requestId headers payload).events :=
  StartsFirst.bind admission_not_invoked fun _ _ =>
    StartsFirst.bind guarded_not_invoked fun _ _ =>
      StartsFirst.bind guarded_not_invoked fun _ _ =>
        StartsFirst.bind route_not_invoked fun _ _ =>
          StartsFirst.bind guarded_not_invoked fun _ _ =>
            attempts_startsFirst (fun _ => rfl) (fun _ _ _ _ => chatCall_events) 0 _

theorem embeddings_startsFirst {maxRouteAttempts : Nat} {headers : List (Str × Str)}
    {payload : Dict} :
    StartsFirst (handleOpenaiEmbeddings env maxRouteAttempts requestId headers payload).events :=
  StartsFirst.bind admission_not_invoked fun _ _ =>
    StartsFirst.bind guarded_not_invoked fun _ _ =>
      StartsFirst.bind guarded_not_invoked fun _ _ =>
        StartsFirst.bind route_not_invoked fun _ _ =>
          attempts_startsFirst (fun _ => rfl) (fun _ _ _ _ => embeddingCall_events) 0 _

end Order

/-- With one route attempt, a unary request is audited exactly when no
exception gets past its handler and the observer accepts its start; no provider
runs before its accepted start. -/
theorem unary_audited_iff (env : Collaborators) (requestId : Str) (headers : List (Str × Str))
    (payload : Dict) :
    (payload.get "stream" ≠ .bool true →
      (Audited requestId ((handleOpenaiChat env 1 requestId headers payload).observed isObserved) ↔
        ChatHandled env requestId headers payload)) ∧
    (Audited requestId
        ((handleOpenaiEmbeddings env 1 requestId headers payload).observed isObserved) ↔
      EmbeddingsHandled env requestId headers payload) ∧
    StartsFirst (handleOpenaiChat env 1 requestId headers payload).events ∧
    StartsFirst (handleOpenaiEmbeddings env 1 requestId headers payload).events :=
  ⟨audited_chat, audited_embeddings, chat_startsFirst, embeddings_startsFirst⟩

/-- Collaborators of which none fails. -/
def calmCollaborators : Collaborators where
  principals _ := .ok (some { actorId := "a", workspaceId := "w", credentialRef := "c" })
  quota _ := none
  cancelled _ := false
  router := .ok true
  plan _ _ := .ok [{ providerRef := "p" }]
  readArtifact := none
  sha256 _ := []
  provider _ _ := .ok true
  complete _ _ _ := .ok { chunks := [{ delta := "hi" }] }
  completeStream _ _ _ := .ok fun n => if n = 0 then .chunk { delta := "hi" } else .exhausted
  embed _ _ _ := .ok (some { vectors := 1, model := "m" })
  observer _ := none

/-- Where no collaborator fails, a plain chat request is handled. -/
theorem unary_audited_iff_sample :
    ChatHandled calmCollaborators "r" [("Authorization", "Bearer t")]
      [("model", .str "m"), ("messages", .list [.dict [("role", .str "user"), ("content", .str "hi")]])] :=
  ((unary_audited_iff calmCollaborators "r" [("Authorization", "Bearer t")]
    [("model", .str "m"), ("messages", .list [.dict [("role", .str "user"), ("content", .str "hi")]])]).1
      (fun hStream => by cases hStream)).mp (.inr ⟨_, _, _, _, _, rfl, rfl⟩)

/-- A role that is an array leaves a request without any audit event. -/
theorem unhashable_role_unaudited : ¬ ∀ (env : Collaborators) (requestId : Str)
    (headers : List (Str × Str)) (payload : Dict), (Value.dict payload).isJson = true →
    payload.get "stream" ≠ .bool true →
    Audited requestId ((handleOpenaiChat env 1 requestId headers payload).observed isObserved) := by
  intro h
  refine not_audited_nil (h calmCollaborators "r" [("Authorization", "Bearer t")]
    [("model", .str "m"), ("messages", .list [.dict [("role", .list []), ("content", .str "hi")]])]
    (by decide) ?_)
  intro hStream
  cases hStream

end CyreneExchange.Gateway
