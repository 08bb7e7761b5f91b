import CyreneExchange.Gateway.Lifecycle

/-! The chat and embeddings handlers: each stage either lets the request on or
reports its rejection, and the provider runs between a started and a finished
event. -/
namespace CyreneExchange.Gateway
open CyreneExchange.General

/-- What a request is rejected with before a provider runs. -/
structure Rejection where
  requestId : Str
  principal : Option RequestPrincipal
  status : Str
  errorType : Str
  model : Option Str
  stream : Option Bool
deriving DecidableEq

/-- `RequestMetadata`. -/
structure RequestMetadata where
  requestId : Str
  model : Str
  stream : Bool
  routeId : Str
  providerRef : Str
  principal : RequestPrincipal
deriving DecidableEq

/-- A call of the lifecycle observer. -/
inductive ObserverCall where
  | rejected (rejection : Rejection)
  | started (metadata : RequestMetadata)
  | finished (metadata : RequestMetadata) (status : Str) (usage : Option ProviderUsage)
      (errorType : Option Str)
deriving DecidableEq

/-- A candidate of the routing capability. -/
structure RouteTarget where
  providerRef : Str
  routeId : Str := []
  model : Option Str := none
deriving DecidableEq

/-- `target.route_id or target.provider_ref`. -/
def RouteTarget.routeName (target : RouteTarget) : Str :=
  if target.routeId.isEmpty then target.providerRef else target.routeId

/-- `target.model and target.model != model`. -/
def RouteTarget.renames (target : RouteTarget) (model : Str) : Option Str :=
  target.model.filter fun name => !name.isEmpty && name != model

/-- The request handed to the routing engine. -/
inductive RoutedRequest where
  | chat (request : NormalizedInferenceRequest)
  | embedding (request : NormalizedEmbeddingRequest)

/-- Media bytes a Product store returns. -/
structure ResolvedMediaArtifact where
  mimeType : Str
  data : List UInt8
  sha256 : Str
  size : Int

/-- What iterating a finished provider answer gives. -/
structure ProviderAnswer where
  chunks : List ProviderChunk
  ending : Option Raise := none

/-- One `next` of a streamed provider answer. -/
inductive ProviderStep where
  | chunk (chunk : ProviderChunk)
  | exhausted
  | raises (e : Raise)

/-- `ProviderEmbeddingBatch`, less the vectors themselves. -/
structure EmbeddingBatch where
  vectors : Nat
  model : Str

/-- A place where the cancellation event is read. -/
inductive CancelPoint where
  | beforeRouting
  | beforeArtifact (message part : Nat)
  | afterArtifact (message part : Nat)
  | beforeAttempt (attempt : Nat)
  | collecting (attempt chunk : Nat)
  | afterEmbedding (attempt : Nat)
  | afterFailure (attempt : Nat)
deriving DecidableEq

/-- The two documented errors of the quota checker. -/
inductive QuotaError where
  | exceeded | unavailable
deriving DecidableEq, Repr

def QuotaError.raised : QuotaError → Raise
  | .exceeded => .quotaExceeded
  | .unavailable => .quotaUnavailable

/-- How everything the gateway calls behaves while one request is handled. -/
structure Collaborators where
  principals : Str → Except Raise (Option RequestPrincipal)
  quota : RequestPrincipal → Option QuotaError
  cancelled : CancelPoint → Bool
  router : Except Raise Bool
  plan : RoutedRequest → RequestPrincipal → Except Raise (List RouteTarget)
  readArtifact : Option (Nat → Nat → Str → RequestPrincipal →
    Except Raise (Option ResolvedMediaArtifact))
  sha256 : List UInt8 → Str
  provider : Nat → Str → Except Raise Bool
  complete : Nat → Str → NormalizedInferenceRequest → Except Raise ProviderAnswer
  completeStream : Nat → Str → NormalizedInferenceRequest → Except Raise (Nat → ProviderStep)
  embed : Nat → Str → NormalizedEmbeddingRequest → Except Raise (Option EmbeddingBatch)
  observer : ObserverCall → Option Raise

/-- What a request leaves behind: observer calls with their acceptance, the
requests the router sees, the provider invocations, the items of a stream body. -/
inductive Event where
  | observed (call : ObserverCall) (accepted : Bool)
  | planned (request : RoutedRequest)
  | invoked (providerRef : Str)
  | emitted (item : StreamItem)

abbrev Handling := Traced Event Raise

/-- The body of a gateway response. -/
inductive ResponseBody where
  | answer (answer : UnaryAnswer)
  | stream (metadata : RequestMetadata) (first : ProviderChunk) (steps : Nat → ProviderStep)
      (includeUsage : Bool)
  | embeddings (batch : EmbeddingBatch)

/-- `GatewayResponse`. -/
structure GatewayResponse where
  requestId : Str
  model : Str
  body : ResponseBody
  routeId : Str
  usage : Option ProviderUsage := none

section Observer

/-- `_observe_started`, `_observe_finished` and `_observe_rejected`: a failing
observer turns into a GatewayLifecycleError. -/
def observe (env : Collaborators) (call : ObserverCall) : Handling Unit :=
  match env.observer call with
  | none => Traced.log (.observed call true)
  | some e => do
      Traced.log (.observed call false)
      Traced.fail (if e.isException then .lifecycle else e)

/-- `_observe_rejected` followed by `raise`. -/
def reject {α : Type} (env : Collaborators) (rejection : Rejection) (raised : Raise) :
    Handling α := do
  observe env (.rejected rejection)
  Traced.fail raised

/-- A check whose exceptions `report` turns into rejections; one that no
`except` clause catches is raised as it is. -/
def guarded {α : Type} (env : Collaborators) (check : Except Raise α)
    (report : Raise → Option (Rejection × Raise)) : Handling α :=
  match check with
  | .ok a => pure a
  | .error e =>
      match report e with
      | some (rejection, raised) => reject env rejection raised
      | none => Traced.fail e

end Observer

section Admission

/-- The first header of this name, letter case aside. -/
def header (headers : List (Str × Str)) (name : Str) : Option Str :=
  (headers.find? fun entry => entry.1.lower = name).map Prod.snd

/-- The bearer token of the Authorization header. -/
def bearerToken (headers : List (Str × Str)) : Option Str := do
  let authorization ← header headers "authorization"
  if authorization.startsWith "Bearer " then
    let token := Str.strip (authorization.drop 7)
    if token.isEmpty then none else some token
  else none

/-- `_authenticate`. -/
def authenticate (env : Collaborators) (headers : List (Str × Str)) :
    Except Raise RequestPrincipal :=
  match bearerToken headers with
  | none => .error .authentication
  | some token =>
      match env.principals token with
      | .ok (some principal) => .ok principal
      | .ok none => .error .authentication
      | .error e => if e.isException then .error .authentication else .error e

/-- `_payload_model`. -/
def payloadModel (payload : Dict) : Option Str := (payload.get "model").asStr

/-- `_payload_stream`. -/
def payloadStream (payload : Dict) : Option Bool := (payload.get "stream").asBool

/-- Authentication, quota and the first look at the cancellation event. -/
def admission (env : Collaborators) (requestId : Str) (headers : List (Str × Str))
    (model : Option Str) (stream : Option Bool) : Handling RequestPrincipal := do
  let rejection (principal : Option RequestPrincipal) (status errorType : Str) : Rejection :=
    { requestId, principal, status, errorType, model, stream }
  let principal ← guarded env (authenticate env headers) fun e =>
    if e = .authentication then some (rejection none "rejected" e.auditErrorType, e) else none
  let _ ← guarded env (match env.quota principal with
      | some e => .error e.raised
      | none => .ok ()) fun e => some (rejection (some principal) "rejected" e.auditErrorType, e)
  let _ ← guarded env (if env.cancelled .beforeRouting then .error (.requestCancelled none)
      else .ok ()) fun e =>
    some (rejection (some principal) "cancelled" e.auditErrorType, e)
  pure principal

end Admission

section Routing

/-- `_resolve_router`. -/
def resolveRouter (env : Collaborators) : Except Raise Unit :=
  match env.router with
  | .ok true => .ok ()
  | .ok false => .error .noRoute
  | .error e => .error e

/-- `_plan_routes(...)[:max_route_attempts]`. -/
def planRoutes (env : Collaborators) (maxRouteAttempts : Nat) (request : RoutedRequest)
    (principal : RequestPrincipal) : Except Raise (List RouteTarget) :=
  (env.plan request principal).map fun targets => targets.take maxRouteAttempts

/-- Any exception while routing becomes a NoRouteError. -/
def reportNoRoute (rejection : Str → Str → Rejection) (e : Raise) : Option (Rejection × Raise) :=
  if e.isException then
    some (rejection "rejected" Raise.noRoute.auditErrorType, .noRoute)
  else none

/-- Resolve the router, plan the candidates and refuse an empty plan. -/
def route (env : Collaborators) (maxRouteAttempts : Nat) (rejection : Str → Str → Rejection)
    (request : RoutedRequest) (principal : RequestPrincipal) : Handling (List RouteTarget) := do
  let _ ← guarded env (resolveRouter env) (reportNoRoute rejection)
  Traced.log (.planned request)
  let candidates ← guarded env (planRoutes env maxRouteAttempts request principal)
    (reportNoRoute rejection)
  guarded env (if candidates.isEmpty then .error .noRoute else .ok candidates)
    (reportNoRoute rejection)

/-- The metadata of one part for the router: no bytes, no artifact, no file name. -/
def routePart (part : Value) : Value :=
  match part.asDict with
  | none => .dict []
  | some d =>
      if (d.get "type").asStr = some (text "text") then .dict d
      else
        .dict ([(text "type", d.get "type"), (text "mime_type", d.get "mime_type")] ++
          match d.get "data" with
          | .bytes data => [(text "byte_length", Value.int data.length)]
          | _ => [(text "has_artifact", Value.bool (d.has "artifact_id"))])

def routeMessage (message : Dict) : Dict :=
  match (message.get "content").asSequence with
  | some parts => message.set "content" (.tuple (parts.map routePart))
  | none => message

/-- `_request_for_routing`. -/
def requestForRouting (request : NormalizedInferenceRequest) : NormalizedInferenceRequest :=
  { request with messages := request.messages.map routeMessage }

end Routing

section Media

/-- One content part of `_resolve_media_artifacts`, with the bytes so far. -/
def resolvePart (env : Collaborators) (principal : RequestPrincipal) (message index total : Nat)
    (rawPart : Value) : Except Raise (Value × Nat) :=
  match rawPart.asDict with
  | none => .ok (.dict [], total)
  | some part =>
      if part.has "artifact_id" then
        if env.cancelled (.beforeArtifact message index) then .error (.requestCancelled none)
        else
          match env.readArtifact, (part.get "artifact_id").asStr with
          | none, _ => .error .mediaUnavailable
          | some _, none => .error .mediaUnavailable
          | some read, some artifactId =>
              match read message index artifactId principal with
              | .error (.requestCancelled usage) => .error (.requestCancelled usage)
              | .error e => if e.isException then .error .mediaUnavailable else .error e
              | .ok artifact =>
                  if env.cancelled (.afterArtifact message index) then
                    .error (.requestCancelled none)
                  else
                    match artifact with
                    | none => .error .mediaUnavailable
                    | some artifact =>
                        if (part.get "mime_type").asStr = some artifact.mimeType ∧
                            artifact.data ≠ [] ∧ artifact.size = artifact.data.length ∧
                            artifact.size ≤ maxChatMediaBytes ∧
                            artifact.sha256 = env.sha256 artifact.data ∧
                            total + artifact.data.length ≤ maxChatMediaBytes then
                          .ok (.dict (Dict.set (part.filter fun e => e.1 ≠ text "artifact_id")
                            "data" (.bytes artifact.data)), total + artifact.data.length)
                        else .error .mediaUnavailable
      else
        match part.get "data" with
        | .bytes data =>
            if total + data.length ≤ maxChatMediaBytes then .ok (.dict part, total + data.length)
            else .error .mediaUnavailable
        | _ => .ok (.dict part, total)

/-- One message of `_resolve_media_artifacts`. -/
def resolveMessage (env : Collaborators) (principal : RequestPrincipal) (index total : Nat)
    (message : Dict) : Except Raise (Dict × Nat) :=
  match (message.get "content").asSequence with
  | none => .ok (message, total)
  | some parts => do
      let (parts, total) ← pass (resolvePart env principal index) 0 total parts
      pure (message.set "content" (.tuple parts), total)

/-- The `except` clauses around media resolution. -/
def reportMedia (rejection : Str → Str → Rejection) (e : Raise) : Option (Rejection × Raise) :=
  match e with
  | .requestCancelled _ => some (rejection "cancelled" e.auditErrorType, e)
  | .mediaUnavailable => some (rejection "rejected" e.auditErrorType, e)
  | _ => none

/-- `_resolve_media_artifacts`. -/
def resolveMediaArtifacts (env : Collaborators) (request : NormalizedInferenceRequest)
    (principal : RequestPrincipal) : Except Raise NormalizedInferenceRequest := do
  let (messages, _) ← pass (resolveMessage env principal) 0 0 request.messages
  pure { request with messages }

end Media

section Execution

/-- What the `except` clauses around a provider call do with an exception:
nothing at all, or a finished event and then a raise or the next candidate. -/
inductive Handled where
  | escapes
  | finishes (status : Str) (usage : Option ProviderUsage) (errorType : Str)
      (raised : Option Raise)

/-- The clauses that both handlers share: cancellation, lifecycle failures and
all other exceptions. -/
def sharedClauses (cancelled : Bool) (usage : Option ProviderUsage) (e : Raise) : Handled :=
  let cancellation (usage : Option ProviderUsage) (raised : Raise) : Handled :=
    .finishes "cancelled" usage (Raise.requestCancelled none).auditErrorType (some raised)
  match e with
  | .requestCancelled reported => cancellation usage (.requestCancelled reported)
  | .providerInvocationCancelled => cancellation none (.requestCancelled none)
  | .lifecycle => .escapes
  | e =>
      if !e.isException then .escapes
      else if cancelled then cancellation usage (.requestCancelled none)
      else .finishes "failed" usage e.auditErrorType none

/-- The `except` clauses of the chat handler. -/
def chatClauses (cancelled : Bool) (e : Raise) : Handled := sharedClauses cancelled e.usage e

/-- The `except` clauses of the embeddings handler: typed provider errors are
answered as such, and no usage is recorded. -/
def embeddingClauses (cancelled : Bool) (e : Raise) : Handled :=
  match e with
  | .providerEmbedding code =>
      .finishes "failed" none (Raise.embeddingResponse code).auditErrorType
        (some (.embeddingResponse code))
  | e => sharedClauses cancelled none e

/-- `_collect_response` after the first chunk: read the rest, then assemble. -/
def collectChunks (env : Collaborators) (attempt : Nat) (ending : Option Raise) :
    List ProviderChunk → List ProviderChunk → Except Raise (List ProviderChunk)
  | collected, chunk :: rest =>
      if env.cancelled (.collecting attempt collected.length) then
        .error (.requestCancelled (mergeChunkUsage collected))
      else collectChunks env attempt ending (collected ++ [chunk]) rest
  | collected, [] =>
      match ending with
      | none => .ok collected
      | some (.requestCancelled usage) => .error (.requestCancelled usage)
      | some .providerInvocationCancelled =>
          .error (.requestCancelled (mergeChunkUsage collected))
      | some e =>
          if e.isException then .error (.providerFailure (mergeChunkUsage collected)) else .error e

/-- `_collect_response`. -/
def collectResponse (env : Collaborators) (attempt : Nat) (first : ProviderChunk)
    (rest : List ProviderChunk) (ending : Option Raise) :
    Except Raise (UnaryAnswer × Option ProviderUsage) := do
  let collected ← collectChunks env attempt ending [first] rest
  match collectAnswer collected with
  | .ok answer => .ok (answer, mergeChunkUsage collected)
  | .error _ => .error (.providerFailure none)

/-- `_resolve_provider` and `_resolve_embedding_provider`. -/
def resolveProvider (env : Collaborators) (attempt : Nat) (target : RouteTarget) :
    Except Raise Unit :=
  match env.provider attempt target.providerRef with
  | .ok true => .ok ()
  | .ok false => .error (.providerFailure none)
  | .error e => .error e

/-- `next(chunks)` on an exhausted iterator. -/
def stopIteration : Raise := .ordinary "StopIteration" none

/-- `bool(stream_options and stream_options.get("include_usage", False))`. -/
def includesUsage (request : NormalizedInferenceRequest) : Bool :=
  match request.streamOptions with
  | some options => (options.getD "include_usage" (.bool false)).asBool = some true
  | none => false

/-- The chat request as the selected target names its model. -/
def chatProviderRequest (request : NormalizedInferenceRequest) (target : RouteTarget) :
    NormalizedInferenceRequest :=
  match target.renames request.model with
  | some model => { request with model }
  | none => request

/-- The provider call of the chat handler, up to its response. -/
def chatCall (env : Collaborators) (attempt : Nat) (request : NormalizedInferenceRequest)
    (target : RouteTarget) (metadata : RequestMetadata) : Handling GatewayResponse := do
  Traced.lift (resolveProvider env attempt target)
  Traced.log (.invoked target.providerRef)
  let respond (body : ResponseBody) (usage : Option ProviderUsage) : GatewayResponse :=
    { requestId := metadata.requestId, model := request.model, body, routeId := metadata.routeId
      usage }
  let providerRequest := chatProviderRequest request target
  if request.stream then
    let steps ← Traced.lift (env.completeStream attempt target.providerRef providerRequest)
    match steps 0 with
    | .chunk first => pure (respond (.stream metadata first steps (includesUsage request)) none)
    | .exhausted => Traced.fail stopIteration
    | .raises e => Traced.fail e
  else
    let answer ← Traced.lift (env.complete attempt target.providerRef providerRequest)
    match answer.chunks with
    | [] => Traced.fail (answer.ending.getD stopIteration)
    | first :: rest =>
        let (answer, usage) ← Traced.lift (collectResponse env attempt first rest answer.ending)
        pure (respond (.answer answer) usage)

/-- The embedding request as the selected target names its model. -/
def embeddingProviderRequest (request : NormalizedEmbeddingRequest) (target : RouteTarget) :
    NormalizedEmbeddingRequest :=
  match target.renames request.model with
  | some model => { model, inputs := request.inputs }
  | none => request

/-- The provider call of the embeddings handler, up to its response. -/
def embeddingCall (env : Collaborators) (attempt : Nat) (request : NormalizedEmbeddingRequest)
    (target : RouteTarget) (metadata : RequestMetadata) : Handling GatewayResponse := do
  Traced.lift (resolveProvider env attempt target)
  Traced.log (.invoked target.providerRef)
  let batch ← Traced.lift
    (env.embed attempt target.providerRef (embeddingProviderRequest request target))
  match batch with
  | none => Traced.fail (.providerFailure none)
  | some batch =>
      if batch.vectors ≠ request.inputs.length then Traced.fail (.providerFailure none)
      else if env.cancelled (.afterEmbedding attempt) then Traced.fail (.requestCancelled none)
      else
        pure { requestId := metadata.requestId, model := batch.model, body := .embeddings batch
               routeId := metadata.routeId }

/-- The candidate loop: a started event, the provider call, and a finished
event unless the response is a stream, whose body reports its own end. -/
def attempts (env : Collaborators) (clauses : Bool → Raise → Handled)
    (metadata : RouteTarget → RequestMetadata) (rejection : Str → Str → Rejection)
    (call : Nat → RouteTarget → RequestMetadata → Handling GatewayResponse) :
    Nat → List RouteTarget → Handling GatewayResponse
  | _, [] => Traced.fail (.providerFailure none)
  | attempt, target :: rest => do
      let _ ← guarded env (if env.cancelled (.beforeAttempt attempt) then
          .error (.requestCancelled none) else .ok ()) fun e =>
        some (rejection "cancelled" e.auditErrorType, e)
      observe env (.started (metadata target))
      let outcome ← (call attempt target (metadata target)).outcome
      match outcome with
      | .ok response =>
          match response.body with
          | .stream .. => pure response
          | _ => do
              observe env (.finished (metadata target) "completed" response.usage none)
              pure response
      | .error e =>
          match clauses (env.cancelled (.afterFailure attempt)) e with
          | .escapes => Traced.fail e
          | .finishes status usage errorType raised => do
              observe env (.finished (metadata target) status usage (some errorType))
              match raised with
              | some e => Traced.fail e
              | none => attempts env clauses metadata rejection call (attempt + 1) rest

end Execution

section Handlers

/-- `if not principal.permits(request.model)`. -/
def permitted (env : Collaborators) (rejection : Str → Str → Rejection)
    (principal : RequestPrincipal) (model : Str) : Handling Unit :=
  guarded env (if principal.permits model then .ok () else .error .modelNotPermitted) fun e =>
    some (rejection "rejected" e.auditErrorType, e)

/-- A parse whose ProtocolError is reported; what else it raises is not. -/
def parsed {Request : Type} (env : Collaborators) (rejection : Str → Str → Rejection)
    (result : Checked Request) : Handling Request :=
  guarded env (result.mapError Raise.ofRaised) fun e =>
    if e = .protocolError then
      some (rejection "rejected" Raise.invalidRequest.auditErrorType, .invalidRequest)
    else none

/-- `handle_openai_chat`, from a request id on. -/
def handleOpenaiChat (env : Collaborators) (maxRouteAttempts : Nat) (requestId : Str)
    (headers : List (Str × Str)) (payload : Dict) : Handling GatewayResponse := do
  let principal ← admission env requestId headers (payloadModel payload) (payloadStream payload)
  let request ← parsed env (fun status errorType =>
      { requestId, principal := some principal, status, errorType
        model := payloadModel payload, stream := payloadStream payload })
    (NormalizedInferenceRequest.fromOpenai (.dict payload))
  let rejection (status errorType : Str) : Rejection :=
    { requestId, principal := some principal, status, errorType
      model := some request.model, stream := some request.stream }
  permitted env rejection principal request.model
  let candidates ← route env maxRouteAttempts rejection (.chat (requestForRouting request)) principal
  let request ← guarded env (resolveMediaArtifacts env request principal) (reportMedia rejection)
  let metadata (target : RouteTarget) : RequestMetadata :=
    { requestId, model := request.model, stream := request.stream
      routeId := target.routeName, providerRef := target.providerRef, principal }
  attempts env chatClauses metadata rejection (fun attempt target metadata =>
    chatCall env attempt request target metadata) 0 candidates

/-- `handle_openai_embeddings`, from a request id on. -/
def handleOpenaiEmbeddings (env : Collaborators) (maxRouteAttempts : Nat) (requestId : Str)
    (headers : List (Str × Str)) (payload : Dict) : Handling GatewayResponse := do
  let principal ← admission env requestId headers (payloadModel payload) (some false)
  let request ← parsed env (fun status errorType =>
      { requestId, principal := some principal, status, errorType
        model := payloadModel payload, stream := some false })
    (NormalizedEmbeddingRequest.fromOpenai (.dict payload))
  let rejection (status errorType : Str) : Rejection :=
    { requestId, principal := some principal, status, errorType
      model := some request.model, stream := some false }
  permitted env rejection principal request.model
  let candidates ← route env maxRouteAttempts rejection (.embedding request) principal
  let metadata (target : RouteTarget) : RequestMetadata :=
    { requestId, model := request.model, stream := false
      routeId := target.routeName, providerRef := target.providerRef, principal }
  attempts env embeddingClauses metadata rejection (fun attempt target metadata =>
    embeddingCall env attempt request target metadata) 0 candidates

end Handlers

end CyreneExchange.Gateway
