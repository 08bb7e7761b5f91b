import CyreneExchange.General.Flights
import CyreneExchange.Product.Calls

/-! The Product service, cut where another request can run: each store call and
the target validation is a step of its own. -/
namespace CyreneExchange.Product

open Integrations (Json UUID Timestamp strip)
open Transaction

section Errors

def controlPermissionDenied : ExchangeProductError where
  code := "EXCHANGE_CONTROL_PERMISSION_DENIED"
  title := "Workspace scope required"
  detail := "Use a control credential configured with organization and workspace scope."
  status := 403

def routeNotFound (detail : String) : ExchangeProductError where
  code := "EXCHANGE_ROUTE_NOT_FOUND"
  title := "GatewayRoute not found"
  detail := detail
  status := 404

def routeNotPermitted (detail : String) : ExchangeProductError where
  code := "EXCHANGE_ROUTE_PERMISSION_DENIED"
  title := "Route not permitted"
  detail := detail
  status := 403

def routeNotDraft (detail : String) : ExchangeProductError where
  code := "EXCHANGE_ROUTE_NOT_DRAFT"
  title := "Route is not a draft"
  detail := detail
  status := 409

def endpointDisabled : ExchangeProductError where
  code := "EXCHANGE_ENDPOINT_DISABLED"
  title := "Endpoint disabled"
  detail := "Select an active gateway endpoint before confirming this route."
  status := 409

def apiKeyExpiryInvalid : ExchangeProductError where
  code := "EXCHANGE_API_KEY_EXPIRY_INVALID"
  title := "API key expiry is invalid"
  detail := "Choose an expiry that is after the current time."
  status := 422

def apiKeyScopeInvalid : ExchangeProductError where
  code := "EXCHANGE_API_KEY_SCOPE_INVALID"
  title := "API key model scope is invalid"
  detail := "Model scope patterns must be non-empty text."
  status := 422

def apiKeyNotFound (detail : String) : ExchangeProductError where
  code := "EXCHANGE_API_KEY_NOT_FOUND"
  title := "API key not found"
  detail := detail
  status := 404

end Errors

/-- What the environment contributes to one step; a step uses what it needs.
`validation` is the exception of `validate_target`, if it raises one. -/
structure Moment where
  now : Timestamp := 0
  unixMs : Int := 0
  draw : UUID
  token : String := ""
  validation : Option Failure := none
deriving DecidableEq

/-- The commands of `create_endpoint` and `create_route`. -/
inductive CreateCommand where
  | endpoint (command : CreateEndpointRequest)
  | route (command : CreateRouteRequest)
deriving DecidableEq

/-- What they create. -/
inductive Resource where
  | endpoint (endpoint : GatewayEndpoint)
  | route (route : GatewayRoute)
deriving DecidableEq

def Resource.id : Resource → UUID
  | .endpoint created => created.id
  | .route created => created.id

def Resource.save : Resource → StoreCall
  | .endpoint created => .saveEndpoint created
  | .route created => .saveRoute created

namespace CreateCommand

def scope : CreateCommand → IdempotencyScope
  | .endpoint .. => .createEndpoint
  | .route .. => .createRoute

def body : CreateCommand → Json
  | .endpoint command => command.body
  | .route command => command.body

def digest (host : Host) (command : CreateCommand) : String := requestHash host command.body

/-- The resource built for a request that is no replay. -/
def create (moment : Moment) : CreateCommand → Resource
  | .endpoint command => .endpoint
      { id := moment.draw, name := command.name, publicBaseUrl := command.publicBaseUrl
        authPolicyRef := command.authPolicyRef, createdAt := moment.now, updatedAt := moment.now
        resourceVersion := 1 }
  | .route command => .route
      { id := moment.draw, endpointId := command.endpointId, modelPattern := command.modelPattern
        targetBindingId := command.targetBindingId, targetModel := command.targetModel
        priority := command.priority, createdAt := moment.now, updatedAt := moment.now
        resourceVersion := 1 }

end CreateCommand

/-- The commands of `create_route_draft`, `create_scoped_route_draft` and
`create_workspace_binding_route_draft`. -/
inductive DraftCommand where
  | routeDraft (command : CreateRouteDraftRequest)
  | scopedRouteDraft (command : CreateRouteDraftRequest)
      (idempotencyCommand : CreateWorkspaceRouteDraftRequest) (reactorSourceEndpointId : UUID)
  | workspaceBindingRouteDraft (command : CreateWorkspaceBindingRouteDraftRequest)
deriving DecidableEq

/-- The digest of an organization and workspace in idempotency scopes. -/
def scopeDigest (host : Host) (organizationId workspaceId : String) : String :=
  host.hexdigest (organizationId ++ "\x00" ++ workspaceId)

namespace DraftCommand

/-- Drafts of a workspace need a principal of an organization. -/
def needsOrganization : DraftCommand → Bool
  | .routeDraft _ => false
  | .scopedRouteDraft .. | .workspaceBindingRouteDraft _ => true

/-- The draft as built from the command and the principal. -/
def route (principal : ProductPrincipal) (moment : Moment) : DraftCommand → GatewayRoute
  | .routeDraft command =>
      { id := moment.draw, endpointId := command.endpointId, state := .draft
        modelPattern := command.modelPattern, targetBindingId := command.targetBindingId
        targetModel := some command.targetModel, priority := command.priority
        createdAt := moment.now, updatedAt := moment.now, resourceVersion := 1
        source := some command.source, createdBy := some principal.actorId
        workspaceId := some principal.workspaceId }
  | .scopedRouteDraft command _ _ =>
      { id := moment.draw, endpointId := command.endpointId, state := .draft
        modelPattern := command.modelPattern, targetBindingId := command.targetBindingId
        targetModel := some command.targetModel, priority := command.priority
        createdAt := moment.now, updatedAt := moment.now, resourceVersion := 1
        source := some command.source, createdBy := some principal.actorId
        workspaceId := some principal.workspaceId, organizationId := principal.organizationId }
  | .workspaceBindingRouteDraft command =>
      { id := moment.draw, endpointId := command.endpointId, state := .draft
        modelPattern := command.modelPattern, targetBindingId := command.targetBindingId
        targetModel := some command.targetModel, priority := command.priority
        createdAt := moment.now, updatedAt := moment.now, resourceVersion := 1
        createdBy := some principal.actorId, workspaceId := some principal.workspaceId
        organizationId := principal.organizationId }

def scope (host : Host) (principal : ProductPrincipal) : DraftCommand → IdempotencyScope
  | .routeDraft _ => .createRouteDraft
  | .scopedRouteDraft .. => .createRouteDraftV1
      (scopeDigest host (principal.organizationId.getD "") principal.workspaceId)
  | .workspaceBindingRouteDraft _ => .createWorkspaceBindingRouteDraftV1
      (scopeDigest host (principal.organizationId.getD "") principal.workspaceId)

/-- The body that a replay must repeat. -/
def body : DraftCommand → Json
  | .routeDraft command => command.body
  | .scopedRouteDraft _ idempotencyCommand _ => idempotencyCommand.body
  | .workspaceBindingRouteDraft command => command.body

/-- What the digest binds the body to. -/
def parts (principal : ProductPrincipal) (command : DraftCommand) : List String :=
  if command.needsOrganization then
    [principal.organizationId.getD "", principal.workspaceId, principal.actorId]
  else [principal.workspaceId, principal.actorId]

def source (host : Host) (principal : ProductPrincipal) (command : DraftCommand) : String :=
  digestSource host command.body (command.parts principal)

def digest (host : Host) (principal : ProductPrincipal) (command : DraftCommand) : String :=
  host.hexdigest (command.source host principal)

def reactorSourceEndpointId : DraftCommand → Option UUID
  | .scopedRouteDraft _ _ reactorSourceEndpointId => some reactorSourceEndpointId
  | .routeDraft _ | .workspaceBindingRouteDraft _ => none

def workspaceBindingRoute : DraftCommand → Bool
  | .workspaceBindingRouteDraft _ => true
  | .routeDraft _ | .scopedRouteDraft .. => false

def endpointId : DraftCommand → UUID
  | .routeDraft command => command.endpointId
  | .scopedRouteDraft command _ _ => command.endpointId
  | .workspaceBindingRouteDraft command => command.endpointId

end DraftCommand

namespace CreateApiKeyRequest

def scope (host : Host) (principal : ProductPrincipal) : IdempotencyScope :=
  match principal.organizationId with
  | none => .createApiKey
  | some organizationId => .createApiKeyV1 (scopeDigest host organizationId principal.workspaceId)

/-- `digest_source`. -/
def source (host : Host) (principal : ProductPrincipal) (command : CreateApiKeyRequest) : String :=
  digestSource host command.body
    ([principal.workspaceId, principal.actorId] ++ principal.organizationId.toList)

def digest (host : Host) (principal : ProductPrincipal) (command : CreateApiKeyRequest) : String :=
  host.hexdigest (command.source host principal)

/-- What `create_api_key` checks before it reaches the store. -/
def refusal (principal : ProductPrincipal) (moment : Moment) (command : CreateApiKeyRequest) :
    Option Failure :=
  if command.expiresAt.any fun expiry => decide (expiry.instant ≤ moment.now) then
    some (.product apiKeyExpiryInvalid)
  else if command.modelScope.any fun pattern => strip pattern == "" then
    some (.product apiKeyScopeInvalid)
  else if fitsApiKey principal then none
  else some .validationError

/-- `f"api-key://{identifier}"` for the principal that asks. -/
def identity (principal : ProductPrincipal) (identifier : UUID) : ProductPrincipal :=
  { principal with
    credentialRef := "api-key://" ++ identifier.text
    nonempty := by
      have hPrincipal := principal.nonempty
      simp only [Bool.and_eq_true] at hPrincipal ⊢
      refine ⟨⟨⟨hPrincipal.1.1.1, hPrincipal.1.1.2⟩, ?_⟩, hPrincipal.2⟩
      rw [nonblank_append]
      rfl }

def apiKey (principal : ProductPrincipal) (moment : Moment) (command : CreateApiKeyRequest) :
    ApiKey where
  id := moment.draw
  name := command.name.text
  identity := identity principal moment.draw
  state := .active
  modelScope := command.modelScope.map strip
  createdAt := moment.now
  updatedAt := moment.now
  expiresAt := command.expiresAt.map ExpiresAt.instant
  resourceVersion := 1

end CreateApiKeyRequest

/-- `"cyk_" + secrets.token_urlsafe(32)`. -/
def Moment.secret (moment : Moment) : String := "cyk_" ++ moment.token

/-- What is done with a draft that has been read. -/
inductive DraftAction where
  | edit (command : EditRouteDraftRequest)
  | confirm (version : Nat)
  | confirmWorkspace (version : Nat)
deriving DecidableEq

inductive ServiceRequest where
  | createEndpoint (command : CreateEndpointRequest) (key : Option String)
  | createRoute (command : CreateRouteRequest) (key : Option String)
  | createDraft (command : DraftCommand) (key : String)
  | editRouteDraft (routeId : UUID) (command : EditRouteDraftRequest)
  | confirmRouteDraft (routeId : UUID) (version : Nat)
  | confirmWorkspaceRouteDraft (routeId : UUID) (version : Nat)
  | disableEndpoint (endpointId : UUID)
  | createApiKey (command : CreateApiKeyRequest) (key : Option String)
  | revokeApiKey (apiKeyId : UUID)
deriving DecidableEq

inductive ServiceAnswer where
  | resource (resource : Resource)
  | createdApiKey (created : CreatedApiKey)
  | apiKey (apiKey : ApiKey)
deriving DecidableEq

/-- Where a request stands, with what it carries along. -/
inductive ServiceStage where
  | finding (command : CreateRouteRequest) (key : Option String)
  | resolving (command : CreateCommand) (key : Option String)
  | replaying (command : CreateCommand) (resourceId : UUID)
  | saving (command : CreateCommand) (key : Option String)
  | remembering (command : CreateCommand) (key : Option String) (resource : Resource)
  | locating (command : DraftCommand) (key : String)
  | drafting (command : DraftCommand) (key : String)
  | reading (routeId : UUID) (action : DraftAction)
  | editing (route : GatewayRoute) (command : EditRouteDraftRequest)
  | permitting (route : GatewayRoute) (version : Nat)
  | inspecting (route : GatewayRoute) (version : Nat)
  | validating (route : GatewayRoute) (version : Nat)
  | publishing (route : GatewayRoute) (version : Nat)
  | checking (endpointId : UUID)
  | disabling (endpoint : GatewayEndpoint)
  | issuing (command : CreateApiKeyRequest) (key : Option String)
  | owning (apiKeyId : UUID)
  | revoking (apiKeyId : UUID)
  | done (outcome : Except Failure ServiceAnswer)
deriving DecidableEq

namespace ServiceStage

/-- The request ends with this error. -/
def fails (error : ExchangeProductError) : ServiceStage := .done (.error (.product error))

end ServiceStage

/-- The first stage of a request. -/
def ServiceRequest.arrives (principal : ProductPrincipal) : ServiceRequest → ServiceStage
  | .createEndpoint command key => .resolving (.endpoint command) key
  | .createRoute command key => .finding command key
  | .createDraft command key =>
      if command.needsOrganization && principal.organizationId.isNone then .fails controlPermissionDenied
      else match command with
        | .scopedRouteDraft .. => .drafting command key
        | .routeDraft _ | .workspaceBindingRouteDraft _ => .locating command key
  | .editRouteDraft routeId command => .reading routeId (.edit command)
  | .confirmRouteDraft routeId version => .reading routeId (.confirm version)
  | .confirmWorkspaceRouteDraft routeId version => .reading routeId (.confirmWorkspace version)
  | .disableEndpoint endpointId => .checking endpointId
  | .createApiKey command key => .issuing command key
  | .revokeApiKey apiKeyId => .owning apiKeyId

/-- `_owned_draft`. -/
def ownedDraft (principal : ProductPrincipal) (routeId : UUID) (s : ExchangeStore) :
    Except Failure GatewayRoute :=
  match s.getLegacyRoute routeId with
  | none => .error (.product (routeNotFound "No legacy GatewayRoute exists with the requested id."))
  | some route =>
      if route.workspaceId ≠ some principal.workspaceId ∨
          route.createdBy ≠ some principal.actorId then
        .error (.product (routeNotPermitted "The draft belongs to another actor or workspace."))
      else if route.state ≠ .draft then
        .error (.product (routeNotDraft
          "Only DRAFT routes can be edited or confirmed through this action."))
      else .ok route

/-- `get_owned_workspace_draft`. -/
def ownedWorkspaceDraft (principal : ProductPrincipal) (routeId : UUID) (s : ExchangeStore) :
    Except Failure GatewayRoute :=
  let absent : Failure :=
    .product (routeNotFound "No GatewayRoute exists in the authenticated workspace.")
  match s.getRoute routeId with
  | none => .error absent
  | some route =>
      if route.organizationId ≠ principal.organizationId ∨
          route.workspaceId ≠ some principal.workspaceId then .error absent
      else if route.createdBy ≠ some principal.actorId then
        .error (.product (routeNotPermitted "The draft belongs to another actor."))
      else if route.state ≠ .draft then
        .error (.product (routeNotDraft
          "Only DRAFT routes can be confirmed through this action."))
      else .ok route

/-- The document an edit writes. -/
def GatewayRoute.edited (route : GatewayRoute) (command : EditRouteDraftRequest)
    (now : Timestamp) : GatewayRoute :=
  { route with
    modelPattern := command.modelPattern
    targetBindingId := command.targetBindingId
    targetModel := some command.targetModel
    priority := command.priority
    updatedAt := now
    resourceVersion := command.resourceVersion + 1 }

/-- The document a confirmation writes. -/
def GatewayRoute.published (route : GatewayRoute) (version : Nat) (now : Timestamp) :
    GatewayRoute :=
  { route with
    state := .active
    updatedAt := now
    resourceVersion := version + 1 }

def GatewayEndpoint.disabled (endpoint : GatewayEndpoint) (now : Timestamp) : GatewayEndpoint :=
  { endpoint with
    state := .disabled
    updatedAt := now
    resourceVersion := endpoint.resourceVersion + 1 }

/-- The stage after a draft was read: the version that a confirmation names
must be the one read. -/
def DraftAction.begins (route : GatewayRoute) : DraftAction → ServiceStage
  | .edit command => .editing route command
  | .confirm version =>
      if route.resourceVersion ≠ version then
        .fails (routeChanged "Refresh and inspect the current draft before confirming.")
      else .inspecting route version
  | .confirmWorkspace version =>
      if route.resourceVersion ≠ version then
        .fails (routeChanged "Refresh and inspect the current draft before confirming.")
      else .permitting route version

/-- Who may read the draft. -/
def DraftAction.owned (principal : ProductPrincipal) (routeId : UUID) (s : ExchangeStore) :
    DraftAction → Except Failure GatewayRoute
  | .edit _ | .confirm _ => ownedDraft principal routeId s
  | .confirmWorkspace _ => ownedWorkspaceDraft principal routeId s

/-- `_key_in_scope`. -/
def keyInScope (apiKey : ApiKey) (principal : ProductPrincipal) : Bool :=
  apiKey.identity.workspaceId == principal.workspaceId &&
    apiKey.identity.organizationId == principal.organizationId

/-- The writing store method that a stage calls next. -/
def ServiceStage.call (host : Host) (principal : ProductPrincipal) (moment : Moment) :
    ServiceStage → Option StoreCall
  | .saving command _ => some (command.create moment).save
  | .remembering command key resource =>
      some (.rememberIdempotency command.scope key (command.digest host) resource.id)
  | .drafting command key =>
      some (.createRouteDraft (command.route principal moment) key (command.digest host principal)
        (command.scope host principal) command.reactorSourceEndpointId
        command.workspaceBindingRoute)
  | .editing route command =>
      some (.replaceRouteVersion (route.edited command moment.now) command.resourceVersion)
  | .publishing route version =>
      some (.replaceRouteVersion (route.published version moment.now) version)
  | .disabling endpoint => some (.saveEndpoint (endpoint.disabled moment.now))
  | .issuing command key =>
      match command.refusal principal moment with
      | some _ => none
      | none => some (.createApiKey (command.apiKey principal moment)
          (host.hexdigest moment.secret) key (command.digest host principal)
          (CreateApiKeyRequest.scope host principal) moment.unixMs)
  | .revoking apiKeyId => some (.revokeApiKey apiKeyId moment.unixMs)
  | .finding .. | .resolving .. | .replaying .. | .locating .. | .reading .. | .permitting ..
  | .inspecting .. | .validating .. | .checking .. | .owning .. | .done .. => none

/-- The stage after that method answered. -/
def ServiceStage.answered (moment : Moment) (stage : ServiceStage)
    (answer : Except Failure StoreAnswer) : ServiceStage :=
  match stage, answer with
  | .done outcome, _ => .done outcome
  | _, .error failure => .done (.error failure)
  | .saving command key, .ok _ => .remembering command key (command.create moment)
  | .remembering _ _ resource, .ok _ => .done (.ok (.resource resource))
  | .disabling endpoint, .ok _ =>
      .done (.ok (.resource (.endpoint (endpoint.disabled moment.now))))
  | _, .ok (.route route) => .done (.ok (.resource (.route route)))
  | _, .ok (.apiKey apiKey created) =>
      .done (.ok (.createdApiKey ⟨apiKey, if created then some moment.secret else none⟩))
  | _, .ok (.revoked (some apiKey)) => .done (.ok (.apiKey apiKey))
  | _, .ok (.revoked none) =>
      .fails (apiKeyNotFound "No API key exists with the requested id.")
  | stage, .ok _ => stage

/-- The stage after a step that writes nothing. -/
def ServiceStage.proceeds (host : Host) (principal : ProductPrincipal) (moment : Moment)
    (s : ExchangeStore) : ServiceStage → ServiceStage
  | .finding command key =>
      match s.getEndpoint command.endpointId with
      | none => .fails endpointNotFound
      | some _ => .resolving (.route command) key
  | .resolving command key =>
      match (commit (resolveIdempotency command.scope key (command.digest host)) s).1 with
      | .error failure => .done (.error failure)
      | .ok (some replayId) => .replaying command replayId
      | .ok none => .saving command key
  | .replaying (.endpoint _) resourceId =>
      match s.getEndpoint resourceId with
      | none => .fails endpointNotFound
      | some endpoint => .done (.ok (.resource (.endpoint endpoint)))
  | .replaying (.route _) resourceId =>
      match s.getRoute resourceId with
      | none => .fails (routeNotFound "No GatewayRoute exists with the requested id.")
      | some route => .done (.ok (.resource (.route route)))
  | .locating command key =>
      match s.getEndpoint command.endpointId with
      | none => .fails endpointNotFound
      | some _ => .drafting command key
  | .reading routeId action =>
      match action.owned principal routeId s with
      | .error failure => .done (.error failure)
      | .ok route => action.begins route
  | .permitting route version =>
      if principal.organizationId.any fun organizationId =>
          s.workspaceEndpointIsGranted route.endpointId organizationId
            (some principal.workspaceId) then
        .inspecting route version
      else .fails (endpointNotPermitted
        "No current operator grant permits this destination in the workspace.")
  | .inspecting route version =>
      match s.getEndpoint route.endpointId with
      | none => .fails endpointNotFound
      | some endpoint =>
          if endpoint.state ≠ .active then .fails endpointDisabled
          else .validating route version
  | .validating route version =>
      match moment.validation with
      | some failure => .done (.error failure)
      | none => .publishing route version
  | .checking endpointId =>
      match s.getEndpoint endpointId with
      | none => .fails endpointNotFound
      | some endpoint =>
          if endpoint.state = .disabled then .done (.ok (.resource (.endpoint endpoint)))
          else .disabling endpoint
  | .issuing command key =>
      match command.refusal principal moment with
      | some failure => .done (.error failure)
      | none => .issuing command key
  | .owning apiKeyId =>
      match (commit (readApiKey host apiKeyId) s).1 with
      | .error failure => .done (.error failure)
      | .ok none =>
          .fails (apiKeyNotFound "No API key exists with the requested id in this workspace.")
      | .ok (some apiKey) =>
          if keyInScope apiKey principal then .revoking apiKeyId
          else .fails (apiKeyNotFound
            "No API key exists with the requested id in this workspace.")
  | stage => stage

/-- A request of a principal under way. -/
structure ServiceFlight where
  principal : ProductPrincipal
  request : ServiceRequest
  stage : ServiceStage
deriving DecidableEq

/-- A request as a principal sends it. -/
structure ServiceArrival where
  principal : ProductPrincipal
  request : ServiceRequest
deriving DecidableEq

def ServiceArrival.flight (arrival : ServiceArrival) : ServiceFlight :=
  ⟨arrival.principal, arrival.request, arrival.request.arrives arrival.principal⟩

/-- One step of one request. -/
def ServiceFlight.move (host : Host) (moment : Moment) (flight : ServiceFlight)
    (s : ExchangeStore) : ServiceFlight × ExchangeStore :=
  match flight.stage.call host flight.principal moment with
  | none =>
      ({ flight with stage := flight.stage.proceeds host flight.principal moment s }, s)
  | some call =>
      ({ flight with stage := flight.stage.answered moment (storeStep host call s).1 },
        (storeStep host call s).2)

abbrev ServiceSystem : Type := Flights.System ExchangeStore ServiceFlight

abbrev ServiceInput : Type := Flights.Input ServiceArrival Moment OperatorCall

/-- The service over its store, with the calls that bypass it. -/
def serviceRules (host : Host) :
    Flights.Rules ExchangeStore ServiceFlight ServiceArrival Moment OperatorCall where
  start := ServiceArrival.flight
  move := ServiceFlight.move host
  operate := fun call s => (storeStep host (.operator call) s).2

/-- One step of the system; the requests move in any order. -/
def serviceStep (host : Host) : ServiceInput → ServiceSystem → Unit × ServiceSystem :=
  Flights.step (serviceRules host)

/-- `uuid4()` yields no id that the table already has. -/
def CreateCommand.fresh (draw : UUID) (s : ExchangeStore) : CreateCommand → Bool
  | .endpoint .. => s.endpoints.all fun row => decide (row.id ≠ draw)
  | .route .. => s.routes.all fun row => decide (row.id ≠ draw)

/-- The promise of `uuid4()` where an id is saved without a check. -/
def drawsFresh (system : ServiceSystem) : ServiceInput → Bool
  | .advance index moment =>
      match (system.flights[index]?).map ServiceFlight.stage with
      | some (.saving command _) => command.fresh moment.draw system.store
      | _ => true
  | .arrive _ | .operate _ => true

section Sample

theorem sampleUuid_canonical (digit : Char) :
    ("00000000-0000-4000-8000-00000000000" ++ String.singleton digit).length = 36 := by
  rw [String.length_append, String.length_singleton]
  rfl

def sampleUuid (digit : Char) : UUID where
  text := "00000000-0000-4000-8000-00000000000" ++ String.singleton digit
  canonical := sampleUuid_canonical digit

/-- A platform that tells texts apart by their lengths. -/
def sampleHost : Host where
  hexdigest := fun text => String.ofList
    (List.replicate (text.length % 65) 'a' ++ List.replicate (64 - text.length % 65) '0')
  length_hexdigest := by
    intro text
    rw [String.length_ofList, List.length_append, List.length_replicate, List.length_replicate]
    have hLess : text.length % 65 < 65 := Nat.mod_lt _ (by decide)
    omega
  toUnixMs := fun instant => instant / 1000
  fromUnixMs := fun unixMs => unixMs * 1000

def sampleOperator : ProductPrincipal where
  actorId := "operator"
  workspaceId := "workspace"
  credentialRef := "cred://operator"
  nonempty := by decide +kernel

def sampleArrival (request : ServiceRequest) : ServiceInput := .arrive ⟨sampleOperator, request⟩

/-- One step of a request; the digit tells the id it may draw. -/
def sampleAdvance (index : Nat) (digit : Char) : ServiceInput :=
  .advance index { draw := sampleUuid digit }

end Sample

end CyreneExchange.Product
