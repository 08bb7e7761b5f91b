import CyreneExchange.General.Table
import CyreneExchange.General.Transaction
import CyreneExchange.Gateway.Handlers
import CyreneExchange.Product.Bodies

/-! The Exchange store: its tables, and the methods on endpoints, routes,
grants and idempotency keys. Each method is one immediate transaction. -/
namespace CyreneExchange.Product

open Integrations (UUID Timestamp)
open Transaction

structure EndpointRow where
  id : UUID
  document : GatewayEndpoint
deriving DecidableEq

/-- A route with its scope columns; the document never holds the organization. -/
structure RouteRow where
  id : UUID
  endpointId : UUID
  priority : Priority
  state : RouteState
  document : GatewayRoute
  organizationId : Option String
  workspaceId : Option String
deriving DecidableEq

/-- The scopes under which idempotency keys are kept, one for each text that
the service passes; the last part of a `…:v1:` text is a digest. -/
inductive IdempotencyScope where
  | createEndpoint
  | createRoute
  | createRouteDraft
  | createRouteDraftV1 (scopeDigest : String)
  | createWorkspaceBindingRouteDraftV1 (scopeDigest : String)
  | createApiKey
  | createApiKeyV1 (scopeDigest : String)
deriving DecidableEq

structure IdempotencyRow where
  scope : IdempotencyScope
  key : String
  requestHash : String
  resourceId : UUID
deriving DecidableEq

/-- A row of `api_credentials`. The identity holds its actor, workspace,
organization and reference columns; only API keys have an id. -/
structure CredentialRow where
  identity : ProductPrincipal
  tokenDigest : String
  enabled : Bool
  createdAt : Int
  apiKeyId : Option UUID := none
  name : Option String := none
  expiresAt : Option Int := none
  revokedAt : Option Int := none
  modelScope : Option (List String) := none
  resourceVersion : Nat := 1
deriving DecidableEq

inductive RequestAuditStatus where
  | started
  | completed
  | failed
  | cancelled
  | rejected
deriving DecidableEq, Repr

inductive UsageState where
  | unknown
  | partially
  | final
deriving DecidableEq, Repr

/-- A row of `request_audits`. -/
structure AuditRow where
  requestId : Gateway.Str
  routeId : Option Gateway.Str := none
  bindingId : Option Gateway.Str := none
  model : Option Gateway.Str
  stream : Option Bool
  actorId : Option Gateway.Str
  workspaceId : Option Gateway.Str
  credentialRef : Option Gateway.Str
  status : RequestAuditStatus
  startedAt : Int
  finishedAt : Option Int := none
  usageState : UsageState := .unknown
  promptTokens : Option Nat := none
  completionTokens : Option Nat := none
  totalTokens : Option Nat := none
  usageSource : Option Gateway.Str := none
  errorType : Option Gateway.Str := none
deriving DecidableEq

structure ExchangeStore where
  endpoints : List EndpointRow := []
  routes : List RouteRow := []
  workspaceEndpointGrants : List EndpointGrant := []
  workspaceReactorEndpointGrants : List EndpointGrant := []
  idempotency : List IdempotencyRow := []
  credentials : List CredentialRow := []
  tenantQuotas : List TenantQuota := []
  requestAudits : List AuditRow := []
deriving DecidableEq

abbrev StoreTransaction (Answer : Type) : Type := Transaction ExchangeStore Failure Answer

def endpointNotFound : ExchangeProductError where
  code := "EXCHANGE_ENDPOINT_NOT_FOUND"
  title := "GatewayEndpoint not found"
  detail := "No GatewayEndpoint exists with the requested id."
  status := 404

/-- The `EXCHANGE_SOURCE_PERMISSION_DENIED` errors of a draft. -/
def sourceNotPermitted (detail : String) : ExchangeProductError where
  code := "EXCHANGE_SOURCE_PERMISSION_DENIED"
  title := "Reactor Endpoint not permitted"
  detail := detail
  status := 403

/-- The `EXCHANGE_ROUTE_PERMISSION_DENIED` errors about an endpoint. -/
def endpointNotPermitted (detail : String) : ExchangeProductError where
  code := "EXCHANGE_ROUTE_PERMISSION_DENIED"
  title := "Endpoint not permitted"
  detail := detail
  status := 403

/-- The `EXCHANGE_ROUTE_VERSION_CONFLICT` errors. -/
def routeChanged (detail : String) : ExchangeProductError where
  code := "EXCHANGE_ROUTE_VERSION_CONFLICT"
  title := "Route changed"
  detail := detail
  status := 409

def idempotencyConflict : ExchangeProductError where
  code := "EXCHANGE_IDEMPOTENCY_CONFLICT"
  title := "Idempotency key conflict"
  detail := "The Idempotency-Key was already used with a different request body."
  status := 409

section Reads

/-- `_route_from_row`: the scope columns are the authority. -/
def RouteRow.route (row : RouteRow) : GatewayRoute :=
  { row.document with organizationId := row.organizationId, workspaceId := row.workspaceId }

def ExchangeStore.getEndpoint (s : ExchangeStore) (endpointId : UUID) : Option GatewayEndpoint :=
  (s.endpoints.find? fun row => decide (row.id = endpointId)).map EndpointRow.document

def ExchangeStore.findRoute (s : ExchangeStore) (routeId : UUID) : Option RouteRow :=
  s.routes.find? fun row => decide (row.id = routeId)

def ExchangeStore.getRoute (s : ExchangeStore) (routeId : UUID) : Option GatewayRoute :=
  (s.findRoute routeId).map RouteRow.route

/-- `get_legacy_route`: only rows without an organization. -/
def ExchangeStore.getLegacyRoute (s : ExchangeStore) (routeId : UUID) : Option GatewayRoute :=
  ((s.findRoute routeId).filter fun row => row.organizationId.isNone).map RouteRow.route

/-- Whether one of these grants covers the endpoint in this scope. -/
def granted (grants : List EndpointGrant) (endpointId : UUID) (organizationId : String)
    (workspaceId : Option String) : Bool :=
  grants.any fun grant => decide (grant.endpointId = endpointId) &&
    grant.organizationId == organizationId && some grant.workspaceId == workspaceId

def ExchangeStore.workspaceEndpointIsGranted (s : ExchangeStore) (endpointId : UUID)
    (organizationId : String) (workspaceId : Option String) : Bool :=
  granted s.workspaceEndpointGrants endpointId organizationId workspaceId

end Reads

/-- `INSERT OR REPLACE INTO gateway_endpoints`. -/
def saveEndpoint (endpoint : GatewayEndpoint) : StoreTransaction Unit :=
  store fun s => { s with
    endpoints := Table.deleteWhere (fun row => decide (row.id = endpoint.id)) s.endpoints ++
      [⟨endpoint.id, endpoint⟩] }

/-- The row that a route is written as. -/
def GatewayRoute.row (route : GatewayRoute) : RouteRow where
  id := route.id
  endpointId := route.endpointId
  priority := route.priority
  state := route.state
  document := { route with organizationId := none }
  organizationId := route.organizationId
  workspaceId := route.workspaceId

/-- The foreign key of `gateway_routes`. -/
def requireEndpoint (endpointId : UUID) : StoreTransaction Unit := do
  let endpoints ← fetch ExchangeStore.endpoints
  require (endpoints.any fun row => decide (row.id = endpointId)) .integrityError

/-- `INSERT OR REPLACE INTO gateway_routes`. -/
def saveRoute (route : GatewayRoute) : StoreTransaction Unit := do
  requireEndpoint route.endpointId
  store fun s => { s with
    routes := Table.deleteWhere (fun row => decide (row.id = route.id)) s.routes ++ [route.row] }

/-- `INSERT INTO gateway_routes`. -/
def insertRoute (route : GatewayRoute) : StoreTransaction Unit := do
  requireEndpoint route.endpointId
  let existing ← fetch fun s => s.findRoute route.id
  require existing.isNone .integrityError
  store fun s => { s with routes := s.routes ++ [route.row] }

def ExchangeStore.findIdempotency (s : ExchangeStore) (scope : IdempotencyScope) (key : String) :
    Option IdempotencyRow :=
  s.idempotency.find? fun row => decide ((row.scope, row.key) = (scope, key))

/-- `resolve_idempotency`. -/
def resolveIdempotency (scope : IdempotencyScope) (key : Option String) (digest : String) :
    StoreTransaction (Option UUID) :=
  match key with
  | none => pure none
  | some key => do
      match ← fetch fun s => s.findIdempotency scope key with
      | none => pure none
      | some row =>
          require (row.requestHash == digest) (.product idempotencyConflict)
          pure (some row.resourceId)

/-- `INSERT INTO idempotency`. -/
def insertIdempotency (scope : IdempotencyScope) (key digest : String) (resourceId : UUID) :
    StoreTransaction Unit := do
  let existing ← fetch fun s => s.findIdempotency scope key
  require existing.isNone .integrityError
  store fun s => { s with idempotency := s.idempotency ++ [⟨scope, key, digest, resourceId⟩] }

/-- `remember_idempotency`. -/
def rememberIdempotency (scope : IdempotencyScope) (key : Option String) (digest : String)
    (resourceId : UUID) : StoreTransaction Unit :=
  match key with
  | none => pure ()
  | some key => insertIdempotency scope key digest resourceId

/-- What a draft of an organization needs, checked where it is written. -/
def permitDraft (route : GatewayRoute) (reactorSourceEndpointId : Option UUID)
    (workspaceBindingRoute : Bool) : StoreTransaction Unit :=
  match route.organizationId with
  | none => pure ()
  | some organizationId => do
      let grants ← fetch ExchangeStore.workspaceEndpointGrants
      require (granted grants route.endpointId organizationId route.workspaceId)
        (.product (endpointNotPermitted
          "No operator grant permits this endpoint in the authenticated workspace."))
      let endpoint ← fetch fun s => s.getEndpoint route.endpointId
      require endpoint.isSome (.product endpointNotFound)
      match reactorSourceEndpointId with
      | none =>
          require (workspaceBindingRoute && route.source.isNone)
            (.product (sourceNotPermitted ("A server-resolved Reactor Endpoint or an " ++
              "operator-admitted binding is required for private drafts.")))
      | some sourceEndpointId =>
          let sources ← fetch ExchangeStore.workspaceReactorEndpointGrants
          require (granted sources sourceEndpointId organizationId route.workspaceId)
            (.product (sourceNotPermitted ("No operator grant permits this Reactor Endpoint " ++
              "in the authenticated workspace.")))

/-- The route a recorded draft key stands for. -/
def replayDraft (routeId : UUID) : StoreTransaction GatewayRoute := do
  match ← fetch fun s => s.getRoute routeId with
  | none => reject (.runtimeError "draft idempotency points to an absent route")
  | some existing => pure existing

/-- `create_route_draft`. -/
def createRouteDraft (route : GatewayRoute) (key digest : String) (scope : IdempotencyScope)
    (reactorSourceEndpointId : Option UUID) (workspaceBindingRoute : Bool) :
    StoreTransaction GatewayRoute := do
  permitDraft route reactorSourceEndpointId workspaceBindingRoute
  match ← resolveIdempotency scope (some key) digest with
  | some replay => replayDraft replay
  | none =>
      insertRoute route
      insertIdempotency scope key digest route.id
      pure route

/-- `configure_workspace_endpoint_grants`. -/
def configureWorkspaceEndpointGrants (grants : List EndpointGrant) : StoreTransaction Unit :=
  store fun s => { s with workspaceEndpointGrants := grants.dedup }

/-- `configure_workspace_reactor_endpoint_grants`. -/
def configureWorkspaceReactorEndpointGrants (grants : List EndpointGrant) :
    StoreTransaction Unit :=
  store fun s => { s with workspaceReactorEndpointGrants := grants.dedup }

/-- The columns an update of a route writes. -/
def RouteRow.rewritten (row : RouteRow) (route : GatewayRoute) : RouteRow :=
  { row with
    priority := route.priority
    state := route.state
    document := { route with organizationId := none }
    organizationId := route.organizationId
    workspaceId := route.workspaceId }

/-- `replace_route_version`: commit only if the inspected version still stands. -/
def replaceRouteVersion (route : GatewayRoute) (expected : Nat) :
    StoreTransaction GatewayRoute := do
  let current ← fetch fun s => s.getRoute route.id
  require (current.any fun found => found.resourceVersion == expected)
    (.product (routeChanged "Refresh the route before editing or confirming it."))
  store fun s => { s with
    routes := Table.updateWhere (fun row => decide (row.id = route.id))
      (fun row => row.rewritten route) s.routes }
  pure route

/-- `_migrate_gateway_route_scope`: rows without a workspace take the one of
their document. -/
def migrateGatewayRouteScope : StoreTransaction Unit :=
  store fun s => { s with
    routes := Table.updateWhere
      (fun row => row.workspaceId.isNone && row.document.workspaceId.any nonblank)
      (fun row => { row with workspaceId := row.document.workspaceId }) s.routes }

def saveTenantQuota (quota : TenantQuota) : StoreTransaction Unit :=
  store fun s => { s with
    tenantQuotas := Table.deleteWhere (fun row => row.tenantId == quota.tenantId)
      s.tenantQuotas ++ [quota] }

section Statements

variable {s t : ExchangeStore} {route : GatewayRoute}

@[simp] theorem route_row (route : GatewayRoute) : route.row.route = route := rfl

@[simp] theorem row_id (route : GatewayRoute) : route.row.id = route.id := rfl

theorem requireEndpoint_eq_ok {endpointId : UUID} {u : Unit}
    (h : requireEndpoint endpointId s = .ok (u, t)) : t = s := by
  obtain ⟨_, _, hFetch, hRequire⟩ := bind_eq_ok.mp h
  cases hFetch
  exact (require_eq_ok.mp hRequire).2.symm

/-- A saved route takes the place of any row with its id. -/
theorem saveRoute_eq_ok {u : Unit} (h : saveRoute route s = .ok (u, t)) :
    t = { s with
      routes := Table.deleteWhere (fun row => decide (row.id = route.id)) s.routes ++
        [route.row] } := by
  obtain ⟨_, _, hRequire, hStore⟩ := bind_eq_ok.mp h
  cases requireEndpoint_eq_ok hRequire
  cases hStore
  rfl

theorem insertRoute_eq_ok {u : Unit} (h : insertRoute route s = .ok (u, t)) :
    s.findRoute route.id = none ∧ t = { s with routes := s.routes ++ [route.row] } := by
  obtain ⟨_, _, hRequire, h⟩ := bind_eq_ok.mp h
  cases requireEndpoint_eq_ok hRequire
  obtain ⟨_, _, hFetch, h⟩ := bind_eq_ok.mp h
  cases hFetch
  obtain ⟨_, _, hRequire, hStore⟩ := bind_eq_ok.mp h
  obtain ⟨hNone, rfl⟩ := require_eq_ok.mp hRequire
  cases hStore
  exact ⟨Option.isNone_iff_eq_none.mp hNone, rfl⟩

theorem insertIdempotency_eq_ok {scope : IdempotencyScope} {key digest : String}
    {resourceId : UUID} {u : Unit} (h : insertIdempotency scope key digest resourceId s = .ok (u, t)) :
    s.findIdempotency scope key = none ∧
      t = { s with idempotency := s.idempotency ++ [⟨scope, key, digest, resourceId⟩] } := by
  obtain ⟨_, _, hFetch, h⟩ := bind_eq_ok.mp h
  cases hFetch
  obtain ⟨_, _, hRequire, hStore⟩ := bind_eq_ok.mp h
  obtain ⟨hNone, rfl⟩ := require_eq_ok.mp hRequire
  cases hStore
  exact ⟨Option.isNone_iff_eq_none.mp hNone, rfl⟩

theorem rememberIdempotency_eq_ok {scope : IdempotencyScope} {key : Option String}
    {digest : String} {resourceId : UUID} {u : Unit}
    (h : rememberIdempotency scope key digest resourceId s = .ok (u, t)) :
    (key = none ∧ t = s) ∨ ∃ text, key = some text ∧ s.findIdempotency scope text = none ∧
      t = { s with idempotency := s.idempotency ++ [⟨scope, text, digest, resourceId⟩] } := by
  cases key with
  | none =>
      cases h
      exact Or.inl ⟨rfl, rfl⟩
  | some text => exact Or.inr ⟨text, rfl, insertIdempotency_eq_ok h⟩

/-- Resolving a key reads it back, or finds none. -/
theorem resolveIdempotency_eq_ok {scope : IdempotencyScope} {key digest : String}
    {replay : Option UUID} (h : resolveIdempotency scope (some key) digest s = .ok (replay, t)) :
    t = s ∧ match replay with
      | none => s.findIdempotency scope key = none
      | some resourceId => ∃ row, s.findIdempotency scope key = some row ∧
          row.requestHash = digest ∧ row.resourceId = resourceId := by
  simp only [resolveIdempotency, fetch_bind] at h
  cases hFind : s.findIdempotency scope key with
  | none =>
      rw [hFind] at h
      cases h
      exact ⟨rfl, rfl⟩
  | some row =>
      rw [hFind] at h
      obtain ⟨_, _, hRequire, hPure⟩ := bind_eq_ok.mp h
      obtain ⟨hSame, rfl⟩ := require_eq_ok.mp hRequire
      cases hPure
      exact ⟨rfl, row, rfl, beq_iff_eq.mp hSame, rfl⟩

/-- A key recorded for another body is a conflict. -/
theorem resolveIdempotency_conflicts {scope : IdempotencyScope} {key digest : String}
    {row : IdempotencyRow} (hFind : s.findIdempotency scope key = some row)
    (hHash : row.requestHash ≠ digest) :
    resolveIdempotency scope (some key) digest s = .error (.product idempotencyConflict) := by
  simp only [resolveIdempotency, fetch_bind, hFind]
  exact bind_of_error (require_of_false (beq_eq_false_iff_ne.mpr hHash) _ _)

theorem permitDraft_eq_ok {reactorSourceEndpointId : Option UUID} {workspaceBindingRoute : Bool}
    {u : Unit}
    (h : permitDraft route reactorSourceEndpointId workspaceBindingRoute s = .ok (u, t)) :
    t = s := by
  unfold permitDraft at h
  cases hScope : route.organizationId with
  | none =>
      rw [hScope] at h
      cases h
      rfl
  | some organizationId =>
      simp only [hScope, fetch_bind] at h
      obtain ⟨_, _, hGrant, h⟩ := bind_eq_ok.mp h
      obtain ⟨-, rfl⟩ := require_eq_ok.mp hGrant
      simp only [fetch_bind] at h
      obtain ⟨_, _, hEndpoint, h⟩ := bind_eq_ok.mp h
      obtain ⟨-, rfl⟩ := require_eq_ok.mp hEndpoint
      cases reactorSourceEndpointId with
      | none => exact (require_eq_ok.mp h).2.symm
      | some sourceEndpointId => exact (require_eq_ok.mp h).2.symm

theorem replayDraft_eq_ok {routeId : UUID} {answer : GatewayRoute}
    (h : replayDraft routeId s = .ok (answer, t)) : t = s ∧ s.getRoute routeId = some answer := by
  simp only [replayDraft, fetch_bind] at h
  cases hRoute : s.getRoute routeId with
  | none => simp [hRoute] at h
  | some existing =>
      simp only [hRoute, pure_apply, Except.ok.injEq, Prod.mk.injEq] at h
      exact ⟨h.2.symm, congrArg some h.1⟩

/-- What a committed draft call did: replay the route of the key, or insert
the new one together with its key. -/
theorem createRouteDraft_eq_ok {key digest : String} {scope : IdempotencyScope}
    {reactorSourceEndpointId : Option UUID} {workspaceBindingRoute : Bool} {answer : GatewayRoute}
    (h : createRouteDraft route key digest scope reactorSourceEndpointId workspaceBindingRoute s =
      .ok (answer, t)) :
    (t = s ∧ ∃ row, s.findIdempotency scope key = some row ∧ row.requestHash = digest ∧
        s.getRoute row.resourceId = some answer) ∨
      (answer = route ∧ s.findIdempotency scope key = none ∧ s.findRoute route.id = none ∧
        t = { s with
          routes := s.routes ++ [route.row]
          idempotency := s.idempotency ++ [⟨scope, key, digest, route.id⟩] }) := by
  obtain ⟨_, _, hPermit, h⟩ := bind_eq_ok.mp h
  cases permitDraft_eq_ok hPermit
  obtain ⟨replay, _, hResolve, h⟩ := bind_eq_ok.mp h
  obtain ⟨rfl, hReplay⟩ := resolveIdempotency_eq_ok hResolve
  cases replay with
  | some resourceId =>
      obtain ⟨row, hFind, hHash, rfl⟩ := hReplay
      obtain ⟨rfl, hRoute⟩ := replayDraft_eq_ok h
      exact Or.inl ⟨rfl, row, hFind, hHash, hRoute⟩
  | none =>
      obtain ⟨_, _, hInsert, h⟩ := bind_eq_ok.mp h
      obtain ⟨hAbsent, rfl⟩ := insertRoute_eq_ok hInsert
      obtain ⟨_, _, hKey, hPure⟩ := bind_eq_ok.mp h
      obtain ⟨-, rfl⟩ := insertIdempotency_eq_ok hKey
      cases hPure
      exact Or.inr ⟨rfl, hReplay, hAbsent, rfl⟩

/-- What a draft of an organization needs: the grant and the endpoint, and a
granted source unless the draft names an admitted binding. -/
def ExchangeStore.Permits (s : ExchangeStore) (route : GatewayRoute)
    (reactorSourceEndpointId : Option UUID) (workspaceBindingRoute : Bool) : Prop :=
  ∀ organizationId, route.organizationId = some organizationId →
    granted s.workspaceEndpointGrants route.endpointId organizationId route.workspaceId = true ∧
      (s.getEndpoint route.endpointId).isSome = true ∧
        match reactorSourceEndpointId with
        | none => (workspaceBindingRoute && route.source.isNone) = true
        | some sourceEndpointId =>
            granted s.workspaceReactorEndpointGrants sourceEndpointId organizationId
              route.workspaceId = true

theorem permitDraft_of_permits {reactorSourceEndpointId : Option UUID}
    {workspaceBindingRoute : Bool}
    (h : s.Permits route reactorSourceEndpointId workspaceBindingRoute) :
    permitDraft route reactorSourceEndpointId workspaceBindingRoute s = .ok ((), s) := by
  unfold permitDraft
  cases hScope : route.organizationId with
  | none => rfl
  | some organizationId =>
      obtain ⟨hGrant, hEndpoint, hSource⟩ := h organizationId hScope
      simp only [fetch_bind]
      rw [bind_of_ok (require_of_true hGrant _ s)]
      simp only [fetch_bind]
      rw [bind_of_ok (require_of_true hEndpoint _ s)]
      cases reactorSourceEndpointId with
      | none => exact require_of_true hSource _ s
      | some sourceEndpointId => exact require_of_true hSource _ s

theorem insertRoute_of_new (hEndpoint : (s.getEndpoint route.endpointId).isSome = true)
    (hNew : s.findRoute route.id = none) :
    insertRoute route s = .ok ((), { s with routes := s.routes ++ [route.row] }) := by
  have hForeign : requireEndpoint route.endpointId s = .ok ((), s) := by
    refine require_of_true ?_ _ s
    rw [ExchangeStore.getEndpoint, Option.isSome_map, List.find?_isSome] at hEndpoint
    exact List.any_eq_true.mpr hEndpoint
  unfold insertRoute
  rw [bind_of_ok hForeign, fetch_bind, bind_of_ok (require_of_true (by rw [hNew]; rfl) _ s)]
  rfl

theorem insertIdempotency_of_open {scope : IdempotencyScope} {key digest : String}
    {resourceId : UUID} (hOpen : s.findIdempotency scope key = none) :
    insertIdempotency scope key digest resourceId s = .ok ((), { s with
      idempotency := s.idempotency ++ [⟨scope, key, digest, resourceId⟩] }) := by
  unfold insertIdempotency
  rw [fetch_bind, bind_of_ok (require_of_true (by rw [hOpen]; rfl) _ s)]
  rfl

theorem resolveIdempotency_of_open {scope : IdempotencyScope} {key digest : String}
    (hOpen : s.findIdempotency scope key = none) :
    resolveIdempotency scope (some key) digest s = .ok (none, s) := by
  simp only [resolveIdempotency, fetch_bind, hOpen]
  rfl

/-- A permitted draft under an open key is inserted together with its key. -/
theorem createRouteDraft_of_open {key : String} {scope : IdempotencyScope}
    {reactorSourceEndpointId : Option UUID} {workspaceBindingRoute : Bool} (digest : String)
    (hPermits : s.Permits route reactorSourceEndpointId workspaceBindingRoute)
    (hOpen : s.findIdempotency scope key = none)
    (hEndpoint : (s.getEndpoint route.endpointId).isSome = true)
    (hNew : s.findRoute route.id = none) :
    createRouteDraft route key digest scope reactorSourceEndpointId workspaceBindingRoute s =
      .ok (route, { s with
        routes := s.routes ++ [route.row]
        idempotency := s.idempotency ++ [⟨scope, key, digest, route.id⟩] }) := by
  unfold createRouteDraft
  rw [bind_of_ok (permitDraft_of_permits hPermits), bind_of_ok (resolveIdempotency_of_open hOpen)]
  dsimp only
  rw [bind_of_ok (insertRoute_of_new hEndpoint hNew)]
  have hStillOpen : ({ s with routes := s.routes ++ [route.row] } :
      ExchangeStore).findIdempotency scope key = none := hOpen
  rw [bind_of_ok (insertIdempotency_of_open hStillOpen)]
  rfl

/-- A committed replacement found the expected version. -/
theorem replaceRouteVersion_eq_ok {expected : Nat} {answer : GatewayRoute}
    (h : replaceRouteVersion route expected s = .ok (answer, t)) :
    answer = route ∧ (∃ row, s.findRoute route.id = some row ∧
        row.document.resourceVersion = expected) ∧
      t = { s with
        routes := Table.updateWhere (fun row => decide (row.id = route.id))
          (fun row => row.rewritten route) s.routes } := by
  simp only [replaceRouteVersion, fetch_bind] at h
  obtain ⟨_, _, hRequire, h⟩ := bind_eq_ok.mp h
  obtain ⟨hVersion, rfl⟩ := require_eq_ok.mp hRequire
  cases h
  refine ⟨rfl, ?_, rfl⟩
  cases hFind : s.findRoute route.id with
  | none => simp [ExchangeStore.getRoute, hFind] at hVersion
  | some row =>
      refine ⟨row, rfl, ?_⟩
      simpa [ExchangeStore.getRoute, hFind, RouteRow.route] using hVersion

end Statements

end CyreneExchange.Product
