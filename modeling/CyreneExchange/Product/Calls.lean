import CyreneExchange.Product.Credentials
import CyreneExchange.Product.Ledger

/-! Every call that writes the store, as one step of the store, and the tables
that each of them can write. -/
namespace CyreneExchange.Product

open Integrations (UUID)
open Transaction

/-- Calls that no control request makes: the process starts, the operator
configures, the data plane audits. -/
inductive OperatorCall where
  | restart
  | configureCredentials (now : Int) (credentials : CredentialMap)
  | configureWorkspaceEndpointGrants (grants : List EndpointGrant)
  | configureWorkspaceReactorEndpointGrants (grants : List EndpointGrant)
  | disableCredential (credentialRef : String)
  | saveTenantQuota (quota : TenantQuota)
  | beginRequest (metadata : Gateway.RequestMetadata) (now : Int)
  | recordRejection (rejection : Gateway.Rejection) (startedAt finishedAt : Int)
  | finishRequest (metadata : Gateway.RequestMetadata) (status : Gateway.Str)
      (usage : Option Gateway.ProviderUsage) (errorType : Option Gateway.Str) (now : Int)

inductive StoreCall where
  | operator (call : OperatorCall)
  | saveEndpoint (endpoint : GatewayEndpoint)
  | saveRoute (route : GatewayRoute)
  | createRouteDraft (route : GatewayRoute) (key digest : String) (scope : IdempotencyScope)
      (reactorSourceEndpointId : Option UUID) (workspaceBindingRoute : Bool)
  | replaceRouteVersion (route : GatewayRoute) (expected : Nat)
  | rememberIdempotency (scope : IdempotencyScope) (key : Option String) (digest : String)
      (resourceId : UUID)
  | createApiKey (apiKey : ApiKey) (secretDigest : String) (key : Option String)
      (requestDigest : String) (scope : IdempotencyScope) (now : Int)
  | revokeApiKey (apiKeyId : UUID) (now : Int)

/-- What a call answers. -/
inductive StoreAnswer where
  | done
  | route (route : GatewayRoute)
  | apiKey (apiKey : ApiKey) (created : Bool)
  | revoked (apiKey : Option ApiKey)
  | disabled (found : Bool)
deriving DecidableEq

def operatorBody (host : Host) : OperatorCall → StoreTransaction StoreAnswer
  | .restart => do
      migrateGatewayRouteScope
      pure .done
  | .configureCredentials now credentials => do
      configureCredentials host now credentials
      pure .done
  | .configureWorkspaceEndpointGrants grants => do
      configureWorkspaceEndpointGrants grants
      pure .done
  | .configureWorkspaceReactorEndpointGrants grants => do
      configureWorkspaceReactorEndpointGrants grants
      pure .done
  | .disableCredential credentialRef => do
      let found ← disableCredential credentialRef
      pure (.disabled found)
  | .saveTenantQuota quota => do
      saveTenantQuota quota
      pure .done
  | .beginRequest metadata now => do
      beginRequest metadata now
      pure .done
  | .recordRejection rejection startedAt finishedAt => do
      recordRejection rejection startedAt finishedAt
      pure .done
  | .finishRequest metadata status usage errorType now => do
      finishRequest metadata status usage errorType now
      pure .done

def storeBody (host : Host) : StoreCall → StoreTransaction StoreAnswer
  | .operator call => operatorBody host call
  | .saveEndpoint endpoint => do
      saveEndpoint endpoint
      pure .done
  | .saveRoute route => do
      saveRoute route
      pure .done
  | .createRouteDraft route key digest scope reactorSourceEndpointId workspaceBindingRoute => do
      let answer ← createRouteDraft route key digest scope reactorSourceEndpointId
        workspaceBindingRoute
      pure (.route answer)
  | .replaceRouteVersion route expected => do
      let answer ← replaceRouteVersion route expected
      pure (.route answer)
  | .rememberIdempotency scope key digest resourceId => do
      rememberIdempotency scope key digest resourceId
      pure .done
  | .createApiKey apiKey secretDigest key requestDigest scope now => do
      let (answer, created) ← createApiKey host apiKey secretDigest key requestDigest scope now
      pure (.apiKey answer created)
  | .revokeApiKey apiKeyId now => do
      let answer ← revokeApiKey host apiKeyId now
      pure (.revoked answer)

/-- One call of the store, committed or rolled back. -/
def storeStep (host : Host) (call : StoreCall) (s : ExchangeStore) :
    Except Failure StoreAnswer × ExchangeStore :=
  commit (storeBody host call) s

section Frames

inductive StoreTable where
  | endpoints
  | routes
  | grants
  | idempotency
  | credentials
  | tenantQuotas
  | requestAudits
deriving DecidableEq

/-- The tables a call may write. -/
def StoreCall.tables : StoreCall → List StoreTable
  | .operator .restart => [.routes]
  | .operator (.configureCredentials ..) => [.credentials]
  | .operator (.configureWorkspaceEndpointGrants _) => [.grants]
  | .operator (.configureWorkspaceReactorEndpointGrants _) => [.grants]
  | .operator (.disableCredential _) => [.credentials]
  | .operator (.saveTenantQuota _) => [.tenantQuotas]
  | .operator (.beginRequest ..) => [.requestAudits]
  | .operator (.recordRejection ..) => [.requestAudits]
  | .operator (.finishRequest ..) => [.requestAudits]
  | .saveEndpoint _ => [.endpoints]
  | .saveRoute _ => [.routes]
  | .createRouteDraft .. => [.routes, .idempotency]
  | .replaceRouteVersion .. => [.routes]
  | .rememberIdempotency .. => [.idempotency]
  | .createApiKey .. => [.credentials, .idempotency]
  | .revokeApiKey .. => [.credentials]

/-- A part of the store that does not depend on this table. -/
def Ignores {Part : Type} (part : ExchangeStore → Part) : StoreTable → Prop
  | .endpoints => ∀ s rows, part { s with endpoints := rows } = part s
  | .routes => ∀ s rows, part { s with routes := rows } = part s
  | .grants => ∀ s rows rows', part { s with
      workspaceEndpointGrants := rows
      workspaceReactorEndpointGrants := rows' } = part s
  | .idempotency => ∀ s rows, part { s with idempotency := rows } = part s
  | .credentials => ∀ s rows, part { s with credentials := rows } = part s
  | .tenantQuotas => ∀ s rows, part { s with tenantQuotas := rows } = part s
  | .requestAudits => ∀ s rows, part { s with requestAudits := rows } = part s

variable {Part : Type} {part : ExchangeStore → Part} {host : Host}

theorem OperatorCall.keeps (call : OperatorCall)
    (h : ∀ table ∈ (StoreCall.operator call).tables, Ignores part table) :
    Keeps part (operatorBody host call) := by
  cases call with
  | restart =>
      have hRoutes : Ignores part .routes := h _ (by simp [StoreCall.tables])
      intro s t a hBody
      obtain ⟨_, _, hStore, hPure⟩ := bind_eq_ok.mp hBody
      cases hStore
      cases hPure
      exact hRoutes _ _
  | configureCredentials now credentials =>
      have hCredentials : Ignores part .credentials := h _ (by simp [StoreCall.tables])
      intro s t a hBody
      obtain ⟨_, _, hConfigure, hPure⟩ := bind_eq_ok.mp hBody
      cases hPure
      exact configureAll_keeps hCredentials credentials (configureCredentials_eq_ok hConfigure).2
  | configureWorkspaceEndpointGrants grants =>
      have hGrants : Ignores part .grants := h _ (by simp [StoreCall.tables])
      intro s t a hBody
      cases hBody
      exact hGrants s _ s.workspaceReactorEndpointGrants
  | configureWorkspaceReactorEndpointGrants grants =>
      have hGrants : Ignores part .grants := h _ (by simp [StoreCall.tables])
      intro s t a hBody
      cases hBody
      exact hGrants s s.workspaceEndpointGrants _
  | disableCredential credentialRef =>
      have hCredentials : Ignores part .credentials := h _ (by simp [StoreCall.tables])
      intro s t a hBody
      obtain ⟨_, _, hDisable, hPure⟩ := bind_eq_ok.mp hBody
      cases hPure
      rw [(disableCredential_eq_ok hDisable).2]
      exact hCredentials _ _
  | saveTenantQuota quota =>
      have hQuotas : Ignores part .tenantQuotas := h _ (by simp [StoreCall.tables])
      intro s t a hBody
      cases hBody
      exact hQuotas _ _
  | beginRequest metadata now =>
      have hAudits : Ignores part .requestAudits := h _ (by simp [StoreCall.tables])
      intro s t a hBody
      obtain ⟨_, _, hBegin, hPure⟩ := bind_eq_ok.mp hBody
      cases hPure
      rw [(beginRequest_eq_ok hBegin).2]
      exact hAudits _ _
  | recordRejection rejection startedAt finishedAt =>
      have hAudits : Ignores part .requestAudits := h _ (by simp [StoreCall.tables])
      intro s t a hBody
      obtain ⟨_, _, hRecord, hPure⟩ := bind_eq_ok.mp hBody
      cases hPure
      rcases recordRejection_eq_ok hRecord with ⟨rfl, -⟩ | ⟨-, _, -, rfl⟩
      · rfl
      · exact hAudits _ _
  | finishRequest metadata status usage errorType now =>
      have hAudits : Ignores part .requestAudits := h _ (by simp [StoreCall.tables])
      intro s t a hBody
      obtain ⟨_, _, hFinish, hPure⟩ := bind_eq_ok.mp hBody
      cases hPure
      rcases finishRequest_eq_ok hFinish with ⟨rfl, -⟩ | ⟨-, _, -, rfl⟩
      · rfl
      · exact hAudits _ _

/-- A call leaves alone whatever does not depend on the tables it may write. -/
theorem StoreCall.keeps (call : StoreCall) (h : ∀ table ∈ call.tables, Ignores part table) :
    Keeps part (storeBody host call) := by
  cases call with
  | operator call => exact call.keeps h
  | saveEndpoint endpoint =>
      have hEndpoints : Ignores part .endpoints := h _ (by simp [StoreCall.tables])
      intro s t a hBody
      cases hBody
      exact hEndpoints _ _
  | saveRoute route =>
      have hRoutes : Ignores part .routes := h _ (by simp [StoreCall.tables])
      intro s t a hBody
      obtain ⟨_, _, hSave, hPure⟩ := bind_eq_ok.mp hBody
      cases hPure
      rw [saveRoute_eq_ok hSave]
      exact hRoutes _ _
  | createRouteDraft route key digest scope reactorSourceEndpointId workspaceBindingRoute =>
      have hRoutes : Ignores part .routes := h _ (by simp [StoreCall.tables])
      have hKeys : Ignores part .idempotency := h _ (by simp [StoreCall.tables])
      intro s t a hBody
      obtain ⟨_, _, hCreate, hPure⟩ := bind_eq_ok.mp hBody
      cases hPure
      rcases createRouteDraft_eq_ok hCreate with ⟨rfl, -⟩ | ⟨-, -, -, rfl⟩
      · rfl
      · exact (hKeys { s with routes := s.routes ++ [route.row] } _).trans (hRoutes _ _)
  | replaceRouteVersion route expected =>
      have hRoutes : Ignores part .routes := h _ (by simp [StoreCall.tables])
      intro s t a hBody
      obtain ⟨_, _, hReplace, hPure⟩ := bind_eq_ok.mp hBody
      cases hPure
      rw [(replaceRouteVersion_eq_ok hReplace).2.2]
      exact hRoutes _ _
  | rememberIdempotency scope key digest resourceId =>
      have hKeys : Ignores part .idempotency := h _ (by simp [StoreCall.tables])
      intro s t a hBody
      obtain ⟨_, _, hRemember, hPure⟩ := bind_eq_ok.mp hBody
      cases hPure
      rcases rememberIdempotency_eq_ok hRemember with ⟨-, rfl⟩ | ⟨_, -, -, rfl⟩
      · rfl
      · exact hKeys _ _
  | createApiKey apiKey secretDigest key requestDigest scope now =>
      have hCredentials : Ignores part .credentials := h _ (by simp [StoreCall.tables])
      have hKeys : Ignores part .idempotency := h _ (by simp [StoreCall.tables])
      intro s t a hBody
      obtain ⟨⟨answer, created⟩, _, hCreate, hPure⟩ := bind_eq_ok.mp hBody
      cases hPure
      rcases createApiKey_eq_ok hCreate with ⟨-, rfl, -⟩ | ⟨-, -, -, -, rfl⟩
      · rfl
      · exact (hKeys { s with
          credentials := s.credentials ++ [apiKey.credentialRow host secretDigest now] } _).trans
            (hCredentials _ _)
  | revokeApiKey apiKeyId now =>
      have hCredentials : Ignores part .credentials := h _ (by simp [StoreCall.tables])
      intro s t a hBody
      obtain ⟨_, _, hRevoke, hPure⟩ := bind_eq_ok.mp hBody
      cases hPure
      rcases revokeApiKey_eq_ok hRevoke with ⟨rfl, -⟩ | ⟨-, rfl, -⟩
      · rfl
      · exact hCredentials _ _

theorem storeStep_keeps {call : StoreCall} (h : ∀ table ∈ call.tables, Ignores part table)
    (s : ExchangeStore) : part (storeStep host call s).2 = part s :=
  (call.keeps h).commit s

variable {call : StoreCall} {s : ExchangeStore}

/-- A call that cannot write a table leaves it as it is. -/
theorem storeStep_keeps_routes (host : Host) (h : StoreTable.routes ∉ call.tables) :
    (storeStep host call s).2.routes = s.routes := by
  apply storeStep_keeps
  intro table hTable
  cases table with
  | routes => exact absurd hTable h
  | grants => exact fun _ _ _ => rfl
  | _ => exact fun _ _ => rfl

theorem storeStep_keeps_endpoints (host : Host) (h : StoreTable.endpoints ∉ call.tables) :
    (storeStep host call s).2.endpoints = s.endpoints := by
  apply storeStep_keeps
  intro table hTable
  cases table with
  | endpoints => exact absurd hTable h
  | grants => exact fun _ _ _ => rfl
  | _ => exact fun _ _ => rfl

theorem storeStep_keeps_idempotency (host : Host) (h : StoreTable.idempotency ∉ call.tables) :
    (storeStep host call s).2.idempotency = s.idempotency := by
  apply storeStep_keeps
  intro table hTable
  cases table with
  | idempotency => exact absurd hTable h
  | grants => exact fun _ _ _ => rfl
  | _ => exact fun _ _ => rfl

theorem storeStep_keeps_credentials (host : Host) (h : StoreTable.credentials ∉ call.tables) :
    (storeStep host call s).2.credentials = s.credentials := by
  apply storeStep_keeps
  intro table hTable
  cases table with
  | credentials => exact absurd hTable h
  | grants => exact fun _ _ _ => rfl
  | _ => exact fun _ _ => rfl

theorem storeStep_keeps_requestAudits (host : Host) (h : StoreTable.requestAudits ∉ call.tables) :
    (storeStep host call s).2.requestAudits = s.requestAudits := by
  apply storeStep_keeps
  intro table hTable
  cases table with
  | requestAudits => exact absurd hTable h
  | grants => exact fun _ _ _ => rfl
  | _ => exact fun _ _ => rfl

end Frames

section Endpoints

variable {host : Host} {s : ExchangeStore}

/-- The documents of endpoints carry the ids of their rows. -/
def EndpointIds (s : ExchangeStore) : Prop := ∀ row ∈ s.endpoints, row.document.id = row.id

theorem storeStep_endpointIds (call : StoreCall) (h : EndpointIds s) :
    EndpointIds (storeStep host call s).2 := by
  by_cases hTable : StoreTable.endpoints ∈ call.tables
  · cases call with
    | saveEndpoint endpoint =>
        intro row hRow
        rcases List.mem_append.mp hRow with hOld | hNew
        · exact h row (Table.mem_deleteWhere.mp hOld).1
        · rw [List.mem_singleton.mp hNew]
    | operator call => cases call <;> simp [StoreCall.tables] at hTable
    | _ => simp [StoreCall.tables] at hTable
  · unfold EndpointIds
    rw [storeStep_keeps_endpoints host hTable]
    exact h

theorem getEndpoint_id (h : EndpointIds s) {endpointId : UUID} {endpoint : GatewayEndpoint}
    (hEndpoint : s.getEndpoint endpointId = some endpoint) : endpoint.id = endpointId := by
  obtain ⟨row, hFind, rfl⟩ := Option.map_eq_some_iff.mp hEndpoint
  have hId : row.id = endpointId := by simpa using List.find?_some hFind
  exact (h row (List.mem_of_find?_eq_some hFind)).trans hId

end Endpoints

end CyreneExchange.Product
