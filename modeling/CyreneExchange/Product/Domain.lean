import CyreneExchange.Integrations.Values
import CyreneExchange.Gateway.Values

/-! The resources of the Exchange Product, the commands that create and change
them, and the errors of its control API. -/
namespace CyreneExchange.Product

open Integrations (UUID Timestamp pySpace startsWith)

/-- A text that its `Field` declaration admits. -/
structure Checked (valid : String → Bool) where
  text : String
  isValid : valid text = true
deriving DecidableEq

/-- `Field(min_length=least, max_length=most)`. -/
abbrev Text (least most : Nat) : Type :=
  Checked fun text => decide (least ≤ text.length) && decide (text.length ≤ most)

/-- `^https?://`. -/
def isHttpUrl (text : String) : Bool := startsWith text "http://" || startsWith text "https://"

/-- `lead` and then 64 lower-case hexadecimal digits. -/
def isDigestRef (lead text : String) : Bool :=
  startsWith text lead && text.length == lead.length + 64 &&
    (text.toList.drop lead.length).all fun c =>
      (decide ('0' ≤ c) && decide (c ≤ '9')) || (decide ('a' ≤ c) && decide (c ≤ 'f'))

abbrev HttpUrl : Type := Checked isHttpUrl

abbrev PolicyRef : Type := Checked fun text =>
  (startsWith text "policy://" || startsWith text "secret://") && decide (text.length ≤ 500)

/-- `priority: int = Field(ge=0, le=10_000)`. -/
abbrev Priority : Type := Fin 10001

inductive EndpointState where
  | active
  | disabled
deriving DecidableEq, Repr

inductive RouteState where
  | active
  | disabled
  | draft
deriving DecidableEq, Repr

/-- Versioned reference to an existing Reactor Endpoint. -/
structure RouteSource where
  resourceUri : Checked fun text => isHttpUrl text && decide (text.length ≤ 2000)
  resourceVersion : Nat
  artifactDigest : Checked (isDigestRef "sha256:")
  modelVersionId : Option (Checked (isDigestRef "model-version://sha256/")) := none
deriving DecidableEq

structure WorkspaceReactorEndpointSelector where
  endpointId : UUID
  resourceVersion : Nat
deriving DecidableEq

structure GatewayEndpoint where
  id : UUID
  name : Text 1 200
  state : EndpointState := .active
  publicBaseUrl : HttpUrl
  authPolicyRef : PolicyRef
  createdAt : Timestamp
  updatedAt : Timestamp
  resourceVersion : Nat
deriving DecidableEq

/-- Product route to an opaque provider capability binding. -/
structure GatewayRoute where
  id : UUID
  endpointId : UUID
  state : RouteState := .active
  modelPattern : Text 1 200
  targetBindingId : Text 1 300
  targetModel : Option (Text 1 200) := none
  priority : Priority
  createdAt : Timestamp
  updatedAt : Timestamp
  resourceVersion : Nat
  source : Option RouteSource := none
  createdBy : Option String := none
  workspaceId : Option String := none
  organizationId : Option String := none
deriving DecidableEq

structure CreateEndpointRequest where
  name : Text 1 200
  publicBaseUrl : HttpUrl
  authPolicyRef : PolicyRef
deriving DecidableEq

structure CreateRouteRequest where
  endpointId : UUID
  modelPattern : Text 1 200
  targetBindingId : Text 1 300
  targetModel : Option (Text 1 200) := none
  priority : Priority
deriving DecidableEq

structure CreateRouteDraftRequest where
  endpointId : UUID
  modelPattern : Text 1 200
  targetBindingId : Text 1 300
  targetModel : Text 1 200
  priority : Priority
  source : RouteSource
deriving DecidableEq

structure CreateWorkspaceRouteDraftRequest where
  endpointId : UUID
  modelPattern : Text 1 200
  targetBindingId : Text 1 300
  targetModel : Text 1 200
  priority : Priority
  sourceEndpoint : WorkspaceReactorEndpointSelector
deriving DecidableEq

structure CreateWorkspaceBindingRouteDraftRequest where
  endpointId : UUID
  modelPattern : Text 1 200
  targetBindingId : Text 1 300
  targetModel : Text 1 200
  priority : Priority
deriving DecidableEq

structure EditRouteDraftRequest where
  resourceVersion : Nat
  modelPattern : Text 1 200
  targetBindingId : Text 1 300
  targetModel : Text 1 200
  priority : Priority
deriving DecidableEq

/-- An expiry as sent: the text the model dumps it to, and the instant it
stands for once a naive one has been read as UTC. -/
structure ExpiresAt where
  text : String
  instant : Timestamp
deriving DecidableEq

structure CreateApiKeyRequest where
  name : Text 1 200
  expiresAt : Option ExpiresAt := none
  modelScope : List String := []
deriving DecidableEq

inductive ApiKeyState where
  | active
  | revoked
deriving DecidableEq, Repr

/-- `value.strip()`, as a truth value. -/
def nonblank (text : String) : Bool := text.toList.any fun c => !pySpace c

/-- Configured Exchange identity bound to one credential reference. -/
structure ProductPrincipal where
  actorId : String
  workspaceId : String
  credentialRef : String
  organizationId : Option String := none
  nonempty : (nonblank actorId && nonblank workspaceId && nonblank credentialRef &&
    organizationId.all nonblank) = true
deriving DecidableEq

/-- Gateway credential metadata. -/
structure ApiKey where
  id : UUID
  name : String
  identity : ProductPrincipal
  state : ApiKeyState
  modelScope : List String
  createdAt : Timestamp
  updatedAt : Timestamp
  expiresAt : Option Timestamp := none
  revokedAt : Option Timestamp := none
  resourceVersion : Nat
deriving DecidableEq

/-- Creation response carrying the one-time secret. -/
structure CreatedApiKey where
  apiKey : ApiKey
  secret : Option String
deriving DecidableEq

/-- The (endpoint, organization, workspace) triple of an operator grant. -/
structure EndpointGrant where
  endpointId : UUID
  organizationId : String
  workspaceId : String
  nonempty : (nonblank organizationId && nonblank workspaceId) = true
deriving DecidableEq

structure TenantQuota where
  tenantId : Text 1 300
  workspaceId : Text 1 300
  monthlyTokenQuota : Nat
  positive : 0 < monthlyTokenQuota
  updatedAt : Timestamp
deriving DecidableEq

/-- Typed error exposed through the Product control API. -/
structure ExchangeProductError where
  code : String
  title : String
  detail : String
  status : Nat
  retryable : Bool := false
  resourceRef : Option Gateway.Str := none
deriving DecidableEq

/-- Whatever a store or service call can raise. -/
inductive Failure where
  | product (error : ExchangeProductError)
  | integrityError
  | runtimeError (detail : String)
  | valueError (detail : String)
  | unicodeEncodeError
  | overflowError
  | validationError
deriving DecidableEq

theorem nonblank_append (first second : String) :
    nonblank (first ++ second) = (nonblank first || nonblank second) := by
  simp [nonblank]

end CyreneExchange.Product
