import CyreneExchange.Integrations.Connector.Execution
import CyreneExchange.Integrations.Connector.ProviderResults
import CyreneExchange.Integrations.Intake.Methods

/-! The dispatcher's `invoke`: one grant-bound call to the provider of a prepared
operation. Whatever branch makes the call, its result leaves only through the same
inspection. -/
namespace CyreneExchange.Integrations
open CyreneExchange.General GrantVerifier
open CyreneExchange.Gateway (Str text)

/-- A connection, with the field only the dispatcher reads. -/
structure OperationConnection where
  record : IntegrationConnection
  accessMode : String

/-- `PreparedConnectorOperation`, with what only the dispatcher reads. -/
structure DispatchedOperation extends PreparedConnectorOperation where
  connection : Option OperationConnection
  toolId : String
  accountLeaseTarget : Option JsonObject

/-- Opaque one-use lease metadata of the Account Center. -/
structure ProviderCredentialLeaseEvidence where
  leaseRef : String
  profileRef : String
  provider : String
  operationId : String
  target : JsonObject
  argumentsSha256 : String
  profileScopeSha256 : Option String := none

/-- The arguments of `create_provider_credential_lease`. -/
structure LeaseRequest where
  principal : IntegrationPrincipal
  profileRef : String
  operationId : String
  target : JsonObject
  argumentsSha256 : String
  connectorGrant : Option JsonObject

/-- The arguments of the GitHub client's `call_provider_tool`. -/
structure GitHubToolCall where
  principal : IntegrationPrincipal
  toolId : String
  profileRef : String
  leaseRef : String
  payload : JsonObject

/-- The arguments of `invoke_connector_tool`. -/
structure ConnectorToolCall where
  principal : IntegrationPrincipal
  connection : Option OperationConnection
  operationId : String
  toolId : String
  arguments : JsonObject
  requestId : String

/-- What `invoke` raises: an error of its own, or whatever a client raises. -/
inductive InvokeError (Raised : Type) where
  | product (error : ExchangeProductError)
  | permission (detail : String)
  | value (detail : String)
  | client (error : Raised)

/-- The clients a dispatcher is built with; each may answer anything or raise. -/
structure ConnectorOperationDispatcher (Other Raised : Type) where
  canonicalJson : ProviderValue Other → Option (List UInt8)
  accounts : LeaseRequest → Except Raised ProviderCredentialLeaseEvidence
  github : GitHubToolCall → Except Raised (ProviderValue Other)
  authorizationCloud : Option (ConnectorToolCall → Except Raised (ProviderValue Other))
  computer : Option (String → JsonObject → Except Raised (ProviderValue Other))

section Errors

variable {Raised α : Type}

/-- Raise `error` unless the condition holds. -/
def demand (condition : Bool) (error : InvokeError Raised) : Except (InvokeError Raised) Unit :=
  if condition then .ok () else .error error

/-- Raise `error` for None. -/
def demandSome (value : Option α) (error : InvokeError Raised) : Except (InvokeError Raised) α :=
  match value with
  | some a => .ok a
  | none => .error error

def raisingProduct : Except ExchangeProductError α → Except (InvokeError Raised) α
  | .ok a => .ok a
  | .error e => .error (.product e)

def raisingClient : Except Raised α → Except (InvokeError Raised) α
  | .ok a => .ok a
  | .error e => .error (.client e)

/-- `_connector_not_configured`. -/
def connectorNotConfigured (reasonCode : String) : InvokeError Raised :=
  .product {
    code := "EXCHANGE_CONNECTOR_NOT_CONFIGURED"
    title := "Connector provider is not configured"
    detail := "Exchange cannot dispatch this provider operation."
    status := 503
    retryable := true
    reasonCode := some reasonCode }

def accountCenterResponseInvalid (detail : String) : InvokeError Raised :=
  .product {
    code := "EXCHANGE_ACCOUNT_CENTER_RESPONSE_INVALID"
    title := "Account Center response invalid"
    detail := detail
    status := 502 }

end Errors

namespace Json

/-- The number behind a boolean or an integer. -/
def asNumber : Json → Option Int
  | .bool value => some (if value then 1 else 0)
  | .int value => some value
  | _ => none

mutual

/-- Python's `==`: a boolean equals its number, and dictionaries are compared
without regard to order. -/
def same : Json → Json → Bool
  | .null, .null => true
  | .str s, .str t => s == t
  | .float s, .float t => s == t
  | .float s, other => (other.asNumber.map fun n => toString n ++ ".0") == some s
  | .arr items, .arr others => sameItems items others
  | .obj entries, .obj others => entries.length == others.length && sameEntries entries others
  | value, .float t => (value.asNumber.map fun n => toString n ++ ".0") == some t
  | value, other => value.asNumber.isSome && value.asNumber == other.asNumber

def sameItems : List Json → List Json → Bool
  | [], [] => true
  | item :: rest, other :: others => same item other && sameItems rest others
  | _, _ => false

def sameEntries : JsonObject → JsonObject → Bool
  | [], _ => true
  | (key, value) :: rest, others =>
      ((others.lookup key).elim false fun other => same value other) && sameEntries rest others

end

end Json

section Leases

variable {Raised : Type}

/-- The resource ids of a Graph operation that its lease target binds. -/
def graphLeaseExclusions : List (String × List String) := [
  ("microsoft_graph.planner.plans.list", []),
  ("microsoft_graph.planner.plan.get", ["plan_id"]),
  ("microsoft_graph.planner.tasks.list", ["plan_id"]),
  ("microsoft_graph.planner.task.get", ["plan_id", "task_id"]),
  ("microsoft_graph.planner.task.create", ["plan_id", "bucket_id"]),
  ("microsoft_graph.planner.task.update", ["plan_id", "task_id"]),
  ("microsoft_graph.sharepoint.site.get", ["site_id"]),
  ("microsoft_graph.sharepoint.list.get", ["site_id", "list_id"]),
  ("microsoft_graph.sharepoint.list.items.delta", ["site_id", "list_id"]),
  ("microsoft_graph.todo.lists.list", []),
  ("microsoft_graph.todo.tasks.list", ["task_list_id"]),
  ("microsoft_graph.todo.task.get", ["task_list_id", "task_id"]),
  ("microsoft_graph.todo.task.create", ["task_list_id"]),
  ("microsoft_graph.todo.task.update", ["task_list_id", "task_id"]),
  ("microsoft_graph.todo.task.delete", ["task_list_id", "task_id"]),
  ("microsoft_graph.calendar.calendars.list", []),
  ("microsoft_graph.calendar.events.list", ["calendar_id"]),
  ("microsoft_graph.calendar.event.get", ["calendar_id", "event_id"]),
  ("microsoft_graph.calendar.event.create", ["calendar_id", "transaction_id"]),
  ("microsoft_graph.calendar.event.update", ["calendar_id", "event_id"]),
  ("microsoft_graph.calendar.event.delete", ["calendar_id", "event_id"]),
  ("microsoft_graph.calendar.freebusy.get", ["schedules"]),
  ("microsoft_graph.sharepoint.drives.list", ["site_id"]),
  ("microsoft_graph.sharepoint.drive.items.list", ["site_id", "drive_id"]),
  ("microsoft_graph.mail.folders.list", []),
  ("microsoft_graph.mail.messages.list", ["folder_id"]),
  ("microsoft_graph.mail.message.get", ["folder_id", "message_id"]),
  ("microsoft_graph.mail.drafts.list", []),
  ("microsoft_graph.mail.draft.create", []),
  ("microsoft_graph.mail.draft.update", ["message_id"]),
  ("microsoft_graph.mail.draft.delete", ["message_id"]),
  ("microsoft_graph.mail.message.send", ["message_id"])]

/-- `lease_arguments_for_operation`. -/
def leaseArgumentsForOperation (operationId : String) (arguments : JsonObject) :
    Except (InvokeError Raised) JsonObject := do
  let excluded ← demandSome (graphLeaseExclusions.lookup operationId)
    (.value "Microsoft Graph operation is outside the fixed lease digest map")
  .ok (arguments.filter fun entry => !excluded.contains entry.1)

/-- `bytes.hex()`. -/
def toHex (bytes : List UInt8) : String :=
  String.ofList (bytes.flatMap fun byte =>
    [Nat.digitChar (byte.toNat / 16), Nat.digitChar (byte.toNat % 16)])

/-- `_account_center_grant_proof`. -/
def accountCenterGrantProof (claims : ConnectorGrantClaims) (argumentsSha256 : String) :
    Except (InvokeError Raised) JsonObject := do
  demand (argumentsSha256.length == 64 &&
    toHex claims.content.argumentsDigestSha256 == argumentsSha256 &&
    decide (claims.issuedAt < claims.expiresAt) &&
    decide (epoch claims.expiresAt - epoch claims.issuedAt ≤ 15))
    (.permission "shared provider lease grant proof is invalid")
  .ok [
    ("grant_ref", .str claims.grantRef),
    ("issued_at", .int (truncate (epoch claims.issuedAt))),
    ("expires_at", .int (truncate (epoch claims.expiresAt))),
    ("issuer", .str claims.content.principalIssuer),
    ("subject", .str claims.content.principalSubject),
    ("organization_id", .str claims.content.organizationId),
    ("workspace_id", .str claims.content.workspaceId),
    ("connection_ref", .str claims.content.connectionRef),
    ("provider_id", .str claims.content.providerId),
    ("profile_ref", .str claims.content.profileRef),
    ("operation_id", .str claims.content.operationId),
    ("resource_ref", .str claims.content.resourceRef),
    ("arguments_sha256", .str argumentsSha256)]

/-- `validate_scope_digest(…, required=True)`, for the provider of that name. -/
def leaseScopeDigest (provider : String) (lease : ProviderCredentialLeaseEvidence) :
    Except (InvokeError Raised) String :=
  let invalid := accountCenterResponseInvalid
    ("Account Center returned an invalid " ++ provider ++ " scope digest.")
  match lease.profileScopeSha256 with
  | some digest => if hexDigest digest then .ok digest else .error invalid
  | none => .error invalid

end Leases

namespace ConnectorOperationDispatcher

variable {Other Raised : Type} (dispatcher : ConnectorOperationDispatcher Other Raised)
  (world : ConnectorWorld) (prepared : DispatchedOperation) (principal : IntegrationPrincipal)
  (claims : ConnectorGrantClaims)

/-- The operation may be invoked here at all. -/
def checkRoute : Except (InvokeError Raised) Unit :=
  if prepared.providerId = "computer" then do
    demand (prepared.connection.isNone && dispatcher.computer.isSome)
      (.value "computer provider is not configured for the host runner")
    demand prepared.accountLeaseTarget.isNone
      (.value "computer operations do not use Account Center leases")
  else
    demand (prepared.connection.isSome && prepared.providerId != "msteams")
      (.value "Teams replies use the dedicated message connector route")

/-- The grant is for this operation; the arguments are hashed when all else fits. -/
def checkGrant : Except (InvokeError Raised) Unit := do
  let mismatch := .permission "grant does not match the prepared operation"
  let content := claims.content
  demand (claims.grantRef != "" && content.requestId == prepared.requestId &&
    content.organizationId == principal.organizationId &&
    content.workspaceId == principal.workspaceId &&
    content.principalIssuer == principal.issuer &&
    content.principalSubject == principal.subject &&
    content.connectionRef == prepared.connectionRef &&
    content.providerId == prepared.providerId && content.profileRef == prepared.profileRef &&
    content.operationId == prepared.operationId && content.resourceRef == prepared.resourceRef)
    mismatch
  let digest ← raisingProduct (world.digest prepared.arguments)
  demand (content.argumentsDigestSha256 == fromHex digest.toList) mismatch

/-- A call of the authorization cloud, which may not be configured. -/
def invokeCloudTool (reasonCode : String) (arguments : JsonObject) :
    Except (InvokeError Raised) (ProviderValue Other) := do
  let cloud ← demandSome dispatcher.authorizationCloud (connectorNotConfigured reasonCode)
  raisingClient (cloud {
    principal := principal
    connection := prepared.connection
    operationId := prepared.operationId
    toolId := prepared.toolId
    arguments := arguments
    requestId := prepared.requestId })

/-- The providers that are called under an Account Center lease. -/
def leasedProviders : List String :=
  ["github", "huggingface", "microsoft_graph", "azure_devops", "bilibili"]

/-- The lease of a call, and its digest, once both are checked. -/
def leaseFor (connection : OperationConnection) (target : JsonObject) :
    Except (InvokeError Raised) (ProviderCredentialLeaseEvidence × String × String) := do
  let payloadDigest ← raisingProduct (world.digest prepared.arguments)
  demand (fromHex payloadDigest.toList == claims.content.argumentsDigestSha256)
    (.permission "provider payload digest differs from the Directory grant")
  let leaseDigest ← if prepared.providerId = "microsoft_graph" then do
      let arguments ← leaseArgumentsForOperation prepared.operationId prepared.arguments
      raisingProduct (world.digest arguments)
    else .ok payloadDigest
  let connectorGrant ← if connection.accessMode = "workspace_operator" then do
      let proof ← accountCenterGrantProof claims leaseDigest
      .ok (some proof)
    else .ok none
  let lease ← raisingClient (dispatcher.accounts {
    principal := principal
    profileRef := prepared.profileRef
    operationId := prepared.operationId
    target := target
    argumentsSha256 := leaseDigest
    connectorGrant := connectorGrant })
  demand (lease.profileRef == prepared.profileRef && lease.operationId == prepared.operationId)
    (accountCenterResponseInvalid
      "Account Center returned a credential lease with a mismatched scope.")
  demand (prepared.providerId != "bilibili" || (lease.provider == "bilibili" &&
    Json.same (.obj lease.target) (.obj target) && lease.argumentsSha256 == leaseDigest))
    (accountCenterResponseInvalid
      "Account Center returned a Bilibili lease with a mismatched scope.")
  .ok (lease, leaseDigest, payloadDigest)

/-- The arguments of a Microsoft call, bound to the scope its lease was given in. -/
def scopedArguments (lease : ProviderCredentialLeaseEvidence) (target : JsonObject)
    (argumentsSha256 scopeDigest : String) : JsonObject := [
  ("profile_ref", .str prepared.profileRef),
  ("lease_ref", .str lease.leaseRef),
  ("target", .obj target),
  ("arguments_sha256", .str argumentsSha256),
  ("profile_scope_sha256", .str scopeDigest),
  ("payload", .obj prepared.arguments)]

/-- The call of a leased provider, under its lease. -/
def callLeased (target : JsonObject) (lease : ProviderCredentialLeaseEvidence)
    (leaseDigest payloadDigest : String) : Except (InvokeError Raised) (ProviderValue Other) :=
  let callCloud := dispatcher.invokeCloudTool prepared principal
  if prepared.providerId = "github" then
    raisingClient (dispatcher.github {
      principal := principal
      toolId := prepared.toolId
      profileRef := prepared.profileRef
      leaseRef := lease.leaseRef
      payload := prepared.arguments })
  else if prepared.providerId = "microsoft_graph" then do
    let _ ← demandSome dispatcher.authorizationCloud
      (connectorNotConfigured "microsoft_graph_provider_not_configured")
    let scopeDigest ← leaseScopeDigest "Microsoft Graph" lease
    callCloud "microsoft_graph_provider_not_configured"
      (scopedArguments prepared lease target leaseDigest scopeDigest)
  else if prepared.providerId = "azure_devops" then do
    let _ ← demandSome dispatcher.authorizationCloud
      (connectorNotConfigured "azure_devops_provider_not_configured")
    let scopeDigest ← leaseScopeDigest "Azure DevOps" lease
    callCloud "azure_devops_provider_not_configured"
      (scopedArguments prepared lease target payloadDigest scopeDigest)
  else if prepared.providerId = "bilibili" then
    callCloud "bilibili_provider_not_configured" ([
      ("profile_ref", .str prepared.profileRef),
      ("lease_ref", .str lease.leaseRef),
      ("target", .obj target),
      ("arguments_sha256", .str leaseDigest),
      ("payload", .obj prepared.arguments)] ++
      (prepared.idempotencyKey.map fun key => ("idempotency_key", .str key)).toList)
  else
    callCloud "huggingface_provider_not_configured" [
      ("profile_ref", .str prepared.profileRef),
      ("lease_ref", .str lease.leaseRef),
      ("payload", .obj prepared.arguments)]

/-- The branches of `invoke`: which client is called, and what it answers. -/
def callProvider : Except (InvokeError Raised) (ProviderValue Other) :=
  if prepared.providerId = "computer" then do
    -- `checkRoute` has refused a dispatcher without a computer.
    let computer ← demandSome dispatcher.computer
      (.value "computer provider is not configured for the host runner")
    raisingClient (computer prepared.toolId prepared.arguments)
  else if prepared.providerId = "bilibili" &&
      startsWith prepared.operationId "bilibili.auth.qr." then do
    let _ ← demandSome prepared.connection
      (connectorNotConfigured "bilibili_provider_not_configured")
    dispatcher.invokeCloudTool prepared principal "bilibili_provider_not_configured"
      prepared.arguments
  else if leasedProviders.contains prepared.providerId then do
    let connection ← demandSome prepared.connection (.value "provider connection is missing")
    let target ← demandSome prepared.accountLeaseTarget
      (.value "Account Center lease target is missing")
    let (lease, leaseDigest, payloadDigest) ←
      dispatcher.leaseFor world prepared principal claims connection target
    dispatcher.callLeased prepared principal target lease leaseDigest payloadDigest
  else
    dispatcher.invokeCloudTool prepared principal "cloud_provider_not_configured"
      prepared.arguments

/-- `invoke`. -/
def invoke [DecidableEq Other] : Except (InvokeError Raised) (ProviderEntries Other) := do
  dispatcher.checkRoute prepared
  checkGrant world prepared principal claims
  let result ← dispatcher.callProvider world prepared principal claims
  raisingProduct (releaseResult dispatcher.canonicalJson prepared.operationId result)

end ConnectorOperationDispatcher

section Release

variable {Other Raised α : Type}

theorem raisingProduct_ok {x : Except ExchangeProductError α} {a : α}
    (h : (raisingProduct x : Except (InvokeError Raised) α) = .ok a) : x = .ok a := by
  cases x with
  | ok b => exact congrArg Except.ok (Except.ok.inj h)
  | error e => cases h

variable [DecidableEq Other] {dispatcher : ConnectorOperationDispatcher Other Raised}
  {world : ConnectorWorld} {prepared : DispatchedOperation} {principal : IntegrationPrincipal}
  {claims : ConnectorGrantClaims} {entries : ProviderEntries Other}

/-- What `invoke` returns is what is released of the answer of one provider call. -/
theorem invoke_ok (h : dispatcher.invoke world prepared principal claims = .ok entries) :
    ∃ tree, dispatcher.callProvider world prepared principal claims = .ok tree ∧
      releaseResult dispatcher.canonicalJson prepared.operationId tree = .ok entries := by
  obtain ⟨-, -, h⟩ := except_bind_eq_ok.mp h
  obtain ⟨-, -, h⟩ := except_bind_eq_ok.mp h
  obtain ⟨tree, hCall, h⟩ := except_bind_eq_ok.mp h
  exact ⟨tree, hCall, raisingProduct_ok h⟩

/-- Nothing secret leaves a connector call. What is returned has no credential key
at any depth and is the provider's tree; a vendor CLI operation returns that tree
without its captured output, with two flags of its own. A tree with a credential key
is refused. -/
theorem invoke_releases (dispatcher : ConnectorOperationDispatcher Other Raised)
    (world : ConnectorWorld) (prepared : DispatchedOperation) (principal : IntegrationPrincipal)
    (claims : ConnectorGrantClaims) :
    (∀ entries, dispatcher.invoke world prepared principal claims = .ok entries →
      ∃ tree, dispatcher.callProvider world prepared principal claims = .ok tree ∧
        Released prepared.operationId tree (.mapping entries)) ∧
    ∀ tree name, dispatcher.callProvider world prepared principal claims = .ok tree →
      isCredentialKey name = true → tree.HasKey name →
      ∃ e, dispatcher.invoke world prepared principal claims = .error e := by
  constructor
  · intro entries h
    obtain ⟨tree, hCall, hRelease⟩ := invoke_ok h
    exact ⟨tree, hCall, released_of_releaseResult hRelease⟩
  · intro tree name hCall hName hKey
    cases hInvoke : dispatcher.invoke world prepared principal claims with
    | error e => exact ⟨e, rfl⟩
    | ok entries =>
        obtain ⟨tree', hCall', hRelease⟩ := invoke_ok hInvoke
        obtain rfl := Except.ok.inj (hCall.symm.trans hCall')
        obtain ⟨e, hRefused⟩ : ∃ e, releaseResult dispatcher.canonicalJson prepared.operationId tree =
            .error e := releaseResult_credential hName hKey
        rw [hRefused] at hRelease
        cases hRelease

/-- A vendor CLI operation that is granted as it is prepared. -/
def sampleCliOperation : DispatchedOperation where
  connectionRef := "connection"
  providerId := "azure"
  profileRef := "profile"
  operationId := "cloud.vendor.cli.execute"
  resourceRef := "resource"
  arguments := [("argv", .arr [.str "version"])]
  requestId := "request"
  expectedOrganizationId := "organization"
  expectedWorkspaceId := "workspace"
  connection := some {
    record := {
      id := ⟨"00000000-0000-0000-0000-000000000001", by decide⟩
      organizationId := "organization"
      workspaceId := "workspace"
      actorIssuer := "issuer"
      actorSubject := "subject"
      repositoryId := "repository"
      repositoryName := "name" }
    accessMode := "actor_owned" }
  toolId := "cloud_vendor_cli"
  accountLeaseTarget := none

def sampleCliPrincipal : IntegrationPrincipal where
  issuer := "issuer"
  subject := "subject"
  organizationId := "organization"
  workspaceId := "workspace"
  allowedOperationIds := ["cloud.vendor.cli.execute"]

def sampleCliClaims : ConnectorGrantClaims where
  content := {
    requestId := "request"
    audience := "exchange"
    organizationId := "organization"
    workspaceId := "workspace"
    principalIssuer := "issuer"
    principalSubject := "subject"
    connectionRef := "connection"
    providerId := "azure"
    profileRef := "profile"
    operationId := "cloud.vendor.cli.execute"
    resourceRef := "resource"
    argumentsDigestSha256 := [222, 173]
    issuedAt := some 0
    expiresAt := some 1
    signingKeyId := "key" }
  issuedAt := 0
  expiresAt := 1
  grantRef := "sha256:grant"

/-- Some serialization and some digest. -/
def sampleCliWorld : ConnectorWorld where
  verifier := {
    wire := {
      parse := fun _ => none
      digest := fun _ => ""
      keyring := fun _ => .ok ()
      signed := fun _ _ _ => true
      encodedSha256 := fun _ => "" }
    keyringPinned := true
    expectedAudience := "exchange" }
  canonical := fun _ => some ""
  sha256 := fun _ => "dead"

/-- Every provider answers the same tree. -/
def sampleDispatcher (tree : ProviderValue Unit) : ConnectorOperationDispatcher Unit Unit where
  canonicalJson := fun _ => some []
  accounts := fun _ => .error ()
  github := fun _ => .ok tree
  authorizationCloud := some fun _ => .ok tree
  computer := none

/-- An exit code beside captured output, and a flag of the provider's own. -/
def sampleCliTree : ProviderValue Unit :=
  .mapping [(.str (text "exit_code"), .leaf (.other ())), (.str (text "StdOut"), .list []),
    (stdoutSuppressed, .leaf (.bool false))]

def sampleCliEntries : ProviderEntries Unit :=
  [(.str (text "exit_code"), .leaf (.other ())), (stdoutSuppressed, suppressed),
    (stderrSuppressed, suppressed)]

theorem invoke_sample :
    (sampleDispatcher sampleCliTree).invoke sampleCliWorld sampleCliOperation sampleCliPrincipal
      sampleCliClaims = .ok sampleCliEntries := rfl

theorem invoke_releases_sample :
    ∃ tree, Released "cloud.vendor.cli.execute" tree (.mapping sampleCliEntries) := by
  obtain ⟨tree, -, hReleased⟩ := (invoke_releases (sampleDispatcher sampleCliTree) sampleCliWorld
    sampleCliOperation sampleCliPrincipal sampleCliClaims).1 sampleCliEntries invoke_sample
  exact ⟨tree, hReleased⟩

/-- An entry that is neither a credential nor captured output is not always kept: a
vendor CLI operation overwrites the flags at the top. -/
theorem invoke_overwrites_flag :
    ¬ ∀ (dispatcher : ConnectorOperationDispatcher Unit Unit) (world : ConnectorWorld)
      (prepared : DispatchedOperation) (principal : IntegrationPrincipal)
      (claims : ConnectorGrantClaims) (tree : ProviderValue Unit) (entries : ProviderEntries Unit),
      dispatcher.callProvider world prepared principal claims = .ok tree →
      dispatcher.invoke world prepared principal claims = .ok entries →
      ∀ path, Document.enters isCliOutputKey path = false → (tree.find path).isSome = true →
        ((Document.mapping entries).find path).map Document.look =
          (tree.find path).map Document.look := by
  intro hKept
  have hFlag := hKept (sampleDispatcher sampleCliTree) sampleCliWorld sampleCliOperation
    sampleCliPrincipal sampleCliClaims sampleCliTree sampleCliEntries rfl invoke_sample
    [.key stdoutSuppressed] rfl rfl
  have hLook : Document.Look.leaf (.bool true : ResultLeaf Unit) = .leaf (.bool false) :=
    Option.some.inj hFlag
  cases hLook

end Release

end CyreneExchange.Integrations
