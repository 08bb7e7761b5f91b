import CyreneExchange.General.Machine
import CyreneExchange.Integrations.Connector.Ledger
import CyreneExchange.Integrations.Connector.Verifier

/-! One connector execution as the atomic steps of its route, and any number
of executions over one store. A crash may end an execution between any two of
its steps, and the provider may answer a dispatch in any way. -/
namespace CyreneExchange.Integrations

open Transaction GrantVerifier

/-- `GRAPH_MUTATING_OPERATIONS`. -/
def graphMutatingOperations : List String := [
  "microsoft_graph.planner.task.create", "microsoft_graph.planner.task.update",
  "microsoft_graph.todo.task.create", "microsoft_graph.todo.task.update",
  "microsoft_graph.todo.task.delete", "microsoft_graph.calendar.event.create",
  "microsoft_graph.calendar.event.update", "microsoft_graph.calendar.event.delete",
  "microsoft_graph.mail.draft.create", "microsoft_graph.mail.draft.update",
  "microsoft_graph.mail.draft.delete", "microsoft_graph.mail.message.send"]

/-- `_MUTATING_OPERATIONS`. -/
def mutatingOperations : List String := [
  "github.issue.comment.create", "github.issue.state.update", "github.branch.create",
  "github.branch.delete", "github.file.commit", "github.pull_request.draft.create",
  "github.actions.rerun_failed", "computer.command.execute", "computer.file.write",
  "github.vendor.cli.execute", "huggingface.file.upload", "bilibili.auth.qr.begin",
  "bilibili.comment.create", "bilibili.dynamic.publish", "bilibili.dm.send",
  "cloud.resource.create", "cloud.resource.deploy", "cloud.resource.start",
  "cloud.resource.stop", "cloud.resource.restart", "cloud.resource.update",
  "cloud.resource.delete", "cloud.operation.cancel",
  "cloud.vendor.cli.execute"] ++ graphMutatingOperations

/-- The operation whose answers reconcile other invocations. -/
def statusReadOperation : String := "cloud.operation.status.read"

/-- A validated operation, with the arguments of the request body. -/
structure PreparedConnectorOperation where
  connectionRef : String
  providerId : String
  profileRef : String
  operationId : String
  resourceRef : String
  arguments : JsonObject
  requestId : String
  expectedOrganizationId : String
  expectedWorkspaceId : String
  idempotencyKey : Option String := none

def PreparedConnectorOperation.isMutating (prepared : PreparedConnectorOperation) : Bool :=
  mutatingOperations.contains prepared.operationId

/-- What the routes run against: the grant verifier, RFC 8785 serialization,
which may refuse a value, and SHA-256 in lowercase hexadecimal. -/
structure ConnectorWorld where
  verifier : GrantVerifier
  canonical : Json → Option String
  sha256 : String → String

/-- The refusal of `connector_canonical_json`. -/
def canonicalizationInvalid : ExchangeProductError where
  code := "EXCHANGE_CONNECTOR_CANONICALIZATION_INVALID"
  title := "Connector JSON value is invalid"
  detail := "The connector JSON value is outside the RFC 8785 canonicalization domain."
  status := 422

/-- The SHA-256 of the canonical text of an object: `digest_arguments`. -/
def ConnectorWorld.digest (world : ConnectorWorld) (object : JsonObject) :
    Except ExchangeProductError String := do
  let text ← present (world.canonical (.obj object)) canonicalizationInvalid
  .ok (world.sha256 text)

/-- `_connector_envelope_sha256`. -/
def connectorEnvelopeSha256 (world : ConnectorWorld) (prepared : PreparedConnectorOperation)
    (argumentsSha256 : String) : Except ExchangeProductError String :=
  let envelope : JsonObject := [
    ("connectionRef", .str prepared.connectionRef),
    ("providerId", .str prepared.providerId),
    ("profileRef", .str prepared.profileRef),
    ("operationId", .str prepared.operationId),
    ("resourceRef", .str prepared.resourceRef),
    ("argumentsDigestSha256", .str argumentsSha256)]
  world.digest (match prepared.idempotencyKey with
    | none => envelope
    | some idempotencyKey => envelope ++ [("idempotencyKey", .str idempotencyKey)])

def hexValue (c : Char) : Nat := if c.isDigit then c.toNat - 48 else c.toNat - 87

/-- `bytes.fromhex` of lowercase digits. -/
def fromHex : List Char → List UInt8
  | high :: low :: rest => UInt8.ofNat (16 * hexValue high + hexValue low) :: fromHex rest
  | _ => []

/-- A request whose grant has been inspected and whose envelope is hashed. -/
structure ConnectorRequest where
  key : InvocationKey
  signed : SignedScope
  expected : ExpectedClaims
  grant : List UInt8
  grantRef : String
  prepared : PreparedConnectorOperation

/-- The route up to the reservation: inspect the grant, derive the actor from
it, inspect it again for the prepared operation, hash the envelope. -/
def ConnectorRequest.inspect (world : ConnectorWorld) (grant : List UInt8)
    (prepared : PreparedConnectorOperation) (clock clock' : ℚ) :
    Except ExchangeProductError ConnectorRequest := do
  let provisional ← world.verifier.inspect grant none clock
  let argumentsSha256 ← world.digest prepared.arguments
  let expected : ExpectedClaims := {
    requestId := prepared.requestId
    organizationId := prepared.expectedOrganizationId
    workspaceId := prepared.expectedWorkspaceId
    principalIssuer := provisional.content.principalIssuer
    principalSubject := provisional.content.principalSubject
    connectionRef := prepared.connectionRef
    providerId := prepared.providerId
    profileRef := prepared.profileRef
    operationId := prepared.operationId
    resourceRef := prepared.resourceRef
    argumentsDigestSha256 := fromHex argumentsSha256.toList }
  let claims ← world.verifier.inspect grant (some expected) clock'
  let envelopeSha256 ← connectorEnvelopeSha256 world prepared argumentsSha256
  .ok {
    key := {
      scope := {
        organizationId := provisional.content.organizationId
        workspaceId := provisional.content.workspaceId
        actorIssuer := provisional.content.principalIssuer
        actorSubject := provisional.content.principalSubject }
      requestId := prepared.requestId }
    signed := {
      connectionRef := prepared.connectionRef
      providerId := prepared.providerId
      profileRef := prepared.profileRef
      operationId := prepared.operationId
      resourceRef := prepared.resourceRef
      argumentsSha256 := argumentsSha256
      envelopeSha256 := envelopeSha256
      isMutating := prepared.isMutating }
    expected := expected
    grant := grant
    grantRef := claims.grantRef
    prepared := prepared }

/-- `body.arguments.get("operation_ref")`. -/
def ConnectorRequest.requestedRef (request : ConnectorRequest) : Option Json :=
  request.prepared.arguments.get "operation_ref"

/-- The result dictionary of the dispatch. -/
def ConnectorRequest.result (request : ConnectorRequest) (outcome : DispatchOutcome) :
    JsonObject :=
  outcome.result request.prepared.isMutating

/-- The terminal states a status read can report. -/
def reportedState : Option String → Option InvocationState
  | some "SUCCEEDED" => some .succeeded
  | some "FAILED" => some .failed
  | _ => none

/-- Which reference a finished execution reconciles, and to which state. -/
def ConnectorRequest.reconciliation (request : ConnectorRequest) (outcome : DispatchOutcome) :
    Option (String × InvocationState) :=
  let result := request.result outcome
  if request.prepared.operationId = statusReadOperation then
    match reportedState (connectorOperationState result) with
    | none => none
    | some state =>
        match connectorOperationRef result, request.requestedRef with
        | some ref, _ => some (ref, state)
        | none, some (.str ref) => if ref = "" then none else some (ref, state)
        | none, _ => none
  else none

/-- How far an execution has come. -/
inductive Stage where
  | requested
  | reserved
  | refused
  | granted (claims : ConnectorGrantClaims)
  | attached (claims : ConnectorGrantClaims)
  | dispatching (claims : ConnectorGrantClaims)
  | answered (claims : ConnectorGrantClaims) (outcome : DispatchOutcome)
  | completed (outcome : DispatchOutcome)
  | replayed
  | replayGranted (claims : ConnectorGrantClaims)
  | finished

/-- The atomic steps of one execution, with the clock readings they take. -/
inductive Move where
  | reserve (nowEpoch : Int)
  | consume (clock : ℚ)
  | discard
  | attach
  | dispatch
  | answer (outcome : DispatchOutcome)
  | complete (nowEpoch : Int)
  | reconcile (nowEpoch : Int)
  | crash

/-- What a step of an execution is observed to do. -/
inductive ConnectorAnswer where
  | ignored
  | done
  | accepted (id : Nat)
  | registered (claims : ConnectorGrantClaims)
  | reserved (reservation : Reservation)
  | consumed (claims : ConnectorGrantClaims)
  | denied (error : ExchangeProductError)
  | failed (error : LedgerError)

/-- Run a ledger method; an error ends the execution. -/
def ledgerStep {α : Type} (body : ConnectorTransaction α) (next : α → ConnectorAnswer × Stage)
    (s : ConnectorStore) : ConnectorAnswer × Stage × ConnectorStore :=
  match commit body s with
  | (.ok a, t) => ((next a).1, (next a).2, t)
  | (.error e, t) => (.failed e, .finished, t)

/-- Consume the grant of a request; a refusal leads to the stage `denied`. -/
def consumeStep (world : ConnectorWorld) (request : ConnectorRequest) (clock : ℚ)
    (granted : ConnectorGrantClaims → Stage) (denied : Stage) (s : ConnectorStore) :
    ConnectorAnswer × Stage × ConnectorStore :=
  match world.verifier.consume request.grant request.expected clock s with
  | (.ok claims, t) => (.consumed claims, granted claims, t)
  | (.error e, t) => (.denied e, denied, t)

/-- Where a reservation leads: a replay under another grant consumes it. -/
def ConnectorRequest.afterReserve (request : ConnectorRequest) (reservation : Reservation) :
    Stage :=
  if reservation.disposition = .new then .reserved
  else if reservation.grantRef = some request.grantRef then .finished
  else .replayed

/-- Record the outcome of a dispatch. -/
def completeStep (world : ConnectorWorld) (request : ConnectorRequest)
    (claims : ConnectorGrantClaims) (outcome : DispatchOutcome) (nowEpoch : Int)
    (s : ConnectorStore) : ConnectorAnswer × Stage × ConnectorStore :=
  let result := request.result outcome
  match connectorOperationResponse world.canonical claims.content.requestId result
      request.prepared.isMutating request.prepared.operationId request.prepared.idempotencyKey with
  | .error e => (.failed e, .finished, s)
  | .ok (recorded, response) =>
      ledgerStep (completeConnectorInvocation world.canonical world.sha256 request.key
        request.signed.envelopeSha256 recorded.receiptState (some response)
        (connectorOperationRef result) 200 nowEpoch) (fun _ => (.done, .completed outcome)) s

/-- Reconcile after an execution that calls for it. -/
def reconcileStep (world : ConnectorWorld) (request : ConnectorRequest) (outcome : DispatchOutcome)
    (nowEpoch : Int) (s : ConnectorStore) : ConnectorAnswer × Stage × ConnectorStore :=
  match request.reconciliation outcome with
  | none => (.done, .finished, s)
  | some (operationRef, terminalState) =>
      ledgerStep (reconcileConnectorInvocations world.canonical request.key.scope
        request.signed.profileRef operationRef terminalState nowEpoch)
        (fun _ => (.done, .finished)) s

/-- `execute_connector_operation`, one step at a time; a step that does not
apply at the present stage does nothing. -/
def ConnectorRequest.advance (world : ConnectorWorld) (request : ConnectorRequest) :
    Move → Stage → ConnectorStore → Option (ConnectorAnswer × Stage × ConnectorStore)
  | .reserve nowEpoch, .requested, s => some (ledgerStep
      (reserveConnectorInvocation request.key request.signed request.grantRef nowEpoch)
      (fun reservation => (.reserved reservation, request.afterReserve reservation)) s)
  | .consume clock, .reserved, s => some (consumeStep world request clock .granted .refused s)
  | .consume clock, .replayed, s =>
      some (consumeStep world request clock .replayGranted .finished s)
  | .discard, .refused, s => some (ledgerStep
      (discardConnectorInvocation request.key request.signed.envelopeSha256)
      (fun _ => (.done, .finished)) s)
  | .attach, .granted claims, s => some (ledgerStep
      (attachConnectorInvocationGrant request.key request.signed.envelopeSha256 claims.grantRef)
      (fun _ => (.done, .attached claims)) s)
  | .attach, .replayGranted claims, s => some (ledgerStep
      (attachConnectorInvocationGrant request.key request.signed.envelopeSha256 claims.grantRef)
      (fun _ => (.done, .finished)) s)
  | .dispatch, .attached claims, s => some (.done, .dispatching claims, s)
  | .answer outcome, .dispatching claims, s => some (.done, .answered claims outcome, s)
  | .complete nowEpoch, .answered claims outcome, s =>
      some (completeStep world request claims outcome nowEpoch s)
  | .reconcile nowEpoch, .completed outcome, s =>
      some (reconcileStep world request outcome nowEpoch s)
  | .crash, .finished, _ => none
  | .crash, _, s => some (.done, .finished, s)
  | _, _, _ => none

structure Execution where
  request : ConnectorRequest
  stage : Stage

/-- The store and every execution so far; an execution is named by its
position. -/
structure ConnectorSystem where
  store : ConnectorStore := {}
  executions : List Execution := []

/-- What happens next: a request comes in, the Authority mints a grant, or an
execution takes a step. -/
inductive ConnectorAction where
  | arrive (grant : List UInt8) (prepared : PreparedConnectorOperation) (clock clock' : ℚ)
  | register (grant : List UInt8) (expected : ExpectedClaims) (clock : ℚ)
  | advance (id : Nat) (move : Move)

/-- One action of a system of connector executions. -/
def performConnector (world : ConnectorWorld) :
    ConnectorAction → ConnectorSystem → ConnectorAnswer × ConnectorSystem
  | .arrive grant prepared clock clock', s =>
      match ConnectorRequest.inspect world grant prepared clock clock' with
      | .error e => (.denied e, s)
      | .ok request => (.accepted s.executions.length,
          { s with executions := s.executions ++ [⟨request, .requested⟩] })
  | .register grant expected clock, s =>
      match world.verifier.validateAuthorityResponse grant expected clock s.store with
      | (.ok claims, t) => (.registered claims, { s with store := t })
      | (.error e, t) => (.denied e, { s with store := t })
  | .advance id move, s =>
      match s.executions[id]? with
      | none => (.ignored, s)
      | some execution =>
          match execution.request.advance world move execution.stage s.store with
          | none => (.ignored, s)
          | some (answer, stage, t) =>
              (answer, ⟨t, s.executions.set id ⟨execution.request, stage⟩⟩)

abbrev ConnectorEvent := Machine.Event ConnectorSystem ConnectorAction ConnectorAnswer

end CyreneExchange.Integrations
