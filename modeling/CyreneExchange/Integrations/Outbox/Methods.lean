import CyreneExchange.Integrations.Commands
import CyreneExchange.Integrations.Outbox.Store

/-! The store methods that move a job and its operation, one transaction body
each. Clock readings and drawn identifiers are arguments. -/
namespace CyreneExchange.Integrations

open Transaction

/-- Only a chat command with a complete reply context is answered. -/
def Operation.replyable (operation : Operation) : Bool :=
  operation.sourceKind == .wecomCommand && operation.replyContextComplete

/-- The unique key of the reply to an operation. -/
def Operation.replyKey (operation : Operation) : String :=
  "command-reply:" ++ orElse operation.sourceEventRef "" ++ ":" ++ operation.id.text

/-- The reply job `_enqueue_command_reply` constructs. -/
def Operation.reply (operation : Operation) (repositoryName : String) (state : JobState)
    (evidence : JsonObject) (now : Timestamp) (replyUuid : UUID) : OutboxJob where
  id := replyUuid
  kind := .commandReply
  scope := operation.scope
  connectionId := operation.connectionId
  bindingId := some operation.bindingId
  operationId := some operation.id
  idempotencyKey := some operation.replyKey
  payload := [
    ("eventId", optionalText operation.sourceEventRef),
    ("sourceBindingId", optionalText operation.replyBindingRef),
    ("senderId", optionalText operation.replySenderId),
    ("conversationRef", optionalText operation.replyConversationRef),
    ("replyMessageId", optionalText operation.replyMessageId),
    ("replyContextRef", optionalText operation.replyContextRef),
    ("text", .str (renderIssueCommandResult operation repositoryName state evidence))]
  availableAt := now
  createdAt := now
  updatedAt := now

/-- `_enqueue_command_reply`: a deterministic reply job, only for a chat
command with a complete reply context. -/
def enqueueCommandReply (operation : Operation) (state : JobState) (evidence : JsonObject)
    (now : Timestamp) (replyUuid : UUID) : StoreTransaction Unit :=
  if operation.replyable then do
    let found ← fetch fun s => s.connections.find? fun connection =>
      connection.id == operation.connectionId &&
        connection.organizationId == operation.scope.organizationId &&
        connection.workspaceId == operation.scope.workspaceId
    let connection ← expectRow found (.notFound "reply repository connection not found")
    let reply := operation.reply connection.repositoryName state evidence now replyUuid
    require reply.valid .documentInvalid
    insertJob reply
  else pure ()

/-- `_enqueue_reply_for_operation`. -/
def enqueueReplyForOperation (operationId : UUID) (state : JobState) (evidence : JsonObject)
    (now : Timestamp) (replyUuid : UUID) : StoreTransaction Unit := do
  match ← selectOperation operationId with
  | none => pure ()
  | some row =>
      let operation ← readOperation row
      enqueueCommandReply operation state evidence now replyUuid

/-- `_update_operation_state`. -/
def updateOperationState (operationId : UUID) (state : OperationState) (now : Timestamp)
    (result : Option JsonObject := none) : StoreTransaction Unit := do
  match ← selectOperation operationId with
  | none => pure ()
  | some row =>
      let operation ← readOperation row
      persistOperation { operation with state := state, result := result, updatedAt := now }
        operationId

/-- Clear the Authority attempt of a query that goes back to the queue. -/
def clearOperationAuthority (operationId : UUID) : StoreTransaction Unit := do
  match ← selectOperation operationId with
  | none => pure ()
  | some row =>
      let operation ← readOperation row
      persistOperationDocument
        { operation with authorityInvocationId := none, authorityIdempotencyKey := none }
        operationId

/-- `ORDER BY available_at,created_at,id`. -/
def JobRow.claimedBefore (a b : JobRow) : Bool :=
  decide (a.availableAt < b.availableAt) ||
    (decide (a.availableAt = b.availableAt) && (decide (a.createdAt < b.createdAt) ||
      (decide (a.createdAt = b.createdAt) && decide (a.id.text < b.id.text))))

/-- `state IN ('READY','AWAITING_AUTHORITY') AND available_at<=?`. -/
def JobRow.due (now : Timestamp) (row : JobRow) : Bool :=
  (row.state == .ready || row.state == .awaitingAuthority) && decide (row.availableAt ≤ now)

/-- The document a successful claim writes. -/
def OutboxJob.claimedBy (job : OutboxJob) (workerId : String) (now : Timestamp)
    (leaseSeconds : Int) : OutboxJob :=
  { job with
    state := .claimed
    claimOwner := some workerId
    claimFence := job.claimFence + 1
    leaseExpiresAt := some (now + seconds leaseSeconds)
    attempts := job.attempts + 1
    updatedAt := now }

/-- The claiming transaction of `claim_job`, which runs after
`recover_expired_claims` has committed. -/
def claimReadyJob (workerId : String) (now : Timestamp) (leaseSeconds : Int) :
    StoreTransaction (Option ClaimedJob) := do
  let found ← fetch fun s =>
    Table.firstBy JobRow.claimedBefore (s.outboxJobs.filter (JobRow.due now))
  match found with
  | none => pure none
  | some row =>
      let job ← readJob row
      let updated := job.claimedBy workerId now leaseSeconds
      let s ← fetch id
      let matching := fun r : JobRow => r.id == job.id && r.state == job.state
      store fun s => { s with
        outboxJobs := Table.updateWhere matching
          (fun r => { r with
            state := .claimed
            claimOwner := some workerId
            claimFence := updated.claimFence
            leaseExpiresAt := some (now + seconds leaseSeconds)
            attempts := updated.attempts
            updatedAt := now
            document := updated }) s.outboxJobs }
      if s.outboxJobs.countP matching ≠ 1 then pure none
      else pure (some ⟨updated, updated.claimFence, job.state⟩)

/-- `WHERE id=? AND state='CLAIMED' AND claim_fence=?`. -/
def selectClaimed (jobId : UUID) (claimFence : Nat) : StoreTransaction (Option JobRow) :=
  fetch fun s => s.outboxJobs.find? fun row =>
    row.id == jobId && row.state == .claimed && row.claimFence == claimFence

/-- `WHERE id=? AND state='SENDING' AND claim_fence=?`. -/
def selectSending (jobId : UUID) (claimFence : Nat) : StoreTransaction (Option JobRow) :=
  fetch fun s => s.outboxJobs.find? fun row =>
    row.id == jobId && row.state == .sending && row.claimFence == claimFence

/-- Run `body` on the operation a job names, if it names one. -/
def forOperation (operationId : Option UUID) (body : UUID → StoreTransaction Unit) :
    StoreTransaction Unit :=
  match operationId with
  | none => pure ()
  | some id => body id

def markSending (jobId : UUID) (claimFence : Nat) (now : Timestamp) :
    StoreTransaction OutboxJob := do
  let found ← fetch fun s => s.outboxJobs.find? fun row =>
    row.id == jobId && row.state == .claimed && row.claimFence == claimFence &&
      (match row.leaseExpiresAt with
        | some lease => decide (now < lease)
        | none => false)
  let row ← expectRow found (.conflict "job claim is stale or expired")
  let job ← readJob row
  let sending := { job with state := .sending, updatedAt := now }
  store fun s => { s with
    outboxJobs := Table.updateWhere
      (fun r => r.id == jobId && r.state == .claimed && r.claimFence == claimFence)
      (fun r => { r with state := .sending, updatedAt := now, document := sending })
      s.outboxJobs }
  forOperation (if job.kind = .issueAction then job.operationId else none) fun operationId =>
    updateOperationState operationId .running now
  pure sending

/-- The document of a job that has reached `state` and is held by nobody. -/
def OutboxJob.settled (job : OutboxJob) (state : JobState) (now : Timestamp) : OutboxJob :=
  { job with state := state, claimOwner := none, leaseExpiresAt := none, updatedAt := now }

/-- A reply's source event follows the fate of the reply. -/
def markReplyEvent (job : OutboxJob) (eligible : WeComInboundEvent → Bool)
    (state : WeComEventState) : StoreTransaction Unit :=
  if job.kind = .commandReply ∨ job.kind = .challengeReply then
    match (job.payload.get "eventId").bind Json.asStr with
    | none => pure ()
    | some eventRef => do
        let found ← fetch fun s => s.wecomInboundEvents.find? fun event =>
          event.id.text == eventRef && eligible event
        match found with
        | none => pure ()
        | some event => store fun s => { s with
            wecomInboundEvents := Table.updateWhere (fun e => e.id.text == eventRef)
              (fun _ => { event with state := state }) s.wecomInboundEvents }
  else pure ()

/-- `fail_claimed_job`. The reply of an issue action is enqueued twice, once
through the operation id and once through the reloaded document. -/
def failClaimedJob (jobId : UUID) (claimFence : Nat) (reasonCode : String) (moment : Timestamp)
    (replyUuid replyUuid' : UUID) : StoreTransaction OutboxJob := do
  let safeCode := clip 100 reasonCode
  let evidence : JsonObject := [("reasonCode", .str safeCode)]
  let row ← expectRow (← selectClaimed jobId claimFence) (.conflict "job claim is stale")
  let job ← readJob row
  let failed := job.settled .failed moment
  persistJob failed
  insertEvidence ⟨jobId, claimFence, evidence⟩
  forOperation (if job.kind = .issueAction then job.operationId else none) fun operationId => do
    updateOperationState operationId .failed moment (some evidence)
    enqueueReplyForOperation operationId .failed evidence moment replyUuid
    match ← selectOperation operationId with
    | none => pure ()
    | some operationRow =>
        let operation ← readOperation operationRow
        enqueueCommandReply operation .failed evidence moment replyUuid'
  markReplyEvent job (fun _ => true) .rejected
  pure failed

def markAwaitingAuthority (jobId : UUID) (claimFence : Nat) (invocationId : String)
    (authorityState : AuthorityInvocationState) (moment : Timestamp) :
    StoreTransaction OutboxJob := do
  require (invocationId != "" && decide (invocationId.length ≤ 300))
    (.validation "authority invocation reference is invalid")
  let row ← expectRow (← selectClaimed jobId claimFence) (.conflict "job claim is stale")
  let job ← readJob row
  require (!conflictsWith job.authorityInvocationId invocationId)
    (.conflict "job already references a different Authority invocation")
  let updated := { job.settled .awaitingAuthority moment with
    authorityInvocationId := some invocationId
    authorityState := some authorityState }
  persistJob updated
  forOperation job.operationId fun operationId => do
    let operationRow ← expectRow (← selectOperation operationId)
      (.notFound "authorized operation not found")
    let operation ← readOperation operationRow
    persistOperation { operation with
      state := .awaitingAuthority
      authorityInvocationId := some invocationId
      updatedAt := moment } operationId
  pure updated

def prepareAuthorityEnqueue (jobId : UUID) (claimFence : Nat) (candidateIdempotencyKey : String)
    (moment : Timestamp) : StoreTransaction (Operation × OutboxJob × String) := do
  require (candidateIdempotencyKey != "" && decide (candidateIdempotencyKey.length ≤ 300))
    (.validation "Authority idempotency key is invalid")
  let row ← expectRow (← selectClaimed jobId claimFence) (.conflict "job claim is stale")
  let job ← readJob row
  let operationId ← expectRow job.operationId (.notFound "Authority job has no operation")
  let operationRow ← expectRow (← selectOperation operationId)
    (.notFound "Authority operation not found")
  let operation ← readOperation operationRow
  require (job.authorityIdempotencyKey == operation.authorityIdempotencyKey)
    (.conflict "Authority idempotency records do not match")
  let key := orElse job.authorityIdempotencyKey candidateIdempotencyKey
  let preparedJob := { job with authorityIdempotencyKey := some key, updatedAt := moment }
  let preparedOperation :=
    { operation with authorityIdempotencyKey := some key, updatedAt := moment }
  persistJob preparedJob
  persistOperationDocument preparedOperation operation.id
  pure (preparedOperation, preparedJob, key)

def updateAuthorityEvidence (jobId : UUID) (claimFence : Nat) (invocationId : String)
    (authorityState : AuthorityInvocationState) (moment : Timestamp) :
    StoreTransaction OutboxJob := do
  let row ← expectRow (← selectClaimed jobId claimFence) (.conflict "job claim is stale")
  let job ← readJob row
  require (job.authorityInvocationId == some invocationId)
    (.conflict "Authority invocation does not match the durable intent")
  let updated := { job.settled .awaitingAuthority moment with
    authorityState := some authorityState
    availableAt := moment + seconds 2 }
  persistJob updated
  forOperation job.operationId fun operationId => do
    let operationRow ← expectRow (← selectOperation operationId)
      (.notFound "authorized operation not found")
    let operation ← readOperation operationRow
    store fun s => { s with
      operations := Table.updateWhere
        (fun r => r.id == operationId && r.state == .awaitingAuthority)
        (fun r => { r with document := { operation with updatedAt := moment } }) s.operations }
  pure updated

def markAuthorityResultUnknown (jobId : UUID) (claimFence : Nat) (invocationId : String)
    (moment : Timestamp) (replyUuid : UUID) : StoreTransaction OutboxJob := do
  let evidence : JsonObject := [("authorityState", .str "UNKNOWN_RESULT")]
  let row ← expectRow (← selectClaimed jobId claimFence)
    (.conflict "Authority result claim is stale")
  let job ← readJob row
  require (job.authorityInvocationId == some invocationId)
    (.conflict "Authority result invocation does not match intent")
  let updated := { job.settled .unknown moment with authorityState := some .unknownResult }
  persistJob updated
  insertEvidence ⟨jobId, claimFence, evidence⟩
  forOperation job.operationId fun operationId => do
    updateOperationState operationId .unknown moment (some evidence)
    enqueueReplyForOperation operationId .unknown evidence moment replyUuid
  pure updated

/-- The operation states `finish_job` translates its status to; any other
status is refused. -/
def finishOperationState : JobState → Option OperationState
  | .accepted => some .accepted
  | .succeeded => some .succeeded
  | .failed => some .failed
  | .unknown => some .unknown
  | _ => none

/-- `receipt.observed_at if receipt is not None else utc_now()`. -/
def finishTime (receipt : Option DeliveryReceipt) (clock : Timestamp) : Timestamp :=
  match receipt with
  | some r => r.observedAt
  | none => clock

/-- Store a transport receipt bound to its job. -/
def bindReceipt (job : OutboxJob) (receipt : Option DeliveryReceipt) : StoreTransaction Unit :=
  match receipt with
  | none => pure ()
  | some r => insertReceipt { r with jobId := some job.id, operationId := job.operationId }

def finishJob (jobId : UUID) (claimFence : Nat) (status : JobState) (evidence : JsonObject)
    (receipt : Option DeliveryReceipt) (clock : Timestamp) (replyUuid : UUID) :
    StoreTransaction OutboxJob := do
  let operationState ← expectRow (finishOperationState status)
    (.valueError "finish status must be an explicit terminal/evidence state")
  let now := finishTime receipt clock
  let row ← expectRow (← selectSending jobId claimFence) (.conflict "job send fence is stale")
  let job ← readJob row
  let finished := job.settled status now
  persistJob finished
  insertEvidence ⟨jobId, claimFence, evidence⟩
  forOperation (if job.kind = .issueAction then job.operationId else none) fun operationId => do
    updateOperationState operationId operationState now (some evidence)
    match ← selectOperation operationId with
    | none => pure ()
    | some operationRow =>
        let operation ← readOperation operationRow
        enqueueCommandReply operation status evidence now replyUuid
  bindReceipt job receipt
  markReplyEvent job (fun event => some event.bindingId == job.bindingId)
    (if status = .accepted then .replyAccepted
      else if status = .unknown then .unknown else .rejected)
  pure finished

/-- The document of a read-only query that goes back to the queue. -/
def OutboxJob.requeued (job : OutboxJob) (availableAt now : Timestamp) : OutboxJob :=
  { job.settled .ready now with
    authorityInvocationId := none
    authorityIdempotencyKey := none
    authorityState := none
    availableAt := availableAt }

/-- `min(30, 2 ** (attempts - 1))`. -/
def retryBackoff (attempts : Nat) : Nat := min 30 (2 ^ (attempts - 1))

/-- How a lapsed send settles: back to the queue, or to a final state. -/
inductive LapsedSend where
  | requeue | unknown | exhausted
deriving DecidableEq, Repr

/-- Only an issue query with attempts left may be sent again. -/
def OutboxJob.lapsedSend (job : OutboxJob) : LapsedSend :=
  if job.isReadonlyQuery then
    if job.attempts < 4 then .requeue else .exhausted
  else .unknown

/-- The document recovery writes for a lapsed claim or send. -/
def OutboxJob.recovered (job : OutboxJob) (now : Timestamp) : OutboxJob :=
  if job.state = .claimed then
    job.settled (if truthy job.authorityInvocationId then .awaitingAuthority else .ready) now
  else match job.lapsedSend with
    | .requeue => job.requeued (now + seconds (retryBackoff job.attempts)) now
    | .unknown => job.settled .unknown now
    | .exhausted => job.settled .failed now

/-- What recovery does to the operation of a lapsed send. -/
def recoverOperation (settlement : LapsedSend) (operationId : UUID) (now : Timestamp)
    (replyUuid : UUID) : StoreTransaction Unit :=
  match settlement with
  | .requeue => do
      clearOperationAuthority operationId
      updateOperationState operationId .queued now
        (some [("reasonCode", .str "readonly_query_retry_after_crash")])
  | .unknown => do
      let evidence : JsonObject := [("reasonCode", .str "send_outcome_unknown_after_lease_expiry")]
      updateOperationState operationId .unknown now (some evidence)
      enqueueReplyForOperation operationId .unknown evidence now replyUuid
  | .exhausted => do
      let evidence : JsonObject := [("reasonCode", .str "readonly_query_attempts_exhausted")]
      updateOperationState operationId .failed now (some evidence)
      enqueueReplyForOperation operationId .failed evidence now replyUuid

/-- One iteration of the recovery loop. -/
def recoverClaim (now : Timestamp) (replyUuid : UUID) (row : JobRow) : StoreTransaction Unit := do
  let job ← readJob row
  if job.state ≠ .claimed then
    forOperation job.operationId fun operationId =>
      recoverOperation job.lapsedSend operationId now replyUuid
  persistJob (job.recovered now)

/-- The recovery loop; the k-th iteration draws the k-th identifier. -/
def recoverClaims (now : Timestamp) (draw : Nat → UUID) : List JobRow → Nat → StoreTransaction Nat
  | [], k => pure k
  | row :: rest, k => do
      recoverClaim now (draw k) row
      recoverClaims now draw rest (k + 1)

/-- `state IN ('CLAIMED','SENDING') AND lease_expires_at<=?`. -/
def JobRow.lapsed (now : Timestamp) (row : JobRow) : Bool :=
  (row.state == .claimed || row.state == .sending) && match row.leaseExpiresAt with
    | some lease => decide (lease ≤ now)
    | none => false

def recoverExpiredClaims (now : Timestamp) (draw : Nat → UUID) : StoreTransaction Nat := do
  let rows ← fetch fun s => s.outboxJobs.filter (JobRow.lapsed now)
  recoverClaims now draw rows 0

/-- `claim_job`: recovery commits in a transaction of its own before the
claim; if it raises, nothing is claimed. -/
def claimJob (workerId : String) (now : Timestamp) (leaseSeconds : Int) (draw : Nat → UUID)
    (s : Store) : Except StoreError (Option ClaimedJob) × Store :=
  if workerId = "" ∨ 200 < workerId.length ∨ leaseSeconds < 1 ∨ 300 < leaseSeconds then
    (.error (.valueError "worker id or lease duration is invalid"), s)
  else match commit (recoverExpiredClaims now draw) s with
    | (.error e, t) => (.error e, t)
    | (.ok _, t) => commit (claimReadyJob workerId now leaseSeconds) t

def retryReadonlyJob (jobId : UUID) (claimFence : Nat) (now : Timestamp)
    (retryAfterSeconds : Option Int) (replyUuid : UUID) : StoreTransaction OutboxJob := do
  let evidence : JsonObject := [("reasonCode", .str "readonly_provider_error")]
  let row ← expectRow (← selectSending jobId claimFence) (.conflict "read retry fence is stale")
  let job ← readJob row
  require job.isReadonlyQuery (.authorization "only issue queries can be retried")
  let exhausted := decide (4 ≤ job.attempts)
  let delay := min 60 (max (retryBackoff job.attempts : Int) (retryAfterSeconds.getD 0))
  let updated := if exhausted then job.settled .failed now
    else job.requeued (now + seconds delay) now
  persistJob updated
  insertEvidence ⟨jobId, claimFence, evidence⟩
  forOperation job.operationId fun operationId =>
    if exhausted then do
      updateOperationState operationId .failed now (some evidence)
      enqueueReplyForOperation operationId .failed evidence now replyUuid
    else do
      clearOperationAuthority operationId
      updateOperationState operationId .queued now (some evidence)
  pure updated

/-- The connection reads of `begin_authorized_execution` outside the job. -/
def requireExecutionScope (principal : IntegrationPrincipal) (operation : Operation)
    (bindingId : UUID) : StoreTransaction Unit := do
  let binding ← expectRow (← fetch fun s => s.syncBindings.find? fun b =>
      b.id == bindingId && b.connectionId == operation.connectionId &&
        b.organizationId == principal.organizationId && b.workspaceId == principal.workspaceId)
    (.notFound "execution binding no longer exists in workspace scope")
  let actorBinding ← expectRow (← fetch fun s => s.actorBindings.find? fun a =>
      a.id == operation.actorBindingId && a.bindingId == bindingId && a.scope == principal.scope)
    (.notFound "member authority attachment no longer exists")
  let _ ← expectRow (← fetch fun s => s.connections.find? fun c =>
      c.id == operation.connectionId && c.organizationId == principal.organizationId &&
        c.workspaceId == principal.workspaceId && c.enabled)
    (.notFound "execution connection no longer exists in actor scope")
  require (binding.enabled && actorBinding.enabled &&
      some actorBinding.delegationRef == operation.delegationRef &&
      actorBinding.accountLinkRef == operation.accountLinkRef)
    (.authorization "execution binding is disabled or mismatched")

/-- `begin_authorized_execution`: no fence is presented; the job is taken
over from whoever holds it and gets a new fence. -/
def beginAuthorizedExecution (principal : IntegrationPrincipal) (operationId bindingId : UUID)
    (executionOperationId argumentDigest authorityInvocationId : String) (leaseSeconds : Int)
    (moment : Timestamp) : StoreTransaction (Operation × OutboxJob × Nat) := do
  requireGrant principal executionOperationId moment
  let row ← expectRow (← fetch fun s => s.operations.find? fun row =>
      row.id == operationId && row.scope == principal.scope &&
        (row.state == .queued || row.state == .awaitingAuthority))
    (.conflict "operation is not awaiting Authority execution")
  let operation ← readOperation row
  require (operation.bindingId == bindingId &&
      operation.executionOperationId == executionOperationId &&
      operation.argumentDigest == argumentDigest &&
      !conflictsWith operation.authorityInvocationId authorityInvocationId)
    (.authorization "approved invocation does not match intent")
  requireExecutionScope principal operation bindingId
  let jobRow ← expectRow (← fetch fun s => s.outboxJobs.find? fun row =>
      row.operationId == some operationId &&
        (row.state == .awaitingAuthority || row.state == .claimed))
    (.conflict "operation has no awaiting outbox job")
  let job ← readJob jobRow
  require (job.bindingId == some bindingId &&
      !conflictsWith job.authorityInvocationId authorityInvocationId &&
      job.scope == principal.scope)
    (.authorization "approved invocation scope does not match")
  let fence := job.claimFence + 1
  let sending := { job with
    state := .sending
    claimOwner := some ("authority:" ++ authorityInvocationId)
    claimFence := fence
    leaseExpiresAt := some (moment + seconds leaseSeconds)
    attempts := job.attempts + 1
    updatedAt := moment
    authorityInvocationId := some authorityInvocationId }
  let running := { operation with
    state := .running
    authorityInvocationId := some authorityInvocationId
    updatedAt := moment }
  persistJob sending
  let s ← fetch id
  let matching := fun r : OperationRow =>
    r.id == operationId && (r.state == .queued || r.state == .awaitingAuthority)
  store fun s => { s with
    operations := Table.updateWhere matching (OperationRow.persist running) s.operations }
  require (s.operations.countP matching == 1)
    (.conflict "operation execution was already claimed")
  pure (running, sending, fence)

/-- The jobs a confirmed reconciliation settles, each with its evidence. -/
def settleUnknownJobs (result : JsonObject) (now : Timestamp) :
    List JobRow → StoreTransaction Unit
  | [] => pure ()
  | row :: rest => do
      let job ← readJob row
      persistJob { job with state := .succeeded, updatedAt := now }
      replaceEvidence ⟨job.id, row.claimFence,
        JsonObject.merge [("reconciledReadOnly", .bool true)] result⟩
      settleUnknownJobs result now rest

def resolveUnknownOperation (principal : IntegrationPrincipal) (operationId : UUID)
    (succeeded : Bool) (result : JsonObject) (authorizationOperationId : String)
    (now : Timestamp) (auditUuid : UUID) : StoreTransaction Operation := do
  requireGrant principal authorizationOperationId now
  let row ← expectRow (← fetch fun s => s.operations.find? fun row =>
      row.id == operationId && row.scope == principal.scope && row.state == .unknown)
    (.notFound "unknown integration operation not found")
  let operation ← readOperation row
  let updated := { operation with
    state := if succeeded then .succeeded else .unknown
    result := some result
    updatedAt := now }
  store fun s => { s with
    operations := Table.updateWhere (fun r => r.id == operationId && r.state == .unknown)
      (OperationRow.persist updated) s.operations }
  if succeeded then
    let jobs ← fetch fun s => s.outboxJobs.filter fun row =>
      row.operationId == some operationId && row.state == .unknown
    settleUnknownJobs result now jobs
  insertAudit {
    id := auditUuid
    scope := principal.scope
    resourceId := operationId
    outcome := if succeeded then "SUCCEEDED" else "UNKNOWN"
    observedAt := now }
  pure updated

end CyreneExchange.Integrations
