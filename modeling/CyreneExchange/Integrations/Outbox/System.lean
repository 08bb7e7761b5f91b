import CyreneExchange.General.Machine
import CyreneExchange.Integrations.Outbox.Enqueue
import CyreneExchange.Integrations.Outbox.Methods

/-! The store as a machine whose inputs are committed method calls. Any number
of workers, routes and clocks is a list of such calls in some order; a call
that raises is rolled back and leaves the store as it was. -/
namespace CyreneExchange.Integrations

open Transaction

/-- The kinds of job other parts of the store enqueue without an operation. -/
inductive DeliveryKind where
  | notify | challengeReply
deriving DecidableEq, Repr

def DeliveryKind.jobKind : DeliveryKind → JobKind
  | .notify => .notify
  | .challengeReply => .challengeReply

/-- A NOTIFY or CHALLENGE_REPLY job as webhook and chat intake insert it. -/
structure DeliveryIntent where
  jobUuid : UUID
  kind : DeliveryKind
  scope : ActorScope
  connectionId : UUID
  bindingId : Option UUID
  idempotencyKey : Option String
  payload : JsonObject
  now : Timestamp
deriving Repr

def DeliveryIntent.job (intent : DeliveryIntent) : OutboxJob where
  id := intent.jobUuid
  kind := intent.kind.jobKind
  scope := intent.scope
  connectionId := intent.connectionId
  bindingId := intent.bindingId
  idempotencyKey := intent.idempotencyKey
  payload := intent.payload
  availableAt := intent.now
  createdAt := intent.now
  updatedAt := intent.now

/-- Insert a delivery job through its validated model. -/
def enqueueDelivery (intent : DeliveryIntent) : StoreTransaction Unit := do
  require intent.job.valid .documentInvalid
  insertJob intent.job

/-- Everything the other methods of the store do to the tables the pipeline
only reads: connections and bindings are added, never removed or changed, and
inbound events may change in any way. -/
def administer (connections : List IntegrationConnection) (syncBindings : List SyncBinding)
    (actorBindings : List ActorBinding) (events : List WeComInboundEvent) :
    StoreTransaction Unit :=
  store fun s => { s with
    connections := s.connections ++ connections
    syncBindings := s.syncBindings ++ syncBindings
    actorBindings := s.actorBindings ++ actorBindings
    wecomInboundEvents := events }

/-- One transaction of one store method, with all its arguments. -/
inductive Call where
  | persistIssueAction (intent : IssueIntent)
  | enqueueDelivery (intent : DeliveryIntent)
  | claimReadyJob (workerId : String) (now : Timestamp) (leaseSeconds : Int)
  | markSending (jobId : UUID) (claimFence : Nat) (now : Timestamp)
  | failClaimedJob (jobId : UUID) (claimFence : Nat) (reasonCode : String) (moment : Timestamp)
      (replyUuid replyUuid' : UUID)
  | markAwaitingAuthority (jobId : UUID) (claimFence : Nat) (invocationId : String)
      (authorityState : AuthorityInvocationState) (moment : Timestamp)
  | prepareAuthorityEnqueue (jobId : UUID) (claimFence : Nat) (candidateIdempotencyKey : String)
      (moment : Timestamp)
  | updateAuthorityEvidence (jobId : UUID) (claimFence : Nat) (invocationId : String)
      (authorityState : AuthorityInvocationState) (moment : Timestamp)
  | markAuthorityResultUnknown (jobId : UUID) (claimFence : Nat) (invocationId : String)
      (moment : Timestamp) (replyUuid : UUID)
  | beginAuthorizedExecution (principal : IntegrationPrincipal) (operationId bindingId : UUID)
      (executionOperationId argumentDigest authorityInvocationId : String) (leaseSeconds : Int)
      (moment : Timestamp)
  | finishJob (jobId : UUID) (claimFence : Nat) (status : JobState) (evidence : JsonObject)
      (receipt : Option DeliveryReceipt) (clock : Timestamp) (replyUuid : UUID)
  | recoverExpiredClaims (now : Timestamp) (draw : Nat → UUID)
  | retryReadonlyJob (jobId : UUID) (claimFence : Nat) (now : Timestamp)
      (retryAfterSeconds : Option Int) (replyUuid : UUID)
  | resolveUnknownOperation (principal : IntegrationPrincipal) (operationId : UUID)
      (succeeded : Bool) (result : JsonObject) (authorizationOperationId : String)
      (now : Timestamp) (auditUuid : UUID)
  | administer (connections : List IntegrationConnection) (syncBindings : List SyncBinding)
      (actorBindings : List ActorBinding) (events : List WeComInboundEvent)

/-- What a committed call returns. -/
inductive Answer where
  | done
  | operation (operation : Operation)
  | job (job : OutboxJob)
  | claim (claim : Option ClaimedJob)
  | prepared (operation : Operation) (job : OutboxJob) (key : String)
  | execution (operation : Operation) (job : OutboxJob) (fence : Nat)
  | count (n : Nat)

/-- The transaction body a call runs. -/
def Call.body (sha256 : String → String) : Call → StoreTransaction Answer
  | .persistIssueAction intent => do
      pure (.operation (← Integrations.persistIssueAction sha256 intent))
  | .enqueueDelivery intent => do
      Integrations.enqueueDelivery intent
      pure .done
  | .claimReadyJob workerId now leaseSeconds => do
      pure (.claim (← Integrations.claimReadyJob workerId now leaseSeconds))
  | .markSending jobId claimFence now => do
      pure (.job (← Integrations.markSending jobId claimFence now))
  | .failClaimedJob jobId claimFence reasonCode moment replyUuid replyUuid' => do
      pure (.job (← Integrations.failClaimedJob jobId claimFence reasonCode moment replyUuid
        replyUuid'))
  | .markAwaitingAuthority jobId claimFence invocationId authorityState moment => do
      pure (.job (← Integrations.markAwaitingAuthority jobId claimFence invocationId
        authorityState moment))
  | .prepareAuthorityEnqueue jobId claimFence candidateIdempotencyKey moment => do
      let (operation, job, key) ← Integrations.prepareAuthorityEnqueue jobId claimFence
        candidateIdempotencyKey moment
      pure (.prepared operation job key)
  | .updateAuthorityEvidence jobId claimFence invocationId authorityState moment => do
      pure (.job (← Integrations.updateAuthorityEvidence jobId claimFence invocationId
        authorityState moment))
  | .markAuthorityResultUnknown jobId claimFence invocationId moment replyUuid => do
      pure (.job (← Integrations.markAuthorityResultUnknown jobId claimFence invocationId moment
        replyUuid))
  | .beginAuthorizedExecution principal operationId bindingId executionOperationId argumentDigest
      authorityInvocationId leaseSeconds moment => do
      let (operation, job, fence) ← Integrations.beginAuthorizedExecution principal operationId
        bindingId executionOperationId argumentDigest authorityInvocationId leaseSeconds moment
      pure (.execution operation job fence)
  | .finishJob jobId claimFence status evidence receipt clock replyUuid => do
      pure (.job (← Integrations.finishJob jobId claimFence status evidence receipt clock
        replyUuid))
  | .recoverExpiredClaims now draw => do
      pure (.count (← Integrations.recoverExpiredClaims now draw))
  | .retryReadonlyJob jobId claimFence now retryAfterSeconds replyUuid => do
      pure (.job (← Integrations.retryReadonlyJob jobId claimFence now retryAfterSeconds
        replyUuid))
  | .resolveUnknownOperation principal operationId succeeded result authorizationOperationId now
      auditUuid => do
      pure (.operation (← Integrations.resolveUnknownOperation principal operationId succeeded
        result authorizationOperationId now auditUuid))
  | .administer connections syncBindings actorBindings events => do
      Integrations.administer connections syncBindings actorBindings events
      pure .done

/-- Run one call as a transaction. -/
def perform (sha256 : String → String) (call : Call) (s : Store) :
    Except StoreError Answer × Store :=
  Transaction.commit (call.body sha256) s

end CyreneExchange.Integrations
