import CyreneExchange.Integrations.Values

/-! The durable documents of the issue-action pipeline and the bounds their
models put on each field. -/
namespace CyreneExchange.Integrations

/-- Durable outbox lifecycle; UNKNOWN is never automatically resent. -/
inductive JobState where
  | ready | claimed | awaitingAuthority | sending | accepted | succeeded | failed | unknown
deriving DecidableEq, Repr

/-- Durable business-operation lifecycle. -/
inductive OperationState where
  | queued | awaitingAuthority | running | accepted | succeeded | failed | unknown
deriving DecidableEq, Repr

inductive JobKind where
  | notify | issueAction | commandReply | challengeReply
deriving DecidableEq, Repr

inductive SourceKind where
  | rest | wecomCommand
deriving DecidableEq, Repr

/-- Observable Platform Authority invocation state. -/
inductive AuthorityInvocationState where
  | pending | authorized | dispatched | denied | expired | revoked | completed
  | unknownResult | failed
deriving DecidableEq, Repr

/-- The four capabilities an issue action may name. -/
inductive IssueCapability where
  | query | comment | close | reopen
deriving DecidableEq, Repr

/-- The `operation_id` literal of a capability. -/
def IssueCapability.text : IssueCapability → String
  | .query => "integration.issue.query"
  | .comment => "integration.issue.comment"
  | .close => "integration.issue.close"
  | .reopen => "integration.issue.reopen"

inductive WeComEventState where
  | received | ignoredSelf | ignoredNonCommand | ignoredScope | ignoredInvalidCommand
  | ignoredUnlinked | ignoredUnbound | ignoredUnrelated | commandQueued
  | challengeObserving | challengeObserved | challengeUnknown | challengeReplyPending
  | replyAccepted | replied | unknown | rejected
deriving DecidableEq, Repr

structure IntegrationConnection where
  id : UUID
  organizationId : String
  workspaceId : String
  actorIssuer : String
  actorSubject : String
  repositoryId : String
  repositoryName : String
  enabled : Bool := true
deriving DecidableEq, Repr

/-- Group rule linking a connection to a fixed notification target. -/
structure SyncBinding where
  id : UUID
  organizationId : String
  workspaceId : String
  connectionId : UUID
  notificationTargetRef : String
  enabled : Bool := true
deriving DecidableEq, Repr

/-- One member's Account Center and Platform references for a group binding. -/
structure ActorBinding where
  id : UUID
  bindingId : UUID
  scope : ActorScope
  accountLinkRef : String
  delegationRef : String
  enabled : Bool := true
deriving DecidableEq, Repr

/-- Normalized WeCom source facts. -/
structure WeComInboundEvent where
  id : UUID
  bindingId : UUID
  organizationId : String
  workspaceId : String
  sourceEventId : String
  payloadFingerprint : String
  senderId : String
  conversationRef : String
  replyMessageId : Option String
  replyContextRef : Option String
  messageText : String
  selfAuthored : Bool
  observedAt : Timestamp
  state : WeComEventState
  challengeId : Option String := none
  operationId : Option UUID := none
deriving DecidableEq, Repr

/-- The `event_type` literal. -/
inductive GitHubEventType where
  | issues | issueComment
deriving DecidableEq, Repr

def GitHubEventType.text : GitHubEventType → String
  | .issues => "issues"
  | .issueComment => "issue_comment"

/-- Allowlisted webhook fields normalized after signature verification. -/
structure NormalizedGitHubEvent where
  eventType : GitHubEventType
  action : String
  repositoryId : String
  issueNumber : Int
  senderId : String
  senderLogin : String
  title : String := ""
  body : String := ""
  selfAuthored : Bool := false
  observedAt : Timestamp
deriving DecidableEq, Repr

/-- Verified event persisted to the inbox before notification dispatch. -/
structure IncomingEvent extends NormalizedGitHubEvent where
  id : UUID
  connectionId : UUID
  organizationId : String
  workspaceId : String
  deliveryId : String
  payloadFingerprint : String
  state : String := "RECEIVED"
deriving DecidableEq, Repr

/-- Durable inbox notification or business-operation work item. -/
structure OutboxJob where
  id : UUID
  kind : JobKind
  scope : ActorScope
  connectionId : UUID
  bindingId : Option UUID := none
  operationId : Option UUID := none
  idempotencyKey : Option String := none
  authorityInvocationId : Option String := none
  authorityIdempotencyKey : Option String := none
  authorityState : Option AuthorityInvocationState := none
  payload : JsonObject
  state : JobState := .ready
  attempts : Nat := 0
  availableAt : Timestamp
  claimOwner : Option String := none
  claimFence : Nat := 0
  leaseExpiresAt : Option Timestamp := none
  createdAt : Timestamp
  updatedAt : Timestamp
deriving Repr

/-- A claim paired with its fencing token. -/
structure ClaimedJob where
  job : OutboxJob
  claimFence : Nat
  claimedFromState : JobState
deriving Repr

/-- Idempotent issue action request and its durable observed state. -/
structure Operation where
  id : UUID
  scope : ActorScope
  connectionId : UUID
  bindingId : UUID
  actorBindingId : UUID
  accountLinkRef : String
  delegationRef : Option String
  executionOperationId : String
  authorityInvocationId : Option String := none
  authorityIdempotencyKey : Option String := none
  argumentDigest : String
  reconcilesOperationId : Option UUID
  operationId : IssueCapability
  idempotencyKey : String
  requestHash : String
  sourceKind : SourceKind
  sourceEventRef : Option String
  replyBindingRef : Option String
  replySenderId : Option String
  replyConversationRef : Option String
  replyMessageId : Option String
  replyContextRef : Option String
  issueNumber : Int
  body : Option String
  state : OperationState := .queued
  result : Option JsonObject := none
  createdAt : Timestamp
  updatedAt : Timestamp
deriving Repr

/-- Bounded issue operation payload of the REST and command paths. -/
structure EnqueueIssueAction where
  connectionId : UUID
  bindingId : UUID
  operationId : IssueCapability
  idempotencyKey : String
  issueNumber : Int
  body : Option String
  reconcilesOperationId : Option UUID
deriving DecidableEq, Repr

/-- Transport evidence distinguishing acceptance from delivery proof. -/
structure DeliveryReceipt where
  id : UUID
  operationId : Option UUID
  jobId : Option UUID
  status : String
  accepted : Bool
  observedAt : Timestamp
deriving DecidableEq, Repr

structure OperationAudit where
  id : UUID
  scope : ActorScope
  resourceId : UUID
  outcome : String
  observedAt : Timestamp
deriving DecidableEq, Repr

/-- `Field(max_length=n)` on an optional string. -/
def atMost (n : Nat) (value : Option String) : Bool :=
  match value with
  | none => true
  | some s => decide (s.length ≤ n)

/-- `OutboxJob.model_validate`: what construction and every later read of the
stored document check. -/
def OutboxJob.valid (job : OutboxJob) : Bool :=
  atMost 300 job.idempotencyKey && atMost 300 job.authorityInvocationId &&
    atMost 300 job.authorityIdempotencyKey

/-- `Operation.model_validate`. -/
def Operation.valid (operation : Operation) : Bool :=
  decide (1 ≤ operation.accountLinkRef.length) &&
  decide (operation.accountLinkRef.length ≤ 300) &&
  atMost 300 operation.authorityInvocationId &&
  atMost 300 operation.authorityIdempotencyKey &&
  decide (1 ≤ operation.idempotencyKey.length) &&
  decide (operation.idempotencyKey.length ≤ 200) &&
  atMost 300 operation.sourceEventRef &&
  atMost 300 operation.replyBindingRef &&
  atMost 200 operation.replySenderId &&
  atMost 300 operation.replyConversationRef &&
  atMost 300 operation.replyMessageId &&
  atMost 300 operation.replyContextRef &&
  decide (1 ≤ operation.issueNumber) &&
  atMost 4000 operation.body

/-- The read-only capability: the test `recover_expired_claims` and
`retry_readonly_job` make on the stored job. -/
def OutboxJob.isReadonlyQuery (job : OutboxJob) : Bool :=
  decide (job.kind = .issueAction) &&
    decide ((job.payload.get "operationId").bind Json.asStr = some "integration.issue.query")

/-- All six references a WeCom reply needs are present. -/
def Operation.replyContextComplete (operation : Operation) : Bool :=
  truthy operation.sourceEventRef && truthy operation.replyBindingRef &&
    truthy operation.replySenderId && truthy operation.replyConversationRef &&
    truthy operation.replyMessageId && truthy operation.replyContextRef

end CyreneExchange.Integrations
