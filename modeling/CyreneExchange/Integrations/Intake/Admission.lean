import CyreneExchange.Integrations.Intake.Command
import CyreneExchange.Integrations.Outbox.Enqueue

/-! The two entry paths of issue actions. Both read bindings and connections
in several steps outside any transaction before they hand the intent to
`_persist_issue_action`, so other callers may act between the steps. -/
namespace CyreneExchange.Integrations

open Transaction

/-- `EnqueueIssueAction.model_validate`. -/
def EnqueueIssueAction.valid (request : EnqueueIssueAction) : Bool :=
  decide (1 ≤ request.idempotencyKey.length) && decide (request.idempotencyKey.length ≤ 200) &&
    decide (1 ≤ request.issueNumber) && atMost 4000 request.body

/-- The arguments of `enqueue_issue_command_for_actor`. -/
structure IssueCommand where
  bindingId : UUID
  scope : ActorScope
  sourceEventRef : String
  sourceSenderId : String
  idempotencyKey : String
  commandText : String
deriving DecidableEq, Repr

/-- The arguments of `_persist_issue_action`. -/
structure IssueSubmission where
  request : EnqueueIssueAction
  binding : SyncBinding
  actorBinding : ActorBinding
  connection : IntegrationConnection
  scope : ActorScope
  sourceKind : SourceKind := .rest
  sourceEventRef : Option String := none
  reply : ReplyContext := {}
deriving DecidableEq, Repr

/-- What one transaction draws: a clock reading and two identifiers. -/
structure Draw where
  now : Timestamp
  first : UUID
  second : UUID
deriving DecidableEq, Repr

def IssueSubmission.intent (submission : IssueSubmission) (draw : Draw) : IssueIntent where
  request := submission.request
  binding := submission.binding
  actorBinding := submission.actorBinding
  connection := submission.connection
  scope := submission.scope
  sourceKind := submission.sourceKind
  sourceEventRef := submission.sourceEventRef
  reply := submission.reply
  operationUuid := draw.first
  jobUuid := draw.second
  now := draw.now

/-- Where an enqueue call stands. `rest` starts `enqueue_issue_action`, which
also serves `enqueue_reconciliation_query`; `command` starts
`enqueue_issue_command_for_actor`. -/
inductive EnqueueStage where
  | rest (principal : IntegrationPrincipal) (request : EnqueueIssueAction)
      (authorizationOperationId : Option String)
  | restBound (principal : IntegrationPrincipal) (request : EnqueueIssueAction)
      (authorizationOperationId : Option String) (binding : SyncBinding)
  | restDelegated (principal : IntegrationPrincipal) (request : EnqueueIssueAction)
      (binding : SyncBinding) (actorBinding : ActorBinding)
  | command (command : IssueCommand)
  | commandMatched (command : IssueCommand) (parsed : ParsedIssueCommand)
      (binding : SyncBinding) (actorBinding : ActorBinding)
  | commandEligible (command : IssueCommand) (parsed : ParsedIssueCommand)
      (binding : SyncBinding) (actorBinding : ActorBinding) (event : WeComInboundEvent)
  | submitting (submission : IssueSubmission)
deriving DecidableEq, Repr

/-- What one step of an enqueue call leads to. -/
inductive EnqueueProgress where
  | continues (stage : EnqueueStage)
  | returns (operation : Operation)

/-- `authorization_operation_id or request.operation_id`. -/
def restGrant (request : EnqueueIssueAction) (authorizationOperationId : Option String) : String :=
  orElse authorizationOperationId request.operationId.text

/-- A result that is already decided, read outside any transaction. -/
def returned {α : Type} : Except StoreError α → StoreTransaction α
  | .ok a => pure a
  | .error e => reject e

/-- `_get_binding_for_scope`. -/
def getBindingForScope (bindingId : UUID) (organizationId workspaceId : String) :
    StoreTransaction (Option SyncBinding) :=
  fetch fun s => s.syncBindings.find? fun binding => binding.id == bindingId &&
    binding.organizationId == organizationId && binding.workspaceId == workspaceId

/-- `_get_actor_binding_scoped`. -/
def getActorBindingScoped (bindingId : UUID) (scope : ActorScope) :
    StoreTransaction (Option ActorBinding) :=
  fetch fun s => s.actorBindings.find? fun actorBinding =>
    actorBinding.bindingId == bindingId && actorBinding.scope == scope

/-- `_get_connection_for_scope`. -/
def getConnectionForScope (connectionId : UUID) (organizationId workspaceId : String) :
    StoreTransaction (Option IntegrationConnection) :=
  fetch fun s => s.connections.find? fun connection => connection.id == connectionId &&
    connection.organizationId == organizationId && connection.workspaceId == workspaceId &&
    connection.enabled

/-- `enqueue_issue_action` up to the read of the binding. -/
def beginRest (principal : IntegrationPrincipal) (request : EnqueueIssueAction)
    (authorizationOperationId : Option String) (now : Timestamp) :
    StoreTransaction EnqueueProgress := do
  requireGrant principal (restGrant request authorizationOperationId) now
  require (request.operationId != .comment || truthy request.body)
    (.validation "comment body is required")
  require (request.operationId == .comment || request.body.isNone)
    (.validation "body is only accepted for comment operations")
  let found ← getBindingForScope request.bindingId principal.organizationId principal.workspaceId
  let binding ← expectRow found (.notFound "sync binding not found")
  require (binding.enabled && binding.connectionId == request.connectionId)
    (.authorization "issue action binding does not match connection")
  pure (.continues (.restBound principal request authorizationOperationId binding))

/-- `get_actor_binding_for_operation`. -/
def delegateRest (principal : IntegrationPrincipal) (request : EnqueueIssueAction)
    (authorizationOperationId : Option String) (binding : SyncBinding) (now : Timestamp) :
    StoreTransaction EnqueueProgress := do
  requireGrant principal (restGrant request authorizationOperationId) now
  let found ← getActorBindingScoped binding.id principal.scope
  let actorBinding ← expectRow found (.notFound "actor binding not found")
  require actorBinding.enabled (.authorization "actor binding is disabled")
  pure (.continues (.restDelegated principal request binding actorBinding))

def connectRest (principal : IntegrationPrincipal) (request : EnqueueIssueAction)
    (binding : SyncBinding) (actorBinding : ActorBinding) : StoreTransaction EnqueueProgress := do
  let found ← getConnectionForScope request.connectionId principal.organizationId
    principal.workspaceId
  let connection ← expectRow found
    (.notFound "integration connection not found in workspace scope")
  pure (.continues (.submitting {
    request, binding, actorBinding, connection
    scope := principal.scope }))

/-- `enqueue_issue_command_for_actor` up to the read of both bindings. -/
def beginCommand (command : IssueCommand) : StoreTransaction EnqueueProgress := do
  require (command.scope.actorIssuer != "" && command.scope.actorSubject != "" &&
    command.scope.organizationId != "" && command.scope.workspaceId != "")
    (.validation "verified sender scope is incomplete")
  require (command.sourceEventRef != "" && decide (command.sourceEventRef.length ≤ 300))
    (.validation "source event reference is invalid")
  require (command.sourceSenderId != "" && decide (command.sourceSenderId.length ≤ 200))
    (.validation "verified sender source ID is invalid")
  let parsed ← returned (parseIssueCommand command.commandText)
  let foundBinding ← getBindingForScope command.bindingId command.scope.organizationId
    command.scope.workspaceId
  let foundActor ← getActorBindingScoped command.bindingId command.scope
  let binding ← expectRow foundBinding (.notFound "sync binding not found for verified sender")
  let actorBinding ← expectRow foundActor
    (.authorization "verified sender has no attached ActorBinding")
  pure (.continues (.commandMatched command parsed binding actorBinding))

/-- The durable source event must still be able to carry the command. -/
def matchCommand (command : IssueCommand) (parsed : ParsedIssueCommand) (binding : SyncBinding)
    (actorBinding : ActorBinding) : StoreTransaction EnqueueProgress := do
  let found ← fetch fun s => s.wecomInboundEvents.find? fun event =>
    event.id.text == command.sourceEventRef && event.bindingId == command.bindingId
  let event ← expectRow found (.notFound "durable WeCom source event was not found")
  require (event.senderId == command.sourceSenderId && !event.selfAuthored &&
    (event.state == .received || event.state == .commandQueued))
    (.authorization "WeCom command source is not eligible")
  require (truthy event.replyContextRef && truthy event.replyMessageId)
    (.validation "WeCom command has no trusted reply context")
  require (binding.enabled && actorBinding.enabled)
    (.authorization "WeCom ActorBinding is disabled")
  pure (.continues (.commandEligible command parsed binding actorBinding event))

/-- The request a chat command stands for. -/
def IssueCommand.request (command : IssueCommand) (parsed : ParsedIssueCommand)
    (binding : SyncBinding) (connection : IntegrationConnection) : EnqueueIssueAction where
  connectionId := connection.id
  bindingId := binding.id
  operationId := parsed.operationId
  idempotencyKey := command.idempotencyKey
  issueNumber := parsed.issueNumber
  body := parsed.body
  reconcilesOperationId := none

def connectCommand (command : IssueCommand) (parsed : ParsedIssueCommand) (binding : SyncBinding)
    (actorBinding : ActorBinding) (event : WeComInboundEvent) :
    StoreTransaction EnqueueProgress := do
  let found ← getConnectionForScope binding.connectionId command.scope.organizationId
    command.scope.workspaceId
  let connection ← expectRow found
    (.notFound "integration connection not found in sender scope")
  let request := command.request parsed binding connection
  require request.valid .documentInvalid
  pure (.continues (.submitting {
    request, binding, actorBinding, connection
    scope := command.scope
    sourceKind := .wecomCommand
    sourceEventRef := some command.sourceEventRef
    reply := {
      bindingRef := some binding.id.text
      senderId := some event.senderId
      conversationRef := some event.conversationRef
      messageId := event.replyMessageId
      contextRef := event.replyContextRef } }))

/-- The next step of an enqueue call, as one atomic body. -/
def EnqueueStage.body (sha256 : String → String) (draw : Draw) :
    EnqueueStage → StoreTransaction EnqueueProgress
  | .rest principal request authorizationOperationId =>
      beginRest principal request authorizationOperationId draw.now
  | .restBound principal request authorizationOperationId binding =>
      delegateRest principal request authorizationOperationId binding draw.now
  | .restDelegated principal request binding actorBinding =>
      connectRest principal request binding actorBinding
  | .command issue => beginCommand issue
  | .commandMatched issue parsed binding actorBinding =>
      matchCommand issue parsed binding actorBinding
  | .commandEligible issue parsed binding actorBinding event =>
      connectCommand issue parsed binding actorBinding event
  | .submitting submission => do
      pure (.returns (← persistIssueAction sha256 (submission.intent draw)))

end CyreneExchange.Integrations
