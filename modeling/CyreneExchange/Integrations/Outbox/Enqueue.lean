import CyreneExchange.Integrations.Outbox.Store

/-! Admission of issue actions: the operation and its one ISSUE_ACTION job are
written in a single transaction. The digest function is a parameter. -/
namespace CyreneExchange.Integrations

open Transaction

variable (sha256 : String → String)

/-- The fixed GitHub operation and arguments saved with the intent. -/
def providerArguments (request : EnqueueIssueAction) (connection : IntegrationConnection) :
    Except StoreError (String × JsonObject) :=
  let arguments : JsonObject := [
    ("repository_id", .str connection.repositoryId),
    ("repository", .str connection.repositoryName),
    ("issue_number", .int request.issueNumber)]
  match request.operationId with
  | .comment => match request.body with
    | none => .error (.validation "comment body is required")
    | some body => .ok ("integrationExecuteIssueComment", arguments ++ [("body", .str body)])
  | .close => .ok ("integrationExecuteIssueState", arguments ++ [("state", .str "CLOSED")])
  | .reopen => .ok ("integrationExecuteIssueState", arguments ++ [("state", .str "OPEN")])
  | .query => .ok ("integrationExecuteIssueQuery", arguments)

/-- The request fields a replay must repeat exactly. -/
def canonicalRequest (request : EnqueueIssueAction) (binding : SyncBinding)
    (sourceKind : SourceKind) (sourceEventRef : Option String) : JsonObject := [
  ("connectionId", .str request.connectionId.text),
  ("bindingId", .str binding.id.text),
  ("operationId", .str request.operationId.text),
  ("issueNumber", .int request.issueNumber),
  ("body", optionalText request.body),
  ("reconcilesOperationId", optionalText (request.reconcilesOperationId.map UUID.text)),
  ("sourceKind", .str (match sourceKind with
    | .rest => "REST"
    | .wecomCommand => "WECOM_COMMAND")),
  ("sourceEventRef", optionalText sourceEventRef)]

/-- The durable reply references a chat command carries. -/
structure ReplyContext where
  bindingRef : Option String := none
  senderId : Option String := none
  conversationRef : Option String := none
  messageId : Option String := none
  contextRef : Option String := none
deriving DecidableEq, Repr

/-- Everything `_persist_issue_action` is handed, with the clock reading and
the two identifiers it draws. -/
structure IssueIntent where
  request : EnqueueIssueAction
  binding : SyncBinding
  actorBinding : ActorBinding
  connection : IntegrationConnection
  scope : ActorScope
  sourceKind : SourceKind := .rest
  sourceEventRef : Option String := none
  reply : ReplyContext := {}
  operationUuid : UUID
  jobUuid : UUID
  now : Timestamp
deriving DecidableEq, Repr

def IssueIntent.canonical (intent : IssueIntent) : JsonObject :=
  canonicalRequest intent.request intent.binding intent.sourceKind intent.sourceEventRef

def IssueIntent.digest (intent : IssueIntent) : String := sha256 (Json.dumps (.obj intent.canonical))

/-- The operation document written for a new intent. -/
def IssueIntent.operation (intent : IssueIntent) (executionOperationId argumentDigest : String) :
    Operation where
  id := intent.operationUuid
  scope := intent.scope
  connectionId := intent.connection.id
  bindingId := intent.binding.id
  actorBindingId := intent.actorBinding.id
  accountLinkRef := intent.actorBinding.accountLinkRef
  delegationRef := some intent.actorBinding.delegationRef
  executionOperationId := executionOperationId
  argumentDigest := argumentDigest
  reconcilesOperationId := intent.request.reconcilesOperationId
  operationId := intent.request.operationId
  idempotencyKey := intent.request.idempotencyKey
  requestHash := intent.digest sha256
  sourceKind := intent.sourceKind
  sourceEventRef := intent.sourceEventRef
  replyBindingRef := intent.reply.bindingRef
  replySenderId := intent.reply.senderId
  replyConversationRef := intent.reply.conversationRef
  replyMessageId := intent.reply.messageId
  replyContextRef := intent.reply.contextRef
  issueNumber := intent.request.issueNumber
  body := intent.request.body
  createdAt := intent.now
  updatedAt := intent.now

/-- The Authority job written with the operation. -/
def IssueIntent.job (intent : IssueIntent) : OutboxJob where
  id := intent.jobUuid
  kind := .issueAction
  scope := intent.scope
  connectionId := intent.connection.id
  bindingId := some intent.binding.id
  operationId := some intent.operationUuid
  idempotencyKey := some ("operation:" ++ intent.operationUuid.text)
  payload := intent.canonical
  availableAt := intent.now
  createdAt := intent.now
  updatedAt := intent.now

/-- `INSERT INTO operations`: primary key, connection reference and the
unique (scope, connection, idempotency key) columns. -/
def insertOperation (operation : Operation) : StoreTransaction Unit := do
  let s ← fetch id
  require (s.operations.all fun row => row.id != operation.id) .integrityError
  require (s.connections.any fun connection => connection.id == operation.connectionId)
    .integrityError
  require (s.operations.all fun row => row.scope != operation.scope ||
    row.connectionId != operation.connectionId || row.idempotencyKey != operation.idempotencyKey)
    .integrityError
  store fun s => { s with operations := s.operations ++ [OperationRow.ofOperation operation] }

/-- `_persist_issue_action`: create the operation with its job, or return the
operation an exact replay already created. -/
def persistIssueAction (intent : IssueIntent) : StoreTransaction Operation := do
  let digest := intent.digest sha256
  let existing ← fetch fun s => s.operations.find? fun row =>
    row.scope == intent.scope && row.connectionId == intent.connection.id &&
      row.idempotencyKey == intent.request.idempotencyKey
  match existing with
  | some row =>
      require (row.requestHash == digest)
        (.conflict "idempotency key was reused for a different request")
      readOperation row
  | none =>
      match providerArguments intent.request intent.connection with
      | .error e => reject e
      | .ok (executionOperationId, arguments) =>
          let operation := intent.operation sha256 executionOperationId
            (sha256 (Json.dumps (.obj arguments)))
          require operation.valid .documentInvalid
          insertOperation operation
          require intent.job.valid .documentInvalid
          insertJob intent.job
          pure operation

end CyreneExchange.Integrations
