import CyreneExchange.Integrations.Outbox.Enqueue

/-! The store methods behind the two inbound hooks: GitHub deliveries and
WeCom messages. Clock readings and drawn identifiers are arguments. -/
namespace CyreneExchange.Integrations

open Transaction

section GitHub

variable (sha256 : String → String)

/-- The JSON of an event without its observation time. -/
def NormalizedGitHubEvent.fingerprintPayload (event : NormalizedGitHubEvent) : JsonObject := [
  ("eventType", .str event.eventType.text),
  ("action", .str event.action),
  ("repositoryId", .str event.repositoryId),
  ("issueNumber", .int event.issueNumber),
  ("senderId", .str event.senderId),
  ("senderLogin", .str event.senderLogin),
  ("title", .str event.title),
  ("body", .str event.body),
  ("selfAuthored", .bool event.selfAuthored)]

def NormalizedGitHubEvent.fingerprint (event : NormalizedGitHubEvent) : String :=
  sha256 (Json.dumps (.obj event.fingerprintPayload))

/-- Everything `ingest_github_event` is handed, with the clock reading and the
identifiers it draws. -/
structure GitHubDelivery where
  connectionId : UUID
  deliveryId : String
  event : NormalizedGitHubEvent
  verified : Bool
  eventUuid : UUID
  jobUuid : Nat → UUID
  now : Timestamp

/-- The inbox row of a first admission. -/
def GitHubDelivery.incoming (delivery : GitHubDelivery) (connection : IntegrationConnection) :
    IncomingEvent where
  toNormalizedGitHubEvent := delivery.event
  id := delivery.eventUuid
  connectionId := connection.id
  organizationId := connection.organizationId
  workspaceId := connection.workspaceId
  deliveryId := delivery.deliveryId
  payloadFingerprint := delivery.event.fingerprint sha256

/-- The NOTIFY job of one binding. -/
def IncomingEvent.notification (incoming : IncomingEvent) (connection : IntegrationConnection)
    (binding : SyncBinding) (jobUuid : UUID) (now : Timestamp) : OutboxJob where
  id := jobUuid
  kind := .notify
  scope := ⟨connection.organizationId, connection.workspaceId, connection.actorIssuer,
    connection.actorSubject⟩
  connectionId := connection.id
  bindingId := some binding.id
  idempotencyKey := some ("incoming:" ++ incoming.id.text ++ ":" ++ binding.id.text)
  payload := [
    ("eventId", .str incoming.id.text),
    ("targetRef", .str binding.notificationTargetRef),
    ("issueNumber", .int incoming.issueNumber),
    ("repositoryName", .str connection.repositoryName),
    ("title", .str incoming.title),
    ("action", .str incoming.action)]
  availableAt := now
  createdAt := now
  updatedAt := now

def insertIncomingEvent (incoming : IncomingEvent) : StoreTransaction Unit := do
  let s ← fetch id
  require (s.incomingEvents.all fun e => e.id != incoming.id) .integrityError
  require (s.connections.any fun connection => connection.id == incoming.connectionId)
    .integrityError
  require (s.incomingEvents.all fun e =>
    e.connectionId != incoming.connectionId || e.deliveryId != incoming.deliveryId) .integrityError
  store fun s => { s with incomingEvents := s.incomingEvents ++ [incoming] }

/-- Queue the notification of one binding, if it is enabled. -/
def notifyBinding (incoming : IncomingEvent) (connection : IntegrationConnection)
    (jobUuid : UUID) (now : Timestamp) (binding : SyncBinding) : StoreTransaction Unit :=
  if binding.enabled then do
    let job := incoming.notification connection binding jobUuid now
    require job.valid .documentInvalid
    insertJob job
  else pure ()

/-- The loop over the bindings; the n-th one draws the n-th identifier. -/
def notifyBindings (incoming : IncomingEvent) (connection : IntegrationConnection)
    (jobUuid : Nat → UUID) (now : Timestamp) : List SyncBinding → Nat → StoreTransaction Unit
  | [], _ => pure ()
  | binding :: rest, n => do
      notifyBinding incoming connection (jobUuid n) now binding
      notifyBindings incoming connection jobUuid now rest (n + 1)

/-- The bindings of a connection in its own workspace. -/
def Store.bindingsOf (s : Store) (connection : IntegrationConnection) : List SyncBinding :=
  s.syncBindings.filter fun binding => binding.connectionId == connection.id &&
    binding.organizationId == connection.organizationId &&
    binding.workspaceId == connection.workspaceId

/-- `ingest_github_event`. -/
def ingestGithubEvent (delivery : GitHubDelivery) : StoreTransaction IncomingEvent := do
  require delivery.verified (.authorization "GitHub signature was not verified")
  require (delivery.deliveryId != "" && decide (delivery.deliveryId.length ≤ 300))
    (.validation "delivery_id must contain 1 to 300 characters")
  let found ← fetch fun s => s.connections.find? fun connection =>
    connection.id == delivery.connectionId && connection.enabled
  let connection ← expectRow found (.notFound "integration connection not found")
  require (delivery.event.repositoryId == connection.repositoryId)
    (.authorization "event repository does not match connection")
  let previous ← fetch fun s => s.incomingEvents.find? fun e =>
    e.connectionId == delivery.connectionId && e.deliveryId == delivery.deliveryId
  match previous with
  | some event =>
      require (event.payloadFingerprint == delivery.event.fingerprint sha256)
        (.conflict "delivery id was reused with a different payload")
      pure event
  | none =>
      let incoming := delivery.incoming sha256 connection
      insertIncomingEvent incoming
      if incoming.selfAuthored then pure incoming
      else
        let bindings ← fetch fun s => s.bindingsOf connection
        notifyBindings incoming connection delivery.jobUuid delivery.now bindings 0
        pure incoming

end GitHub

section WeCom

variable (sha256 : String → String)

/-- Everything `persist_wecom_inbound` is handed, with the identifier it draws. -/
structure WeComMessage where
  bindingId : UUID
  sourceEventId : String
  expectedOrganizationId : String
  expectedWorkspaceId : String
  senderId : String
  conversationRef : String
  replyMessageId : Option String
  replyContextRef : Option String
  messageText : String
  verified : Bool
  payloadFingerprint : Option String
  selfAuthored : Bool
  observedAt : Timestamp
  eventUuid : UUID

def WeComMessage.normalizedPayload (message : WeComMessage) (binding : SyncBinding) :
    JsonObject := [
  ("bindingId", .str binding.id.text),
  ("senderId", .str message.senderId),
  ("conversationRef", .str message.conversationRef),
  ("replyMessageId", optionalText message.replyMessageId),
  ("replyContextRef", optionalText message.replyContextRef),
  ("messageText", .str message.messageText),
  ("selfAuthored", .bool message.selfAuthored)]

/-- `payload_fingerprint or normalized_fingerprint`. -/
def WeComMessage.fingerprint (message : WeComMessage) (binding : SyncBinding) : String :=
  orElse message.payloadFingerprint
    (sha256 (Json.dumps (.obj (message.normalizedPayload binding))))

def hexDigest (text : String) : Bool :=
  text.length == 64 && text.toList.all fun c => "0123456789abcdef".toList.contains c

/-- Link commands carry a secret, so their text is not stored. -/
def storedText (messageText : String) : String :=
  if startsWith (String.ofList (messageText.toList.dropWhile pySpace)) "/link" then
    "/link [redacted]"
  else messageText

def WeComMessage.event (message : WeComMessage) (binding : SyncBinding) : WeComInboundEvent where
  id := message.eventUuid
  bindingId := binding.id
  organizationId := binding.organizationId
  workspaceId := binding.workspaceId
  sourceEventId := message.sourceEventId
  payloadFingerprint := message.fingerprint sha256 binding
  senderId := message.senderId
  conversationRef := message.conversationRef
  replyMessageId := message.replyMessageId
  replyContextRef := message.replyContextRef
  messageText := storedText message.messageText
  selfAuthored := message.selfAuthored
  observedAt := message.observedAt
  state := if message.selfAuthored then .ignoredSelf else .received

def insertWecomInboundEvent (event : WeComInboundEvent) : StoreTransaction Unit := do
  let s ← fetch id
  require (s.wecomInboundEvents.all fun e => e.id != event.id) .integrityError
  require (s.syncBindings.any fun binding => binding.id == event.bindingId) .integrityError
  require (s.wecomInboundEvents.all fun e =>
    e.bindingId != event.bindingId || e.sourceEventId != event.sourceEventId) .integrityError
  store fun s => { s with wecomInboundEvents := s.wecomInboundEvents ++ [event] }

/-- `SELECT document FROM sync_bindings WHERE id=?`. -/
def selectBinding (bindingId : UUID) : StoreTransaction (Option SyncBinding) :=
  fetch fun s => s.syncBindings.find? fun binding => binding.id == bindingId

/-- `persist_wecom_inbound`: the event and whether this call created it. -/
def persistWecomInbound (message : WeComMessage) :
    StoreTransaction (WeComInboundEvent × Bool) := do
  require message.verified (.authorization "WeCom event was not authenticated")
  require (message.sourceEventId != "" && decide (message.sourceEventId.length ≤ 300))
    (.validation "WeCom source event ID is invalid")
  require (message.expectedOrganizationId != "" && message.expectedWorkspaceId != "")
    (.validation "WeCom source scope is not configured")
  require (message.senderId != "" && decide (message.senderId.length ≤ 200))
    (.validation "WeCom sender ID is invalid")
  require (message.conversationRef != "" && decide (message.conversationRef.length ≤ 300))
    (.validation "WeCom conversation reference is invalid")
  require (atMost 300 message.replyMessageId) (.validation "WeCom reply message ID is invalid")
  require (atMost 300 message.replyContextRef)
    (.validation "WeCom reply context reference is invalid")
  require (decide (message.messageText.length ≤ 4096))
    (.validation "WeCom text exceeds the size limit")
  let found ← selectBinding message.bindingId
  let binding ← expectRow found (.notFound "WeCom sync binding not found")
  require (binding.organizationId == message.expectedOrganizationId &&
    binding.workspaceId == message.expectedWorkspaceId)
    (.authorization "WeCom source scope does not match the configured binding")
  require binding.enabled (.authorization "WeCom sync binding is disabled")
  require (hexDigest (message.fingerprint sha256 binding))
    (.validation "WeCom payload fingerprint must be SHA-256")
  let previous ← fetch fun s => s.wecomInboundEvents.find? fun e =>
    e.bindingId == message.bindingId && e.sourceEventId == message.sourceEventId
  match previous with
  | some event =>
      require (event.payloadFingerprint == message.fingerprint sha256 binding)
        (.conflict "WeCom source event ID was reused with a different payload")
      pure (event, false)
  | none =>
      let event := message.event sha256 binding
      insertWecomInboundEvent event
      pure (event, true)

end WeCom

/-- The states `mark_wecom_inbound_processed` may write. -/
def WeComEventState.processed : WeComEventState → Bool
  | .ignoredNonCommand | .ignoredScope | .ignoredInvalidCommand | .ignoredUnlinked
  | .ignoredUnbound | .ignoredUnrelated | .commandQueued | .challengeReplyPending
  | .replyAccepted | .replied | .unknown | .rejected => true
  | _ => false

/-- `SELECT document FROM wecom_inbound_events WHERE id=? AND binding_id=?`. -/
def selectInbound (eventRef : String) (bindingId : UUID) :
    StoreTransaction (Option WeComInboundEvent) :=
  fetch fun s => s.wecomInboundEvents.find? fun e =>
    e.id.text == eventRef && e.bindingId == bindingId

/-- `UPDATE wecom_inbound_events SET document=? WHERE id=? AND binding_id=?`. -/
def persistInbound (event : WeComInboundEvent) (eventRef : String) (bindingId : UUID) :
    StoreTransaction Unit :=
  store fun s => { s with
    wecomInboundEvents := Table.updateWhere
      (fun e => e.id.text == eventRef && e.bindingId == bindingId) (fun _ => event)
      s.wecomInboundEvents }

/-- The operation a queued command is linked to must have come from its event. -/
def requireSourceOperation (state : WeComEventState) (operationId : Option UUID)
    (event : WeComInboundEvent) (eventId bindingId : UUID) : StoreTransaction Unit :=
  if state = .commandQueued then
    match operationId with
    | none => reject (.validation "queued command requires operation ID")
    | some operationId => do
        let row ← expectRow (← selectOperation operationId)
          (.notFound "WeCom command operation not found")
        let operation ← readOperation row
        require (operation.bindingId == bindingId &&
          operation.sourceEventRef == some eventId.text &&
          operation.scope.organizationId == event.organizationId &&
          operation.scope.workspaceId == event.workspaceId)
          (.authorization "command operation does not match source event")
  else pure ()

/-- `mark_wecom_inbound_processed`. -/
def markWecomInboundProcessed (eventId bindingId : UUID) (state : WeComEventState)
    (operationId : Option UUID) : StoreTransaction WeComInboundEvent := do
  require state.processed
    (.validation "WeCom processing state is not a terminal intake state")
  let found ← selectInbound eventId.text bindingId
  let event ← expectRow found (.notFound "WeCom inbound event not found")
  require (event.state == .received || event.state == state)
    (.conflict "WeCom inbound event already has a terminal disposition")
  require (!(event.state == state && event.operationId.isSome &&
    event.operationId != operationId)) (.conflict "WeCom event is linked to another operation")
  requireSourceOperation state operationId event eventId bindingId
  let updated := { event with state := state, operationId := operationId }
  persistInbound updated eventId.text bindingId
  pure updated

/-- `begin_wecom_challenge_observation`: the event and whether this call
claimed the one observation it allows. -/
def beginWecomChallengeObservation (bindingId : UUID) (sourceEventRef : String) :
    StoreTransaction (WeComInboundEvent × Bool) := do
  let found ← selectInbound sourceEventRef bindingId
  let event ← expectRow found (.notFound "WeCom challenge source event not found")
  if event.state = .received then
    let updated := { event with state := .challengeObserving }
    persistInbound updated event.id.text bindingId
    pure (updated, true)
  else if event.state = .challengeObserving then
    let updated := { event with state := .challengeUnknown }
    persistInbound updated event.id.text bindingId
    pure (updated, false)
  else pure (event, false)

/-- `mark_wecom_challenge_unknown`. -/
def markWecomChallengeUnknown (bindingId : UUID) (sourceEventRef : String) :
    StoreTransaction WeComInboundEvent := do
  let found ← selectInbound sourceEventRef bindingId
  let event ← expectRow found (.notFound "WeCom challenge source event not found")
  require (event.state == .challengeObserving || event.state == .challengeUnknown)
    (.conflict "WeCom challenge observation is not in progress")
  let updated := { event with state := .challengeUnknown }
  persistInbound updated event.id.text bindingId
  pure updated

def challengeReplyKey (event : WeComInboundEvent) (challengeId : String) : String :=
  "wecom-challenge:" ++ event.id.text ++ ":" ++ challengeId

/-- The private reply job of an observed challenge. -/
def WeComInboundEvent.challengeReply (event : WeComInboundEvent) (binding : SyncBinding)
    (challengeId : String) (jobUuid : UUID) (now : Timestamp) : OutboxJob where
  id := jobUuid
  kind := .challengeReply
  scope := ⟨event.organizationId, event.workspaceId, "urn:cyrene:wecom:" ++ binding.id.text,
    event.senderId⟩
  connectionId := binding.connectionId
  bindingId := some binding.id
  idempotencyKey := some (challengeReplyKey event challengeId)
  payload := [
    ("eventId", .str event.id.text),
    ("sourceBindingId", .str binding.id.text),
    ("senderId", .str event.senderId),
    ("conversationRef", .str event.conversationRef),
    ("replyMessageId", optionalText event.replyMessageId),
    ("replyContextRef", optionalText event.replyContextRef),
    ("text", .str ("Link challenge ID: " ++ challengeId ++ ". Confirm it in Exchange."))]
  availableAt := now
  createdAt := now
  updatedAt := now

/-- `enqueue_wecom_challenge_reply`. -/
def enqueueWecomChallengeReply (bindingId : UUID) (sourceEventRef challengeId : String)
    (jobUuid : UUID) (now : Timestamp) : StoreTransaction WeComInboundEvent := do
  require (challengeId != "" && decide (challengeId.length ≤ 300))
    (.validation "WeCom challenge reference is invalid")
  let found ← selectInbound sourceEventRef bindingId
  let event ← expectRow found (.notFound "WeCom challenge source event not found")
  require (!event.selfAuthored && event.messageText == "/link [redacted]" &&
    truthy event.replyMessageId && truthy event.replyContextRef &&
    (event.state == .challengeObserving || event.state == .challengeReplyPending ||
      event.state == .replyAccepted || event.state == .unknown))
    (.authorization "WeCom challenge reply source is invalid")
  require (!conflictsWith event.challengeId challengeId)
    (.conflict "WeCom source event already recorded another challenge")
  let binding ← expectRow (← selectBinding bindingId) (.notFound "WeCom source binding not found")
  require binding.enabled (.authorization "WeCom reply target is not configured")
  let existing ← fetch fun s => s.outboxJobs.any fun row =>
    row.kind == .challengeReply && row.idempotencyKey == some (challengeReplyKey event challengeId)
  if existing then pure event
  else
    require (event.state == .challengeObserving || event.state == .challengeReplyPending)
      (.conflict "WeCom challenge state requires explicit recovery")
    let job := event.challengeReply binding challengeId jobUuid now
    require job.valid .documentInvalid
    insertJob job
    let updated := { event with state := .challengeReplyPending, challengeId := some challengeId }
    persistInbound updated event.id.text bindingId
    pure updated

end CyreneExchange.Integrations
