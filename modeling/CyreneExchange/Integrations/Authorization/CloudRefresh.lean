import CyreneExchange.Integrations.Authorization.Monitor

/-! Cloud refreshes: a queued read of a provider's resources is claimed under a
fence and a lease, and its completion writes the observations, the alerts about
changed resources and the operation in one transaction. -/
namespace CyreneExchange.Integrations

open Transaction

/-- The providers whose connections select cloud resources. -/
def ProviderId.isCloud : ProviderId → Bool
  | .azure | .gcp | .hf | .runpod | .tailscale => true
  | _ => false

/-- The text hashed as the request of a refresh. -/
def refreshRequestText (connection : ProviderConnection) : String :=
  Json.dumps (.obj [("connectionId", .str connection.id.text),
    ("targetRef", optionalText connection.targetRef)])

/-- `enqueue_cloud_refresh`. -/
def enqueueCloudRefresh (sha256 : String → String) (principal : IntegrationPrincipal)
    (connectionId : UUID) (idempotencyKey : String) (now moment : Timestamp) (draw : UUID) :
    AuthorizationTransaction CloudRefreshOperation := do
  requireOperation principal "integrationRefreshConnectionResources" now
  require (textWithin 200 idempotencyKey) (.validation "Idempotency-Key is required")
  let found ← fetch fun s => s.connections.find? fun connection =>
    connection.id == connectionId && connection.scope == principal.scope
  match found with
  | none => reject (.notFound "integration connection not found")
  | some connection => do
      require connection.provider.isCloud
        (.validation "connection does not select a cloud resource provider")
      require (truthy connection.bindingRef && truthy connection.targetRef)
        (.authorization "cloud connection has no configured target binding")
      let requestHash := sha256 (refreshRequestText connection)
      let row ← fetch fun s => s.cloudRefreshOperations.find? fun row =>
        row.scope == principal.scope && row.connectionId == connectionId &&
          row.idempotencyKey == idempotencyKey
      match row with
      | some row => do
          require (row.requestHash == requestHash)
            (.conflict "Idempotency-Key was reused for a different refresh")
          pure row.document
      | none => do
          let operation : CloudRefreshOperation := {
            id := draw
            scope := principal.scope
            connectionId := connection.id
            idempotencyKey := idempotencyKey
            requestHash := requestHash
            createdAt := moment
            updatedAt := moment }
          let s ← fetch id
          require (!(s.cloudRefreshOperations.any fun row => row.id == draw) &&
            !(s.cloudRefreshOutbox.any fun row => row.operationId == draw)) .integrityError
          store fun s => { s with
            cloudRefreshOperations := s.cloudRefreshOperations ++ [{
              id := draw
              scope := principal.scope
              connectionId := connection.id
              idempotencyKey := idempotencyKey
              requestHash := requestHash
              state := .queued
              createdAt := moment
              updatedAt := moment
              document := operation }]
            cloudRefreshOutbox := s.cloudRefreshOutbox ++ [{
              operationId := draw
              state := .queued
              availableAt := moment
              document := operation }] }
          pure operation

/-- UPDATE cloud_refresh_operations SET state, updated_at, document. -/
def persistRefresh (operation : CloudRefreshOperation) (now : Timestamp) :
    AuthorizationTransaction Unit :=
  store fun s => { s with
    cloudRefreshOperations := Table.updateWhere (fun row => row.id == operation.id)
      (fun row => { row with
        state := operation.state
        updatedAt := now
        document := operation }) s.cloudRefreshOperations }

/-- A queued or running row whose lease is over. -/
def CloudOutboxRow.claimable (now : Timestamp) (row : CloudOutboxRow) : Bool :=
  (row.state == .queued || row.state == .running) && decide (row.availableAt ≤ now) &&
    leaseOver row.claimOwner row.leaseExpiresAt now

/-- ORDER BY available_at, operation_id. -/
def CloudOutboxRow.sooner (first second : CloudOutboxRow) : Bool :=
  decide (first.availableAt < second.availableAt) ||
    (first.availableAt == second.availableAt &&
      decide (first.operationId.text < second.operationId.text))

/-- `claim_cloud_refresh`. -/
def claimCloudRefresh (workerId : String) (now : Timestamp) (leaseSeconds : Nat) :
    AuthorizationTransaction (Option ClaimedCloudRefresh) := do
  require (textWithin 200 workerId && decide (1 ≤ leaseSeconds) && decide (leaseSeconds ≤ 300))
    (.valueError "cloud worker or lease is invalid")
  let leaseExpiry := now + seconds leaseSeconds
  let row ← fetch fun s => Table.firstBy CloudOutboxRow.sooner
    (s.cloudRefreshOutbox.filter (CloudOutboxRow.claimable now))
  match row with
  | none => pure none
  | some row => do
      let running := { row.document with state := .running, updatedAt := now }
      store fun s => { s with
        cloudRefreshOutbox := Table.updateWhere (fun other => other.operationId == row.operationId)
          (fun other => { other with
            state := .running
            attempts := other.attempts + 1
            claimOwner := some workerId
            claimFence := row.claimFence + 1
            leaseExpiresAt := some leaseExpiry
            document := running }) s.cloudRefreshOutbox }
      persistRefresh running now
      pure (some {
        operation := running
        workerId := workerId
        claimFence := row.claimFence + 1
        leaseExpiresAt := leaseExpiry })

/-- `WHERE` operation_id, claim_owner and claim_fence. -/
def CloudOutboxRow.isClaim (claim : ClaimedCloudRefresh) (row : CloudOutboxRow) : Bool :=
  row.operationId == claim.operation.id && row.claimOwner == some claim.workerId &&
    row.claimFence == claim.claimFence

/-- `_cloud_fingerprint` -/
def cloudFingerprint (observation : CloudResourceRecord) : String :=
  Json.dumps (.obj [
    ("kind", .str observation.kind),
    ("displayName", .str observation.displayName),
    ("status", .str observation.status.text),
    ("providerStatus", optionalText observation.providerStatus),
    ("attributes", .obj observation.attributes),
    ("platformResourceRef", optionalText observation.platformResourceRef),
    ("platformGeneration", match observation.platformGeneration with
      | none => .null
      | some generation => .int generation)])

/-- ORDER BY collected_at DESC, id DESC. -/
def CloudObservationRow.newer (first second : CloudObservationRow) : Bool :=
  decide (second.collectedAt < first.collectedAt) ||
    (first.collectedAt == second.collectedAt && decide (second.id.text < first.id.text))

/-- The newest stored observation of a resource. -/
def priorObservation (connectionId : UUID) (externalRef : String)
    (rows : List CloudObservationRow) : Option CloudObservationRow :=
  Table.firstBy CloudObservationRow.newer (rows.filter fun row =>
    row.connectionId == connectionId && row.externalRef == externalRef)

/-- The alert about a resource whose fingerprint changed. -/
def changedResourceDraft (sha256 : String → String) (connection : ProviderConnection)
    (prior observation : CloudResourceRecord) : IntegrationNotificationDraft where
  connectionId := some connection.id
  kind := .cloudResourceChanged
  severity := match observation.status with
    | .stopped | .unavailable | .degraded => .warning
    | _ => .info
  title := clip 200 ("Cloud resource changed: " ++ observation.displayName)
  description := "Observed status changed from " ++ prior.status.text ++ " to " ++
    observation.status.text ++ "."
  actionRef := some ("/api/v1/integrations/connections/" ++ connection.id.text ++ "/resources")
  dedupeKey := "cloud-change:" ++ connection.id.text ++ ":" ++ sha256 observation.externalRef ++
    ":" ++ sha256 (cloudFingerprint prior) ++ ":" ++ sha256 (cloudFingerprint observation)
  incidentKey := some ("cloud-resource:" ++ connection.id.text ++ ":" ++ observation.externalRef)
  stage := some (clip 24 (sha256 (cloudFingerprint observation)))

/-- The scope a completion demands of an observation. -/
def CloudResourceRecord.belongsTo (observation : CloudResourceRecord)
    (connection : ProviderConnection) : Bool :=
  observation.connectionId == connection.id && observation.scope == connection.scope &&
    observation.provider == connection.provider.text &&
    observation.source == connection.provider.text

/-- INSERT INTO cloud_resource_observations. -/
def insertObservation (observation : CloudResourceRecord) : AuthorizationTransaction Unit := do
  match observation.collectedAt.utc with
  | none => reject (.valueError "timestamps must be timezone-aware")
  | some collectedAt => do
      let s ← fetch id
      require (!s.cloudObservations.any fun row => row.id == observation.id ||
        (row.connectionId == observation.connectionId &&
          row.externalRef == observation.externalRef && row.collectedAt == collectedAt))
        .integrityError
      store fun s => { s with
        cloudObservations := s.cloudObservations ++ [{
          id := observation.id
          scope := observation.scope
          connectionId := observation.connectionId
          externalRef := observation.externalRef
          collectedAt := collectedAt
          document := observation }] }

/-- One turn of the loop over the observations of a completion. -/
def storeObservation (sha256 : String → String) (connection : ProviderConnection)
    (emailRecipientRef : Option String) (now : Timestamp) (draws : NotificationDraws)
    (observation : CloudResourceRecord) :
    AuthorizationTransaction (Option IntegrationNotification) := do
  require (observation.belongsTo connection)
    (.authorization "cloud observation scope does not match")
  let prior ← fetch fun s =>
    priorObservation connection.id observation.externalRef s.cloudObservations
  require (prior.all fun row => row.document.valid) .documentInvalid
  insertObservation observation
  match prior with
  | none => pure none
  | some row =>
      if cloudFingerprint row.document = cloudFingerprint observation then pure none
      else do
        let draft ← draftNotification
          (changedResourceDraft sha256 connection row.document observation)
        insertNotification draft connection.scope emailRecipientRef now draws

/-- The loop over the observations; `draw` gives the identifiers of the next
notification. -/
def storeObservations (sha256 : String → String) (connection : ProviderConnection)
    (emailRecipientRef : Option String) (now : Timestamp) (draw : Nat → NotificationDraws) :
    List CloudResourceRecord → AuthorizationTransaction (List IntegrationNotification)
  | [] => pure []
  | observation :: rest => do
      let event ← storeObservation sha256 connection emailRecipientRef now (draw rest.length)
        observation
      let saved ← storeObservations sha256 connection emailRecipientRef now draw rest
      pure (event.toList ++ saved)

/-- `complete_cloud_refresh`. -/
def completeCloudRefresh (sha256 : String → String) (claim : ClaimedCloudRefresh)
    (observations : List CloudResourceRecord) (state : CloudRefreshState) (now : Timestamp)
    (result : Option JsonObject) (emailRecipientRef : Option String)
    (draw : Nat → NotificationDraws) :
    AuthorizationTransaction (CloudRefreshOperation × List IntegrationNotification) := do
  require (state == .succeeded || state == .failed || state == .unknown)
    (.validation "cloud refresh completion state is invalid")
  require (state == .succeeded || observations.isEmpty)
    (.validation "failed cloud refresh cannot replace observations")
  let operation := claim.operation
  let s ← fetch id
  require (s.cloudRefreshOutbox.any fun row => row.operationId == operation.id &&
    holdsLease claim.workerId claim.claimFence now row.claimOwner row.claimFence
      row.leaseExpiresAt) (.conflict "cloud refresh claim is stale or expired")
  match findConnection operation.connectionId operation.scope s.connections with
  | none => reject (.notFound "cloud connection is no longer available")
  | some connection => do
      let saved ← storeObservations sha256 connection emailRecipientRef now draw observations
      let updated := { operation with state := state, updatedAt := now, result := result }
      store fun s => { s with
        cloudRefreshOutbox := Table.updateWhere (CloudOutboxRow.isClaim claim)
          (fun row => { row with
            state := state
            claimOwner := none
            leaseExpiresAt := none
            document := updated }) s.cloudRefreshOutbox }
      persistRefresh updated now
      pure (updated, saved)

/-- `release_cloud_refresh_claim`. -/
def releaseCloudRefreshClaim (claim : ClaimedCloudRefresh) (now : Timestamp)
    (retryDelaySeconds : Nat) : AuthorizationTransaction CloudRefreshOperation := do
  require (decide (1 ≤ retryDelaySeconds) && decide (retryDelaySeconds ≤ 86400))
    (.valueError "cloud refresh retry delay is invalid")
  let operation := { claim.operation with state := .queued, updatedAt := now }
  let s ← fetch id
  require (s.cloudRefreshOutbox.any (CloudOutboxRow.isClaim claim))
    (.conflict "cloud refresh claim is stale")
  store fun s => { s with
    cloudRefreshOutbox := Table.updateWhere (CloudOutboxRow.isClaim claim)
      (fun row => { row with
        state := .queued
        claimOwner := none
        leaseExpiresAt := none
        availableAt := now + seconds retryDelaySeconds
        document := operation }) s.cloudRefreshOutbox }
  persistRefresh operation now
  pure operation

section Observations

variable {sha256 : String → String} {s t u : AuthorizationStore} {connection : ProviderConnection}
  {observation : CloudResourceRecord} {row : CloudObservationRow} {collectedAt now : Timestamp}
  {draws : NotificationDraws}

theorem insertObservation_of_fresh (hCollected : observation.collectedAt.utc = some collectedAt)
    (hFresh : (s.cloudObservations.any fun row => row.id == observation.id ||
      (row.connectionId == observation.connectionId &&
        row.externalRef == observation.externalRef && row.collectedAt == collectedAt)) = false) :
    insertObservation observation s = .ok ((), { s with
      cloudObservations := s.cloudObservations ++ [⟨observation.id, observation.scope,
        observation.connectionId, observation.externalRef, collectedAt, observation⟩] }) := by
  unfold insertObservation
  simp only [hCollected]
  rw [fetch_bind]
  exact bind_of_ok (require_of_true (congrArg not hFresh) _ _)

/-- A first observation is only stored. -/
theorem storeObservation_of_first (hBelongs : observation.belongsTo connection = true)
    (hPrior : priorObservation connection.id observation.externalRef s.cloudObservations = none)
    (hInsert : insertObservation observation s = .ok ((), t)) :
    storeObservation sha256 connection none now draws observation s = .ok (none, t) := by
  unfold storeObservation
  rw [bind_of_ok (require_of_true hBelongs _ _), fetch_bind, hPrior,
    bind_of_ok (require_of_true Option.all_none _ _), bind_of_ok hInsert]
  rfl

/-- A changed one gives its alert to the feed. -/
theorem storeObservation_of_changed {event : Option IntegrationNotification}
    (hBelongs : observation.belongsTo connection = true)
    (hPrior : priorObservation connection.id observation.externalRef s.cloudObservations =
      some row) (hValid : row.document.valid = true)
    (hInsert : insertObservation observation s = .ok ((), t))
    (hChanged : cloudFingerprint row.document ≠ cloudFingerprint observation)
    (hDraft : (changedResourceDraft sha256 connection row.document observation).valid = true)
    (hNotify : insertNotification (changedResourceDraft sha256 connection row.document observation)
      connection.scope none now draws t = .ok (event, u)) :
    storeObservation sha256 connection none now draws observation s = .ok (event, u) := by
  have hRow : (some row).all (fun row => row.document.valid) = true := hValid
  unfold storeObservation
  rw [bind_of_ok (require_of_true hBelongs _ _), fetch_bind, hPrior,
    bind_of_ok (require_of_true hRow _ _), bind_of_ok hInsert]
  simp only [if_neg hChanged]
  have hDrafted : draftNotification (changedResourceDraft sha256 connection row.document
      observation) t = .ok (changedResourceDraft sha256 connection row.document observation, t) :=
    draftNotification_of_valid hDraft
  rw [bind_of_ok hDrafted]
  exact hNotify

end Observations

end CyreneExchange.Integrations
