import CyreneExchange.General.Table
import CyreneExchange.General.Transaction
import CyreneExchange.Integrations.Authorization.Models

/-! The tables behind authorization monitoring, renewals, cloud refreshes, the
notification feed and the email outbox. Times are compared as the texts `_dt`
writes, whose order is the order of the moments. -/
namespace CyreneExchange.Integrations

open Transaction

/-- What a method of these tables raises. `documentInvalid` is a model's refusal
of a document, `overflowError` SQLite's of an integer above 64 bits. -/
inductive AuthorizationError where
  | notFound (detail : String)
  | authorization (detail : String)
  | conflict (detail : String)
  | validation (detail : String)
  | valueError (detail : String)
  | typeError (detail : String)
  | overflowError
  | integrityError
  | documentInvalid
deriving DecidableEq, Repr

/-- A row of `renewal_sessions`. -/
structure RenewalRow where
  scope : ActorScope
  authorizationRef : String
  sessionRef : String
  state : RenewalState
  createdAt : Timestamp
  document : RenewalSessionRecord
deriving DecidableEq, Repr

/-- A row of `idempotency_records` under one operation id. -/
structure IdempotencyRecord (Document : Type) where
  scope : ActorScope
  idempotencyKey : String
  requestHash : String
  resourceId : String
  document : Document
deriving DecidableEq, Repr

/-- A row of `authorization_monitor_state`. -/
structure MonitorRow where
  connectionId : UUID
  nextCheckAt : Timestamp
  lastCheckedAt : Option Timestamp := none
  claimOwner : Option String := none
  claimFence : Nat := 0
  leaseExpiresAt : Option Timestamp := none
deriving DecidableEq, Repr

/-- A row of `authorization_observations`. -/
structure HealthRow where
  id : UUID
  scope : ActorScope
  connectionId : UUID
  authorizationRef : Option String
  checkedAt : Timestamp
  generation : Nat
  document : AuthorizationHealthRecord
deriving DecidableEq, Repr

/-- A row of `integration_notifications`. -/
structure NotificationRow where
  sequence : Nat
  id : UUID
  scope : ActorScope
  connectionId : Option UUID
  kind : IntegrationNotificationKind
  severity : NotificationSeverity
  dedupeKey : String
  incidentKey : Option String
  stage : Option String
  createdAt : Timestamp
  document : IntegrationNotification
deriving DecidableEq, Repr

/-- A row of `cloud_resource_observations`. -/
structure CloudObservationRow where
  id : UUID
  scope : ActorScope
  connectionId : UUID
  externalRef : String
  collectedAt : Timestamp
  document : CloudResourceRecord
deriving Repr

/-- A row of `cloud_refresh_operations`. -/
structure CloudRefreshRow where
  id : UUID
  scope : ActorScope
  connectionId : UUID
  idempotencyKey : String
  requestHash : String
  state : CloudRefreshState
  createdAt : Timestamp
  updatedAt : Timestamp
  document : CloudRefreshOperation
deriving Repr

/-- A row of `cloud_refresh_outbox`. -/
structure CloudOutboxRow where
  operationId : UUID
  state : CloudRefreshState
  attempts : Nat := 0
  availableAt : Timestamp
  claimOwner : Option String := none
  claimFence : Nat := 0
  leaseExpiresAt : Option Timestamp := none
  document : CloudRefreshOperation
deriving Repr

/-- A row of `email_notification_outbox`. -/
structure EmailRow where
  id : UUID
  notificationId : UUID
  scope : ActorScope
  connectionId : Option UUID
  state : EmailOutboxState
  attempts : Nat
  availableAt : Timestamp
  claimOwner : Option String := none
  claimFence : Nat
  leaseExpiresAt : Option Timestamp := none
  createdAt : Timestamp
  updatedAt : Timestamp
  document : EmailNotificationJob
deriving DecidableEq, Repr

structure AuthorizationStore where
  connections : List ProviderConnection := []
  monitorState : List MonitorRow := []
  authorizationObservations : List HealthRow := []
  notifications : List NotificationRow := []
  acknowledgements : List (IdempotencyRecord IntegrationNotification) := []
  renewalSessions : List RenewalRow := []
  renewalRecords : List (IdempotencyRecord RenewalSessionRecord) := []
  cloudObservations : List CloudObservationRow := []
  cloudRefreshOperations : List CloudRefreshRow := []
  cloudRefreshOutbox : List CloudOutboxRow := []
  emailOutbox : List EmailRow := []
  deliveryRecords : List (IdempotencyRecord EmailNotificationJob) := []
deriving Repr

abbrev AuthorizationTransaction := Transaction AuthorizationStore AuthorizationError

/-- `principal.require(operation_id)` at the clock reading `now`. -/
def requireOperation (principal : IntegrationPrincipal) (operationId : String)
    (now : Timestamp) : AuthorizationTransaction Unit := do
  require (match principal.expiresAt with
    | some expiry => decide (now < expiry)
    | none => true) (.authorization "authorization expired")
  require (principal.allowedOperationIds.contains operationId)
    (.authorization "operation is not granted")

/-- `WHERE` scope and idempotency key. -/
def IdempotencyRecord.isKeyed {Document : Type} (scope : ActorScope) (key : String)
    (record : IdempotencyRecord Document) : Bool :=
  record.scope == scope && record.idempotencyKey == key

/-- `WHERE` scope and resource id. -/
def IdempotencyRecord.isAbout {Document : Type} (scope : ActorScope) (resourceId : String)
    (record : IdempotencyRecord Document) : Bool :=
  record.scope == scope && record.resourceId == resourceId

/-- `_idempotency_lookup`. -/
def idempotencyLookup {Document : Type}
    (records : AuthorizationStore → List (IdempotencyRecord Document)) (scope : ActorScope)
    (key requestHash : String) :
    AuthorizationTransaction (Option (IdempotencyRecord Document)) := do
  let row ← fetch fun s => (records s).find? (IdempotencyRecord.isKeyed scope key)
  match row with
  | none => pure none
  | some record => do
      require (record.requestHash == requestHash)
        (.conflict "idempotency key was reused for a different request")
      pure (some record)

section Reads

variable {s t : AuthorizationStore}

theorem requireOperation_eq_ok {principal : IntegrationPrincipal} {operationId : String}
    {now : Timestamp} {u : Unit} (h : requireOperation principal operationId now s = .ok (u, t)) :
    t = s := by
  unfold requireOperation at h
  obtain ⟨_, _, hExpiry, hGrant⟩ := bind_eq_ok.mp h
  obtain ⟨_, rfl⟩ := require_eq_ok.mp hExpiry
  exact (require_eq_ok.mp hGrant).2.symm

theorem idempotencyLookup_eq_ok {Document : Type}
    {records : AuthorizationStore → List (IdempotencyRecord Document)} {scope : ActorScope}
    {key requestHash : String} {previous : Option (IdempotencyRecord Document)}
    (h : idempotencyLookup records scope key requestHash s = .ok (previous, t)) :
    previous = (records s).find? (IdempotencyRecord.isKeyed scope key) ∧
      (∀ record, previous = some record → record.requestHash = requestHash) ∧ t = s := by
  unfold idempotencyLookup at h
  rw [fetch_bind] at h
  cases hFind : (records s).find? (IdempotencyRecord.isKeyed scope key) with
  | none =>
      rw [hFind] at h
      cases h
      exact ⟨rfl, by simp, rfl⟩
  | some record =>
      simp only [hFind] at h
      obtain ⟨_, _, hRequire, hPure⟩ := bind_eq_ok.mp h
      obtain ⟨hHash, rfl⟩ := require_eq_ok.mp hRequire
      cases hPure
      refine ⟨rfl, ?_, rfl⟩
      rintro _ ⟨⟩
      simpa using hHash

end Reads

end CyreneExchange.Integrations
