import CyreneExchange.Integrations.Models

/-! The documents of the authorization monitor, the cloud refreshes, the
notification feed and the email outbox, with the bounds of their models. -/
namespace CyreneExchange.Integrations

/-- A `datetime`: its wall clock, in microseconds since the epoch, and its UTC
offset unless it is naive. -/
structure Datetime where
  wall : Int
  offset : Option Int
deriving DecidableEq, Repr

/-- `datetime.min` and `datetime.max`. -/
def earliestMoment : Timestamp := -62135596800000000
def latestMoment : Timestamp := 253402300799999999

/-- `_dt`: a naive datetime is refused, and so is one whose UTC form leaves the
years 1 to 9999. -/
def Datetime.utc (value : Datetime) : Option Timestamp :=
  match value.offset with
  | none => none
  | some offset =>
      if earliestMoment ≤ value.wall - offset ∧ value.wall - offset ≤ latestMoment then
        some (value.wall - offset)
      else none

/-- `value - now` for an aware `now`: naive datetimes cannot be subtracted. -/
def Datetime.since (value : Datetime) (now : Timestamp) : Option Int :=
  value.offset.map fun offset => value.wall - offset - now

/-- An aware UTC datetime. -/
def Datetime.ofTimestamp (moment : Timestamp) : Datetime := ⟨moment, some 0⟩

/-- A number written with exactly `width` digits. -/
def padded (width n : Nat) : String :=
  String.ofList ((List.range width).reverse.map fun i => Nat.digitChar (n / 10 ^ i % 10))

/-- Year, month and day of a day counted from 1970-01-01. -/
def civilDate (day : Int) : Nat × Nat × Nat :=
  let shifted := day + 719468
  let era := shifted / 146097
  let dayOfEra := (shifted % 146097).toNat
  let yearOfEra := (dayOfEra - dayOfEra / 1460 + dayOfEra / 36524 - dayOfEra / 146096) / 365
  let dayOfYear := dayOfEra - (365 * yearOfEra + yearOfEra / 4 - yearOfEra / 100)
  let marchMonth := (5 * dayOfYear + 2) / 153
  let month := if marchMonth < 10 then marchMonth + 3 else marchMonth - 9
  let year := (era * 400).toNat + yearOfEra + if month ≤ 2 then 1 else 0
  (year, month, dayOfYear - (153 * marchMonth + 2) / 5 + 1)

/-- `HH:MM`, then seconds and microseconds as `isoformat` shows them. -/
def clockText (microseconds : Nat) (showSeconds : Bool) : String :=
  let second := microseconds / 1000000
  padded 2 (second / 3600) ++ ":" ++ padded 2 (second / 60 % 60) ++
    (if showSeconds then ":" ++ padded 2 (second % 60) else "") ++
    (if microseconds % 1000000 = 0 then "" else "." ++ padded 6 (microseconds % 1000000))

/-- `datetime.isoformat`. -/
def Datetime.isoformat (value : Datetime) : String :=
  let (year, month, day) := civilDate (value.wall / 86400000000)
  padded 4 year ++ "-" ++ padded 2 month ++ "-" ++ padded 2 day ++ "T" ++
    clockText (value.wall % 86400000000).toNat true ++
    match value.offset with
    | none => ""
    | some offset =>
        (if offset < 0 then "-" else "+") ++
          clockText offset.natAbs (offset.natAbs % 60000000 != 0)

/-- `Field(min_length=1, max_length=n)`. -/
def textWithin (n : Nat) (text : String) : Bool :=
  decide (1 ≤ text.length) && decide (text.length ≤ n)

inductive ProviderId where
  | github | wecom | azure | azureDevops | bilibili | gcp | hf | microsoftGraph | runpod | tailscale
deriving DecidableEq, Repr

def ProviderId.text : ProviderId → String
  | .github => "github"
  | .wecom => "wecom"
  | .azure => "azure"
  | .azureDevops => "azure_devops"
  | .bilibili => "bilibili"
  | .gcp => "gcp"
  | .hf => "hf"
  | .microsoftGraph => "microsoft_graph"
  | .runpod => "runpod"
  | .tailscale => "tailscale"

/-- A connection with the fields that select its provider. -/
structure ProviderConnection where
  id : UUID
  scope : ActorScope
  provider : ProviderId
  bindingRef : Option String := none
  targetRef : Option String := none
  displayName : Option String := none
  enabled : Bool := true
deriving DecidableEq, Repr

/-- Observed provider login presence; it does not establish validity. -/
inductive LoginState where
  | present | missing | unknown | unavailable
deriving DecidableEq, Repr

/-- Provider authorization fact, kept distinct from Platform grants. -/
inductive AuthorizationState where
  | valid | reauthorizationRequired | permissionDenied | unknown | unavailable
deriving DecidableEq, Repr

/-- Provider reauthorization flow state. -/
inductive RenewalState where
  | waitingUser | verifying | succeeded | failed | expired | cancelled
deriving DecidableEq, Repr

inductive IntegrationNotificationKind where
  | authorizationExpiring | authorizationRequired | connectionUnavailable
  | cloudResourceChanged | deliveryFailed
deriving DecidableEq, Repr

inductive NotificationSeverity where
  | info | warning | error
deriving DecidableEq, Repr

/-- Durable actor-scoped event with a monotonic feed sequence. -/
structure IntegrationNotification where
  id : UUID
  sequence : Nat
  scope : ActorScope
  connectionId : Option UUID
  kind : IntegrationNotificationKind
  severity : NotificationSeverity
  title : String
  description : String
  createdAt : Timestamp
  actionRef : Option String
  acknowledgedAt : Option Timestamp := none
  incidentKey : Option String
  stage : Option String
deriving DecidableEq, Repr

/-- Notification content and incident key before SQLite assigns sequence. -/
structure IntegrationNotificationDraft where
  connectionId : Option UUID := none
  kind : IntegrationNotificationKind
  severity : NotificationSeverity
  title : String
  description : String := ""
  actionRef : Option String := none
  dedupeKey : String
  incidentKey : Option String := none
  stage : Option String := none
deriving DecidableEq, Repr

/-- `IntegrationNotificationDraft.model_validate`. -/
def IntegrationNotificationDraft.valid (draft : IntegrationNotificationDraft) : Bool :=
  textWithin 200 draft.title && decide (draft.description.length ≤ 2000) &&
    atMost 300 draft.actionRef && textWithin 500 draft.dedupeKey &&
    atMost 500 draft.incidentKey && atMost 80 draft.stage

/-- `IntegrationNotification.model_validate`. -/
def IntegrationNotification.valid (event : IntegrationNotification) : Bool :=
  decide (1 ≤ event.sequence) && textWithin 200 event.title &&
    decide (event.description.length ≤ 2000) && atMost 300 event.actionRef &&
    atMost 500 event.incidentKey && atMost 80 event.stage

/-- Due connection and fencing token owned by one monitor worker. -/
structure ClaimedAuthorizationMonitor where
  connection : ProviderConnection
  workerId : String
  claimFence : Nat
  leaseExpiresAt : Timestamp
deriving DecidableEq, Repr

structure AuthorizationCapabilityRecord where
  capabilityId : String
  state : AuthorizationState
  reasonCode : Option String
deriving DecidableEq, Repr

/-- Persisted provider observation scoped to one owned connection. -/
structure AuthorizationHealthRecord where
  id : UUID
  scope : ActorScope
  externalSubject : Option String := none
  connectionId : UUID
  authorizationRef : Option String := none
  reasonCode : Option String := none
  loginState : LoginState
  authorizationState : AuthorizationState
  checkedAt : Datetime
  expiresAt : Option Datetime := none
  generation : Nat
  capabilities : List AuthorizationCapabilityRecord := []
  scopeSchemaVersion : Option Int := none
  reauthReasonCode : Option String := none
deriving DecidableEq, Repr

/-- `AuthorizationHealthRecord.model_validate`. -/
def AuthorizationHealthRecord.valid (health : AuthorizationHealthRecord) : Bool :=
  atMost 1200 health.externalSubject && atMost 300 health.authorizationRef &&
    atMost 200 health.reasonCode &&
    (health.capabilities.all fun capability =>
      textWithin 200 capability.capabilityId && atMost 200 capability.reasonCode) &&
    (match health.scopeSchemaVersion with
      | none => true
      | some version => decide (1 ≤ version) && decide (version ≤ 100)) &&
    atMost 200 health.reauthReasonCode

/-- Actor-scoped durable projection of one fixed provider renewal session. -/
structure RenewalSessionRecord where
  sessionRef : String
  authorizationRef : String
  scope : ActorScope
  state : RenewalState
  createdAt : Timestamp
  providerSessionRef : Option String := none
  expiresAt : Option Datetime := none
  authorizationUrl : Option String := none
  userCode : Option String := none
  qrAttachmentRef : Option String := none
  generation : Int
  reasonCode : Option String := none
deriving DecidableEq, Repr

/-- `^[A-Z0-9]{4}-[A-Z0-9]{4}$`. -/
def userCodeShaped (code : String) : Bool :=
  match code.toList with
  | [a, b, c, d, dash, e, f, g, h] =>
      dash == '-' && [a, b, c, d, e, f, g, h].all fun x =>
        x.isDigit || (decide ('A' ≤ x) && decide (x ≤ 'Z'))
  | _ => false

/-- `RenewalSessionRecord.model_validate`. -/
def RenewalSessionRecord.valid (session : RenewalSessionRecord) : Bool :=
  textWithin 300 session.sessionRef && textWithin 300 session.authorizationRef &&
    atMost 300 session.providerSessionRef && atMost 2000 session.authorizationUrl &&
    (match session.userCode with
      | none => true
      | some code => userCodeShaped code) &&
    atMost 300 session.qrAttachmentRef && decide (0 ≤ session.generation) &&
    atMost 200 session.reasonCode

/-- Provider-reported state for a fixed cloud resource observation. -/
inductive CloudResourceState where
  | running | stopped | available | unavailable | degraded | unknown
deriving DecidableEq, Repr

def CloudResourceState.text : CloudResourceState → String
  | .running => "RUNNING"
  | .stopped => "STOPPED"
  | .available => "AVAILABLE"
  | .unavailable => "UNAVAILABLE"
  | .degraded => "DEGRADED"
  | .unknown => "UNKNOWN"

/-- Sanitized Product resource projection with provider and freshness facts. -/
structure CloudResourceRecord where
  id : UUID
  scope : ActorScope
  connectionId : UUID
  provider : String
  source : String
  externalRef : String
  kind : String
  displayName : String
  status : CloudResourceState
  providerStatus : Option String := none
  collectedAt : Datetime
  attributes : JsonObject := []
  platformResourceRef : Option String := none
  platformGeneration : Option Nat := none
deriving Repr

/-- `CloudResourceRecord.model_validate`. -/
def CloudResourceRecord.valid (observation : CloudResourceRecord) : Bool :=
  textWithin 80 observation.provider && textWithin 120 observation.source &&
    textWithin 500 observation.externalRef && textWithin 120 observation.kind &&
    textWithin 300 observation.displayName && atMost 300 observation.providerStatus &&
    atMost 300 observation.platformResourceRef

/-- Durable read-only cloud refresh lifecycle. -/
inductive CloudRefreshState where
  | queued | running | succeeded | failed | unknown
deriving DecidableEq, Repr

/-- Product operation reference for one idempotent cloud refresh request. -/
structure CloudRefreshOperation where
  id : UUID
  scope : ActorScope
  connectionId : UUID
  idempotencyKey : String
  requestHash : String
  state : CloudRefreshState := .queued
  result : Option JsonObject := none
  createdAt : Timestamp
  updatedAt : Timestamp
deriving Repr

/-- A refresh operation and its current worker fencing token. -/
structure ClaimedCloudRefresh where
  operation : CloudRefreshOperation
  workerId : String
  claimFence : Nat
  leaseExpiresAt : Timestamp
deriving Repr

/-- Email side-effect state; UNKNOWN and SENDING are never auto-resendable. -/
inductive EmailOutboxState where
  | ready | claimed | sending | accepted | unknown | rejected
deriving DecidableEq, Repr

/-- Durable, deduplicated email request generated from a notification. -/
structure EmailNotificationJob where
  id : UUID
  notificationId : UUID
  scope : ActorScope
  connectionId : Option UUID
  recipientRef : String
  subject : String
  text : String
  requestRef : String
  state : EmailOutboxState := .ready
  attempts : Nat := 0
  availableAt : Timestamp
  claimOwner : Option String := none
  claimFence : Nat := 0
  leaseExpiresAt : Option Timestamp := none
  vendorReceiptRef : Option String := none
  deliveryConfirmed : Bool := false
  failureReasonCode : Option String := none
  createdAt : Timestamp
  updatedAt : Timestamp
deriving DecidableEq, Repr

/-- `EmailNotificationJob.model_validate`. -/
def EmailNotificationJob.valid (job : EmailNotificationJob) : Bool :=
  textWithin 200 job.recipientRef && textWithin 200 job.subject && textWithin 4000 job.text &&
    textWithin 300 job.requestRef && atMost 300 job.vendorReceiptRef &&
    atMost 200 job.failureReasonCode

/-- Email claim and monotonically increasing fencing value. -/
structure ClaimedEmailNotification where
  job : EmailNotificationJob
  claimFence : Nat
deriving DecidableEq, Repr

end CyreneExchange.Integrations
