import CyreneExchange.Integrations.Authorization.Notifications
import Mathlib

/-! Authorization monitoring: due connections are claimed under a fence and a
lease, and a completion writes the observation, its alerts and the next due
time in one transaction. -/
namespace CyreneExchange.Integrations

open Transaction

/-- INSERT OR IGNORE of the monitor row of every enabled connection. -/
def seedMonitors (connections : List ProviderConnection) (rows : List MonitorRow) :
    List MonitorRow :=
  (connections.filter ProviderConnection.enabled).foldl (fun rows connection =>
    if rows.any (fun row => row.connectionId == connection.id) then rows
    else rows ++ [{ connectionId := connection.id, nextCheckAt := 0 }]) rows

/-- `claim_owner IS NULL OR lease_expires_at IS NULL OR lease_expires_at<=now`. -/
def leaseOver (claimOwner : Option String) (leaseExpiresAt : Option Timestamp)
    (now : Timestamp) : Bool :=
  claimOwner.isNone || match leaseExpiresAt with
    | none => true
    | some expiry => decide (expiry ≤ now)

def MonitorRow.due (now : Timestamp) (row : MonitorRow) : Bool :=
  decide (row.nextCheckAt ≤ now) && leaseOver row.claimOwner row.leaseExpiresAt now

/-- ORDER BY next_check_at, connection_id. -/
def MonitorRow.sooner (first second : MonitorRow) : Bool :=
  decide (first.nextCheckAt < second.nextCheckAt) ||
    (first.nextCheckAt == second.nextCheckAt &&
      decide (first.connectionId.text ≤ second.connectionId.text))

/-- The enabled connection of a row: the JOIN of the claiming statement. -/
def MonitorRow.connection (connections : List ProviderConnection) (row : MonitorRow) :
    Option ProviderConnection :=
  connections.find? fun connection => connection.id == row.connectionId && connection.enabled

/-- `INTEGER` columns hold 64-bit values. -/
def fitsInteger (n : Nat) : Bool := decide (n < 2 ^ 63)

/-- The UPDATE one claimed row receives. -/
def MonitorRow.claimed (row : MonitorRow) (workerId : String) (leaseExpiry : Timestamp) :
    MonitorRow :=
  { row with
    claimOwner := some workerId
    claimFence := row.claimFence + 1
    leaseExpiresAt := some leaseExpiry }

/-- `claim_authorization_checks`. -/
def claimAuthorizationChecks (workerId : String) (now : Timestamp) (leaseSeconds limit : Nat) :
    AuthorizationTransaction (List ClaimedAuthorizationMonitor) := do
  require (textWithin 200 workerId && decide (1 ≤ leaseSeconds) && decide (leaseSeconds ≤ 300))
    (.valueError "authorization monitor worker or lease is invalid")
  require (decide (1 ≤ limit) && decide (limit ≤ 100))
    (.valueError "authorization monitor batch size is invalid")
  let leaseExpiry := now + seconds leaseSeconds
  store fun s => { s with monitorState := seedMonitors s.connections s.monitorState }
  let s ← fetch id
  let selected := ((s.monitorState.filter fun row =>
    row.due now && (row.connection s.connections).isSome).mergeSort MonitorRow.sooner).take limit
  store fun s => { s with
    monitorState := Table.updateWhere (fun row => selected.contains row)
      (fun row => row.claimed workerId leaseExpiry) s.monitorState }
  pure (selected.filterMap fun row => (row.connection s.connections).map fun connection => {
    connection := connection
    workerId := workerId
    claimFence := row.claimFence + 1
    leaseExpiresAt := leaseExpiry })

/-- ORDER BY checked_at DESC, id DESC. -/
def HealthRow.newer (first second : HealthRow) : Bool :=
  decide (second.checkedAt < first.checkedAt) ||
    (first.checkedAt == second.checkedAt && decide (second.id.text < first.id.text))

/-- The newest observation of a connection in its owner's scope. -/
def latestHealth (connection : ProviderConnection) (rows : List HealthRow) : Option HealthRow :=
  Table.firstBy HealthRow.newer (rows.filter fun row =>
    row.connectionId == connection.id && row.scope == connection.scope)

/-- `AuthorizationHealthRecord.model_validate_json(document)`. -/
def readHealth (health : AuthorizationHealthRecord) :
    AuthorizationTransaction AuthorizationHealthRecord := do
  require health.valid .documentInvalid
  pure health

/-- `latest_authorization_health_for_connection`. -/
def latestAuthorizationHealthForConnection (connection : ProviderConnection) :
    AuthorizationTransaction (Option AuthorizationHealthRecord) := do
  let row ← fetch fun s => latestHealth connection s.authorizationObservations
  match row with
  | none => pure none
  | some row => do
      let health ← readHealth row.document
      pure (some health)

/-- `latest_authorization_health_for_monitor`. -/
def latestAuthorizationHealthForMonitor (claim : ClaimedAuthorizationMonitor) :
    AuthorizationTransaction (Option AuthorizationHealthRecord) :=
  latestAuthorizationHealthForConnection claim.connection

/-- The claim's row: same owner, same fence and a lease that ends after `now`. -/
def holdsLease (workerId : String) (fence : Nat) (now : Timestamp)
    (claimOwner : Option String) (claimFence : Nat) (leaseExpiresAt : Option Timestamp) : Bool :=
  claimOwner == some workerId && claimFence == fence &&
    match leaseExpiresAt with
    | none => false
    | some expiry => decide (now < expiry)

/-- INSERT INTO authorization_observations. -/
def insertHealth (health : AuthorizationHealthRecord) : AuthorizationTransaction Unit := do
  match health.checkedAt.utc with
  | none => reject (.valueError "timestamps must be timezone-aware")
  | some checkedAt => do
      require (fitsInteger health.generation) .overflowError
      let s ← fetch id
      require (!s.authorizationObservations.any fun row => row.id == health.id) .integrityError
      store fun s => { s with
        authorizationObservations := s.authorizationObservations ++ [{
          id := health.id
          scope := health.scope
          connectionId := health.connectionId
          authorizationRef := health.authorizationRef
          checkedAt := checkedAt
          generation := health.generation
          document := health }] }

/-- The notifications of a completion, each stored or skipped as a duplicate;
`draw` gives the identifiers of the next one. -/
def insertNotifications (scope : ActorScope) (emailRecipientRef : Option String)
    (now : Timestamp) (draw : Nat → NotificationDraws) :
    List IntegrationNotificationDraft → AuthorizationTransaction (List IntegrationNotification)
  | [] => pure []
  | draft :: rest => do
      let event ← insertNotification draft scope emailRecipientRef now (draw rest.length)
      let saved ← insertNotifications scope emailRecipientRef now draw rest
      pure (event.toList ++ saved)

/-- `WHERE` connection_id, claim_owner and claim_fence. -/
def MonitorRow.isClaim (claim : ClaimedAuthorizationMonitor) (row : MonitorRow) : Bool :=
  row.connectionId == claim.connection.id && row.claimOwner == some claim.workerId &&
    row.claimFence == claim.claimFence

/-- The connection a completion still finds, enabled and of the same owner. -/
def findConnection (id : UUID) (scope : ActorScope) (connections : List ProviderConnection) :
    Option ProviderConnection :=
  connections.find? fun connection =>
    connection.id == id && connection.scope == scope && connection.enabled

/-- `complete_authorization_check`. -/
def completeAuthorizationCheck (claim : ClaimedAuthorizationMonitor)
    (health : AuthorizationHealthRecord) (notifications : List IntegrationNotificationDraft)
    (now : Timestamp) (intervalSeconds : Nat) (emailRecipientRef : Option String)
    (draw : Nat → NotificationDraws) :
    AuthorizationTransaction (List IntegrationNotification) := do
  require (decide (60 ≤ intervalSeconds) && decide (intervalSeconds ≤ 86400))
    (.valueError "authorization monitor interval is invalid")
  let connection := claim.connection
  require (health.connectionId == connection.id && health.scope == connection.scope)
    (.authorization "authorization observation scope does not match")
  let s ← fetch id
  require (s.monitorState.any fun row => row.connectionId == connection.id &&
    holdsLease claim.workerId claim.claimFence now row.claimOwner row.claimFence
      row.leaseExpiresAt) (.conflict "authorization monitor claim is stale or expired")
  require (findConnection connection.id connection.scope s.connections).isSome
    (.notFound "authorization connection is no longer available")
  require (notifications.all fun draft =>
    draft.connectionId == none || draft.connectionId == some connection.id)
    (.authorization "authorization alert connection does not match")
  insertHealth health
  let saved ← insertNotifications connection.scope emailRecipientRef now draw notifications
  store fun s => { s with
    monitorState := Table.updateWhere (MonitorRow.isClaim claim)
      (fun row => { row with
        lastCheckedAt := some now
        nextCheckAt := now + seconds intervalSeconds
        claimOwner := none
        leaseExpiresAt := none }) s.monitorState }
  pure saved

/-- `release_authorization_check`. -/
def releaseAuthorizationCheck (claim : ClaimedAuthorizationMonitor) (now : Timestamp)
    (retryDelaySeconds : Nat) : AuthorizationTransaction Unit := do
  require (decide (1 ≤ retryDelaySeconds) && decide (retryDelaySeconds ≤ 86400))
    (.valueError "authorization monitor retry delay is invalid")
  let s ← fetch id
  require (s.monitorState.any (MonitorRow.isClaim claim))
    (.conflict "authorization monitor claim is stale")
  store fun s => { s with
    monitorState := Table.updateWhere (MonitorRow.isClaim claim)
      (fun row => { row with
        nextCheckAt := now + seconds retryDelaySeconds
        claimOwner := none
        leaseExpiresAt := none }) s.monitorState }

end CyreneExchange.Integrations
