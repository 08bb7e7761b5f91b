import CyreneExchange.Integrations.Authorization.Store
import CyreneExchange.Integrations.Commands

/-! The notification feed: events deduplicated per owner, each with at most one
email job, and the alerts the monitor derives from an observation. -/
namespace CyreneExchange.Integrations

open Transaction

/-- The two `uuid4` draws of one stored notification. -/
structure NotificationDraws where
  notificationId : UUID
  emailId : UUID
deriving DecidableEq, Repr

/-- `WHERE` scope and dedupe_key. -/
def NotificationRow.isDuplicate (scope : ActorScope) (dedupeKey : String)
    (row : NotificationRow) : Bool :=
  row.scope == scope && row.dedupeKey == dedupeKey

/-- The AUTOINCREMENT sequence; rows of the feed are never deleted. -/
def nextSequence (rows : List NotificationRow) : Nat :=
  rows.foldl (fun highest row => max highest row.sequence) 0 + 1

/-- The event a draft becomes. -/
def IntegrationNotificationDraft.event (draft : IntegrationNotificationDraft)
    (scope : ActorScope) (now : Timestamp) (id : UUID) (sequence : Nat) :
    IntegrationNotification where
  id := id
  sequence := sequence
  scope := scope
  connectionId := draft.connectionId
  kind := draft.kind
  severity := draft.severity
  title := draft.title
  description := draft.description
  createdAt := now
  actionRef := draft.actionRef
  incidentKey := draft.incidentKey
  stage := draft.stage

/-- The row of a stored event. -/
def IntegrationNotification.row (event : IntegrationNotification) (dedupeKey : String) :
    NotificationRow where
  sequence := event.sequence
  id := event.id
  scope := event.scope
  connectionId := event.connectionId
  kind := event.kind
  severity := event.severity
  dedupeKey := dedupeKey
  incidentKey := event.incidentKey
  stage := event.stage
  createdAt := event.createdAt
  document := event

/-- The email request of an event. -/
def IntegrationNotification.emailJob (event : IntegrationNotification) (recipientRef : String)
    (now : Timestamp) (id : UUID) : EmailNotificationJob where
  id := id
  notificationId := event.id
  scope := event.scope
  connectionId := event.connectionId
  recipientRef := recipientRef
  subject := clip 200 event.title
  text := clip 4000
    (event.title ++ if event.description = "" then "" else "\n\n" ++ event.description)
  requestRef := "notification:" ++ event.id.text
  availableAt := now
  createdAt := now
  updatedAt := now

/-- The row of a new email job. -/
def EmailNotificationJob.row (job : EmailNotificationJob) : EmailRow where
  id := job.id
  notificationId := job.notificationId
  scope := job.scope
  connectionId := job.connectionId
  state := job.state
  attempts := job.attempts
  availableAt := job.availableAt
  claimFence := job.claimFence
  createdAt := job.createdAt
  updatedAt := job.updatedAt
  document := job

/-- INSERT INTO email_notification_outbox of a constructed job. -/
def insertEmailJob (job : EmailNotificationJob) : AuthorizationTransaction Unit := do
  require job.valid .documentInvalid
  let s ← fetch id
  require (!s.emailOutbox.any fun row =>
    row.id == job.id || row.notificationId == job.notificationId) .integrityError
  store fun s => { s with emailOutbox := s.emailOutbox ++ [job.row] }

/-- `_insert_notification` -/
def insertNotification (draft : IntegrationNotificationDraft) (scope : ActorScope)
    (emailRecipientRef : Option String) (now : Timestamp) (draws : NotificationDraws) :
    AuthorizationTransaction (Option IntegrationNotification) := do
  let s ← fetch id
  if s.notifications.any (NotificationRow.isDuplicate scope draft.dedupeKey) then pure none
  else do
    require (!s.notifications.any fun row => row.id == draws.notificationId) .integrityError
    let event := draft.event scope now draws.notificationId (nextSequence s.notifications)
    require event.valid .documentInvalid
    store fun s => { s with notifications := s.notifications ++ [event.row draft.dedupeKey] }
    match emailRecipientRef with
    | some recipientRef => do
        if recipientRef = "" then pure ()
        else insertEmailJob (event.emailJob recipientRef now draws.emailId)
    | none => pure ()
    pure (some event)

/-- `IntegrationNotification.model_validate_json(document)`. -/
def readNotification (event : IntegrationNotification) :
    AuthorizationTransaction IntegrationNotification := do
  require event.valid .documentInvalid
  pure event

/-- The text hashed as the request of an acknowledgement. -/
def acknowledgeRequestText (notificationId : UUID) : String :=
  Json.dumps (.obj [("notificationId", .str notificationId.text)])

/-- `acknowledge_notification`. -/
def acknowledgeNotification (sha256 : String → String) (principal : IntegrationPrincipal)
    (notificationId : UUID) (idempotencyKey : String) (now moment : Timestamp) :
    AuthorizationTransaction IntegrationNotification := do
  requireOperation principal "integrationAcknowledgeNotification" now
  require (textWithin 200 idempotencyKey) (.validation "Idempotency-Key is required")
  let requestHash := sha256 (acknowledgeRequestText notificationId)
  let previous ← idempotencyLookup AuthorizationStore.acknowledgements principal.scope
    idempotencyKey requestHash
  match previous with
  | some record => readNotification record.document
  | none => do
      let row ← fetch fun s => s.notifications.find? fun row =>
        row.id == notificationId && row.scope == principal.scope
      match row with
      | none => reject (.notFound "notification not found")
      | some row => do
          let event ← readNotification row.document
          let acknowledged := if event.acknowledgedAt.isNone then
            { event with acknowledgedAt := some moment } else event
          store fun s => { s with
            notifications := if event.acknowledgedAt.isNone then
              Table.updateWhere (fun row => row.id == notificationId)
                (fun row => { row with document := acknowledged }) s.notifications
              else s.notifications
            acknowledgements := s.acknowledgements ++ [{
              scope := principal.scope
              idempotencyKey := idempotencyKey
              requestHash := requestHash
              resourceId := notificationId.text
              document := acknowledged }] }
          pure acknowledged

/-- ORDER BY sequence DESC. -/
def NotificationRow.newer (first second : NotificationRow) : Bool :=
  decide (second.sequence < first.sequence)

/-- SQLite's `text LIKE 'lead%'`, which ignores the case of ASCII letters. -/
def likeLead (lead text : String) : Bool :=
  startsWith (String.ofList (text.toList.map Char.toLower))
    (String.ofList (lead.toList.map Char.toLower))

/-- `WHERE` scope, incident_key and, when given, the stage or one of its
reminders. -/
def NotificationRow.isIncident (scope : ActorScope) (incidentKey : String)
    (stagePrefix : Option String) (row : NotificationRow) : Bool :=
  row.scope == scope && row.incidentKey == some incidentKey &&
    match stagePrefix with
    | none => true
    | some stage => match row.stage with
        | none => false
        | some text => text == stage || likeLead (stage ++ "-reminder-") text

/-- The newest row `latest_notification_for_monitor` selects. -/
def latestNotification (scope : ActorScope) (incidentKey : String)
    (stagePrefix : Option String) (rows : List NotificationRow) : Option NotificationRow :=
  Table.firstBy NotificationRow.newer
    (rows.filter (NotificationRow.isIncident scope incidentKey stagePrefix))

/-- `latest_notification_for_monitor`. -/
def latestNotificationForMonitor (claim : ClaimedAuthorizationMonitor) (incidentKey : String)
    (stagePrefix : Option String) :
    AuthorizationTransaction (Option IntegrationNotification) := do
  let row ← fetch fun s =>
    latestNotification claim.connection.scope incidentKey stagePrefix s.notifications
  match row with
  | none => pure none
  | some row => do
      let event ← readNotification row.document
      pure (some event)

/-- The reminder and expiry windows, in microseconds. -/
def reminderInterval : Int := seconds (6 * 60 * 60)
def expiryWarning : Int := seconds (24 * 60 * 60)
def expiryUrgent : Int := seconds (60 * 60)

/-- `(connection.display_name or connection.provider)[:140]`. -/
def ProviderConnection.shownName (connection : ProviderConnection) : String :=
  clip 140 (orElse connection.displayName connection.provider.text)

/-- The renewal route offered with an alert. -/
def renewalActionRef (authorizationRef : Option String) : Option String :=
  match authorizationRef with
  | none => none
  | some text => if text = "" then none
      else some ("/api/v1/accounts/authorizations/" ++ text ++ "/renewal-sessions")

/-- A draft the monitor builds, validated by its model. -/
def draftNotification (draft : IntegrationNotificationDraft) :
    AuthorizationTransaction IntegrationNotificationDraft := do
  require draft.valid .documentInvalid
  pure draft

/-- `now - latest.created_at >= timedelta(...)` of an unacknowledged event. -/
def IntegrationNotification.needsReminder (latest : IntegrationNotification)
    (now : Timestamp) : Bool :=
  latest.acknowledgedAt.isNone && decide (reminderInterval ≤ now - latest.createdAt)

/-- The number of whole reminder intervals since the newest event. -/
def reminderBucket (latest : IntegrationNotification) (now : Timestamp) : Int :=
  (now - latest.createdAt) / reminderInterval

/-- Facts that make an authorization unusable. -/
def AuthorizationHealthRecord.invalidated (health : AuthorizationHealthRecord) : Bool :=
  health.authorizationState == .reauthorizationRequired || health.loginState == .missing

/-- Facts that say the status could not be observed. -/
def AuthorizationHealthRecord.unavailable (health : AuthorizationHealthRecord) : Bool :=
  health.loginState == .unavailable || health.authorizationState == .unavailable

def authorizationIncident (connection : ProviderConnection)
    (current : AuthorizationHealthRecord) : String :=
  "authorization:" ++ connection.id.text ++ ":" ++ toString current.generation

def requiredDraft (connection : ProviderConnection) (current : AuthorizationHealthRecord) :
    IntegrationNotificationDraft where
  connectionId := some connection.id
  kind := .authorizationRequired
  severity := .error
  title := "Reauthorization required: " ++ connection.shownName
  description := "The provider confirmed this authorization is no longer usable."
  actionRef := renewalActionRef current.authorizationRef
  dedupeKey := authorizationIncident connection current ++ ":required"
  incidentKey := some (authorizationIncident connection current)
  stage := some "required"

def requiredReminderDraft (connection : ProviderConnection)
    (current : AuthorizationHealthRecord) (bucket : Int) : IntegrationNotificationDraft where
  connectionId := some connection.id
  kind := .authorizationRequired
  severity := .error
  title := "Reauthorization still required: " ++ connection.shownName
  description := "This provider authorization remains blocked and unacknowledged."
  actionRef := renewalActionRef current.authorizationRef
  dedupeKey := authorizationIncident connection current ++ ":required:reminder:" ++
    toString bucket
  incidentKey := some (authorizationIncident connection current)
  stage := some ("required-reminder-" ++ toString bucket)

def unavailableDraft (connection : ProviderConnection) (current : AuthorizationHealthRecord) :
    IntegrationNotificationDraft where
  connectionId := some connection.id
  kind := .connectionUnavailable
  severity := .warning
  title := "Authorization status unavailable: " ++ connection.shownName
  description := "Exchange could not confirm current provider authorization status."
  dedupeKey := "connection-unavailable:" ++ connection.id.text ++ ":" ++
    toString current.generation
  incidentKey := some ("connection-unavailable:" ++ connection.id.text)
  stage := some "unavailable"

def expiryIncident (connection : ProviderConnection) (current : AuthorizationHealthRecord) :
    String :=
  "authorization-expiry:" ++ connection.id.text ++ ":" ++ toString current.generation

def expiryDraft (connection : ProviderConnection) (current : AuthorizationHealthRecord)
    (expiresAt : Datetime) (stage : String) : IntegrationNotificationDraft where
  connectionId := some connection.id
  kind := .authorizationExpiring
  severity := .warning
  title := "Authorization expires within " ++ stage ++ ": " ++ connection.shownName
  description := "The provider reported an expiry at " ++ expiresAt.isoformat ++ "."
  actionRef := renewalActionRef current.authorizationRef
  dedupeKey := expiryIncident connection current ++ ":" ++ stage
  incidentKey := some (expiryIncident connection current)
  stage := some stage

def expiryReminderDraft (connection : ProviderConnection) (current : AuthorizationHealthRecord)
    (expiresAt : Datetime) (stage : String) (bucket : Int) : IntegrationNotificationDraft where
  connectionId := some connection.id
  kind := .authorizationExpiring
  severity := .warning
  title := "Authorization expiry still needs attention: " ++ connection.shownName
  description := "The provider reported an expiry at " ++ expiresAt.isoformat ++ "."
  actionRef := renewalActionRef current.authorizationRef
  dedupeKey := expiryIncident connection current ++ ":" ++ stage ++ ":reminder:" ++
    toString bucket
  incidentKey := some (expiryIncident connection current)
  stage := some (stage ++ "-reminder-" ++ toString bucket)

/-- The first alert of an incident, or a reminder of its newest one. -/
def incidentNotifications (latest : Option IntegrationNotification) (now : Timestamp)
    (first : IntegrationNotificationDraft) (reminder : Int → IntegrationNotificationDraft) :
    AuthorizationTransaction (List IntegrationNotificationDraft) :=
  match latest with
  | none => do
      let draft ← draftNotification first
      pure [draft]
  | some event =>
      if event.needsReminder now then do
        let draft ← draftNotification (reminder (reminderBucket event now))
        pure [draft]
      else pure []

/-- `_authorization_notifications`. A naive expiry cannot be subtracted from. -/
def authorizationNotifications (claim : ClaimedAuthorizationMonitor)
    (previous : Option AuthorizationHealthRecord) (current : AuthorizationHealthRecord)
    (now : Timestamp) : AuthorizationTransaction (List IntegrationNotificationDraft) := do
  let connection := claim.connection
  if current.invalidated then do
    let latest ← latestNotificationForMonitor claim (authorizationIncident connection current)
      none
    incidentNotifications latest now (requiredDraft connection current)
      (requiredReminderDraft connection current)
  else if current.unavailable then
    if previous.any AuthorizationHealthRecord.unavailable then pure []
    else do
      let draft ← draftNotification (unavailableDraft connection current)
      pure [draft]
  else match current.expiresAt with
    | none => pure []
    | some expiresAt => match expiresAt.since now with
        | none => reject (.typeError "can't subtract offset-naive and offset-aware datetimes")
        | some remaining =>
            if expiryWarning < remaining then pure []
            else do
              let stage := if remaining ≤ expiryUrgent then "1h" else "24h"
              let latest ← latestNotificationForMonitor claim
                (expiryIncident connection current) (some stage)
              incidentNotifications latest now (expiryDraft connection current expiresAt stage)
                (expiryReminderDraft connection current expiresAt stage)

section Inserts

variable {draft : IntegrationNotificationDraft} {scope : ActorScope} {now : Timestamp}
  {s : AuthorizationStore}

theorem draftNotification_of_valid (hValid : draft.valid = true) :
    draftNotification draft s = .ok (draft, s) := by
  unfold draftNotification
  exact bind_of_ok (require_of_true hValid _ _)

theorem insertNotification_of_duplicate (draws : NotificationDraws)
    (hOld : s.notifications.any (NotificationRow.isDuplicate scope draft.dedupeKey) = true) :
    insertNotification draft scope none now draws s = .ok (none, s) := by
  unfold insertNotification
  rw [fetch_bind]
  simp only [id, hOld, if_true]
  rfl

theorem insertNotification_of_new (draws : NotificationDraws)
    (hNew : s.notifications.any (NotificationRow.isDuplicate scope draft.dedupeKey) = false)
    (hFresh : (s.notifications.any fun row => row.id == draws.notificationId) = false)
    (hValid : (draft.event scope now draws.notificationId
      (nextSequence s.notifications)).valid = true) :
    ∃ event, insertNotification draft scope none now draws s = .ok (event, { s with
      notifications := s.notifications ++ [(draft.event scope now draws.notificationId
        (nextSequence s.notifications)).row draft.dedupeKey] }) := by
  unfold insertNotification
  rw [fetch_bind]
  simp only [id, hNew, Bool.false_eq_true, if_false]
  rw [bind_of_ok (require_of_true (congrArg not hFresh) _ _),
    bind_of_ok (require_of_true hValid _ _)]
  exact ⟨_, rfl⟩

end Inserts

end CyreneExchange.Integrations
