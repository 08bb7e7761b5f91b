import CyreneExchange.Integrations.Authorization.Monitor

/-! The email outbox: READY jobs are claimed under a fence and a lease, marked
SENDING before the provider is called, and settled by what the provider says. -/
namespace CyreneExchange.Integrations

open Transaction

/-- The columns `_persist_email_job` writes with the document. -/
def EmailRow.persisted (row : EmailRow) (job : EmailNotificationJob) : EmailRow :=
  { row with
    state := job.state
    attempts := job.attempts
    availableAt := job.availableAt
    claimOwner := job.claimOwner
    claimFence := job.claimFence
    leaseExpiresAt := job.leaseExpiresAt
    updatedAt := job.updatedAt
    document := job }

/-- `_persist_email_job`. -/
def persistEmailJob (job : EmailNotificationJob) : AuthorizationTransaction Unit :=
  store fun s => { s with
    emailOutbox := Table.updateWhere (fun row => row.id == job.id)
      (fun row => row.persisted job) s.emailOutbox }

/-- `EmailNotificationJob.model_validate_json(document)`. -/
def readEmailJob (job : EmailNotificationJob) :
    AuthorizationTransaction EmailNotificationJob := do
  require job.valid .documentInvalid
  pure job

/-- A row of `state` whose lease has passed. -/
def EmailRow.lapsed (state : EmailOutboxState) (now : Timestamp) (row : EmailRow) : Bool :=
  row.state == state && match row.leaseExpiresAt with
    | none => false
    | some expiry => decide (expiry ≤ now)

/-- The job of a lapsed claim, ready again. -/
def EmailNotificationJob.unclaimed (job : EmailNotificationJob) (now : Timestamp) :
    EmailNotificationJob :=
  { job with state := .ready, claimOwner := none, leaseExpiresAt := none, updatedAt := now }

/-- The job of a lapsed send: its outcome is not known. -/
def EmailNotificationJob.abandoned (job : EmailNotificationJob) (now : Timestamp) :
    EmailNotificationJob :=
  { job with
    state := .unknown
    claimOwner := none
    leaseExpiresAt := none
    failureReasonCode := some "send_result_unknown"
    updatedAt := now }

/-- One of the two loops that settle lapsed rows. -/
def settleLapsed (settle : EmailNotificationJob → EmailNotificationJob) :
    List EmailRow → AuthorizationTransaction Unit
  | [] => pure ()
  | row :: rest => do
      let job ← readEmailJob row.document
      persistEmailJob (settle job)
      settleLapsed settle rest

/-- ORDER BY available_at, created_at, id. -/
def EmailRow.sooner (first second : EmailRow) : Bool :=
  decide (first.availableAt < second.availableAt) ||
    (first.availableAt == second.availableAt &&
      (decide (first.createdAt < second.createdAt) ||
        (first.createdAt == second.createdAt && decide (first.id.text < second.id.text))))

/-- `claim_email_notification`. -/
def claimEmailNotification (workerId : String) (now : Timestamp) (leaseSeconds : Nat) :
    AuthorizationTransaction (Option ClaimedEmailNotification) := do
  require (textWithin 200 workerId && decide (1 ≤ leaseSeconds) && decide (leaseSeconds ≤ 300))
    (.valueError "email worker or lease is invalid")
  let expiredClaims ← fetch fun s => s.emailOutbox.filter (EmailRow.lapsed .claimed now)
  settleLapsed (fun job => job.unclaimed now) expiredClaims
  let expiredSends ← fetch fun s => s.emailOutbox.filter (EmailRow.lapsed .sending now)
  settleLapsed (fun job => job.abandoned now) expiredSends
  let row ← fetch fun s => Table.firstBy EmailRow.sooner
    (s.emailOutbox.filter fun row => row.state == .ready && decide (row.availableAt ≤ now))
  match row with
  | none => pure none
  | some row => do
      let job ← readEmailJob row.document
      let claimed := { job with
        state := .claimed
        claimOwner := some workerId
        claimFence := job.claimFence + 1
        leaseExpiresAt := some (now + seconds leaseSeconds)
        updatedAt := now }
      persistEmailJob claimed
      pure (some ⟨claimed, job.claimFence + 1⟩)

/-- The text hashed as the request of a delivery. -/
def deliveryRequestText (notificationId : UUID) (recipientRef : String) : String :=
  Json.dumps (.obj [("notificationId", .str notificationId.text),
    ("recipientRef", .str recipientRef)])

/-- `request_notification_email_delivery`. -/
def requestNotificationEmailDelivery (sha256 : String → String)
    (principal : IntegrationPrincipal) (notificationId : UUID)
    (recipientRef idempotencyKey : String) (now moment : Timestamp) (draw : UUID) :
    AuthorizationTransaction (EmailNotificationJob × Bool) := do
  requireOperation principal "integrationDeliverNotification" now
  require (textWithin 200 recipientRef && textWithin 200 idempotencyKey)
    (.validation "notification delivery selector is invalid")
  let requestHash := sha256 (deliveryRequestText notificationId recipientRef)
  let replay ← idempotencyLookup AuthorizationStore.deliveryRecords principal.scope
    idempotencyKey requestHash
  match replay with
  | some record => do
      let row ← fetch fun s => s.emailOutbox.find? fun row => row.id.text == record.resourceId
      match row with
      | none => reject (.conflict "notification delivery result is unavailable")
      | some row => do
          let job ← readEmailJob row.document
          pure (job, false)
  | none => do
      let found ← fetch fun s => s.notifications.find? fun row =>
        row.id == notificationId && row.scope == principal.scope
      match found with
      | none => reject (.notFound "notification is not owned by this actor")
      | some row => do
          let notification ← readNotification row.document
          require (notification.kind != .deliveryFailed)
            (.validation "delivery failure notices cannot trigger email")
          let existing ← fetch fun s =>
            s.emailOutbox.find? fun row => row.notificationId == notificationId
          let job ← match existing with
            | some row => do
                let job ← readEmailJob row.document
                require (job.recipientRef == recipientRef)
                  (.conflict "notification delivery is already bound to another recipient alias")
                pure job
            | none => do
                let job := notification.emailJob recipientRef moment draw
                insertEmailJob job
                pure job
          store fun s => { s with
            deliveryRecords := s.deliveryRecords ++ [{
              scope := principal.scope
              idempotencyKey := idempotencyKey
              requestHash := requestHash
              resourceId := job.id.text
              document := job }] }
          pure (job, existing.isNone)

/-- `WHERE` id, state and claim_fence. -/
def EmailRow.isHeld (id : UUID) (state : EmailOutboxState) (claimFence : Nat)
    (row : EmailRow) : Bool :=
  row.id == id && row.state == state && row.claimFence == claimFence

/-- The job of a row in `state` under the fence, or the refusal `stale`. -/
def selectEmailJob (id : UUID) (state : EmailOutboxState) (claimFence : Nat)
    (guard : EmailRow → Bool) (stale : String) :
    AuthorizationTransaction EmailNotificationJob := do
  let row ← fetch fun s => s.emailOutbox.find? fun row =>
    row.isHeld id state claimFence && guard row
  match row with
  | none => reject (.conflict stale)
  | some row => readEmailJob row.document

/-- A job back in READY after a delay. -/
def EmailNotificationJob.postponed (job : EmailNotificationJob) (now : Timestamp)
    (retryDelaySeconds : Nat) (failureReasonCode : Option String) : EmailNotificationJob :=
  { job with
    state := .ready
    claimOwner := none
    leaseExpiresAt := none
    availableAt := now + seconds retryDelaySeconds
    failureReasonCode := failureReasonCode
    updatedAt := now }

/-- `release_email_claim`. -/
def releaseEmailClaim (claim : ClaimedEmailNotification) (now : Timestamp)
    (retryDelaySeconds : Nat) (failureReasonCode : Option String) :
    AuthorizationTransaction EmailNotificationJob := do
  require (decide (1 ≤ retryDelaySeconds) && decide (retryDelaySeconds ≤ 86400))
    (.valueError "email retry delay is invalid")
  let job ← selectEmailJob claim.job.id .claimed claim.claimFence (fun _ => true)
    "email claim is stale"
  let ready := job.postponed now retryDelaySeconds failureReasonCode
  persistEmailJob ready
  pure ready

/-- `mark_email_sending`. -/
def markEmailSending (jobId : UUID) (claimFence : Nat) (now : Timestamp) :
    AuthorizationTransaction EmailNotificationJob := do
  let job ← selectEmailJob jobId .claimed claimFence
    (fun row => match row.leaseExpiresAt with
      | none => false
      | some expiry => decide (now < expiry)) "email claim is stale or expired"
  let sending := { job with state := .sending, attempts := job.attempts + 1, updatedAt := now }
  persistEmailJob sending
  pure sending

/-- The provider's word on a submission. -/
inductive EmailVerdict where
  | accepted | unknown | rejected
deriving DecidableEq, Repr

/-- `status not in {...}` and `EmailOutboxState(status)`. -/
def EmailVerdict.ofText : String → Option EmailVerdict
  | "ACCEPTED" => some .accepted
  | "UNKNOWN" => some .unknown
  | "REJECTED" => some .rejected
  | _ => none

/-- `status.lower()`. -/
def EmailVerdict.stage : EmailVerdict → String
  | .accepted => "accepted"
  | .unknown => "unknown"
  | .rejected => "rejected"

/-- The job a verdict settles. -/
def EmailNotificationJob.settled (job : EmailNotificationJob) (verdict : EmailVerdict)
    (vendorReceiptRef : Option String) (deliveryConfirmed : Bool) (now : Timestamp) :
    EmailNotificationJob :=
  { job with
    state := match verdict with
      | .accepted => .accepted
      | .unknown => .unknown
      | .rejected => .rejected
    claimOwner := none
    leaseExpiresAt := none
    vendorReceiptRef := vendorReceiptRef
    deliveryConfirmed := deliveryConfirmed
    failureReasonCode := match verdict with
      | .accepted => none
      | .unknown => some "send_result_unknown"
      | .rejected => some "provider_rejected"
    updatedAt := now }

/-- The feed event about a send that was not accepted. -/
def deliveryFailedDraft (job : EmailNotificationJob) (verdict : EmailVerdict) :
    IntegrationNotificationDraft where
  connectionId := job.connectionId
  kind := .deliveryFailed
  severity := .error
  title := "Email notification delivery needs attention"
  description := match verdict with
    | .rejected => "The configured email sender rejected the notification."
    | _ => "The configured email sender outcome could not be confirmed."
  dedupeKey := "email-delivery:" ++ job.id.text ++ ":" ++ verdict.stage
  incidentKey := some ("email-delivery:" ++ job.id.text)
  stage := some verdict.stage

/-- `finish_email_notification`. -/
def finishEmailNotification (jobId : UUID) (claimFence : Nat) (status : String)
    (vendorReceiptRef : Option String) (deliveryConfirmed : Bool) (now : Timestamp)
    (draws : NotificationDraws) : AuthorizationTransaction EmailNotificationJob := do
  match EmailVerdict.ofText status with
  | none => reject (.validation "email provider status is invalid")
  | some verdict => do
      require (!deliveryConfirmed || verdict == .accepted)
        (.validation "delivery confirmation requires accepted status")
      let job ← selectEmailJob jobId .sending claimFence (fun _ => true)
        "email send claim is stale"
      let updated := job.settled verdict vendorReceiptRef deliveryConfirmed now
      persistEmailJob updated
      if verdict = .accepted then pure updated
      else do
        let draft ← draftNotification (deliveryFailedDraft job verdict)
        let _ ← insertNotification draft job.scope none now draws
        pure updated

/-- `release_email_send_before_provider`. -/
def releaseEmailSendBeforeProvider (jobId : UUID) (claimFence : Nat) (now : Timestamp)
    (failureReasonCode : String) (retryDelaySeconds : Nat) :
    AuthorizationTransaction EmailNotificationJob := do
  require (decide (1 ≤ retryDelaySeconds) && decide (retryDelaySeconds ≤ 86400))
    (.valueError "email retry delay is invalid")
  let job ← selectEmailJob jobId .sending claimFence (fun _ => true)
    "email send claim is stale"
  let ready := job.postponed now retryDelaySeconds (some failureReasonCode)
  persistEmailJob ready
  pure ready

end CyreneExchange.Integrations
