import CyreneExchange.General.Machine
import CyreneExchange.Integrations.Authorization.CloudRefresh
import CyreneExchange.Integrations.Authorization.Email

/-! Every call that writes the monitor, the refreshes, the feed or the email
outbox, in one machine. Workers and clocks are part of a call, so a list of
calls is an interleaving of any number of workers under any clocks. -/
namespace CyreneExchange.Integrations

open Transaction

/-- The INSERT of `create_connection`; connections are never changed later. -/
def insertProviderConnection (connection : ProviderConnection) : AuthorizationTransaction Unit := do
  let s ← fetch id
  require (!s.connections.any fun other => other.id == connection.id) .integrityError
  store fun s => { s with connections := s.connections ++ [{ connection with enabled := true }] }

inductive AuthorizationCall where
  | createConnection (connection : ProviderConnection)
  | claimChecks (workerId : String) (now : Timestamp) (leaseSeconds limit : Nat)
  | completeCheck (claim : ClaimedAuthorizationMonitor) (health : AuthorizationHealthRecord)
      (notifications : List IntegrationNotificationDraft) (now : Timestamp)
      (intervalSeconds : Nat) (emailRecipientRef : Option String)
      (draw : Nat → NotificationDraws)
  | releaseCheck (claim : ClaimedAuthorizationMonitor) (now : Timestamp)
      (retryDelaySeconds : Nat)
  | acknowledge (principal : IntegrationPrincipal) (notificationId : UUID)
      (idempotencyKey : String) (now moment : Timestamp)
  | enqueueRefresh (principal : IntegrationPrincipal) (connectionId : UUID)
      (idempotencyKey : String) (now moment : Timestamp) (draw : UUID)
  | claimRefresh (workerId : String) (now : Timestamp) (leaseSeconds : Nat)
  | completeRefresh (claim : ClaimedCloudRefresh) (observations : List CloudResourceRecord)
      (state : CloudRefreshState) (now : Timestamp) (result : Option JsonObject)
      (emailRecipientRef : Option String) (draw : Nat → NotificationDraws)
  | releaseRefresh (claim : ClaimedCloudRefresh) (now : Timestamp) (retryDelaySeconds : Nat)
  | claimEmail (workerId : String) (now : Timestamp) (leaseSeconds : Nat)
  | requestDelivery (principal : IntegrationPrincipal) (notificationId : UUID)
      (recipientRef idempotencyKey : String) (now moment : Timestamp) (draw : UUID)
  | releaseEmail (claim : ClaimedEmailNotification) (now : Timestamp)
      (retryDelaySeconds : Nat) (failureReasonCode : Option String)
  | markSending (jobId : UUID) (claimFence : Nat) (now : Timestamp)
  | finishEmail (jobId : UUID) (claimFence : Nat) (status : String)
      (vendorReceiptRef : Option String) (deliveryConfirmed : Bool) (now : Timestamp)
      (draws : NotificationDraws)
  | releaseSend (jobId : UUID) (claimFence : Nat) (now : Timestamp)
      (failureReasonCode : String) (retryDelaySeconds : Nat)

/-- What a call returns. -/
inductive AuthorizationAnswer where
  | done
  | checks (claims : List ClaimedAuthorizationMonitor)
  | saved (events : List IntegrationNotification)
  | acknowledged (event : IntegrationNotification)
  | refresh (operation : CloudRefreshOperation)
  | claimedRefresh (claim : Option ClaimedCloudRefresh)
  | completedRefresh (operation : CloudRefreshOperation) (events : List IntegrationNotification)
  | claimedEmail (claim : Option ClaimedEmailNotification)
  | requestedEmail (job : EmailNotificationJob) (created : Bool)
  | email (job : EmailNotificationJob)

/-- The method behind a call. -/
def AuthorizationCall.body (sha256 : String → String) :
    AuthorizationCall → AuthorizationTransaction AuthorizationAnswer
  | .createConnection connection => do
      insertProviderConnection connection
      pure .done
  | .claimChecks workerId now leaseSeconds limit => do
      let claims ← claimAuthorizationChecks workerId now leaseSeconds limit
      pure (.checks claims)
  | .completeCheck claim health notifications now intervalSeconds emailRecipientRef draw => do
      let events ← completeAuthorizationCheck claim health notifications now intervalSeconds
        emailRecipientRef draw
      pure (.saved events)
  | .releaseCheck claim now retryDelaySeconds => do
      releaseAuthorizationCheck claim now retryDelaySeconds
      pure .done
  | .acknowledge principal notificationId idempotencyKey now moment => do
      let event ← acknowledgeNotification sha256 principal notificationId idempotencyKey now moment
      pure (.acknowledged event)
  | .enqueueRefresh principal connectionId idempotencyKey now moment draw => do
      let operation ← enqueueCloudRefresh sha256 principal connectionId idempotencyKey now moment
        draw
      pure (.refresh operation)
  | .claimRefresh workerId now leaseSeconds => do
      let claim ← claimCloudRefresh workerId now leaseSeconds
      pure (.claimedRefresh claim)
  | .completeRefresh claim observations state now result emailRecipientRef draw => do
      let completed ← completeCloudRefresh sha256 claim observations state now result
        emailRecipientRef draw
      pure (.completedRefresh completed.1 completed.2)
  | .releaseRefresh claim now retryDelaySeconds => do
      let operation ← releaseCloudRefreshClaim claim now retryDelaySeconds
      pure (.refresh operation)
  | .claimEmail workerId now leaseSeconds => do
      let claim ← claimEmailNotification workerId now leaseSeconds
      pure (.claimedEmail claim)
  | .requestDelivery principal notificationId recipientRef idempotencyKey now moment draw => do
      let requested ← requestNotificationEmailDelivery sha256 principal notificationId
        recipientRef idempotencyKey now moment draw
      pure (.requestedEmail requested.1 requested.2)
  | .releaseEmail claim now retryDelaySeconds failureReasonCode => do
      let job ← releaseEmailClaim claim now retryDelaySeconds failureReasonCode
      pure (.email job)
  | .markSending jobId claimFence now => do
      let job ← markEmailSending jobId claimFence now
      pure (.email job)
  | .finishEmail jobId claimFence status vendorReceiptRef deliveryConfirmed now draws => do
      let job ← finishEmailNotification jobId claimFence status vendorReceiptRef
        deliveryConfirmed now draws
      pure (.email job)
  | .releaseSend jobId claimFence now failureReasonCode retryDelaySeconds => do
      let job ← releaseEmailSendBeforeProvider jobId claimFence now failureReasonCode
        retryDelaySeconds
      pure (.email job)

/-- One call, committed or rolled back. -/
def authorizationStep (sha256 : String → String) (call : AuthorizationCall)
    (s : AuthorizationStore) : Except AuthorizationError AuthorizationAnswer × AuthorizationStore :=
  commit (call.body sha256) s

end CyreneExchange.Integrations
