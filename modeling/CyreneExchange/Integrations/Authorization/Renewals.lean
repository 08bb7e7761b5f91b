import CyreneExchange.General.Machine
import CyreneExchange.Integrations.Authorization.Store

/-! Renewal sessions. A session lives in its own row and, as the answer to a
repeated start, in its idempotency record; every method writes both. -/
namespace CyreneExchange.Integrations

open Transaction

/-- `WHERE` scope, authorization_ref and session_ref. -/
def RenewalRow.isSession (scope : ActorScope) (authorizationRef sessionRef : String)
    (row : RenewalRow) : Bool :=
  row.scope == scope && row.authorizationRef == authorizationRef && row.sessionRef == sessionRef

/-- `_json({"authorizationRef": authorization_ref})`. -/
def renewalRequestText (authorizationRef : String) : String :=
  Json.dumps (.obj [("authorizationRef", .str authorizationRef)])

/-- `RenewalSessionRecord.model_validate_json(document)`. -/
def readRenewal (document : RenewalSessionRecord) :
    AuthorizationTransaction RenewalSessionRecord := do
  require document.valid .documentInvalid
  pure document

/-- The intent `begin_renewal_session` commits before any provider call. -/
def pendingRenewal (principal : IntegrationPrincipal) (authorizationRef sessionRef : String)
    (moment : Timestamp) : RenewalSessionRecord where
  sessionRef := sessionRef
  authorizationRef := authorizationRef
  scope := principal.scope
  state := .verifying
  createdAt := moment
  generation := 0
  reasonCode := some "provider_start_pending"

/-- `begin_renewal_session`. The read before the transaction answers like the
lookup inside it, so the method takes effect in one step. -/
def beginRenewalSession (sha256 : String → String) (principal : IntegrationPrincipal)
    (authorizationRef idempotencyKey : String) (now moment : Timestamp) (draw : UUID) :
    AuthorizationTransaction (RenewalSessionRecord × Bool) := do
  requireOperation principal "accountBeginRenewalSession" now
  require (textWithin 300 authorizationRef) (.validation "authorization reference is invalid")
  require (textWithin 200 idempotencyKey) (.validation "Idempotency-Key is required")
  let requestHash := sha256 (renewalRequestText authorizationRef)
  let previous ← idempotencyLookup AuthorizationStore.renewalRecords principal.scope
    idempotencyKey requestHash
  match previous with
  | some record => do
      let session ← readRenewal record.document
      pure (session, false)
  | none => do
      let session := pendingRenewal principal authorizationRef draw.text moment
      require session.valid .documentInvalid
      let s ← fetch id
      require (!s.renewalSessions.any
        (RenewalRow.isSession principal.scope authorizationRef session.sessionRef)) .integrityError
      store fun s => { s with
        renewalSessions := s.renewalSessions ++ [{
          scope := principal.scope
          authorizationRef := authorizationRef
          sessionRef := session.sessionRef
          state := session.state
          createdAt := moment
          document := session }]
        renewalRecords := s.renewalRecords ++ [{
          scope := principal.scope
          idempotencyKey := idempotencyKey
          requestHash := requestHash
          resourceId := session.sessionRef
          document := session }] }
      pure (session, true)

/-- The row of a session, or the refusal `missing`. -/
def selectRenewal (scope : ActorScope) (authorizationRef sessionRef missing : String) :
    AuthorizationTransaction RenewalSessionRecord := do
  let row ← fetch fun s =>
    s.renewalSessions.find? (RenewalRow.isSession scope authorizationRef sessionRef)
  match row with
  | none => reject (.notFound missing)
  | some row => readRenewal row.document

/-- The two UPDATE statements every method ends with; only some of them set the
state column. -/
def persistRenewal (scope : ActorScope) (authorizationRef sessionRef : String)
    (state : Option RenewalState) (document : RenewalSessionRecord) :
    AuthorizationTransaction Unit :=
  store fun s => { s with
    renewalSessions := Table.updateWhere (RenewalRow.isSession scope authorizationRef sessionRef)
      (fun row => { row with state := state.getD row.state, document := document })
      s.renewalSessions
    renewalRecords := Table.updateWhere (IdempotencyRecord.isAbout scope sessionRef)
      (fun record => { record with document := document }) s.renewalRecords }

/-- What a provider reports about a session. -/
structure ProviderRenewalFacts where
  state : RenewalState
  expiresAt : Option Datetime := none
  authorizationUrl : Option String := none
  userCode : Option String := none
  qrAttachmentRef : Option String := none
  generation : Int
deriving DecidableEq, Repr

/-- `model_copy` with the reported facts. -/
def RenewalSessionRecord.report (session : RenewalSessionRecord) (facts : ProviderRenewalFacts)
    (providerSessionRef reasonCode : Option String) : RenewalSessionRecord := { session with
  providerSessionRef := providerSessionRef
  state := facts.state
  expiresAt := facts.expiresAt
  authorizationUrl := facts.authorizationUrl
  userCode := facts.userCode
  qrAttachmentRef := facts.qrAttachmentRef
  generation := facts.generation
  reasonCode := reasonCode }

/-- `complete_renewal_session_start`. -/
def completeRenewalSessionStart (principal : IntegrationPrincipal)
    (authorizationRef sessionRef providerSessionRef : String) (facts : ProviderRenewalFacts)
    (now : Timestamp) : AuthorizationTransaction RenewalSessionRecord := do
  requireOperation principal "accountBeginRenewalSession" now
  require (textWithin 300 providerSessionRef)
    (.validation "provider renewal session reference is invalid")
  let current ← selectRenewal principal.scope authorizationRef sessionRef
    "renewal start intent not found"
  require (!conflictsWith current.providerSessionRef providerSessionRef)
    (.conflict "renewal session was completed by another provider result")
  let updated := current.report facts (some providerSessionRef) none
  persistRenewal principal.scope authorizationRef sessionRef (some facts.state) updated
  pure updated

/-- `mark_renewal_start_unknown`. -/
def markRenewalStartUnknown (principal : IntegrationPrincipal)
    (authorizationRef sessionRef reasonCode : String) (now : Timestamp) :
    AuthorizationTransaction RenewalSessionRecord := do
  requireOperation principal "accountBeginRenewalSession" now
  require (textWithin 200 reasonCode) (.validation "renewal outcome reason is invalid")
  let session ← selectRenewal principal.scope authorizationRef sessionRef
    "renewal start intent not found"
  if session.providerSessionRef.isSome then pure session
  else do
    let updated := { session with reasonCode := some reasonCode }
    persistRenewal principal.scope authorizationRef sessionRef none updated
    pure updated

/-- The session a rejected start leaves. -/
def RenewalSessionRecord.rejected (session : RenewalSessionRecord) : RenewalSessionRecord :=
  { session with
    state := .failed
    expiresAt := none
    authorizationUrl := none
    userCode := none
    qrAttachmentRef := none
    reasonCode := some "provider_start_rejected" }

/-- `fail_renewal_session_start`. -/
def failRenewalSessionStart (principal : IntegrationPrincipal)
    (authorizationRef sessionRef : String) (now : Timestamp) :
    AuthorizationTransaction RenewalSessionRecord := do
  requireOperation principal "accountBeginRenewalSession" now
  let session ← selectRenewal principal.scope authorizationRef sessionRef
    "renewal start intent not found"
  if session.providerSessionRef.isSome then pure session
  else if session.state = .failed then pure session
  else do
    persistRenewal principal.scope authorizationRef sessionRef (some .failed) session.rejected
    pure session.rejected

/-- `update_renewal_session_status`. -/
def updateRenewalSessionStatus (principal : IntegrationPrincipal)
    (authorizationRef sessionRef : String) (facts : ProviderRenewalFacts)
    (providerSessionRef reasonCode : Option String) (now : Timestamp) :
    AuthorizationTransaction RenewalSessionRecord := do
  requireOperation principal "accountGetRenewalSession" now
  let session ← selectRenewal principal.scope authorizationRef sessionRef
    "renewal session not found"
  require (session.providerSessionRef.isSome || truthy providerSessionRef)
    (.conflict "renewal status has no provider session reference")
  require (match providerSessionRef with
    | none => true
    | some reference => !conflictsWith session.providerSessionRef reference)
    (.conflict "renewal status returned a different provider session")
  let updated := session.report facts
    (if truthy providerSessionRef then providerSessionRef else session.providerSessionRef)
    reasonCode
  persistRenewal principal.scope authorizationRef sessionRef (some facts.state) updated
  pure updated

/-- `mark_renewal_status_unavailable`. -/
def markRenewalStatusUnavailable (principal : IntegrationPrincipal)
    (authorizationRef sessionRef reasonCode : String) (now : Timestamp) :
    AuthorizationTransaction RenewalSessionRecord := do
  requireOperation principal "accountGetRenewalSession" now
  require (textWithin 200 reasonCode) (.validation "renewal status reason is invalid")
  let session ← selectRenewal principal.scope authorizationRef sessionRef
    "renewal session not found"
  let updated := { session with reasonCode := some reasonCode }
  persistRenewal principal.scope authorizationRef sessionRef none updated
  pure updated

/-- The calls that write renewal sessions. -/
inductive RenewalCall where
  | beginSession (principal : IntegrationPrincipal) (authorizationRef idempotencyKey : String)
      (now moment : Timestamp) (draw : UUID)
  | completeStart (principal : IntegrationPrincipal)
      (authorizationRef sessionRef providerSessionRef : String) (facts : ProviderRenewalFacts)
      (now : Timestamp)
  | markUnknown (principal : IntegrationPrincipal)
      (authorizationRef sessionRef reasonCode : String) (now : Timestamp)
  | failStart (principal : IntegrationPrincipal) (authorizationRef sessionRef : String)
      (now : Timestamp)
  | updateStatus (principal : IntegrationPrincipal) (authorizationRef sessionRef : String)
      (facts : ProviderRenewalFacts) (providerSessionRef reasonCode : Option String)
      (now : Timestamp)
  | markStatusUnavailable (principal : IntegrationPrincipal)
      (authorizationRef sessionRef reasonCode : String) (now : Timestamp)
deriving DecidableEq

/-- The method behind a call; the flag says whether a session was created. -/
def RenewalCall.body (sha256 : String → String) :
    RenewalCall → AuthorizationTransaction (RenewalSessionRecord × Bool)
  | .beginSession principal authorizationRef idempotencyKey now moment draw =>
      beginRenewalSession sha256 principal authorizationRef idempotencyKey now moment draw
  | .completeStart principal authorizationRef sessionRef providerSessionRef facts now => do
      let session ← completeRenewalSessionStart principal authorizationRef sessionRef
        providerSessionRef facts now
      pure (session, false)
  | .markUnknown principal authorizationRef sessionRef reasonCode now => do
      let session ← markRenewalStartUnknown principal authorizationRef sessionRef reasonCode now
      pure (session, false)
  | .failStart principal authorizationRef sessionRef now => do
      let session ← failRenewalSessionStart principal authorizationRef sessionRef now
      pure (session, false)
  | .updateStatus principal authorizationRef sessionRef facts providerSessionRef reasonCode
      now => do
      let session ← updateRenewalSessionStatus principal authorizationRef sessionRef facts
        providerSessionRef reasonCode now
      pure (session, false)
  | .markStatusUnavailable principal authorizationRef sessionRef reasonCode now => do
      let session ← markRenewalStatusUnavailable principal authorizationRef sessionRef reasonCode
        now
      pure (session, false)

/-- One call, committed or rolled back. -/
def renewalStep (sha256 : String → String) (call : RenewalCall) (s : AuthorizationStore) :
    Except AuthorizationError (RenewalSessionRecord × Bool) × AuthorizationStore :=
  commit (call.body sha256) s

end CyreneExchange.Integrations
