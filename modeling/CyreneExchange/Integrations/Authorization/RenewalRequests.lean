import CyreneExchange.Integrations.Authorization.Renewals

/-! The begin-renewal and get-renewal routes, cut where another request can
run: each store method and each provider call is a step of its own. -/
namespace CyreneExchange.Integrations

open Transaction

/-- What `services.authorization_cloud` says about itself. -/
structure RenewalServices where
  supportsDurableRenewalReplay : Bool
  supportsRequestIdStatusLookup : Bool
deriving DecidableEq, Repr

structure ProviderRenewalSession where
  authorizationRef : String
  sessionRef : String
  facts : ProviderRenewalFacts
deriving DecidableEq, Repr

/-- How a provider call ends: an answer, a `PermissionError`, an
`ExchangeProductError`, or any other exception. -/
inductive ProviderRenewalAnswer where
  | answered (session : ProviderRenewalSession)
  | permissionError
  | productError (status : Nat) (retryable : Bool)
  | failed
deriving DecidableEq, Repr

/-- What a request raises. -/
inductive RenewalFailure where
  | store (error : AuthorizationError)
  | authorizationDenied
  | provider (status : Nat)
  | refused (status : Nat)
deriving DecidableEq, Repr

inductive RenewalRoute where
  | beginRenewalSession (authorizationId idempotencyKey : String)
  | getRenewalSession (sessionId : UUID)
deriving DecidableEq

structure RenewalRequest where
  actor : IntegrationPrincipal
  authorizationCloud : Option RenewalServices
  route : RenewalRoute
deriving DecidableEq

/-- Where a request stands. Between `starting` or `polling` and the next stage
lies the provider call; the document carried along is the one the request has
read. -/
inductive RenewalStage where
  | beginning (authorizationId idempotencyKey : String)
  | starting (authorizationId : String) (session : RenewalSessionRecord)
  | completing (authorizationId : String) (session : RenewalSessionRecord)
      (reply : ProviderRenewalSession)
  | failing (authorizationId : String) (session : RenewalSessionRecord) (failure : RenewalFailure)
  | doubting (authorizationId : String) (session : RenewalSessionRecord) (reasonCode : String)
  | rereading (authorizationId sessionRef : String)
  | reading (sessionId : UUID)
  | polling (session : RenewalSessionRecord)
  | updating (session : RenewalSessionRecord) (reply : ProviderRenewalSession)
  | unavailable (session : RenewalSessionRecord)
  | done (outcome : Except RenewalFailure RenewalSessionRecord)
deriving DecidableEq

/-- What the environment contributes to one step; a step uses what it needs.
`checks` is the outcome of the checks of the connection and its profile. -/
structure RenewalEvent where
  now : Timestamp := 0
  moment : Timestamp := 0
  draw : UUID
  checks : Option RenewalFailure := none
  answer : ProviderRenewalAnswer := .failed
deriving DecidableEq

def RenewalRequest.arrives (request : RenewalRequest) : RenewalStage :=
  match request.route with
  | .beginRenewalSession authorizationId idempotencyKey =>
      .beginning authorizationId idempotencyKey
  | .getRenewalSession sessionId => .reading sessionId

/-- `should_start`. -/
def shouldStart (cloud : Option RenewalServices) (session : RenewalSessionRecord)
    (created : Bool) : Bool :=
  created || session.reasonCode == some "provider_binding_unavailable" ||
    (!created && session.state == .verifying &&
      [some "provider_start_pending", some "provider_start_outcome_unknown",
        some "provider_status_lookup_unavailable"].contains session.reasonCode &&
      cloud.any RenewalServices.supportsDurableRenewalReplay)

/-- The stage after `begin_renewal_session` returned. -/
def begun (cloud : Option RenewalServices) (authorizationId : String)
    (session : RenewalSessionRecord) (created : Bool) : RenewalStage :=
  if shouldStart cloud session created then
    match cloud with
    | none => .doubting authorizationId session "provider_binding_unavailable"
    | some _ => .starting authorizationId session
  else .done (.ok session)

/-- The status of a store error that is an `ExchangeProductError`. -/
def AuthorizationError.status : AuthorizationError → Option Nat
  | .notFound _ => some 404
  | .authorization _ => some 403
  | .conflict _ => some 409
  | .validation _ => some 422
  | .valueError _ | .typeError _ | .overflowError | .integrityError | .documentInvalid => none

/-- The statuses after which a start certainly did not happen. -/
def definiteRejection (status : Nat) (retryable : Bool) : Bool :=
  decide (status < 500) && !retryable && !([408, 409, 425, 429].contains status)

/-- The `except` clause for an `ExchangeProductError`. -/
def startFailed (authorizationId : String) (session : RenewalSessionRecord) (status : Nat)
    (retryable : Bool) (failure : RenewalFailure) : RenewalStage :=
  if definiteRejection status retryable then .failing authorizationId session failure
  else .doubting authorizationId session "provider_start_outcome_unknown"

/-- The stage after `start_renewal` ended. -/
def started (authorizationId : String) (session : RenewalSessionRecord) :
    ProviderRenewalAnswer → RenewalStage
  | .answered reply =>
      if reply.authorizationRef = authorizationId then .completing authorizationId session reply
      else .doubting authorizationId session "provider_start_outcome_unknown"
  | .permissionError => .failing authorizationId session .authorizationDenied
  | .productError status retryable =>
      startFailed authorizationId session status retryable (.provider status)
  | .failed => .doubting authorizationId session "provider_start_outcome_unknown"

/-- The stage after `complete_renewal_session_start` raised. Its errors are
caught by the clauses that catch the provider's. -/
def completionFailed (authorizationId : String) (session : RenewalSessionRecord)
    (error : AuthorizationError) : RenewalStage :=
  match error.status with
  | some status => startFailed authorizationId session status false (.store error)
  | none => .doubting authorizationId session "provider_start_outcome_unknown"

/-- `can_lookup_unknown_start`. -/
def canLookupUnknownStart (cloud : Option RenewalServices) (session : RenewalSessionRecord) :
    Bool :=
  cloud.any RenewalServices.supportsRequestIdStatusLookup && session.state == .verifying &&
    session.reasonCode == some "provider_start_outcome_unknown"

/-- Whether a read session is polled. -/
def polls (cloud : Option RenewalServices) (session : RenewalSessionRecord) : Bool :=
  (session.providerSessionRef.isSome || canLookupUnknownStart cloud session) &&
    [RenewalState.waitingUser, .verifying].contains session.state && cloud.isSome

/-- The stage after `renewal_status` or `renewal_status_by_request_id` ended. -/
def polled (session : RenewalSessionRecord) : ProviderRenewalAnswer → RenewalStage
  | .answered reply =>
      if reply.authorizationRef ≠ session.authorizationRef ∨ reply.sessionRef = "" ∨
          conflictsWith session.providerSessionRef reply.sessionRef = true then
        .unavailable session
      else .updating session reply
  | .permissionError | .productError _ _ | .failed => .unavailable session

/-- `get_renewal_session`. -/
def getRenewalSession (principal : IntegrationPrincipal) (authorizationRef sessionRef : String)
    (authorizationOperationId : String) (now : Timestamp) :
    AuthorizationTransaction RenewalSessionRecord := do
  requireOperation principal authorizationOperationId now
  selectRenewal principal.scope authorizationRef sessionRef "renewal session not found"

/-- `get_renewal_session_by_id`. -/
def getRenewalSessionById (principal : IntegrationPrincipal) (sessionRef : String)
    (now : Timestamp) : AuthorizationTransaction RenewalSessionRecord := do
  requireOperation principal "accountGetRenewalSession" now
  let rows ← fetch fun s => s.renewalSessions.filter fun row =>
    row.sessionRef == sessionRef && row.scope == principal.scope
  match rows with
  | [] => reject (.notFound "renewal session not found")
  | [row] => readRenewal row.document
  | _ => reject (.conflict "renewal session reference is ambiguous")

/-- What a session says about itself, as the error path writes it back. -/
def RenewalSessionRecord.facts (session : RenewalSessionRecord) : ProviderRenewalFacts where
  state := session.state
  expiresAt := session.expiresAt
  authorizationUrl := session.authorizationUrl
  userCode := session.userCode
  qrAttachmentRef := session.qrAttachmentRef
  generation := session.generation

/-- The writing method a stage calls next. -/
def RenewalStage.call (actor : IntegrationPrincipal) (event : RenewalEvent) :
    RenewalStage → Option RenewalCall
  | .beginning authorizationId idempotencyKey =>
      if event.checks.isSome then none
      else some (.beginSession actor authorizationId idempotencyKey event.now event.moment
        event.draw)
  | .completing authorizationId session reply =>
      some (.completeStart actor authorizationId session.sessionRef reply.sessionRef reply.facts
        event.now)
  | .failing authorizationId session _ =>
      some (.failStart actor authorizationId session.sessionRef event.now)
  | .doubting authorizationId session reasonCode =>
      some (.markUnknown actor authorizationId session.sessionRef reasonCode event.now)
  | .updating session reply =>
      some (.updateStatus actor session.authorizationRef session.sessionRef reply.facts
        (some reply.sessionRef) none event.now)
  | .unavailable session =>
      match session.providerSessionRef with
      | none => some (.markStatusUnavailable actor session.authorizationRef session.sessionRef
          "provider_status_lookup_unavailable" event.now)
      | some _ => some (.updateStatus actor session.authorizationRef session.sessionRef
          session.facts none (some "provider_status_unavailable") event.now)
  | .starting .. | .rereading .. | .reading .. | .polling .. | .done .. => none

/-- The stage after that method answered. -/
def RenewalStage.answered (request : RenewalRequest) (stage : RenewalStage)
    (answer : Except AuthorizationError (RenewalSessionRecord × Bool)) : RenewalStage :=
  match stage, answer with
  | .beginning authorizationId _, .ok (session, created) =>
      begun request.authorizationCloud authorizationId session created
  | .completing authorizationId _ _, .ok (session, _) =>
      .rereading authorizationId session.sessionRef
  | .completing authorizationId session _, .error error =>
      completionFailed authorizationId session error
  | .failing _ _ failure, .ok _ => .done (.error failure)
  | .doubting authorizationId session _, .ok _ => .rereading authorizationId session.sessionRef
  | .updating session _, .error _ => .unavailable session
  | _, .ok (session, _) => .done (.ok session)
  | _, .error error => .done (.error (.store error))

/-- The stage after a step that writes nothing. -/
def RenewalStage.proceeds (request : RenewalRequest) (event : RenewalEvent)
    (s : AuthorizationStore) : RenewalStage → RenewalStage
  | .beginning authorizationId idempotencyKey =>
      match event.checks with
      | some failure => .done (.error failure)
      | none => .beginning authorizationId idempotencyKey
  | .starting authorizationId session => started authorizationId session event.answer
  | .rereading authorizationId sessionRef =>
      match (commit (getRenewalSession request.actor authorizationId sessionRef
          "accountBeginRenewalSession" event.now) s).1 with
      | .ok session => .done (.ok session)
      | .error error => .done (.error (.store error))
  | .reading sessionId =>
      match (commit (getRenewalSessionById request.actor sessionId.text event.now) s).1,
          event.checks with
      | .error error, _ => .done (.error (.store error))
      | .ok _, some failure => .done (.error failure)
      | .ok session, none =>
          if polls request.authorizationCloud session then .polling session
          else .done (.ok session)
  | .polling session => polled session event.answer
  | stage => stage

/-- A request under way. -/
structure RenewalFlight where
  request : RenewalRequest
  stage : RenewalStage
deriving DecidableEq

/-- The store and the requests that share it. -/
structure RenewalSystem where
  store : AuthorizationStore := {}
  flights : List RenewalFlight := []

inductive RenewalInput where
  | arrive (request : RenewalRequest)
  | advance (index : Nat) (event : RenewalEvent)

/-- One step of one request. -/
def RenewalFlight.advance (sha256 : String → String) (flight : RenewalFlight)
    (event : RenewalEvent) (s : AuthorizationStore) : RenewalStage × AuthorizationStore :=
  match flight.stage.call flight.request.actor event with
  | none => (flight.stage.proceeds flight.request event s, s)
  | some call =>
      let (answer, t) := renewalStep sha256 call s
      (flight.stage.answered flight.request answer, t)

/-- One step of the system; the requests move in any order. -/
def renewalSystemStep (sha256 : String → String) :
    RenewalInput → RenewalSystem → Unit × RenewalSystem
  | .arrive request, system =>
      ((), { system with flights := system.flights ++ [⟨request, request.arrives⟩] })
  | .advance index event, system =>
      match system.flights[index]? with
      | none => ((), system)
      | some flight =>
          let (stage, t) := flight.advance sha256 event system.store
          ((), { store := t
                 flights := system.flights.set index { flight with stage := stage } })

end CyreneExchange.Integrations
