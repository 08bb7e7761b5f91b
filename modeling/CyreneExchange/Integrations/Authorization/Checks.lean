import CyreneExchange.General.Flights
import CyreneExchange.Integrations.Authorization.Calls

/-! One cycle of the authorization monitor: a due connection is claimed, its
newest fact read, the provider asked and the result completed. Every access to
the store is a step of its own, and workers share the store. -/
namespace CyreneExchange.Integrations

open Transaction

def monitorOperation : String := "integrationGetAuthorizationHealth"

/-- `_principal_matches_connection`: `clock` is the time the grant is checked at. -/
def principalMatchesConnection (principal : IntegrationPrincipal)
    (connection : ProviderConnection) (operationId : String) (clock : Timestamp) : Bool :=
  (match principal.expiresAt with
    | some expiry => decide (clock < expiry)
    | none => true) &&
    principal.allowedOperationIds.contains operationId && principal.scope == connection.scope

/-- `_current_connection_principal`; no principal is found when the context
raises. -/
def currentConnectionPrincipal (found : Option IntegrationPrincipal)
    (connection : ProviderConnection) (operationId : String) (clock : Timestamp) :
    Option IntegrationPrincipal :=
  found.filter fun principal => principalMatchesConnection principal connection operationId clock

/-- `^[A-Za-z0-9][A-Za-z0-9._:-]{0,299}$`. -/
def opaqueAuthorizationRef (text : String) : Bool :=
  match text.toList with
  | [] => false
  | first :: rest => first.isAlphanum && decide (rest.length ≤ 299) &&
      rest.all fun c => c.isAlphanum || c == '.' || c == '_' || c == ':' || c == '-'

/-- `_check_observation_scope`. -/
def checkObservationScope (claim : ClaimedAuthorizationMonitor)
    (principal : IntegrationPrincipal) (observation : AuthorizationHealthRecord)
    (operationId : String) (clock : Timestamp) : Bool :=
  principalMatchesConnection principal claim.connection operationId clock &&
    observation.connectionId == claim.connection.id &&
    observation.scope == claim.connection.scope &&
    observation.authorizationRef.all opaqueAuthorizationRef

/-- `_unavailable_health`: inability to observe, without claiming validity or
expiry. -/
def unavailableHealth (draw : UUID) (connection : ProviderConnection) (now : Timestamp)
    (previous : Option AuthorizationHealthRecord) (reasonCode : String) :
    AuthorizationHealthRecord where
  id := draw
  scope := connection.scope
  connectionId := connection.id
  authorizationRef := previous.bind AuthorizationHealthRecord.authorizationRef
  reasonCode := some reasonCode
  loginState := .unavailable
  authorizationState := .unavailable
  checkedAt := .ofTimestamp now
  generation := match previous with
    | some health => health.generation
    | none => 0

/-- How `authorization_health` of the provider ends: an answer, a
`ProviderObservationUnavailable`, or any other exception. -/
inductive HealthAnswer where
  | observed (observation : AuthorizationHealthRecord)
  | unavailable
  | failed
deriving DecidableEq

/-- What the environment contributes to one step; a step uses what it needs.
`clock` and `laterClock` are the times the grant is checked at. -/
structure CheckMoment where
  draining : Bool := false
  principal : Option IntegrationPrincipal := none
  clock : Timestamp := 0
  laterClock : Timestamp := 0
  answer : HealthAnswer := .failed
  draw : UUID
  emailRecipientRef : Option String := none
  draws : Nat → NotificationDraws

/-- The observation of a check, the provider's or the worker's own. -/
def CheckMoment.observation (m : CheckMoment) (claim : ClaimedAuthorizationMonitor)
    (now : Timestamp) (previous : Option AuthorizationHealthRecord) : AuthorizationHealthRecord :=
  let unavailable := unavailableHealth m.draw claim.connection now previous
  match currentConnectionPrincipal m.principal claim.connection monitorOperation m.clock with
  | none => unavailable "current_authority_unavailable"
  | some principal =>
      match m.answer with
      | .observed observation =>
          if checkObservationScope claim principal observation monitorOperation m.laterClock then
            observation
          else unavailable "provider_observation_unavailable"
      | .unavailable => unavailable "provider_observation_unavailable"
      | .failed => unavailable "provider_observation_failed"

/-- Where a cycle stands: what it has claimed, read, observed and drafted. -/
inductive CheckStage where
  | starting
  | reading (claim : ClaimedAuthorizationMonitor)
  | observing (claim : ClaimedAuthorizationMonitor) (previous : Option AuthorizationHealthRecord)
  | drafting (claim : ClaimedAuthorizationMonitor) (previous : Option AuthorizationHealthRecord)
      (observation : AuthorizationHealthRecord)
  | completing (claim : ClaimedAuthorizationMonitor) (previous : Option AuthorizationHealthRecord)
      (observation : AuthorizationHealthRecord) (drafts : List IntegrationNotificationDraft)
  | returned (completed : Nat)
  | raised (error : AuthorizationError)
deriving DecidableEq

/-- One call of `_run_authorization_checks` by a worker. -/
structure CheckFlight where
  workerId : String
  now : Timestamp
  monitorIntervalSeconds : Nat
  stage : CheckStage := .starting
deriving DecidableEq

def CheckFlight.at (flight : CheckFlight) (stage : CheckStage) : CheckFlight :=
  { flight with stage := stage }

/-- A worker told to drain gives its claim back. -/
def CheckFlight.release (flight : CheckFlight) (claim : ClaimedAuthorizationMonitor)
    (s : AuthorizationStore) : CheckFlight × AuthorizationStore :=
  match commit (releaseAuthorizationCheck claim flight.now 1) s with
  | (.ok _, t) => (flight.at (.returned 0), t)
  | (.error e, t) => (flight.at (.raised e), t)

/-- One step of `_run_authorization_checks`. One row is claimed at a time. -/
def CheckFlight.move (m : CheckMoment) (flight : CheckFlight) (s : AuthorizationStore) :
    CheckFlight × AuthorizationStore :=
  match flight.stage with
  | .starting =>
      if m.draining then (flight.at (.returned 0), s)
      else match commit (claimAuthorizationChecks flight.workerId flight.now 60 1) s with
        | (.ok [], t) => (flight.at (.returned 0), t)
        | (.ok (claim :: _), t) => (flight.at (.reading claim), t)
        | (.error e, t) => (flight.at (.raised e), t)
  | .reading claim =>
      if m.draining then flight.release claim s
      else match commit (latestAuthorizationHealthForMonitor claim) s with
        | (.ok previous, t) => (flight.at (.observing claim previous), t)
        | (.error e, t) => (flight.at (.raised e), t)
  | .observing claim previous =>
      if m.draining then flight.release claim s
      else (flight.at (.drafting claim previous (m.observation claim flight.now previous)), s)
  | .drafting claim previous observation =>
      match commit (authorizationNotifications claim previous observation flight.now) s with
      | (.ok drafts, t) => (flight.at (.completing claim previous observation drafts), t)
      | (.error e, t) => (flight.at (.raised e), t)
  | .completing claim _ observation drafts =>
      match commit (completeAuthorizationCheck claim observation drafts flight.now
          flight.monitorIntervalSeconds m.emailRecipientRef m.draws) s with
      | (.ok _, t) => (flight.at (.returned 1), t)
      | (.error e, t) => (flight.at (.raised e), t)
  | .returned _ | .raised _ => (flight, s)

/-- Any number of workers, and every other call on the store in between. -/
def checkRules (sha256 : String → String) :
    Flights.Rules AuthorizationStore CheckFlight CheckFlight CheckMoment AuthorizationCall where
  start arrival := arrival.at .starting
  move := CheckFlight.move
  operate call s := (authorizationStep sha256 call s).2

abbrev CheckSystem := Flights.System AuthorizationStore CheckFlight
abbrev CheckInput := Flights.Input CheckFlight CheckMoment AuthorizationCall

/-- Checks are completed by the monitor alone. -/
def CheckPromise (_ : CheckSystem) : CheckInput → Prop
  | .operate (.completeCheck ..) => False
  | _ => True

instance (system : CheckSystem) : DecidablePred (CheckPromise system)
  | .arrive _ | .advance _ _ => isTrue trivial
  | .operate call => match call with
    | .completeCheck .. => isFalse not_false
    | .createConnection .. | .claimChecks .. | .releaseCheck .. | .acknowledge ..
    | .enqueueRefresh .. | .claimRefresh .. | .completeRefresh .. | .releaseRefresh ..
    | .claimEmail .. | .requestDelivery .. | .releaseEmail .. | .markSending .. | .finishEmail ..
    | .releaseSend .. => isTrue trivial

end CyreneExchange.Integrations
