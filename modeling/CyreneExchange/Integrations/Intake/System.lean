import CyreneExchange.Integrations.Intake.Delivery
import CyreneExchange.Integrations.Outbox.System

/-! The store as the intake sees it: every method that writes a table the
inbound hooks read or write, and the deliveries and requests in flight. -/
namespace CyreneExchange.Integrations

open Transaction

def insertConnection (connection : IntegrationConnection) : StoreTransaction Unit := do
  let s ← fetch id
  require (s.connections.all fun c => c.id != connection.id) .integrityError
  store fun s => { s with connections := s.connections ++ [connection] }

def insertBinding (binding : SyncBinding) : StoreTransaction Unit := do
  let s ← fetch id
  require (s.syncBindings.all fun b => b.id != binding.id) .integrityError
  require (s.connections.any fun c => c.id == binding.connectionId) .integrityError
  store fun s => { s with syncBindings := s.syncBindings ++ [binding] }

def insertActorBinding (actorBinding : ActorBinding) : StoreTransaction Unit := do
  let s ← fetch id
  require (s.actorBindings.all fun a => a.id != actorBinding.id) .integrityError
  require (s.syncBindings.any fun b => b.id == actorBinding.bindingId) .integrityError
  require (s.actorBindings.all fun a =>
    a.bindingId != actorBinding.bindingId || a.scope != actorBinding.scope) .integrityError
  store fun s => { s with actorBindings := s.actorBindings ++ [actorBinding] }

/-- The calls of the dispatcher and the routes around it: they move jobs and
operations that exist and enqueue none of their own. -/
def Call.dispatches : Call → Bool
  | .persistIssueAction _ | .enqueueDelivery _ | .administer .. => false
  | _ => true

/-- A dispatching call. -/
abbrev DispatchCall := { call : Call // call.dispatches = true }

/-- One store method any party may call between the steps of the others. The
three insertions are the effect of `create_connection`, `create_binding` and
`create_actor_binding` on the tables modelled here. -/
inductive IntakeCall where
  | dispatch (call : DispatchCall)
  | createConnection (connection : IntegrationConnection)
  | createBinding (binding : SyncBinding)
  | createActorBinding (actorBinding : ActorBinding)
  | ingestGithubEvent (delivery : GitHubDelivery)
  | persistWecomInbound (message : WeComMessage)
  | markWecomInboundProcessed (eventId bindingId : UUID) (state : WeComEventState)
      (operationId : Option UUID)
  | beginWecomChallengeObservation (bindingId : UUID) (sourceEventRef : String)
  | markWecomChallengeUnknown (bindingId : UUID) (sourceEventRef : String)
  | enqueueWecomChallengeReply (bindingId : UUID) (sourceEventRef challengeId : String)
      (jobUuid : UUID) (now : Timestamp)

/-- What a committed call returns. -/
inductive IntakeAnswer where
  | dispatched (answer : Answer)
  | created
  | incoming (event : IncomingEvent)
  | inbound (event : WeComInboundEvent) (first : Bool)

/-- The transaction body a call runs. -/
def IntakeCall.body (sha256 : String → String) : IntakeCall → StoreTransaction IntakeAnswer
  | .dispatch call => do pure (.dispatched (← call.val.body sha256))
  | .createConnection connection => do
      insertConnection connection
      pure .created
  | .createBinding binding => do
      insertBinding binding
      pure .created
  | .createActorBinding actorBinding => do
      insertActorBinding actorBinding
      pure .created
  | .ingestGithubEvent delivery => do
      pure (.incoming (← Integrations.ingestGithubEvent sha256 delivery))
  | .persistWecomInbound message => do
      let (event, created) ← Integrations.persistWecomInbound sha256 message
      pure (.inbound event created)
  | .markWecomInboundProcessed eventId bindingId state operationId => do
      let event ← Integrations.markWecomInboundProcessed eventId bindingId state operationId
      pure (.inbound event false)
  | .beginWecomChallengeObservation bindingId sourceEventRef => do
      let (event, claimed) ← Integrations.beginWecomChallengeObservation bindingId sourceEventRef
      pure (.inbound event claimed)
  | .markWecomChallengeUnknown bindingId sourceEventRef => do
      let event ← Integrations.markWecomChallengeUnknown bindingId sourceEventRef
      pure (.inbound event false)
  | .enqueueWecomChallengeReply bindingId sourceEventRef challengeId jobUuid now => do
      let event ← Integrations.enqueueWecomChallengeReply bindingId sourceEventRef challengeId
        jobUuid now
      pure (.inbound event false)

/-- The store together with every request and delivery in flight; a finished
one leaves `none` behind. -/
structure IntakeSystem where
  store : Store := {}
  requests : List (Option EnqueueStage) := []
  deliveries : List (Option DeliveryStage) := []

/-- Who moves next. -/
inductive IntakeAction where
  | call (call : IntakeCall)
  | request (principal : IntegrationPrincipal) (request : EnqueueIssueAction)
      (authorizationOperationId : Option String)
  | deliver (source : WeComInboundSource) (envelope : WeComInboundEnvelope)
  | answer (requestIndex : Nat) (draw : Draw)
  | advance (deliveryIndex : Nat) (world : Surroundings)

/-- What the party that moved is told. -/
inductive IntakeOutput where
  | idle
  | arrived
  | called (answer : Except StoreError IntakeAnswer)
  | answered (progress : Except StoreError EnqueueProgress)
  | advanced (progress : DeliveryProgress)

/-- The stage a delivery is left with. -/
def DeliveryProgress.stage : DeliveryProgress → Option DeliveryStage
  | .continues stage => some stage
  | _ => none

def EnqueueProgress.stage : Except StoreError EnqueueProgress → Option EnqueueStage
  | .ok (.continues stage) => some stage
  | _ => none

/-- One step of the system. -/
def performIntake (sha256 : String → String) (action : IntakeAction) (system : IntakeSystem) :
    IntakeOutput × IntakeSystem :=
  match action with
  | .call call =>
      let (answer, t) := commit (call.body sha256) system.store
      (.called answer, { system with store := t })
  | .request principal request authorizationOperationId =>
      (.arrived, { system with
        requests := system.requests ++ [some (.rest principal request authorizationOperationId)] })
  | .deliver source envelope =>
      (.arrived, { system with
        deliveries := system.deliveries ++ [some (.received source envelope)] })
  | .answer requestIndex draw =>
      match (system.requests[requestIndex]?).join with
      | none => (.idle, system)
      | some stage =>
          let (progress, t) := commit (stage.body sha256 draw) system.store
          (.answered progress, { system with
            store := t
            requests := system.requests.set requestIndex (EnqueueProgress.stage progress) })
  | .advance deliveryIndex world =>
      match (system.deliveries[deliveryIndex]?).join with
      | none => (.idle, system)
      | some stage =>
          let (progress, t) := stage.advance sha256 world system.store
          (.advanced progress, { system with
            store := t
            deliveries := system.deliveries.set deliveryIndex progress.stage })

end CyreneExchange.Integrations
