import CyreneExchange.Integrations.Outbox.Methods

/-! What the outbox is for, without statements, columns or rows: jobs take
turns, a turn may change the operation its job names, and a turn that settles
a chat command enqueues its answer. -/
namespace CyreneExchange.Integrations

/-- The documents of the outbox. -/
structure Board where
  connections : List IntegrationConnection
  jobs : List OutboxJob
  operations : List Operation

/-- One durable move in the life of a job. -/
inductive Turn where
  | claim (workerId : String) (now : Timestamp) (leaseSeconds : Int)
  | send (now : Timestamp)
  | deny (evidence : JsonObject) (now : Timestamp)
  | await (invocationId : String) (authorityState : AuthorityInvocationState) (now : Timestamp)
  | prepare (key : String) (now : Timestamp)
  | poll (authorityState : AuthorityInvocationState) (now : Timestamp)
  | lose (now : Timestamp)
  | begin (invocationId : String) (now : Timestamp) (leaseSeconds : Int)
  | finish (status : JobState) (evidence : JsonObject) (now : Timestamp)
  | release (now : Timestamp)
  | requeue (availableAt : Timestamp) (reason : JsonObject) (now : Timestamp)
  | exhaust (reason : JsonObject) (now : Timestamp)
  | lapse (reason : JsonObject) (now : Timestamp)

namespace Turn

/-- The document the turn writes for its job. -/
def job : Turn → OutboxJob → OutboxJob
  | claim workerId now leaseSeconds, j => j.claimedBy workerId now leaseSeconds
  | send now, j => { j with state := .sending, updatedAt := now }
  | deny _ now, j => j.settled .failed now
  | await invocationId authorityState now, j =>
      { j.settled .awaitingAuthority now with
        authorityInvocationId := some invocationId
        authorityState := some authorityState }
  | prepare key now, j => { j with authorityIdempotencyKey := some key, updatedAt := now }
  | poll authorityState now, j =>
      { j.settled .awaitingAuthority now with
        authorityState := some authorityState
        availableAt := now + seconds 2 }
  | lose now, j => { j.settled .unknown now with authorityState := some .unknownResult }
  | begin invocationId now leaseSeconds, j =>
      { j with
        state := .sending
        claimOwner := some ("authority:" ++ invocationId)
        claimFence := j.claimFence + 1
        leaseExpiresAt := some (now + seconds leaseSeconds)
        attempts := j.attempts + 1
        updatedAt := now
        authorityInvocationId := some invocationId }
  | finish status _ now, j => j.settled status now
  | release now, j =>
      j.settled (if truthy j.authorityInvocationId then .awaitingAuthority else .ready) now
  | requeue availableAt _ now, j => j.requeued availableAt now
  | exhaust _ now, j => j.settled .failed now
  | lapse _ now, j => j.settled .unknown now

/-- An operation that has reached `state` with `result`. -/
def settle (state : OperationState) (result : Option JsonObject) (now : Timestamp)
    (operation : Operation) : Operation :=
  { operation with state := state, result := result, updatedAt := now }

/-- What the turn makes of the operation its job names. -/
def operation : Turn → OutboxJob → Operation → Operation
  | claim .., _, o => o
  | send now, j, o => if j.kind = .issueAction then settle .running none now o else o
  | deny evidence now, j, o =>
      if j.kind = .issueAction then settle .failed (some evidence) now o else o
  | await invocationId _ now, _, o =>
      { o with
        state := .awaitingAuthority
        authorityInvocationId := some invocationId
        updatedAt := now }
  | prepare key now, _, o => { o with authorityIdempotencyKey := some key, updatedAt := now }
  | poll _ now, _, o => if o.state = .awaitingAuthority then { o with updatedAt := now } else o
  | lose now, _, o => settle .unknown (some [("authorityState", .str "UNKNOWN_RESULT")]) now o
  | begin invocationId now _, _, o =>
      { o with
        state := .running
        authorityInvocationId := some invocationId
        updatedAt := now }
  | finish status evidence now, j, o =>
      if j.kind = .issueAction then
        match finishOperationState status with
        | some state => settle state (some evidence) now o
        | none => o
      else o
  | release _, _, o => o
  | requeue _ reason now, _, o =>
      settle .queued (some reason) now
        { o with authorityInvocationId := none, authorityIdempotencyKey := none }
  | exhaust reason now, _, o => settle .failed (some reason) now o
  | lapse reason now, _, o => settle .unknown (some reason) now o

/-- The outcome a turn announces to the source of the operation, if any. -/
def notice : Turn → OutboxJob → Option (JobState × JsonObject × Timestamp)
  | deny evidence now, j =>
      if j.kind = .issueAction then some (.failed, evidence, now) else none
  | lose now, _ => some (.unknown, [("authorityState", .str "UNKNOWN_RESULT")], now)
  | finish status evidence now, j =>
      if j.kind = .issueAction then some (status, evidence, now) else none
  | exhaust reason now, _ => some (.failed, reason, now)
  | lapse reason now, _ => some (.unknown, reason, now)
  | _, _ => none

/-- When the turn may be taken by a job, given the operation it names. -/
def Allowed : Turn → OutboxJob → Option Operation → Prop
  | claim .., j, _ => j.state = .ready ∨ j.state = .awaitingAuthority
  | send _, j, _ => j.state = .claimed
  | deny .., j, _ => j.state = .claimed
  | await invocationId _ _, j, o =>
      j.state = .claimed ∧ invocationId ≠ "" ∧ invocationId.length ≤ 300 ∧
        conflictsWith j.authorityInvocationId invocationId = false ∧
        (j.operationId.isSome → o.isSome)
  | prepare key _, j, o =>
      j.state = .claimed ∧ key ≠ "" ∧ key.length ≤ 300 ∧
        ∃ operation, o = some operation ∧
          j.authorityIdempotencyKey = operation.authorityIdempotencyKey
  | poll .., j, _ => j.state = .claimed ∧ j.authorityInvocationId.isSome
  | lose _, j, _ => j.state = .claimed ∧ j.authorityInvocationId.isSome
  | begin invocationId _ _, j, o =>
      (j.state = .awaitingAuthority ∨ j.state = .claimed) ∧
        ∃ operation, o = some operation ∧
          (operation.state = .queued ∨ operation.state = .awaitingAuthority) ∧
          conflictsWith operation.authorityInvocationId invocationId = false ∧
          conflictsWith j.authorityInvocationId invocationId = false
  | finish status .., j, _ => j.state = .sending ∧ (finishOperationState status).isSome
  | release _, j, _ => j.state = .claimed
  | requeue .., j, _ => j.state = .sending ∧ j.isReadonlyQuery = true
  | exhaust .., j, _ => j.state = .sending ∧ j.isReadonlyQuery = true
  | lapse .., j, _ => j.state = .sending ∧ j.isReadonlyQuery = false

/-- The turns that record an answer of the Authority on a claimed job. -/
def recordsAuthority : Turn → Bool
  | await .. | prepare .. | poll .. | lose .. => true
  | _ => false

end Turn

namespace Board

/-- The operation with the given identifier. -/
def find (b : Board) (operationId : Option UUID) : Option Operation :=
  b.operations.find? fun operation => operationId == some operation.id

/-- Change the operation with the given identifier. -/
def amend (b : Board) (operationId : Option UUID) (f : Operation → Operation) : Board :=
  { b with
    operations := Table.updateWhere (fun operation => operationId == some operation.id) f
      b.operations }

/-- Replace the document of a job. -/
def setJob (b : Board) (job : OutboxJob) : Board :=
  { b with jobs := Table.updateWhere (fun j => j.id == job.id) (fun _ => job) b.jobs }

/-- Insert jobs. -/
def add (b : Board) (jobs : List OutboxJob) : Board := { b with jobs := b.jobs ++ jobs }

/-- A job's turn, with the replies it enqueues. -/
def take (b : Board) (turn : Turn) (job : OutboxJob) (replies : List OutboxJob) : Board :=
  ((b.setJob (turn.job job)).amend job.operationId (turn.operation job)).add replies

/-- A job that may be inserted: new identifier, known connection, and an
idempotency key its kind has not used. -/
structure Fresh (b : Board) (job : OutboxJob) : Prop where
  identifier : ∀ j ∈ b.jobs, j.id ≠ job.id
  connection : ∃ c ∈ b.connections, c.id = job.connectionId
  key : ∀ j ∈ b.jobs, job.idempotencyKey.isSome → j.kind = job.kind →
    j.idempotencyKey ≠ job.idempotencyKey

/-- The replies that announce an outcome: one for an answerable operation,
none otherwise. -/
def Announced (b : Board) (operation : Option Operation) (state : JobState)
    (evidence : JsonObject) (now : Timestamp) (replies : List OutboxJob) : Prop :=
  match operation with
  | none => replies = []
  | some o =>
      if o.replyable then
        ∃ (repositoryName : String) (replyUuid : UUID),
          replies = [o.reply repositoryName state evidence now replyUuid] ∧
          ∀ reply ∈ replies, b.Fresh reply ∧ reply.valid = true
      else replies = []

/-- The replies a turn must enqueue. -/
def Answers (b : Board) (turn : Turn) (job : OutboxJob) (replies : List OutboxJob) : Prop :=
  match turn.notice job with
  | none => replies = []
  | some (state, evidence, now) =>
      b.Announced ((b.find job.operationId).map (turn.operation job)) state evidence now replies

/-- A confirmed or refuted reconciliation of an unknown operation. -/
def resolve (b : Board) (operation : Operation) (succeeded : Bool) (result : JsonObject)
    (now : Timestamp) : Board where
  connections := b.connections
  jobs := Table.updateWhere
    (fun j => succeeded && j.operationId == some operation.id && j.state == .unknown)
    (fun j => { j with state := .succeeded, updatedAt := now }) b.jobs
  operations := Table.updateWhere (fun o => o.id == operation.id)
    (Turn.settle (if succeeded then .succeeded else .unknown) (some result) now) b.operations

/-- What the callers of the store promise: which jobs they record Authority
answers on, and which operations they admit. -/
structure Discipline where
  authority : OutboxJob → Prop
  intent : Board → Operation → Prop

/-- One move of the outbox. -/
inductive Move (rules : Discipline) (b : Board) : Board → Prop
  | enqueue (operation : Operation) (job : OutboxJob)
      (hFresh : ∀ o ∈ b.operations, o.id ≠ operation.id)
      (hScope : ∀ o ∈ b.operations, o.scope = operation.scope →
        o.connectionId = operation.connectionId → o.idempotencyKey ≠ operation.idempotencyKey)
      (hNew : operation.state = .queued ∧ operation.authorityInvocationId = none ∧
        operation.authorityIdempotencyKey = none)
      (hValid : operation.valid = true)
      (hIntent : rules.intent b operation)
      (hJob : b.Fresh job) (hJobValid : job.valid = true)
      (hKind : job.kind = .issueAction) (hOperation : job.operationId = some operation.id)
      (hKey : job.idempotencyKey = some ("operation:" ++ operation.id.text))
      (hPayload : (job.payload.get "operationId").bind Json.asStr =
        some operation.operationId.text)
      (hState : job.state = .ready) (hFence : job.claimFence = 0)
      (hAuthority : job.authorityInvocationId = none ∧ job.authorityIdempotencyKey = none) :
      Move rules b { b.add [job] with operations := b.operations ++ [operation] }
  | deliver (job : OutboxJob) (hJob : b.Fresh job) (hJobValid : job.valid = true)
      (hKind : job.kind = .notify ∨ job.kind = .challengeReply)
      (hOperation : job.operationId = none) (hState : job.state = .ready)
      (hFence : job.claimFence = 0) (hAuthority : job.authorityInvocationId = none) :
      Move rules b (b.add [job])
  | take (turn : Turn) (job : OutboxJob) (replies : List OutboxJob) (hJob : job ∈ b.jobs)
      (hAllowed : turn.Allowed job (b.find job.operationId))
      (hAuthority : turn.recordsAuthority = true → rules.authority job)
      (hAnswers : b.Answers turn job replies) : Move rules b (b.take turn job replies)
  | resolve (operation : Operation) (succeeded : Bool) (result : JsonObject) (now : Timestamp)
      (hOperation : operation ∈ b.operations) (hUnknown : operation.state = .unknown) :
      Move rules b (b.resolve operation succeeded result now)
  | extend (connections : List IntegrationConnection) :
      Move rules b { b with connections := b.connections ++ connections }

/-- Any number of moves. -/
def Moves (rules : Discipline) : Board → Board → Prop := Relation.ReflTransGen (Move rules)

end Board

end CyreneExchange.Integrations
