import CyreneExchange.General.Table
import CyreneExchange.General.Transaction
import CyreneExchange.Integrations.Models

/-! The tables of the integration store that the issue-action pipeline reads
and writes. A job or operation row keeps its indexed columns next to the
serialized document, because statements select on the columns while the code
computes on the document. -/
namespace CyreneExchange.Integrations

/-- What a store method raises. `integrityError` is SQLite's own refusal of a
constraint, `documentInvalid` a model's refusal of a document. -/
inductive StoreError where
  | notFound (detail : String)
  | authorization (detail : String)
  | conflict (detail : String)
  | validation (detail : String)
  | valueError (detail : String)
  | integrityError
  | documentInvalid
deriving DecidableEq, Repr

structure JobRow where
  id : UUID
  kind : JobKind
  operationId : Option UUID
  idempotencyKey : Option String
  state : JobState
  attempts : Nat
  availableAt : Timestamp
  claimOwner : Option String
  claimFence : Nat
  leaseExpiresAt : Option Timestamp
  createdAt : Timestamp
  updatedAt : Timestamp
  document : OutboxJob
deriving Repr

structure OperationRow where
  id : UUID
  scope : ActorScope
  connectionId : UUID
  idempotencyKey : String
  requestHash : String
  state : OperationState
  document : Operation
deriving Repr

structure JobEvidence where
  jobId : UUID
  claimFence : Nat
  evidence : JsonObject
deriving Repr

structure Store where
  connections : List IntegrationConnection := []
  syncBindings : List SyncBinding := []
  actorBindings : List ActorBinding := []
  incomingEvents : List IncomingEvent := []
  wecomInboundEvents : List WeComInboundEvent := []
  outboxJobs : List JobRow := []
  operations : List OperationRow := []
  jobEvidence : List JobEvidence := []
  deliveryReceipts : List DeliveryReceipt := []
  operationAudits : List OperationAudit := []
deriving Repr

abbrev StoreTransaction := Transaction Store StoreError

open Transaction

/-- The columns `_insert_job` writes next to the document. -/
def JobRow.ofJob (job : OutboxJob) : JobRow where
  id := job.id
  kind := job.kind
  operationId := job.operationId
  idempotencyKey := job.idempotencyKey
  state := job.state
  attempts := job.attempts
  availableAt := job.availableAt
  claimOwner := job.claimOwner
  claimFence := job.claimFence
  leaseExpiresAt := job.leaseExpiresAt
  createdAt := job.createdAt
  updatedAt := job.updatedAt
  document := job

/-- The columns `_persist_job` sets. -/
def JobRow.persist (job : OutboxJob) (row : JobRow) : JobRow :=
  { row with
    state := job.state
    attempts := job.attempts
    availableAt := job.availableAt
    claimOwner := job.claimOwner
    claimFence := job.claimFence
    leaseExpiresAt := job.leaseExpiresAt
    updatedAt := job.updatedAt
    document := job }

/-- The columns `INSERT INTO operations` writes next to the document. -/
def OperationRow.ofOperation (operation : Operation) : OperationRow where
  id := operation.id
  scope := operation.scope
  connectionId := operation.connectionId
  idempotencyKey := operation.idempotencyKey
  requestHash := operation.requestHash
  state := operation.state
  document := operation

/-- `UPDATE operations SET state=?,document=?`. -/
def OperationRow.persist (operation : Operation) (row : OperationRow) : OperationRow :=
  { row with state := operation.state, document := operation }

/-- `_insert_job`: primary key, connection reference and the unique
(kind, idempotency_key) index. -/
def insertJob (job : OutboxJob) : StoreTransaction Unit := do
  let s ← fetch id
  require (s.outboxJobs.all fun row => row.id != job.id) .integrityError
  require (s.connections.any fun connection => connection.id == job.connectionId) .integrityError
  require (job.idempotencyKey.isNone || s.outboxJobs.all fun row =>
    row.kind != job.kind || row.idempotencyKey != job.idempotencyKey) .integrityError
  store fun s => { s with outboxJobs := s.outboxJobs ++ [JobRow.ofJob job] }

/-- `_persist_job`. -/
def persistJob (job : OutboxJob) : StoreTransaction Unit :=
  store fun s => { s with
    outboxJobs := Table.updateWhere (fun row => row.id == job.id) (JobRow.persist job)
      s.outboxJobs }

/-- `OutboxJob.model_validate_json(row["document"])`. -/
def readJob (row : JobRow) : StoreTransaction OutboxJob := do
  require row.document.valid .documentInvalid
  pure row.document

/-- `Operation.model_validate_json(row["document"])`. -/
def readOperation (row : OperationRow) : StoreTransaction Operation := do
  require row.document.valid .documentInvalid
  pure row.document

/-- `SELECT document FROM operations WHERE id=?`. -/
def selectOperation (operationId : UUID) : StoreTransaction (Option OperationRow) :=
  fetch fun s => s.operations.find? fun row => row.id == operationId

/-- Refuse with `e` when a row is missing. -/
def expectRow {α : Type} (row : Option α) (e : StoreError) : StoreTransaction α :=
  match row with
  | some r => pure r
  | none => reject e

/-- `UPDATE operations SET state=?,document=? WHERE id=?`. -/
def persistOperation (operation : Operation) (operationId : UUID) : StoreTransaction Unit :=
  store fun s => { s with
    operations := Table.updateWhere (fun row => row.id == operationId)
      (OperationRow.persist operation) s.operations }

/-- `UPDATE operations SET document=? WHERE id=?`: the state column stays. -/
def persistOperationDocument (operation : Operation) (operationId : UUID) :
    StoreTransaction Unit :=
  store fun s => { s with
    operations := Table.updateWhere (fun row => row.id == operationId)
      (fun row => { row with document := operation }) s.operations }

/-- `INSERT INTO job_evidence`: one row per (job, fence). -/
def insertEvidence (row : JobEvidence) : StoreTransaction Unit := do
  let s ← fetch id
  require (s.jobEvidence.all fun e => e.jobId != row.jobId || e.claimFence != row.claimFence)
    .integrityError
  store fun s => { s with jobEvidence := s.jobEvidence ++ [row] }

/-- `INSERT OR REPLACE INTO job_evidence`. -/
def replaceEvidence (row : JobEvidence) : StoreTransaction Unit :=
  store fun s => { s with
    jobEvidence := Table.deleteWhere
      (fun e => e.jobId == row.jobId && e.claimFence == row.claimFence) s.jobEvidence ++ [row] }

def insertReceipt (receipt : DeliveryReceipt) : StoreTransaction Unit := do
  let s ← fetch id
  require (s.deliveryReceipts.all fun r => r.id != receipt.id) .integrityError
  store fun s => { s with deliveryReceipts := s.deliveryReceipts ++ [receipt] }

def insertAudit (audit : OperationAudit) : StoreTransaction Unit := do
  let s ← fetch id
  require (s.operationAudits.all fun a => a.id != audit.id) .integrityError
  store fun s => { s with operationAudits := s.operationAudits ++ [audit] }

/-- `principal.require(operation_id)` at the clock reading `now`. -/
def requireGrant (principal : IntegrationPrincipal) (operationId : String) (now : Timestamp) :
    StoreTransaction Unit := do
  require (match principal.expiresAt with
    | some expiry => decide (now < expiry)
    | none => true) (.authorization "authorization expired")
  require (principal.allowedOperationIds.contains operationId)
    (.authorization "operation is not granted")

end CyreneExchange.Integrations
