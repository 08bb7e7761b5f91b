import Mathlib
import CyreneExchange.Integrations.Outbox.Board

/-! What each statement of the store does to the documents behind the rows. -/
namespace CyreneExchange.Integrations

open Transaction

/-- The documents behind the rows. -/
def Store.board (s : Store) : Board where
  connections := s.connections
  jobs := s.outboxJobs.map JobRow.document
  operations := s.operations.map OperationRow.document

/-- Columns agree with documents, and primary keys are unique. -/
structure Store.WellFormed (s : Store) : Prop where
  jobRows : ∀ row ∈ s.outboxJobs, row = JobRow.ofJob row.document
  operationRows : ∀ row ∈ s.operations, row = OperationRow.ofOperation row.document
  jobIds : Table.KeysUnique JobRow.id s.outboxJobs
  operationIds : Table.KeysUnique OperationRow.id s.operations

/-- The columns `_persist_job` never sets are the same in both documents. -/
def OutboxJob.SameIntent (job job' : OutboxJob) : Prop :=
  job' = { job with
    authorityInvocationId := job'.authorityInvocationId
    authorityIdempotencyKey := job'.authorityIdempotencyKey
    authorityState := job'.authorityState
    state := job'.state
    attempts := job'.attempts
    availableAt := job'.availableAt
    claimOwner := job'.claimOwner
    claimFence := job'.claimFence
    leaseExpiresAt := job'.leaseExpiresAt
    updatedAt := job'.updatedAt }

/-- The durable intent of an operation, which no later statement changes. -/
def Operation.SameIntent (operation operation' : Operation) : Prop :=
  operation' = { operation with
    authorityInvocationId := operation'.authorityInvocationId
    authorityIdempotencyKey := operation'.authorityIdempotencyKey
    state := operation'.state
    result := operation'.result
    updatedAt := operation'.updatedAt }

/-- Writes to other tables leave the documents alone. -/
structure Store.SameDocuments (s t : Store) : Prop where
  connections : t.connections = s.connections
  jobs : t.outboxJobs = s.outboxJobs
  operations : t.operations = s.operations

section Rows

variable {s t u : Store} {row : JobRow} {operationRow : OperationRow} {job job' : OutboxJob}
  {operation operation' : Operation}

theorem OutboxJob.SameIntent.id_eq (h : job.SameIntent job') : job'.id = job.id :=
  (congrArg OutboxJob.id h :)

theorem OutboxJob.SameIntent.kind_eq (h : job.SameIntent job') : job'.kind = job.kind :=
  (congrArg OutboxJob.kind h :)

theorem OutboxJob.SameIntent.key_eq (h : job.SameIntent job') :
    job'.idempotencyKey = job.idempotencyKey :=
  (congrArg OutboxJob.idempotencyKey h :)

theorem OutboxJob.SameIntent.operationId_eq (h : job.SameIntent job') :
    job'.operationId = job.operationId :=
  (congrArg OutboxJob.operationId h :)

theorem OutboxJob.SameIntent.payload_eq (h : job.SameIntent job') : job'.payload = job.payload :=
  (congrArg OutboxJob.payload h :)

theorem Operation.SameIntent.trans {operation'' : Operation} (h : operation.SameIntent operation')
    (h' : operation'.SameIntent operation'') : operation.SameIntent operation'' := by
  unfold Operation.SameIntent at h h' ⊢
  rw [h', h]

theorem OutboxJob.SameIntent.persist (h : job.SameIntent job') :
    JobRow.persist job' (JobRow.ofJob job) = JobRow.ofJob job' := by
  rw [h]
  rfl

theorem Operation.SameIntent.id_eq (h : operation.SameIntent operation') :
    operation'.id = operation.id :=
  (congrArg Operation.id h :)

theorem Operation.SameIntent.persist (h : operation.SameIntent operation') :
    OperationRow.persist operation' (OperationRow.ofOperation operation) =
      OperationRow.ofOperation operation' := by
  rw [h]
  rfl

theorem Store.SameDocuments.board (h : s.SameDocuments t) : t.board = s.board := by
  unfold Store.board
  rw [h.connections, h.jobs, h.operations]

theorem Store.SameDocuments.wellFormed (h : s.SameDocuments t) (wf : s.WellFormed) :
    t.WellFormed := by
  obtain ⟨hJobRows, hOperationRows, hJobIds, hOperationIds⟩ := wf
  constructor
  · rwa [h.jobs]
  · rwa [h.operations]
  · rwa [h.jobs]
  · rwa [h.operations]

theorem Store.SameDocuments.refl (s : Store) : s.SameDocuments s := ⟨rfl, rfl, rfl⟩

namespace Store.WellFormed

theorem row_id (wf : s.WellFormed) (hRow : row ∈ s.outboxJobs) : row.id = row.document.id :=
  congrArg JobRow.id (wf.jobRows row hRow)

theorem row_state (wf : s.WellFormed) (hRow : row ∈ s.outboxJobs) :
    row.state = row.document.state :=
  congrArg JobRow.state (wf.jobRows row hRow)

theorem row_fence (wf : s.WellFormed) (hRow : row ∈ s.outboxJobs) :
    row.claimFence = row.document.claimFence :=
  congrArg JobRow.claimFence (wf.jobRows row hRow)

theorem row_operationId (wf : s.WellFormed) (hRow : row ∈ s.outboxJobs) :
    row.operationId = row.document.operationId :=
  congrArg JobRow.operationId (wf.jobRows row hRow)

theorem operationRow_id (wf : s.WellFormed) (hRow : operationRow ∈ s.operations) :
    operationRow.id = operationRow.document.id :=
  congrArg OperationRow.id (wf.operationRows operationRow hRow)

theorem operationRow_state (wf : s.WellFormed) (hRow : operationRow ∈ s.operations) :
    operationRow.state = operationRow.document.state :=
  congrArg OperationRow.state (wf.operationRows operationRow hRow)

theorem mem_jobs (hRow : row ∈ s.outboxJobs) : row.document ∈ s.board.jobs :=
  List.mem_map_of_mem hRow

theorem mem_operations (hRow : operationRow ∈ s.operations) :
    operationRow.document ∈ s.board.operations :=
  List.mem_map_of_mem hRow

theorem ofJob_mem (wf : s.WellFormed) (hJob : job ∈ s.board.jobs) :
    JobRow.ofJob job ∈ s.outboxJobs := by
  obtain ⟨row, hRow, rfl⟩ := List.mem_map.mp hJob
  rw [← wf.jobRows row hRow]
  exact hRow

theorem ofOperation_mem (wf : s.WellFormed) (hOperation : operation ∈ s.board.operations) :
    OperationRow.ofOperation operation ∈ s.operations := by
  obtain ⟨row, hRow, rfl⟩ := List.mem_map.mp hOperation
  rw [← wf.operationRows row hRow]
  exact hRow

/-- Counting rows is counting the documents behind them. -/
theorem countP_jobs (wf : s.WellFormed) (p : JobRow → Bool) :
    s.outboxJobs.countP p = s.board.jobs.countP fun job => p (JobRow.ofJob job) := by
  unfold Store.board
  rw [List.countP_map]
  apply List.countP_congr
  intro row hRow
  rw [Function.comp_apply, ← wf.jobRows row hRow]

/-- Jobs are determined by their identifiers. -/
theorem job_eq (wf : s.WellFormed) (hJob : job ∈ s.board.jobs) (hJob' : job' ∈ s.board.jobs)
    (h : job.id = job'.id) : job = job' := by
  have hRows := wf.jobIds.eq (wf.ofJob_mem hJob) (wf.ofJob_mem hJob') h
  exact congrArg JobRow.document hRows

/-- Operations are determined by their identifiers. -/
theorem operation_eq (wf : s.WellFormed) (hOperation : operation ∈ s.board.operations)
    (hOperation' : operation' ∈ s.board.operations) (h : operation.id = operation'.id) :
    operation = operation' := by
  have hRows := wf.operationIds.eq (wf.ofOperation_mem hOperation)
    (wf.ofOperation_mem hOperation') h
  exact congrArg OperationRow.document hRows

theorem find_eq_some (wf : s.WellFormed) {operationId : UUID} :
    s.board.find (some operationId) = some operation ↔
      operation ∈ s.board.operations ∧ operation.id = operationId := by
  unfold Board.find
  constructor
  · intro h
    have hId := List.find?_some h
    simp only [beq_iff_eq, Option.some.injEq] at hId
    exact ⟨List.mem_of_find?_eq_some h, hId.symm⟩
  · rintro ⟨hMem, rfl⟩
    cases hf : s.board.operations.find? (fun o => some operation.id == some o.id) with
    | none => simpa using List.find?_eq_none.mp hf operation hMem
    | some found =>
        have hId := List.find?_some hf
        simp only [beq_iff_eq, Option.some.injEq] at hId
        rw [wf.operation_eq (List.mem_of_find?_eq_some hf) hMem hId.symm]

end Store.WellFormed

end Rows

section Reads

variable {s t : Store} {row : JobRow} {operationRow : OperationRow} {job : OutboxJob}
  {operation : Operation}

theorem readJob_eq_ok : readJob row s = .ok (job, t) ↔
    row.document.valid = true ∧ row.document = job ∧ s = t := by
  unfold readJob
  simp only [bind_eq_ok, require_eq_ok, pure_apply, Except.ok.injEq, Prod.mk.injEq]
  constructor
  · rintro ⟨_, _, ⟨hValid, rfl⟩, rfl, rfl⟩
    exact ⟨hValid, rfl, rfl⟩
  · rintro ⟨hValid, rfl, rfl⟩
    exact ⟨(), s, ⟨hValid, rfl⟩, rfl, rfl⟩

theorem readOperation_eq_ok : readOperation operationRow s = .ok (operation, t) ↔
    operationRow.document.valid = true ∧ operationRow.document = operation ∧ s = t := by
  unfold readOperation
  simp only [bind_eq_ok, require_eq_ok, pure_apply, Except.ok.injEq, Prod.mk.injEq]
  constructor
  · rintro ⟨_, _, ⟨hValid, rfl⟩, rfl, rfl⟩
    exact ⟨hValid, rfl, rfl⟩
  · rintro ⟨hValid, rfl, rfl⟩
    exact ⟨(), s, ⟨hValid, rfl⟩, rfl, rfl⟩

theorem expectRow_eq_ok {α : Type} {found : Option α} {e : StoreError} {a : α} :
    expectRow found e s = .ok (a, t) ↔ found = some a ∧ s = t := by
  cases found <;> simp [expectRow]

theorem find_some_eq {α : Type} {p : α → Bool} {rows : List α} {r : α}
    (h : rows.find? p = some r) : r ∈ rows ∧ p r = true :=
  ⟨List.mem_of_find?_eq_some h, List.find?_some h⟩

/-- The operation a statement selects by its identifier. -/
theorem find_of_select (wf : s.WellFormed) {operationId : UUID}
    (h : s.operations.find? (fun row => row.id == operationId) = some operationRow) :
    operationRow ∈ s.operations ∧ operationRow.document.id = operationId ∧
      s.board.find (some operationId) = some operationRow.document := by
  obtain ⟨hMem, hId⟩ := find_some_eq h
  have hDocument : operationRow.document.id = operationId := by
    rw [← wf.operationRow_id hMem]
    simpa using hId
  exact ⟨hMem, hDocument, wf.find_eq_some.mpr ⟨Store.WellFormed.mem_operations hMem, hDocument⟩⟩

theorem find_of_select_none (wf : s.WellFormed) {operationId : UUID}
    (h : s.operations.find? (fun row => row.id == operationId) = none) :
    s.board.find (some operationId) = none := by
  cases hFind : s.board.find (some operationId) with
  | none => rfl
  | some operation =>
      obtain ⟨hMem, hId⟩ := wf.find_eq_some.mp hFind
      have hNone := List.find?_eq_none.mp h _ (wf.ofOperation_mem hMem)
      simp [OperationRow.ofOperation, hId] at hNone

end Reads

section Writes

variable {s t : Store} {job job' reply : OutboxJob} {operation : Operation} {u : Unit}

/-- Writing a job's document: the row keeps its identity. -/
theorem putJob_step (wf : s.WellFormed) (hJob : job ∈ s.board.jobs) (same : job.SameIntent job')
    {p : JobRow → Bool} {f : JobRow → JobRow}
    (hp : ∀ row ∈ s.outboxJobs, p row = (row.id == job.id))
    (hf : f (JobRow.ofJob job) = JobRow.ofJob job')
    (h : t = { s with outboxJobs := Table.updateWhere p f s.outboxJobs }) :
    t.WellFormed ∧ t.board = s.board.setJob job' := by
  have hRow : ∀ row ∈ s.outboxJobs, p row = true → row = JobRow.ofJob job := by
    intro row hMem hpRow
    rw [hp row hMem, beq_iff_eq] at hpRow
    exact wf.jobIds.eq hMem (wf.ofJob_mem hJob) hpRow
  have hWrite : ∀ row ∈ s.outboxJobs, p row = true → f row = JobRow.ofJob job' := by
    intro row hMem hpRow
    rw [hRow row hMem hpRow, hf]
  subst h
  refine ⟨⟨?_, wf.operationRows, ?_, wf.operationIds⟩, ?_⟩
  · intro row hMem
    obtain ⟨x, hx, ⟨hpx, rfl⟩ | ⟨_, rfl⟩⟩ := Table.mem_updateWhere.mp hMem
    · rw [hWrite x hx hpx]
      rfl
    · exact wf.jobRows _ hx
  · apply wf.jobIds.updateWhere
    intro row hMem hpRow
    rw [hWrite row hMem hpRow, hRow row hMem hpRow]
    exact same.id_eq
  · have hJobs : (Table.updateWhere p f s.outboxJobs).map JobRow.document =
        Table.updateWhere (fun j => j.id == job'.id) (fun _ => job')
          (s.outboxJobs.map JobRow.document) := by
      apply Table.project_updateWhere
      · intro row hMem
        rw [hp row hMem, same.id_eq, ← wf.row_id hMem]
      · intro row hMem hpRow
        rw [hWrite row hMem hpRow]
        rfl
    unfold Store.board Board.setJob
    simp only [hJobs]

theorem persistJob_step (wf : s.WellFormed) (hJob : job ∈ s.board.jobs)
    (same : job.SameIntent job') (h : persistJob job' s = .ok (u, t)) :
    t.WellFormed ∧ t.board = s.board.setJob job' := by
  simp only [persistJob, store_apply, Except.ok.injEq, Prod.mk.injEq, true_and] at h
  exact putJob_step wf hJob same (fun row _ => by rw [same.id_eq]) same.persist h.symm

/-- A job is inserted exactly when it is fresh. -/
theorem insertJob_eq_ok (wf : s.WellFormed) : insertJob job s = .ok (u, t) ↔
    s.board.Fresh job ∧ t = { s with outboxJobs := s.outboxJobs ++ [JobRow.ofJob job] } := by
  have hBody : insertJob job s = .ok (u, t) ↔
      ((∀ row ∈ s.outboxJobs, row.id ≠ job.id) ∧
        (∃ c ∈ s.connections, c.id = job.connectionId) ∧
        (job.idempotencyKey.isSome → ∀ row ∈ s.outboxJobs,
          row.kind = job.kind → row.idempotencyKey ≠ job.idempotencyKey)) ∧
      t = { s with outboxJobs := s.outboxJobs ++ [JobRow.ofJob job] } := by
    unfold insertJob
    rw [fetch_bind]
    simp only [bind_eq_ok, require_eq_ok, store_apply, Except.ok.injEq, Prod.mk.injEq, id]
    constructor
    · rintro ⟨_, _, ⟨hId, rfl⟩, _, _, ⟨hConnection, rfl⟩, _, _, ⟨hKey, rfl⟩, _, rfl⟩
      refine ⟨⟨by simpa using hId, by simpa using hConnection, ?_⟩, rfl⟩
      intro hSome row hMem hKind
      rw [Option.isNone_eq_false_iff.mpr hSome, Bool.false_or, List.all_eq_true] at hKey
      simpa [hKind] using hKey row hMem
    · rintro ⟨⟨hId, hConnection, hKey⟩, rfl⟩
      refine ⟨(), s, ⟨by simpa using hId, rfl⟩, (), s, ⟨by simpa using hConnection, rfl⟩, (), s,
        ⟨?_, rfl⟩, trivial, rfl⟩
      cases hk : job.idempotencyKey with
      | none => rfl
      | some k =>
          simp only [hk, Option.isSome_some, true_implies] at hKey
          simp only [Option.isNone_some, Bool.false_or, List.all_eq_true, Bool.or_eq_true,
            bne_iff_ne]
          intro row hMem
          by_cases hKind : row.kind = job.kind
          · exact Or.inr (hKey row hMem hKind)
          · exact Or.inl hKind
  rw [hBody]
  refine and_congr_left fun _ => ⟨?_, ?_⟩
  · rintro ⟨hId, hConnection, hKey⟩
    exact ⟨fun j hj => hId _ (wf.ofJob_mem hj), hConnection,
      fun j hj hSome hKind => hKey hSome _ (wf.ofJob_mem hj) hKind⟩
  · rintro ⟨hId, hConnection, hKey⟩
    refine ⟨?_, hConnection, ?_⟩
    · intro row hMem
      rw [wf.row_id hMem]
      exact hId _ (Store.WellFormed.mem_jobs hMem)
    · intro hSome row hMem
      rw [wf.jobRows row hMem]
      exact hKey _ (Store.WellFormed.mem_jobs hMem) hSome

/-- An inserted job is fresh, and the only change. -/
theorem insertJob_step (wf : s.WellFormed) (h : insertJob job s = .ok (u, t)) :
    t.WellFormed ∧ t.board = s.board.add [job] ∧ s.board.Fresh job := by
  obtain ⟨hFresh, rfl⟩ := (insertJob_eq_ok wf).mp h
  have hFreshId : ∀ row ∈ s.outboxJobs, row.id ≠ job.id := by
    intro row hMem
    rw [wf.row_id hMem]
    exact hFresh.identifier _ (Store.WellFormed.mem_jobs hMem)
  refine ⟨⟨?_, wf.operationRows, wf.jobIds.append_singleton hFreshId, wf.operationIds⟩, ?_,
    hFresh⟩
  · intro row hMem
    rcases List.mem_append.mp hMem with hMem | hMem
    · exact wf.jobRows row hMem
    · rw [List.mem_singleton.mp hMem]
      rfl
  · simp [Store.board, Board.add, JobRow.ofJob]

/-- A change of one operation's document, whatever columns the statement
tests and sets. -/
theorem amend_step (wf : s.WellFormed) {operationId : UUID} {f : Operation → Operation}
    {q : OperationRow → Bool} {g : OperationRow → OperationRow}
    (hIntent : ∀ o : Operation, o.SameIntent (f o))
    (hWrite : ∀ row ∈ s.operations, q row = true →
      row.id = operationId ∧ g row = OperationRow.ofOperation (f row.document))
    (hRest : ∀ row ∈ s.operations, q row = false → row.id = operationId →
      f row.document = row.document)
    (h : t = { s with operations := Table.updateWhere q g s.operations }) :
    t.WellFormed ∧ t.board = s.board.amend (some operationId) f := by
  subst h
  refine ⟨⟨wf.jobRows, ?_, wf.jobIds, ?_⟩, ?_⟩
  · intro row hMem
    obtain ⟨x, hx, ⟨hq, rfl⟩ | ⟨_, rfl⟩⟩ := Table.mem_updateWhere.mp hMem
    · rw [(hWrite x hx hq).2]
      rfl
    · exact wf.operationRows _ hx
  · apply wf.operationIds.updateWhere
    intro row hMem hq
    rw [(hWrite row hMem hq).2, wf.operationRow_id hMem]
    exact (hIntent row.document).id_eq
  · have hOperations : (Table.updateWhere q g s.operations).map OperationRow.document =
        Table.updateWhere (fun o => some operationId == some o.id) f
          (s.operations.map OperationRow.document) := by
      unfold Table.updateWhere
      rw [List.map_map, List.map_map]
      apply List.map_congr_left
      intro row hMem
      have hId := wf.operationRow_id hMem
      cases hq : q row with
      | true =>
          obtain ⟨hRowId, hg⟩ := hWrite row hMem hq
          have hDocument : row.document.id = operationId := hId.symm.trans hRowId
          simp [hq, hg, OperationRow.ofOperation, hDocument]
      | false =>
          by_cases hDocument : row.document.id = operationId
          · simp [hq, hDocument, hRest row hMem hq (hId.trans hDocument)]
          · simp [hq, Ne.symm hDocument]
    unfold Store.board Board.amend
    simp only [hOperations]

/-- Rewriting the selected operation's document together with its state. -/
theorem persistOperation_step (wf : s.WellFormed) {operationRow : OperationRow}
    {operationId : UUID} {f : Operation → Operation}
    (hIntent : ∀ o : Operation, o.SameIntent (f o)) (hMem : operationRow ∈ s.operations)
    (hId : operationRow.document.id = operationId)
    (h : persistOperation (f operationRow.document) operationId s = .ok (u, t)) :
    t.WellFormed ∧ t.board = s.board.amend (some operationId) f := by
  simp only [persistOperation, store_apply, Except.ok.injEq, Prod.mk.injEq, true_and] at h
  have hRowId : operationRow.id = operationId := (wf.operationRow_id hMem).trans hId
  refine amend_step wf hIntent ?_ ?_ h.symm
  · intro row hRow hq
    have hEq : row = operationRow := wf.operationIds.eq hRow hMem
      ((by simpa using hq : row.id = operationId).trans hRowId.symm)
    rw [hEq]
    refine ⟨hRowId, ?_⟩
    have hPersist := (hIntent operationRow.document).persist
    rwa [← wf.operationRows operationRow hMem] at hPersist
  · intro row _ hq hRow
    simp [hRow] at hq

/-- Rewriting the selected operation's document but not its state column. -/
theorem persistOperationDocument_step (wf : s.WellFormed) {operationRow : OperationRow}
    {operationId : UUID} {f : Operation → Operation}
    (hIntent : ∀ o : Operation, o.SameIntent (f o)) (hState : ∀ o, (f o).state = o.state)
    (hMem : operationRow ∈ s.operations) (hId : operationRow.document.id = operationId)
    (h : persistOperationDocument (f operationRow.document) operationId s = .ok (u, t)) :
    t.WellFormed ∧ t.board = s.board.amend (some operationId) f := by
  simp only [persistOperationDocument, store_apply, Except.ok.injEq, Prod.mk.injEq,
    true_and] at h
  have hRowId : operationRow.id = operationId := (wf.operationRow_id hMem).trans hId
  refine amend_step wf hIntent ?_ ?_ h.symm
  · intro row hRow hq
    have hEq : row = operationRow := wf.operationIds.eq hRow hMem
      ((by simpa using hq : row.id = operationId).trans hRowId.symm)
    rw [hEq]
    refine ⟨hRowId, ?_⟩
    have hPersist := (hIntent operationRow.document).persist
    rw [← wf.operationRows operationRow hMem] at hPersist
    rw [← hPersist]
    unfold OperationRow.persist
    rw [hState, ← wf.operationRow_state hMem]
  · intro row _ hq hRow
    simp [hRow] at hq

theorem amend_of_find_none {b : Board} {operationId : UUID} {f : Operation → Operation}
    (h : b.find (some operationId) = none) : b.amend (some operationId) f = b := by
  unfold Board.amend
  rw [Table.updateWhere_of_none]
  intro o ho
  simpa using List.find?_eq_none.mp h o ho

theorem Turn.settle_sameIntent (state : OperationState) (result : Option JsonObject)
    (now : Timestamp) (operation : Operation) :
    operation.SameIntent (Turn.settle state result now operation) := rfl

theorem updateOperationState_step (wf : s.WellFormed) {operationId : UUID}
    {state : OperationState} {now : Timestamp} {result : Option JsonObject}
    (h : updateOperationState operationId state now result s = .ok (u, t)) :
    t.WellFormed ∧ t.board = s.board.amend (some operationId) (Turn.settle state result now) := by
  unfold updateOperationState selectOperation at h
  rw [fetch_bind] at h
  cases hFind : s.operations.find? (fun row => row.id == operationId) with
  | none =>
      simp only [hFind, pure_apply, Except.ok.injEq, Prod.mk.injEq, true_and] at h
      rw [← h, amend_of_find_none (find_of_select_none wf hFind)]
      exact ⟨wf, rfl⟩
  | some row =>
      obtain ⟨hMem, hId, _⟩ := find_of_select wf hFind
      simp only [hFind, bind_eq_ok, readOperation_eq_ok] at h
      obtain ⟨_, _, ⟨_, rfl, rfl⟩, h⟩ := h
      exact persistOperation_step wf (Turn.settle_sameIntent state result now) hMem hId h

/-- Forget the Authority attempt of an operation. -/
def Turn.forget (operation : Operation) : Operation :=
  { operation with authorityInvocationId := none, authorityIdempotencyKey := none }

theorem clearOperationAuthority_step (wf : s.WellFormed) {operationId : UUID}
    (h : clearOperationAuthority operationId s = .ok (u, t)) :
    t.WellFormed ∧ t.board = s.board.amend (some operationId) Turn.forget := by
  unfold clearOperationAuthority selectOperation at h
  rw [fetch_bind] at h
  cases hFind : s.operations.find? (fun row => row.id == operationId) with
  | none =>
      simp only [hFind, pure_apply, Except.ok.injEq, Prod.mk.injEq, true_and] at h
      rw [← h, amend_of_find_none (find_of_select_none wf hFind)]
      exact ⟨wf, rfl⟩
  | some row =>
      obtain ⟨hMem, hId, _⟩ := find_of_select wf hFind
      simp only [hFind, bind_eq_ok, readOperation_eq_ok] at h
      obtain ⟨_, _, ⟨_, rfl, rfl⟩, h⟩ := h
      exact persistOperationDocument_step (f := Turn.forget) wf (fun _ => rfl) (fun _ => rfl)
        hMem hId h

theorem Board.add_nil (b : Board) : b.add [] = b := by
  simp [Board.add]

/-- An enqueued reply announces the outcome, and nothing else changes. -/
theorem enqueueCommandReply_step (wf : s.WellFormed) {state : JobState} {evidence : JsonObject}
    {now : Timestamp} {replyUuid : UUID}
    (h : enqueueCommandReply operation state evidence now replyUuid s = .ok (u, t)) :
    t.WellFormed ∧ ∃ replies, t.board = s.board.add replies ∧
      s.board.Announced (some operation) state evidence now replies := by
  unfold enqueueCommandReply at h
  cases hReply : operation.replyable with
  | false =>
      simp only [hReply, Bool.false_eq_true, if_false, pure_apply, Except.ok.injEq,
        Prod.mk.injEq, true_and] at h
      rw [← h]
      refine ⟨wf, [], (Board.add_nil _).symm, ?_⟩
      simp [Board.Announced, hReply]
  | true =>
      simp only [hReply, if_true] at h
      rw [fetch_bind] at h
      simp only [bind_eq_ok, expectRow_eq_ok, require_eq_ok] at h
      obtain ⟨connection, _, ⟨_, rfl⟩, _, _, ⟨hValid, rfl⟩, h⟩ := h
      obtain ⟨wf', hBoard, hFresh⟩ := insertJob_step wf h
      refine ⟨wf', _, hBoard, ?_⟩
      simp only [Board.Announced, hReply, if_true]
      refine ⟨connection.repositoryName, replyUuid, rfl, ?_⟩
      intro reply hMem
      rw [List.mem_singleton.mp hMem]
      exact ⟨hFresh, hValid⟩

theorem enqueueReplyForOperation_step (wf : s.WellFormed) {operationId : UUID}
    {state : JobState} {evidence : JsonObject} {now : Timestamp} {replyUuid : UUID}
    (h : enqueueReplyForOperation operationId state evidence now replyUuid s = .ok (u, t)) :
    t.WellFormed ∧ ∃ replies, t.board = s.board.add replies ∧
      s.board.Announced (s.board.find (some operationId)) state evidence now replies := by
  unfold enqueueReplyForOperation selectOperation at h
  rw [fetch_bind] at h
  cases hFind : s.operations.find? (fun row => row.id == operationId) with
  | none =>
      simp only [hFind, pure_apply, Except.ok.injEq, Prod.mk.injEq, true_and] at h
      rw [← h, find_of_select_none wf hFind]
      exact ⟨wf, [], (Board.add_nil _).symm, rfl⟩
  | some row =>
      obtain ⟨_, _, hBoardFind⟩ := find_of_select wf hFind
      simp only [hFind, bind_eq_ok, readOperation_eq_ok] at h
      obtain ⟨_, _, ⟨_, rfl, rfl⟩, h⟩ := h
      rw [hBoardFind]
      exact enqueueCommandReply_step wf h

theorem insertEvidence_step {row : JobEvidence} (h : insertEvidence row s = .ok (u, t)) :
    s.SameDocuments t := by
  unfold insertEvidence at h
  rw [fetch_bind] at h
  simp only [bind_eq_ok, require_eq_ok, store_apply, Except.ok.injEq, Prod.mk.injEq] at h
  obtain ⟨_, _, ⟨_, rfl⟩, _, rfl⟩ := h
  exact ⟨rfl, rfl, rfl⟩

theorem replaceEvidence_step {row : JobEvidence} (h : replaceEvidence row s = .ok (u, t)) :
    s.SameDocuments t := by
  simp only [replaceEvidence, store_apply, Except.ok.injEq, Prod.mk.injEq, true_and] at h
  subst h
  exact ⟨rfl, rfl, rfl⟩

theorem insertReceipt_step {receipt : DeliveryReceipt}
    (h : insertReceipt receipt s = .ok (u, t)) : s.SameDocuments t := by
  unfold insertReceipt at h
  rw [fetch_bind] at h
  simp only [bind_eq_ok, require_eq_ok, store_apply, Except.ok.injEq, Prod.mk.injEq] at h
  obtain ⟨_, _, ⟨_, rfl⟩, _, rfl⟩ := h
  exact ⟨rfl, rfl, rfl⟩

theorem insertAudit_step {audit : OperationAudit} (h : insertAudit audit s = .ok (u, t)) :
    s.SameDocuments t := by
  unfold insertAudit at h
  rw [fetch_bind] at h
  simp only [bind_eq_ok, require_eq_ok, store_apply, Except.ok.injEq, Prod.mk.injEq] at h
  obtain ⟨_, _, ⟨_, rfl⟩, _, rfl⟩ := h
  exact ⟨rfl, rfl, rfl⟩

theorem markReplyEvent_step {eligible : WeComInboundEvent → Bool} {state : WeComEventState}
    (h : markReplyEvent job eligible state s = .ok (u, t)) : s.SameDocuments t := by
  unfold markReplyEvent at h
  split at h
  · cases hRef : (job.payload.get "eventId").bind Json.asStr with
    | none =>
        simp only [hRef, pure_apply, Except.ok.injEq, Prod.mk.injEq, true_and] at h
        exact h ▸ Store.SameDocuments.refl s
    | some eventRef =>
        simp only [hRef] at h
        rw [fetch_bind] at h
        cases hFind : s.wecomInboundEvents.find?
            (fun event => event.id.text == eventRef && eligible event) with
        | none =>
            simp only [hFind, pure_apply, Except.ok.injEq, Prod.mk.injEq, true_and] at h
            exact h ▸ Store.SameDocuments.refl s
        | some event =>
            simp only [hFind, store_apply, Except.ok.injEq, Prod.mk.injEq, true_and] at h
            subst h
            exact ⟨rfl, rfl, rfl⟩
  · simp only [pure_apply, Except.ok.injEq, Prod.mk.injEq, true_and] at h
    exact h ▸ Store.SameDocuments.refl s

end Writes

end CyreneExchange.Integrations
