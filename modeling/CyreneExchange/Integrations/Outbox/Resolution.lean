import CyreneExchange.Integrations.Outbox.Evidence

/-! Manual reconciliation of an unknown operation, and what it leaves alone. A
confirmed reconciliation settles every unknown job that names the operation, the
delivery of its reply included. -/
namespace CyreneExchange.Integrations

open Machine Transaction

/-- The job that carries out the operation. -/
def JobRow.carriesOut (operationId : UUID) (row : JobRow) : Bool :=
  row.kind == .issueAction && row.operationId == some operationId

/-- From `s` to `t` only the operation, the job that carries it out, the evidence of
this job and the audit trail of the operation change. -/
structure Store.TouchesOnly (operationId : UUID) (s t : Store) : Prop where
  operations : t.operations.filter (fun row => row.id != operationId) =
    s.operations.filter fun row => row.id != operationId
  jobs : t.outboxJobs.filter (fun row => !row.carriesOut operationId) =
    s.outboxJobs.filter fun row => !row.carriesOut operationId
  evidence : ∀ e : JobEvidence,
    (∀ row ∈ s.outboxJobs, row.carriesOut operationId = true → row.id ≠ e.jobId) →
      (e ∈ t.jobEvidence ↔ e ∈ s.jobEvidence)
  audits : ∃ audits, t.operationAudits = s.operationAudits ++ audits ∧
    ∀ audit ∈ audits, audit.resourceId = operationId
  rest : t = { s with
    operations := t.operations
    outboxJobs := t.outboxJobs
    jobEvidence := t.jobEvidence
    operationAudits := t.operationAudits }

/-- Every unknown job that names the operation carries it out. -/
def Store.ReplyKnown (s : Store) (operationId : UUID) : Prop :=
  ∀ row ∈ s.outboxJobs, row.operationId = some operationId → row.state = .unknown →
    row.kind = .issueAction

instance (s : Store) (operationId : UUID) : Decidable (s.ReplyKnown operationId) :=
  inferInstanceAs (Decidable (∀ row ∈ s.outboxJobs, row.operationId = some operationId →
    row.state = .unknown → row.kind = .issueAction))

section Frame

variable {s t : Store} {operation : Operation} {operationId auditUuid : UUID} {succeeded : Bool}
  {result : JsonObject} {now : Timestamp} {principal : IntegrationPrincipal} {grant : String}
  {resolved : Operation}

theorem Store.WellFormed.rows_eq (wf : s.WellFormed) :
    s.outboxJobs = s.board.jobs.map JobRow.ofJob := by
  unfold Store.board
  rw [List.map_map]
  exact (List.map_id _).symm.trans (List.map_congr_left fun row hRow => wf.jobRows row hRow)

theorem Store.WellFormed.operationRows_eq (wf : s.WellFormed) :
    s.operations = s.board.operations.map OperationRow.ofOperation := by
  unfold Store.board
  rw [List.map_map]
  exact (List.map_id _).symm.trans
    (List.map_congr_left fun row hRow => wf.operationRows row hRow)

/-- What the settling loop leaves alone. -/
structure Store.Settles (rows : List JobRow) (s t : Store) : Prop where
  evidence : ∀ e : JobEvidence, (∀ row ∈ rows, row.document.id ≠ e.jobId) →
    (e ∈ t.jobEvidence ↔ e ∈ s.jobEvidence)
  audits : t.operationAudits = s.operationAudits
  rest : t = { s with outboxJobs := t.outboxJobs, jobEvidence := t.jobEvidence }

theorem settleUnknownJobs_settles {rows : List JobRow} {u : Unit}
    (h : settleUnknownJobs result now rows s = .ok (u, t)) : s.Settles rows t := by
  induction rows generalizing s with
  | nil =>
      cases h
      exact ⟨fun _ _ => Iff.rfl, rfl, rfl⟩
  | cons row rest ih =>
      unfold settleUnknownJobs at h
      obtain ⟨_, _, hRead, h⟩ := bind_eq_ok.mp h
      obtain ⟨_, rfl, rfl⟩ := readJob_eq_ok.mp hRead
      obtain ⟨_, written, hPersist, h⟩ := bind_eq_ok.mp h
      obtain ⟨_, recorded, hEvidence, h⟩ := bind_eq_ok.mp h
      cases hPersist
      cases hEvidence
      obtain ⟨hLater, hAudits, hRest⟩ := ih h
      refine ⟨?_, hAudits, hRest⟩
      intro e he
      refine (hLater e fun r hr => he r (List.mem_cons_of_mem row hr)).trans ?_
      have hOther := he row List.mem_cons_self
      constructor
      · intro hMem
        rcases List.mem_append.mp hMem with hOld | hNew
        · exact (Table.mem_deleteWhere.mp hOld).1
        · rw [List.mem_singleton.mp hNew] at hOther
          exact absurd rfl hOther
      · intro hMem
        refine List.mem_append_left _ (Table.mem_deleteWhere.mpr ⟨hMem, ?_⟩)
        rw [beq_eq_false_iff_ne.mpr hOther.symm, Bool.false_and]

/-- The jobs that do not carry out the operation stay exactly when none of them is
settled with it. -/
theorem resolve_jobs_iff (wf : s.WellFormed) (wfAfter : t.WellFormed)
    (hBoard : t.board = s.board.resolve operation succeeded result now) :
    t.outboxJobs.filter (fun row => !row.carriesOut operation.id) =
        s.outboxJobs.filter (fun row => !row.carriesOut operation.id) ↔
      succeeded = false ∨ s.ReplyKnown operation.id := by
  constructor
  · intro hJobs
    cases succeeded with
    | false => exact Or.inl rfl
    | true =>
        refine Or.inr fun row hRow hNames hUnknown => ?_
        by_contra hKind
        have hApart : row ∈ s.outboxJobs.filter (fun row => !row.carriesOut operation.id) :=
          List.mem_filter.mpr ⟨hRow, by simp [JobRow.carriesOut, hKind]⟩
        rw [← hJobs] at hApart
        have hAfter := Store.WellFormed.mem_jobs (List.mem_filter.mp hApart).1
        rw [hBoard] at hAfter
        rw [wf.row_state hRow] at hUnknown
        rw [wf.row_operationId hRow] at hNames
        obtain ⟨j, _, ⟨_, hEq⟩ | ⟨hKept, hEq⟩⟩ := Table.mem_updateWhere.mp hAfter
        · rw [hEq] at hUnknown
          cases hUnknown
        · rw [hEq] at hUnknown hNames
          simp [hUnknown, hNames] at hKept
  · intro hCondition
    rw [wf.rows_eq, wfAfter.rows_eq, hBoard, List.filter_map, List.filter_map]
    congr 1
    apply Table.filter_updateWhere
    intro j hj hSelected
    simp only [Bool.and_eq_true, beq_iff_eq] at hSelected
    obtain ⟨⟨hTrue, hNames⟩, hUnknown⟩ := hSelected
    have hKind : j.kind = .issueAction := by
      rcases hCondition with hFalse | hKnown
      · rw [hTrue] at hFalse
        cases hFalse
      · exact hKnown (JobRow.ofJob j) (wf.ofJob_mem hj) hNames hUnknown
    simp [JobRow.carriesOut, JobRow.ofJob, hKind, hNames]

theorem resolve_operations (wf : s.WellFormed) (wfAfter : t.WellFormed)
    (hBoard : t.board = s.board.resolve operation succeeded result now) :
    t.operations.filter (fun row => row.id != operation.id) =
      s.operations.filter fun row => row.id != operation.id := by
  rw [wf.operationRows_eq, wfAfter.operationRows_eq, hBoard, List.filter_map, List.filter_map]
  congr 1
  apply Table.filter_updateWhere
  intro o _ hId
  rw [beq_iff_eq] at hId
  simp [OperationRow.ofOperation, Turn.settle, hId]

/-- The tables besides jobs and operations after a committed reconciliation. -/
theorem resolveUnknownOperation_elsewhere
    (h : resolveUnknownOperation principal operationId succeeded result grant now auditUuid s =
      .ok (resolved, t)) :
    (∀ e : JobEvidence, (succeeded = true → ∀ row ∈ s.outboxJobs,
        row.operationId = some operationId → row.state = .unknown → row.document.id ≠ e.jobId) →
      (e ∈ t.jobEvidence ↔ e ∈ s.jobEvidence)) ∧
    (∃ audit, t.operationAudits = s.operationAudits ++ [audit] ∧
      audit.resourceId = operationId) ∧
    t = { s with
      operations := t.operations
      outboxJobs := t.outboxJobs
      jobEvidence := t.jobEvidence
      operationAudits := t.operationAudits } := by
  have hAudited : ∀ {audit : OperationAudit} {u : Unit} {a b : Store},
      insertAudit audit a = .ok (u, b) →
        b = { a with operationAudits := a.operationAudits ++ [audit] } := by
    intro audit u a b hInsert
    unfold insertAudit at hInsert
    rw [fetch_bind] at hInsert
    obtain ⟨_, _, hNew, hInsert⟩ := bind_eq_ok.mp hInsert
    obtain ⟨_, rfl⟩ := require_eq_ok.mp hNew
    cases hInsert
    rfl
  unfold resolveUnknownOperation at h
  obtain ⟨_, _, hGrant, h⟩ := bind_eq_ok.mp h
  obtain rfl := requireGrant_eq_ok hGrant
  rw [fetch_bind] at h
  obtain ⟨row, _, hRow, h⟩ := bind_eq_ok.mp h
  obtain ⟨_, rfl⟩ := expectRow_eq_ok.mp hRow
  obtain ⟨_, _, hRead, h⟩ := bind_eq_ok.mp h
  obtain ⟨_, _, rfl⟩ := readOperation_eq_ok.mp hRead
  rw [store_bind] at h
  cases succeeded with
  | false =>
      simp only [Bool.false_eq_true, if_false] at h
      obtain ⟨_, _, hAudit, h⟩ := bind_eq_ok.mp h
      cases h
      rw [hAudited hAudit]
      exact ⟨fun _ _ => Iff.rfl, ⟨_, rfl, rfl⟩, rfl⟩
  | true =>
      simp only [if_true] at h
      rw [fetch_bind] at h
      obtain ⟨_, reconciled, hSettle, h⟩ := bind_eq_ok.mp h
      obtain ⟨_, _, hAudit, h⟩ := bind_eq_ok.mp h
      cases h
      obtain ⟨hEvidence, hAudits, hRest⟩ := settleUnknownJobs_settles hSettle
      rw [hAudited hAudit]
      refine ⟨?_, ⟨_, by rw [hAudits], rfl⟩, ?_⟩
      · intro e he
        refine hEvidence e fun r hr => ?_
        obtain ⟨hMem, hSelected⟩ := List.mem_filter.mp hr
        simp only [Bool.and_eq_true, beq_iff_eq] at hSelected
        exact he rfl r hMem hSelected.1 hSelected.2
      · rw [hRest]

/-- A committed reconciliation touches only its operation unless it confirms it
while the delivery of the reply is unknown too. -/
theorem resolveUnknownOperation_touchesOnly_iff (wf : s.WellFormed)
    (h : resolveUnknownOperation principal operationId succeeded result grant now auditUuid s =
      .ok (resolved, t)) :
    s.TouchesOnly operationId t ↔ succeeded = false ∨ s.ReplyKnown operationId := by
  obtain ⟨operation, _, rfl, _, wfAfter, hBoard⟩ := resolveUnknownOperation_step wf h
  rw [← resolve_jobs_iff wf wfAfter hBoard]
  constructor
  · exact fun hTouches => hTouches.jobs
  · intro hJobs
    obtain ⟨hEvidence, ⟨audit, hAudits, hResource⟩, hRest⟩ :=
      resolveUnknownOperation_elsewhere h
    refine ⟨resolve_operations wf wfAfter hBoard, hJobs, ?_, ?_, hRest⟩
    · intro e he
      refine hEvidence e fun hConfirmed row hRow hNames hUnknown => ?_
      have hKnown : s.ReplyKnown operation.id := by
        rcases (resolve_jobs_iff wf wfAfter hBoard).mp hJobs with hFalse | hKnown
        · rw [hConfirmed] at hFalse
          cases hFalse
        · exact hKnown
      rw [← wf.row_id hRow]
      refine he row hRow ?_
      simp [JobRow.carriesOut, hKnown row hRow hNames hUnknown, hNames]
    · exact ⟨[audit], hAudits, fun a ha => List.mem_singleton.mp ha ▸ hResource⟩

end Frame

/-- In every reachable store, a committed reconciliation changes only the operation,
the job that carries it out with its evidence, and the audit trail, if and only if
it does not confirm the operation or no other job of it is unknown; one that raises
changes nothing. -/
theorem resolution_touches_iff (sha256 : String → String) (calls : List Call)
    (principal : IntegrationPrincipal) (operationId : UUID) (succeeded : Bool)
    (result : JsonObject) (grant : String) (now : Timestamp) (auditUuid : UUID) :
    (∀ resolved t, commit (resolveUnknownOperation principal operationId succeeded result grant
        now auditUuid) (run (perform sha256) calls Store.initial) = (.ok resolved, t) →
      ((run (perform sha256) calls Store.initial).TouchesOnly operationId t ↔
        succeeded = false ∨ (run (perform sha256) calls Store.initial).ReplyKnown operationId)) ∧
    ∀ e t, commit (resolveUnknownOperation principal operationId succeeded result grant now
        auditUuid) (run (perform sha256) calls Store.initial) = (.error e, t) →
      t = run (perform sha256) calls Store.initial := by
  have wf := run_wellFormed sha256 calls Store.initial_wellFormed
  constructor
  · intro resolved t hCommit
    have hBody := commit_eq_ok (congrArg Prod.fst hCommit)
    rw [hCommit] at hBody
    exact resolveUnknownOperation_touchesOnly_iff wf hBody
  · intro e t hCommit
    have hSame := commit_of_error (congrArg Prod.fst hCommit)
    rw [hCommit] at hSame
    exact hSame

/-- A chat command whose outcome is lost while it is being executed. -/
def sampleUnknown : List Call := sampleSetup ++ [
  .claimReadyJob "worker" 0 60,
  .prepareAuthorityEnqueue (sampleId '1') 1 "key" 0,
  .markAwaitingAuthority (sampleId '1') 1 "invocation" .pending 0,
  .beginAuthorizedExecution samplePrincipal (sampleId '0') (sampleId 'b')
    "integrationExecuteIssueState" "digest" "invocation" 60 0,
  .finishJob (sampleId '1') 2 .unknown [] none 0 (sampleId '2')]

/-- The delivery of its reply is lost as well. -/
def sampleUnknownReply : List Call := sampleUnknown ++ [
  .claimReadyJob "worker" 0 60,
  .markSending (sampleId '2') 1 0,
  .finishJob (sampleId '2') 1 .unknown [] none 0 (sampleId '3')]

/-- The member who reconciles the command. -/
def sampleReconciler : IntegrationPrincipal :=
  { samplePrincipal with allowedOperationIds := ["integrationReconcile"] }

/-- The command turns out to have succeeded. -/
def sampleResolution : StoreTransaction Operation :=
  resolveUnknownOperation sampleReconciler (sampleId '0') true [] "integrationReconcile" 1
    (sampleId '4')

theorem resolution_touches_iff_sample :
    ∃ resolved t, commit sampleResolution
        (run (perform fun _ => "digest") sampleUnknown Store.initial) = (.ok resolved, t) ∧
      (run (perform fun _ => "digest") sampleUnknown Store.initial).TouchesOnly
        (sampleId '0') t := by
  have hOk : (commit sampleResolution
      (run (perform fun _ => "digest") sampleUnknown Store.initial)).1.isOk = true := by decide +kernel
  cases hCommit : commit sampleResolution
      (run (perform fun _ => "digest") sampleUnknown Store.initial) with
  | mk outcome t =>
      rw [hCommit] at hOk
      cases outcome with
      | error e => cases hOk
      | ok resolved =>
          exact ⟨resolved, t, rfl, ((resolution_touches_iff (fun _ => "digest") sampleUnknown
            sampleReconciler (sampleId '0') true [] "integrationReconcile" 1 (sampleId '4')).1
            resolved t hCommit).mpr (by decide +kernel)⟩

/-- An undelivered reply is recorded as delivered with its operation. -/
theorem lost_reply_confirmed :
    (commit sampleResolution
      (run (perform fun _ => "digest") sampleUnknownReply Store.initial)).1.isOk = true ∧
    ((run (perform fun _ => "digest") sampleUnknownReply Store.initial).outboxJobs.map fun row =>
      (row.kind, row.state)) = [(.issueAction, .unknown), (.commandReply, .unknown)] ∧
    ((commit sampleResolution
      (run (perform fun _ => "digest") sampleUnknownReply Store.initial)).2.outboxJobs.map
        fun row => (row.kind, row.state)) =
      [(.issueAction, .succeeded), (.commandReply, .succeeded)] ∧
    ¬ (run (perform fun _ => "digest") sampleUnknownReply Store.initial).TouchesOnly (sampleId '0')
      (commit sampleResolution
        (run (perform fun _ => "digest") sampleUnknownReply Store.initial)).2 := by
  have hBefore : ((run (perform fun _ => "digest") sampleUnknownReply
      Store.initial).outboxJobs.filter fun row => !row.carriesOut (sampleId '0')).map
        JobRow.state = [.unknown] := by decide +kernel
  have hAfter : ((commit sampleResolution (run (perform fun _ => "digest") sampleUnknownReply
      Store.initial)).2.outboxJobs.filter fun row => !row.carriesOut (sampleId '0')).map
        JobRow.state = [.succeeded] := by decide +kernel
  refine ⟨by decide +kernel, by decide +kernel, by decide +kernel, ?_⟩
  intro hTouches
  rw [hTouches.jobs, hBefore] at hAfter
  cases hAfter

end CyreneExchange.Integrations
