import CyreneExchange.Integrations.Outbox.Durability

/-! Lease recovery over every reachable store: when the loop runs to its end,
and what it leaves behind. A reply lost while it was being sent stops it. -/
namespace CyreneExchange.Integrations

open Machine Transaction

/-- The jobs of `t` are those of `s`, and at most one with the drawn id. -/
def Store.Draws (replyUuid : UUID) (s t : Store) : Prop :=
  ∀ row ∈ t.outboxJobs, row.id = replyUuid ∨ ∃ r ∈ s.outboxJobs, r.id = row.id

/-- A body that runs to its end and draws no other identifier. -/
def Commits (replyUuid : UUID) (body : StoreTransaction Unit) (s : Store) : Prop :=
  ∃ t, body s = .ok ((), t) ∧ Store.Draws replyUuid s t

section Progress

variable {s t u : Store} {replyUuid : UUID} {job job' : OutboxJob} {operation : Operation}
  {row : JobRow} {operationId : UUID} {now : Timestamp}

theorem Store.Draws.of_eq (h : t.outboxJobs = s.outboxJobs) : Store.Draws replyUuid s t := by
  intro row hRow
  rw [h] at hRow
  exact Or.inr ⟨row, hRow, rfl⟩

theorem Store.Draws.trans (h : Store.Draws replyUuid s t) (h' : Store.Draws replyUuid t u) :
    Store.Draws replyUuid s u := by
  intro row hRow
  rcases h' row hRow with hDrawn | ⟨r, hr, hId⟩
  · exact Or.inl hDrawn
  · rw [← hId]
    exact h r hr

/-- A drawn identifier that is new before a body is new after one that drew
another. -/
theorem Store.Draws.fresh (h : Store.Draws replyUuid s t) {other : UUID}
    (hFresh : ∀ row ∈ s.outboxJobs, row.id ≠ other) (hOther : replyUuid ≠ other) :
    ∀ row ∈ t.outboxJobs, row.id ≠ other := by
  intro row hRow
  rcases h row hRow with hDrawn | ⟨r, hr, hId⟩
  · rw [hDrawn]
    exact hOther
  · rw [← hId]
    exact hFresh r hr

theorem Commits.bind {first second : StoreTransaction Unit} (hFirst : first s = .ok ((), t))
    (hDraws : Store.Draws replyUuid s t) (hSecond : Commits replyUuid second t) :
    Commits replyUuid (first >>= fun _ => second) s := by
  obtain ⟨u, hBody, hNext⟩ := hSecond
  exact ⟨u, (bind_of_ok hFirst).trans hBody, hDraws.trans hNext⟩

theorem persistJob_commits : Commits replyUuid (persistJob job) s := by
  refine ⟨_, rfl, ?_⟩
  intro row hRow
  obtain ⟨r, hr, ⟨_, rfl⟩ | ⟨_, rfl⟩⟩ := Table.mem_updateWhere.mp hRow
  · exact Or.inr ⟨r, hr, rfl⟩
  · exact Or.inr ⟨row, hr, rfl⟩

/-- Selecting an operation by the identifier of its document. -/
theorem select_of_mem (wf : s.WellFormed) (hMem : operation ∈ s.board.operations) :
    s.operations.find? (fun row => row.id == operation.id) =
      some (OperationRow.ofOperation operation) := by
  cases hFind : s.operations.find? (fun row => row.id == operation.id) with
  | none =>
      have hNone := List.find?_eq_none.mp hFind _ (wf.ofOperation_mem hMem)
      exact absurd (beq_self_eq_true operation.id) hNone
  | some found =>
      obtain ⟨hFound, hId⟩ := find_some_eq hFind
      rw [wf.operationIds.eq hFound (wf.ofOperation_mem hMem) (beq_iff_eq.mp hId)]

/-- An UPDATE of operations commits and leaves the jobs alone. -/
theorem rewriteOperation_ok (wf : s.WellFormed) (hMem : operation ∈ s.board.operations)
    (hValid : operation.valid = true) {write : Operation → StoreTransaction Unit}
    (hWrite : ∃ t, write operation s = .ok ((), t) ∧ t.outboxJobs = s.outboxJobs) :
    ∃ t, (selectOperation operation.id >>= fun found => match found with
      | none => pure ()
      | some row => readOperation row >>= write) s = .ok ((), t) ∧
      t.outboxJobs = s.outboxJobs := by
  obtain ⟨t, hStep, hJobs⟩ := hWrite
  have hRead : readOperation (OperationRow.ofOperation operation) s = .ok (operation, s) :=
    readOperation_eq_ok.mpr ⟨hValid, rfl, rfl⟩
  refine ⟨t, ?_, hJobs⟩
  unfold selectOperation
  rw [fetch_bind, select_of_mem wf hMem]
  exact (bind_of_ok hRead).trans hStep

theorem updateOperationState_ok (now : Timestamp) (wf : s.WellFormed)
    (hMem : operation ∈ s.board.operations) (hValid : operation.valid = true) (state : OperationState) (result : Option JsonObject) :
    ∃ t, updateOperationState operation.id state now result s = .ok ((), t) ∧
      t.outboxJobs = s.outboxJobs :=
  rewriteOperation_ok wf hMem hValid ⟨_, rfl, rfl⟩

theorem clearOperationAuthority_ok (wf : s.WellFormed) (hMem : operation ∈ s.board.operations)
    (hValid : operation.valid = true) :
    ∃ t, clearOperationAuthority operation.id s = .ok ((), t) ∧
      t.outboxJobs = s.outboxJobs :=
  rewriteOperation_ok wf hMem hValid ⟨_, rfl, rfl⟩

/-- The key of a reply to a routed command fits its column. -/
theorem Operation.Routed.replyKey_length {connections : List IntegrationConnection}
    (h : operation.Routed connections) (hSource : operation.sourceKind = .wecomCommand) :
    operation.replyKey.length ≤ 300 := by
  obtain ⟨event, hRef⟩ := h.source hSource
  have hText : event.text ≠ "" := by
    intro hEmpty
    have hLength := event.canonical
    rw [hEmpty] at hLength
    cases hLength
  have hLead : "command-reply:".length = 14 := rfl
  have hColon : ":".length = 1 := rfl
  unfold Operation.replyKey
  simp only [hRef, orElse, hText, if_false, String.length_append, event.canonical,
    operation.id.canonical, hLead, hColon]
  decide

theorem Operation.Routed.reply_valid {connections : List IntegrationConnection}
    (h : operation.Routed connections) (hReply : operation.replyable = true)
    (repositoryName : String) (state : JobState) (evidence : JsonObject) :
    (operation.reply repositoryName state evidence now replyUuid).valid = true := by
  simp only [Operation.replyable, Bool.and_eq_true, beq_iff_eq] at hReply
  exact OutboxJob.valid_iff.mpr ⟨atMost_of_le (h.replyKey_length hReply.1), rfl, rfl⟩

theorem insertJob_commits (job : OutboxJob) (wf : s.WellFormed) (hFresh : s.board.Fresh job) :
    Commits job.id (insertJob job) s := by
  refine ⟨_, (insertJob_eq_ok wf).mpr ⟨hFresh, rfl⟩, ?_⟩
  intro row hRow
  rcases List.mem_append.mp hRow with hOld | hNew
  · exact Or.inr ⟨row, hOld, rfl⟩
  · rw [List.mem_singleton.mp hNew]
    exact Or.inl rfl

/-- An unanswered, routed operation can be answered. -/
theorem enqueueCommandReply_commits (now : Timestamp) (wf : s.WellFormed)
    (hRouted : operation.Routed s.connections) (hFresh : ∀ row ∈ s.outboxJobs, row.id ≠ replyUuid)
    (hUnanswered : operation.replyable = true → ∀ j ∈ s.board.jobs, j.kind = .commandReply →
      j.idempotencyKey ≠ some operation.replyKey) (state : JobState) (evidence : JsonObject) :
    Commits replyUuid (enqueueCommandReply operation state evidence now replyUuid) s := by
  unfold enqueueCommandReply
  cases hReply : operation.replyable with
  | false => exact ⟨s, rfl, .of_eq rfl⟩
  | true =>
      obtain ⟨c, hMem, hId, hOrganization, hWorkspace⟩ := hRouted.connection
      obtain ⟨connection, hFind⟩ : ∃ connection, s.connections.find? (fun connection =>
          connection.id == operation.connectionId &&
            connection.organizationId == operation.scope.organizationId &&
            connection.workspaceId == operation.scope.workspaceId) = some connection := by
        rw [← Option.isSome_iff_exists, List.find?_isSome]
        exact ⟨c, hMem, by simp [hId, hOrganization, hWorkspace]⟩
      let reply := operation.reply connection.repositoryName state evidence now replyUuid
      have hFound : (expectRow (some connection)
          (.notFound "reply repository connection not found") : StoreTransaction _) s =
            .ok (connection, s) := expectRow_eq_ok.mpr ⟨rfl, rfl⟩
      have hValid : (require reply.valid .documentInvalid : StoreTransaction Unit) s =
          .ok ((), s) := require_of_true (hRouted.reply_valid hReply _ _ _) _ s
      obtain ⟨t, hInsert, hDraws⟩ := insertJob_commits reply wf
        ⟨fun j hj => hFresh _ (wf.ofJob_mem hj), ⟨c, hMem, hId⟩,
          fun j hj _ hKind => hUnanswered hReply j hj hKind⟩
      refine ⟨t, ?_, hDraws⟩
      rw [if_pos rfl, fetch_bind, hFind]
      exact (bind_of_ok hFound).trans ((bind_of_ok hValid).trans hInsert)

theorem enqueueReplyForOperation_commits (wf : s.WellFormed)
    (hMem : operation ∈ s.board.operations) (hValid : operation.valid = true)
    (hRouted : operation.Routed s.connections)
    (hFresh : ∀ row ∈ s.outboxJobs, row.id ≠ replyUuid)
    (hUnanswered : operation.replyable = true → ∀ j ∈ s.board.jobs, j.kind = .commandReply →
      j.idempotencyKey ≠ some operation.replyKey) (state : JobState) (evidence : JsonObject) :
    Commits replyUuid (enqueueReplyForOperation operation.id state evidence now replyUuid) s := by
  have hRead : readOperation (OperationRow.ofOperation operation) s = .ok (operation, s) :=
    readOperation_eq_ok.mpr ⟨hValid, rfl, rfl⟩
  obtain ⟨t, hReply, hDraws⟩ :=
    enqueueCommandReply_commits now wf hRouted hFresh hUnanswered state evidence
  refine ⟨t, ?_, hDraws⟩
  unfold enqueueReplyForOperation selectOperation
  rw [fetch_bind, select_of_mem wf hMem]
  exact (bind_of_ok hRead).trans hReply

/-- No reply carries the key of an operation whose outcome is still open. -/
theorem Board.Coherent.unanswered {b : Board} (h : b.Coherent) (hMem : operation ∈ b.operations)
    (hOpen : operation.state.settled = false) :
    ∀ j ∈ b.jobs, j.kind = .commandReply → j.idempotencyKey ≠ some operation.replyKey := by
  intro j hj hKind hKey
  obtain ⟨o, ho, hNames, _, hOwn⟩ := h.reply j hj hKind
  have hKeys : o.replyKey = operation.replyKey := Option.some.inj (hOwn.symm.trans hKey)
  have hId : o.id = operation.id := UUID.eq_of_append_eq hKeys
  rw [hId] at hNames
  rw [h.settled_of_reply hj hKind hMem hNames] at hOpen
  cases hOpen

/-- Settling an open operation and answering it runs to its end. -/
theorem settleOperation_commits (h : s.Durable) (hMem : operation ∈ s.board.operations)
    (hValid : operation.valid = true) (hOpen : operation.state.settled = false)
    (hFresh : ∀ row ∈ s.outboxJobs, row.id ≠ replyUuid) (operationState : OperationState)
    (state : JobState) (evidence : JsonObject) :
    Commits replyUuid (do
      updateOperationState operation.id operationState now (some evidence)
      enqueueReplyForOperation operation.id state evidence now replyUuid) s := by
  obtain ⟨t, hUpdate, hJobs⟩ := updateOperationState_ok now h.wellFormed hMem hValid
    operationState (some evidence)
  obtain ⟨wf, hBoard⟩ := updateOperationState_step h.wellFormed hUpdate
  refine Commits.bind hUpdate (.of_eq hJobs) ?_
  have same := Turn.settle_sameIntent operationState (some evidence) now operation
  have hSettled : Turn.settle operationState (some evidence) now operation ∈
      t.board.operations := by
    rw [hBoard]
    exact Table.mem_updateWhere_of_pos hMem (beq_self_eq_true _)
  have hConnections : t.connections = s.connections := congrArg Board.connections hBoard
  have hBoardJobs : t.board.jobs = s.board.jobs := by
    rw [hBoard]
    rfl
  rw [show operation.id = (Turn.settle operationState (some evidence) now operation).id from
    same.id_eq.symm]
  apply enqueueReplyForOperation_commits wf hSettled
  · exact hValid
  · rw [hConnections]
    exact same.routed (h.board.routed operation hMem)
  · rw [hJobs]
    exact hFresh
  · intro _
    rw [hBoardJobs, same.replyKey_eq]
    exact h.board.coherent.unanswered hMem hOpen

/-- A query goes back to the queue whatever its operation carries. -/
theorem requeueOperation_commits (h : s.Durable) (hMem : operation ∈ s.board.operations)
    (hValid : operation.valid = true) (evidence : JsonObject) :
    Commits replyUuid (do
      clearOperationAuthority operation.id
      updateOperationState operation.id .queued now (some evidence)) s := by
  obtain ⟨t, hClear, hJobs⟩ := clearOperationAuthority_ok h.wellFormed hMem hValid
  obtain ⟨wf, hBoard⟩ := clearOperationAuthority_step h.wellFormed hClear
  have hCleared : Turn.forget operation ∈ t.board.operations := by
    rw [hBoard]
    exact Table.mem_updateWhere_of_pos hMem (beq_self_eq_true _)
  obtain ⟨u, hUpdate, hJobs'⟩ := updateOperationState_ok now wf hCleared
    (h.board.intents operation hMem) .queued (some evidence)
  exact Commits.bind hClear (.of_eq hJobs) ⟨u, hUpdate, .of_eq hJobs'⟩

/-- The operation of a job in flight passes its model when the job does. -/
theorem Board.Durable.operation_valid {b : Board} (h : b.Durable) (hJob : job ∈ b.jobs)
    (hKind : job.kind = .issueAction) (hState : job.state = .sending)
    (hValid : job.valid = true) (hMem : operation ∈ b.operations)
    (hNames : job.operationId = some operation.id) :
    operation.valid = true ∧ operation.state.settled = false := by
  have hAgree := h.coherent.agree job hJob hKind operation hMem hNames
  have hOpen : job.state.settled = false := by rw [hState]; rfl
  obtain ⟨hInvocation, hKey⟩ := hAgree.authority hOpen
  obtain ⟨_, hJobInvocation, hJobKey⟩ := OutboxJob.valid_iff.mp hValid
  refine ⟨Operation.valid_iff.mpr ⟨h.intents operation hMem, ?_, ?_⟩, ?_⟩
  · rw [hInvocation]
    exact hJobInvocation
  · rw [hKey]
    exact hJobKey
  · rw [hAgree.settled_eq, hOpen]

/-- What recovery does to the operation of a lapsed send runs to its end
unless the send was a reply. -/
theorem recoverOperation_commits (now : Timestamp) (h : s.Durable) (hJob : job ∈ s.board.jobs)
    (hState : job.state = .sending) (hValid : job.valid = true) (hReply : job.kind ≠ .commandReply)
    (hFresh : ∀ row ∈ s.outboxJobs, row.id ≠ replyUuid) :
    Commits replyUuid (forOperation job.operationId fun operationId =>
      recoverOperation job.lapsedSend operationId now replyUuid) s := by
  cases hKind : job.kind with
  | commandReply => exact absurd hKind hReply
  | notify | challengeReply =>
      rw [h.board.coherent.delivery job hJob (by simp [hKind])]
      exact ⟨s, rfl, .of_eq rfl⟩
  | issueAction =>
      obtain ⟨operation, hMem, hNames⟩ := h.board.coherent.issue job hJob hKind
      obtain ⟨hOperation, hOpen⟩ :=
        h.board.operation_valid hJob hKind hState hValid hMem hNames
      rw [hNames]
      cases hLapsed : job.lapsedSend with
      | requeue => exact requeueOperation_commits h hMem hOperation _
      | unknown => exact settleOperation_commits h hMem hOperation hOpen hFresh _ _ _
      | exhausted => exact settleOperation_commits h hMem hOperation hOpen hFresh _ _ _

/-- A lapsed job the loop can release. -/
def OutboxJob.Releasable (job : OutboxJob) : Prop :=
  job.valid = true ∧ ¬ (job.state = .sending ∧ job.kind = .commandReply)

/-- One iteration runs to its end for a releasable job. -/
theorem recoverClaim_commits (now : Timestamp) (h : s.Durable) (hJob : row.document ∈ s.board.jobs)
    (hState : row.document.state = .claimed ∨ row.document.state = .sending)
    (hRelease : row.document.Releasable) (hFresh : ∀ r ∈ s.outboxJobs, r.id ≠ replyUuid) :
    Commits replyUuid (recoverClaim now replyUuid row) s := by
  obtain ⟨hValid, hReply⟩ := hRelease
  have hRead : readJob row s = .ok (row.document, s) := readJob_eq_ok.mpr ⟨hValid, rfl, rfl⟩
  suffices hRest : Commits replyUuid (do
      if row.document.state ≠ .claimed then
        forOperation row.document.operationId fun operationId =>
          recoverOperation row.document.lapsedSend operationId now replyUuid
      persistJob (row.document.recovered now)) s by
    obtain ⟨t, hBody, hDraws⟩ := hRest
    exact ⟨t, (bind_of_ok hRead).trans hBody, hDraws⟩
  rcases hState with hClaimed | hSending
  · rw [if_neg (not_not.mpr hClaimed)]
    exact persistJob_commits
  · have hNotClaimed : row.document.state ≠ .claimed := by simp [hSending]
    rw [if_pos hNotClaimed]
    obtain ⟨t, hBody, hDraws⟩ := recoverOperation_commits now h hJob hSending hValid
      (fun hKind => hReply ⟨hSending, hKind⟩) hFresh
    exact Commits.bind hBody hDraws persistJob_commits

/-- An iteration that runs to its end was for a releasable job. -/
theorem recoverClaim_releasable {u : Unit} (h : s.Durable) (hJob : row.document ∈ s.board.jobs)
    (hState : row.document.state = .claimed ∨ row.document.state = .sending)
    (hBody : recoverClaim now replyUuid row s = .ok (u, t)) : row.document.Releasable := by
  constructor
  · unfold recoverClaim at hBody
    obtain ⟨_, _, hRead, _⟩ := bind_eq_ok.mp hBody
    exact (readJob_eq_ok.mp hRead).1
  · rintro ⟨hSending, hKind⟩
    obtain ⟨replies, hAnswers, _⟩ := (recoverClaim_taken h.wellFormed hJob hState hBody).after
    have hTurn : row.document.recoveryTurn now =
        .lapse [("reasonCode", .str "send_outcome_unknown_after_lease_expiry")] now := by
      simp [OutboxJob.recoveryTurn, hSending, OutboxJob.lapsedSend, OutboxJob.isReadonlyQuery,
        hKind]
    rw [hTurn] at hAnswers
    exact h.board.coherent.no_lapsed_reply hJob hKind hAnswers

/-- The identifiers the loop draws are new and pairwise distinct. -/
def Store.Supplies (s : Store) (draw : Nat → UUID) (k n : Nat) : Prop :=
  (∀ i < n, ∀ j < n, draw (k + i) = draw (k + j) → i = j) ∧
    ∀ i < n, ∀ row ∈ s.outboxJobs, row.id ≠ draw (k + i)

instance (s : Store) (draw : Nat → UUID) (k n : Nat) : Decidable (s.Supplies draw k n) :=
  inferInstanceAs (Decidable ((∀ i < n, ∀ j < n, draw (k + i) = draw (k + j) → i = j) ∧
    ∀ i < n, ∀ row ∈ s.outboxJobs, row.id ≠ draw (k + i)))

theorem Store.Supplies.next {draw : Nat → UUID} {k n : Nat} (h : s.Supplies draw k (n + 1))
    (hDraws : Store.Draws (draw k) s t) : t.Supplies draw (k + 1) n := by
  have hShift : ∀ i, k + 1 + i = k + (i + 1) := fun i => by omega
  constructor
  · intro i hi j hj hEq
    rw [hShift, hShift] at hEq
    have hSucc := h.1 (i + 1) (by omega) (j + 1) (by omega) hEq
    omega
  · intro i hi
    rw [hShift]
    apply hDraws.fresh (h.2 (i + 1) (by omega))
    intro hEq
    have hSucc := h.1 0 (by omega) (i + 1) (by omega) hEq
    omega

/-- The loop runs to its end exactly when every selected job is releasable. -/
theorem recoverClaims_commits_iff {draw : Nat → UUID} {rows : List JobRow} {k : Nat}
    (h : s.Durable) (hRows : ∀ row ∈ rows, row.document ∈ s.board.jobs ∧
      (row.document.state = .claimed ∨ row.document.state = .sending))
    (hIds : (rows.map fun row => row.document.id).Nodup)
    (hSupplies : s.Supplies draw k rows.length) :
    (∃ n t, recoverClaims now draw rows k s = .ok (n, t)) ↔
      ∀ row ∈ rows, row.document.Releasable := by
  induction rows generalizing s k with
  | nil => exact ⟨fun _ => by simp, fun _ => ⟨k, s, rfl⟩⟩
  | cons row rest ih =>
      obtain ⟨hMem, hState⟩ := hRows row List.mem_cons_self
      obtain ⟨hNotMem, hRestIds⟩ := List.nodup_cons.mp hIds
      -- Whatever the first iteration did, the rest of the loop starts in a
      -- durable store that still holds the other selected jobs.
      have hRest : ∀ {u : Unit} {middle : Store}, recoverClaim now (draw k) row s =
          .ok (u, middle) → Store.Draws (draw k) s middle →
          ((∃ n t, recoverClaims now draw rest (k + 1) middle = .ok (n, t)) ↔
            ∀ r ∈ rest, r.document.Releasable) := by
        intro u middle hHead hDraws
        have hTaken := recoverClaim_taken h.wellFormed hMem hState hHead
        obtain ⟨replies, _, hBoard⟩ := hTaken.after
        have hMove : Board.Move Board.Discipline.routed s.board middle.board := hTaken.move
          (by simp [OutboxJob.recoveryTurn_recordsAuthority])
        apply ih (h.moves hTaken.wellFormed (Relation.ReflTransGen.single hMove)) ?_ hRestIds
          (hSupplies.next hDraws)
        intro r hr
        obtain ⟨hrMem, hrState⟩ := hRows r (List.mem_cons_of_mem row hr)
        refine ⟨?_, hrState⟩
        rw [hBoard]
        apply Board.take_other hrMem
        intro hEq
        exact hNotMem (List.mem_map.mpr ⟨r, hr, hEq⟩)
      have hFresh : ∀ r ∈ s.outboxJobs, r.id ≠ draw k := hSupplies.2 0 (Nat.succ_pos _)
      constructor
      · rintro ⟨n, t, hLoop⟩
        unfold recoverClaims at hLoop
        obtain ⟨_, middle, hHead, hTail⟩ := bind_eq_ok.mp hLoop
        have hRelease := recoverClaim_releasable h hMem hState hHead
        obtain ⟨middle', hHead', hDraws⟩ :=
          recoverClaim_commits now h hMem hState hRelease hFresh
        have hSame : middle' = middle := by
          rw [hHead'] at hHead
          cases hHead
          rfl
        rw [hSame] at hDraws
        intro r hr
        rcases List.mem_cons.mp hr with rfl | hr
        · exact hRelease
        · exact (hRest hHead hDraws).mp ⟨n, t, hTail⟩ r hr
      · intro hAll
        obtain ⟨middle, hHead, hDraws⟩ := recoverClaim_commits now h hMem hState
          (hAll row List.mem_cons_self) hFresh
        obtain ⟨n, t, hTail⟩ := (hRest hHead hDraws).mpr
          fun r hr => hAll r (List.mem_cons_of_mem row hr)
        exact ⟨n, t, (bind_of_ok hHead).trans hTail⟩

/-- A due job is still unspent, so its document passes its model. -/
theorem Store.Durable.due_valid (h : s.Durable) (hRow : row ∈ s.outboxJobs)
    (hDue : row.due now = true) : row.document.valid = true := by
  apply (h.board.bounded row.document (Store.WellFormed.mem_jobs hRow)).valid
  rw [← h.wellFormed.row_state hRow]
  simp only [JobRow.due, Bool.and_eq_true, Bool.or_eq_true, beq_iff_eq] at hDue
  rcases hDue.1 with hState | hState <;> rw [hState] <;> rfl

theorem claimReadyJob_commits (now : Timestamp) (h : s.Durable) (workerId : String)
    (leaseSeconds : Int) :
    ∃ claim t, claimReadyJob workerId now leaseSeconds s = .ok (claim, t) := by
  unfold claimReadyJob
  rw [fetch_bind]
  cases hFirst : Table.firstBy JobRow.claimedBefore (s.outboxJobs.filter (JobRow.due now)) with
  | none => exact ⟨none, s, rfl⟩
  | some row =>
      obtain ⟨hMem, hDue⟩ := List.mem_filter.mp (Table.mem_of_firstBy hFirst)
      have hRead : readJob row s = .ok (row.document, s) :=
        readJob_eq_ok.mpr ⟨h.due_valid hMem hDue, rfl, rfl⟩
      simp only []
      rw [bind_of_ok hRead, fetch_bind, store_bind]
      split
      · exact ⟨_, _, rfl⟩
      · exact ⟨_, _, rfl⟩

/-- While jobs are due, the next claim takes one of them. -/
theorem claimReadyJob_takes_due (h : s.Durable) (workerId : String) (leaseSeconds : Int)
    (hDue : ∃ row ∈ s.outboxJobs, row.due now = true) :
    ∃ claim t, claimReadyJob workerId now leaseSeconds s = .ok (some claim, t) ∧
      t.outboxJobs.countP (JobRow.due now) + 1 = s.outboxJobs.countP (JobRow.due now) := by
  obtain ⟨claim, t, hClaim⟩ := claimReadyJob_commits now h workerId leaseSeconds
  rcases claimReadyJob_taken h.wellFormed hClaim with ⟨_, _, hNone⟩ | ⟨job, rfl, hTaken, hJobDue⟩
  · obtain ⟨row, hRow, hRowDue⟩ := hDue
    rw [hNone row hRow] at hRowDue
    cases hRowDue
  · refine ⟨_, t, hClaim, ?_⟩
    obtain ⟨replies, hAnswers, hBoard⟩ := hTaken.after
    have hReplies : replies = [] := hAnswers
    rw [hTaken.wellFormed.countP_jobs, h.wellFormed.countP_jobs, hBoard, hReplies]
    have hJobs : (s.board.take (.claim workerId now leaseSeconds) job []).jobs =
        (s.board.setJob (job.claimedBy workerId now leaseSeconds)).jobs := List.append_nil _
    rw [hJobs]
    exact h.wellFormed.keyed.jobs.countP_updateWhere hTaken.before (fun _ _ => rfl) hJobDue rfl

end Progress

/-- No reply is lost in flight, and every lapsed document passes its model. -/
def Store.Recoverable (s : Store) (now : Timestamp) : Prop :=
  ∀ row ∈ s.outboxJobs, row.lapsed now = true →
    row.document.valid = true ∧ ¬ (row.state = .sending ∧ row.kind = .commandReply)

instance (s : Store) (now : Timestamp) : Decidable (s.Recoverable now) :=
  inferInstanceAs (Decidable (∀ row ∈ s.outboxJobs, row.lapsed now = true →
    row.document.valid = true ∧ ¬ (row.state = .sending ∧ row.kind = .commandReply)))

/-- Recovery commits, every lapsed job leaves for its disposition, and every
worker's claim takes a due job as long as there is one. -/
def Store.Recovers (s : Store) (now : Timestamp) (draw : Nat → UUID) : Prop :=
  ∃ n t, commit (recoverExpiredClaims now draw) s = (.ok n, t) ∧
    (∀ row ∈ s.outboxJobs, row.lapsed now = true →
      JobRow.ofJob (row.document.recovered now) ∈ t.outboxJobs) ∧
    ∀ workerId leaseSeconds, workerId ≠ "" → workerId.length ≤ 200 → 1 ≤ leaseSeconds →
      leaseSeconds ≤ 300 → (∃ row ∈ t.outboxJobs, row.due now = true) →
      ∃ claim u, claimJob workerId now leaseSeconds draw s = (.ok (some claim), u) ∧
        u.outboxJobs.countP (JobRow.due now) + 1 = t.outboxJobs.countP (JobRow.due now)

section Recovery

variable {s : Store} {now : Timestamp} {draw : Nat → UUID}

theorem Store.Durable.recoverable_iff (h : s.Durable) : s.Recoverable now ↔
    ∀ row ∈ s.outboxJobs.filter (JobRow.lapsed now), row.document.Releasable := by
  unfold Store.Recoverable
  constructor
  · intro hAll row hRow
    obtain ⟨hMem, hLapsed⟩ := List.mem_filter.mp hRow
    have hRelease := hAll row hMem hLapsed
    rw [h.wellFormed.jobRows row hMem] at hRelease
    exact hRelease
  · intro hAll row hMem hLapsed
    have hRelease := hAll row (List.mem_filter.mpr ⟨hMem, hLapsed⟩)
    rw [h.wellFormed.jobRows row hMem]
    exact hRelease

/-- In a durable store, recovery commits for exactly the recoverable ones. -/
theorem Store.Durable.recoverExpiredClaims_iff (h : s.Durable)
    (hDraw : s.Supplies draw 0 (s.outboxJobs.countP (JobRow.lapsed now))) :
    (∃ n t, recoverExpiredClaims now draw s = .ok (n, t)) ↔ s.Recoverable now := by
  rw [h.recoverable_iff]
  unfold recoverExpiredClaims
  simp only [fetch_bind]
  refine recoverClaims_commits_iff h ?_ (lapsed_ids h.wellFormed) ?_
  · intro row hRow
    obtain ⟨hMem, hLapsed⟩ := List.mem_filter.mp hRow
    exact ⟨Store.WellFormed.mem_jobs hMem, lapsed_state h.wellFormed hMem hLapsed⟩
  · rw [← List.countP_eq_length_filter]
    exact hDraw

theorem Store.Durable.recovers_iff (h : s.Durable)
    (hDraw : s.Supplies draw 0 (s.outboxJobs.countP (JobRow.lapsed now))) :
    s.Recovers now draw ↔ s.Recoverable now := by
  rw [← h.recoverExpiredClaims_iff hDraw]
  constructor
  · rintro ⟨n, t, hCommit, _⟩
    have hOk := congrArg Prod.fst hCommit
    have hBody := commit_eq_ok hOk
    exact ⟨n, _, hBody⟩
  · rintro ⟨n, t, hBody⟩
    have hCommit : commit (recoverExpiredClaims now draw) s = (.ok n, t) := by
      unfold commit
      rw [hBody]
    obtain ⟨wf, hMoves, hRecovered⟩ :=
      recoverExpiredClaims_moves Board.Discipline.routed h.wellFormed hBody
    refine ⟨n, t, hCommit, fun row hMem hLapsed => wf.ofJob_mem (hRecovered row hMem hLapsed), ?_⟩
    intro workerId leaseSeconds hNamed hWorker hShort hLong hDue
    obtain ⟨claim, u, hClaim, hCount⟩ :=
      claimReadyJob_takes_due (h.moves wf hMoves) workerId leaseSeconds hDue
    refine ⟨claim, u, ?_, hCount⟩
    have hValid : ¬ (workerId = "" ∨ 200 < workerId.length ∨ leaseSeconds < 1 ∨
        300 < leaseSeconds) := by
      rintro (hEmpty | hOutside)
      · exact hNamed hEmpty
      · omega
    unfold claimJob
    rw [if_neg hValid, hCommit]
    simp only [commit, hClaim]

end Recovery

/-- In every reachable store and at every clock reading, recovery commits, all
lapsed jobs leave for their disposition and the due jobs can be claimed, if
and only if no reply is lost in flight and every lapsed document is valid. -/
theorem recovery_commits_iff (sha256 : String → String) (calls : List Call) (now : Timestamp)
    (draw : Nat → UUID) (hPromised : Admitted (perform sha256) Promised calls Store.initial)
    (hDraw : (run (perform sha256) calls Store.initial).Supplies draw 0
      ((run (perform sha256) calls Store.initial).outboxJobs.countP (JobRow.lapsed now))) :
    (run (perform sha256) calls Store.initial).Recovers now draw ↔
      (run (perform sha256) calls Store.initial).Recoverable now :=
  ((perform_preserves_durable sha256).run Store.initial_durable hPromised).recovers_iff hDraw

theorem recovery_commits_iff_sample :
    (run (perform fun _ => "digest") (sampleSetup ++ [.claimReadyJob "worker" 0 60])
      Store.initial).Recovers (seconds 60) fun _ => sampleId '2' :=
  (recovery_commits_iff (fun _ => "digest") (sampleSetup ++ [.claimReadyJob "worker" 0 60])
    (seconds 60) (fun _ => sampleId '2') (by decide) (by decide)).mpr (by decide)

/-- The worker that delivers a finished command's reply crashes in flight, and
another action waits. -/
def sampleLostReply : List Call := sampleDispatch ++ [
  .claimReadyJob "worker" 0 60,
  .markSending (sampleId '2') 1 0,
  .persistIssueAction { sampleIntent with
    request := { sampleIntent.request with idempotencyKey := "close-8", issueNumber := 8 }
    sourceKind := .rest
    sourceEventRef := none
    reply := {}
    operationUuid := sampleId '3'
    jobUuid := sampleId '4' }]

/-- The error of a body that raises. -/
def raised {α : Type} (body : StoreTransaction α) (s : Store) : Option StoreError :=
  match body s with
  | .error e => some e
  | .ok _ => none

/-- The lost reply's lease lapses: recovery raises, and the waiting action
cannot be claimed. -/
theorem lost_reply_wedges_recovery :
    Admitted (perform fun _ => "digest") Promised sampleLostReply Store.initial ∧
    (∃ row ∈ (run (perform fun _ => "digest") sampleLostReply Store.initial).outboxJobs,
      row.state = .ready ∧ row.due (seconds 60) = true) ∧
    raised (recoverExpiredClaims (seconds 60) fun _ => sampleId '5')
      (run (perform fun _ => "digest") sampleLostReply Store.initial) = some .integrityError ∧
    ¬ (run (perform fun _ => "digest") sampleLostReply Store.initial).Recovers (seconds 60)
      fun _ => sampleId '5' := by
  have hRaised : raised (recoverExpiredClaims (seconds 60) fun _ => sampleId '5')
      (run (perform fun _ => "digest") sampleLostReply Store.initial) =
        some .integrityError := by decide
  refine ⟨by decide, by decide, hRaised, ?_⟩
  rintro ⟨n, t, hCommit, _⟩
  have hBody := commit_eq_ok (congrArg Prod.fst hCommit)
  simp only [raised, hBody, reduceCtorEq] at hRaised

end CyreneExchange.Integrations
