import CyreneExchange.Integrations.Outbox.Statements
import CyreneExchange.Integrations.Outbox.System

/-! Every committed call is a sequence of moves of the board. Each method has
one theorem saying which turn it takes for which job; everything that holds of
runs is derived from these. -/
namespace CyreneExchange.Integrations

open Transaction

/-- The transaction from `s` to `t` took `turn` for `job`. -/
structure Taken (s t : Store) (turn : Turn) (job : OutboxJob) : Prop where
  before : job ∈ s.board.jobs
  allowed : turn.Allowed job (s.board.find job.operationId)
  after : ∃ replies, s.board.Answers turn job replies ∧ t.board = s.board.take turn job replies
  wellFormed : t.WellFormed

section Boards

variable {b : Board} {job job' reply : OutboxJob} {turn : Turn} {f g : Operation → Operation}
  {operationId : UUID}

theorem Turn.job_sameIntent (turn : Turn) (job : OutboxJob) : job.SameIntent (turn.job job) := by
  cases turn <;> rfl

theorem Turn.operation_sameIntent (turn : Turn) (job : OutboxJob) (operation : Operation) :
    operation.SameIntent (turn.operation job operation) := by
  cases turn with
  | send | deny | poll =>
      simp only [Turn.operation]
      split <;> rfl
  | finish status evidence now =>
      simp only [Turn.operation]
      split
      · cases finishOperationState status <;> rfl
      · rfl
  | _ => rfl

theorem Operation.SameIntent.replyable_eq {operation operation' : Operation}
    (h : operation.SameIntent operation') : operation'.replyable = operation.replyable := by
  rw [h]
  rfl

theorem Board.amend_none (b : Board) (f : Operation → Operation) : b.amend none f = b := by
  unfold Board.amend
  rw [Table.updateWhere_of_none]
  simp

theorem Board.find_none (b : Board) : b.find none = none := by
  simp [Board.find]

/-- Amending by functions that agree on the operation found. -/
theorem Board.amend_congr {operationId : Option UUID}
    (h : ∀ o ∈ b.operations, operationId = some o.id → f o = g o) :
    b.amend operationId f = b.amend operationId g := by
  unfold Board.amend
  rw [Table.updateWhere_congr (fun _ _ => rfl)]
  intro o ho hp
  exact h o ho (by simpa using hp)

/-- Amending by a function that does nothing to the operation found. -/
theorem Board.amend_self {operationId : Option UUID}
    (h : ∀ o ∈ b.operations, operationId = some o.id → f o = o) : b.amend operationId f = b := by
  rw [show b.amend operationId f = b.amend operationId (fun o => o) from Board.amend_congr h]
  simp [Board.amend, Table.updateWhere]

theorem Board.amend_amend (hf : ∀ o : Operation, (f o).id = o.id) {operationId : Option UUID} :
    (b.amend operationId f).amend operationId g = b.amend operationId (fun o => g (f o)) := by
  unfold Board.amend
  simp only
  rw [Table.updateWhere_updateWhere]
  intro o _ hp
  rwa [hf]

theorem Board.find_amend (hf : ∀ o : Operation, (f o).id = o.id) {operationId : Option UUID} :
    (b.amend operationId f).find operationId = (b.find operationId).map f := by
  unfold Board.find Board.amend
  rw [Table.find_updateWhere]
  · cases hFind : b.operations.find? (fun o => operationId == some o.id) with
    | none => rfl
    | some o => simp only [Option.map_some, List.find?_some hFind, if_true]
  · intro o _ _
    rw [hf]

/-- Replacing a job's document does not make another job fresh. -/
theorem Board.Fresh.of_setJob (hJob : job ∈ b.jobs)
    (hUnique : ∀ j ∈ b.jobs, j.id = job.id → j = job) (same : job.SameIntent job')
    (h : (b.setJob job').Fresh reply) : b.Fresh reply := by
  have hImage : ∀ j ∈ b.jobs, ∃ j' ∈ (b.setJob job').jobs,
      j'.id = j.id ∧ j'.kind = j.kind ∧ j'.idempotencyKey = j.idempotencyKey := by
    intro j hj
    by_cases hId : j.id = job.id
    · rw [hUnique j hj hId]
      exact ⟨job', Table.mem_updateWhere_of_pos (f := fun _ => job') hJob
        (by simp [same.id_eq]), same.id_eq, same.kind_eq, same.key_eq⟩
    · exact ⟨j, Table.mem_updateWhere_of_neg hj (by simpa [same.id_eq] using hId), rfl, rfl, rfl⟩
  refine ⟨?_, h.connection, ?_⟩
  · intro j hj
    obtain ⟨j', hj', hId, _⟩ := hImage j hj
    rw [← hId]
    exact h.identifier j' hj'
  · intro j hj hSome hKind
    obtain ⟨j', hj', _, hKind', hKey'⟩ := hImage j hj
    rw [← hKey']
    exact h.key j' hj' hSome (hKind'.trans hKind)

theorem Board.Announced.mono {c : Board} {operation : Option Operation} {state : JobState}
    {evidence : JsonObject} {now : Timestamp} {replies : List OutboxJob}
    (hFresh : ∀ reply, c.Fresh reply → b.Fresh reply)
    (h : c.Announced operation state evidence now replies) :
    b.Announced operation state evidence now replies := by
  unfold Board.Announced at h ⊢
  cases operation with
  | none => exact h
  | some o =>
      cases hReply : o.replyable with
      | false => simpa [hReply] using h
      | true =>
          simp only [hReply, if_true] at h ⊢
          obtain ⟨repositoryName, replyUuid, hEq, hAll⟩ := h
          exact ⟨repositoryName, replyUuid, hEq,
            fun reply hMem => ⟨hFresh reply (hAll reply hMem).1, (hAll reply hMem).2⟩⟩

theorem Board.add_setJob {replies : List OutboxJob} (h : ∀ r ∈ replies, r.id ≠ job'.id) :
    (b.add replies).setJob job' = (b.setJob job').add replies := by
  have hReplies : Table.updateWhere (fun j => j.id == job'.id) (fun _ => job') replies =
      replies := by
    apply Table.updateWhere_of_none
    intro r hr
    exact beq_eq_false_iff_ne.mpr (h r hr)
  unfold Board.add Board.setJob
  simp only [Table.updateWhere_append, hReplies]

theorem Board.take_self {replies : List OutboxJob} (hJob : job ∈ b.jobs) :
    turn.job job ∈ (b.take turn job replies).jobs := by
  apply List.mem_append_left
  exact Table.mem_updateWhere_of_pos (f := fun _ => turn.job job) hJob
    (by simp [(turn.job_sameIntent job).id_eq])

theorem Board.take_other {replies : List OutboxJob} {j : OutboxJob} (hJob : j ∈ b.jobs)
    (hOther : j.id ≠ job.id) : j ∈ (b.take turn job replies).jobs := by
  apply List.mem_append_left
  apply Table.mem_updateWhere_of_neg hJob
  rw [(turn.job_sameIntent job).id_eq]
  exact beq_eq_false_iff_ne.mpr hOther

/-- An announcing reply answers an answerable operation. -/
theorem Board.Announced.of_mem {operation : Option Operation} {state : JobState}
    {evidence : JsonObject} {now : Timestamp} {replies : List OutboxJob}
    (h : b.Announced operation state evidence now replies) (hMem : reply ∈ replies) :
    ∃ o name replyUuid, operation = some o ∧ o.replyable = true ∧
      reply = o.reply name state evidence now replyUuid ∧ b.Fresh reply ∧ reply.valid = true := by
  unfold Board.Announced at h
  cases operation with
  | none =>
      rw [h] at hMem
      cases hMem
  | some o =>
      cases hReply : o.replyable with
      | false =>
          simp only [hReply, Bool.false_eq_true, if_false] at h
          rw [h] at hMem
          cases hMem
      | true =>
          simp only [hReply, if_true] at h
          obtain ⟨name, replyUuid, hEq, hAll⟩ := h
          rw [hEq] at hMem
          have hAnswer := List.mem_singleton.mp hMem
          exact ⟨o, name, replyUuid, rfl, hReply, hAnswer, hAll reply (hEq ▸ hMem)⟩

theorem Board.Announced.fresh {operation : Option Operation} {state : JobState}
    {evidence : JsonObject} {now : Timestamp} {replies : List OutboxJob}
    (h : b.Announced operation state evidence now replies) : ∀ r ∈ replies, b.Fresh r := by
  intro r hr
  obtain ⟨_, _, _, _, _, _, hFresh, _⟩ := h.of_mem hr
  exact hFresh

/-- Every reply of a turn answers the operation the turn leaves behind. -/
theorem Board.Answers.of_mem {replies : List OutboxJob} (h : b.Answers turn job replies)
    (hMem : reply ∈ replies) :
    ∃ o name state evidence now replyUuid, turn.notice job = some (state, evidence, now) ∧
      b.find job.operationId = some o ∧ o.replyable = true ∧
      reply = (turn.operation job o).reply name state evidence now replyUuid ∧
      b.Fresh reply ∧ reply.valid = true := by
  unfold Board.Answers at h
  cases hNotice : turn.notice job with
  | none =>
      simp only [hNotice] at h
      rw [h] at hMem
      cases hMem
  | some notice =>
      obtain ⟨state, evidence, now⟩ := notice
      simp only [hNotice] at h
      obtain ⟨o, name, replyUuid, hFind, hReply, hEq, hFresh, hValid⟩ := h.of_mem hMem
      obtain ⟨operation, hOperation, rfl⟩ := Option.map_eq_some_iff.mp hFind
      refine ⟨operation, name, state, evidence, now, replyUuid, rfl, hOperation, ?_, hEq, hFresh,
        hValid⟩
      rwa [(turn.operation_sameIntent job operation).replyable_eq] at hReply

end Boards

section Selection

variable {s t : Store} {jobId : UUID} {claimFence : Nat} {row : JobRow} {u : Unit}

theorem selectClaimed_eq_ok {found : Option JobRow} :
    selectClaimed jobId claimFence s = .ok (found, t) ↔
      s.outboxJobs.find? (fun row =>
        row.id == jobId && row.state == .claimed && row.claimFence == claimFence) = found ∧
        s = t := by
  simp [selectClaimed]

theorem selectSending_eq_ok {found : Option JobRow} :
    selectSending jobId claimFence s = .ok (found, t) ↔
      s.outboxJobs.find? (fun row =>
        row.id == jobId && row.state == .sending && row.claimFence == claimFence) = found ∧
        s = t := by
  simp [selectSending]

/-- The job document a fenced statement selects. -/
structure Selected (s : Store) (jobId : UUID) (state : JobState) (claimFence : Nat)
    (job : OutboxJob) : Prop where
  mem : job ∈ s.board.jobs
  id_eq : job.id = jobId
  state_eq : job.state = state
  fence_eq : job.claimFence = claimFence

theorem selected_of_find (wf : s.WellFormed) {state : JobState} {p : JobRow → Bool}
    (hp : ∀ row, p row = true → row.id = jobId ∧ row.state = state ∧ row.claimFence = claimFence)
    (h : s.outboxJobs.find? p = some row) : Selected s jobId state claimFence row.document := by
  obtain ⟨hMem, hRow⟩ := find_some_eq h
  obtain ⟨hId, hState, hFence⟩ := hp row hRow
  exact ⟨Store.WellFormed.mem_jobs hMem, (wf.row_id hMem).symm.trans hId,
    (wf.row_state hMem).symm.trans hState, (wf.row_fence hMem).symm.trans hFence⟩

theorem forOperation_eq_ok {operationId : Option UUID} {body : UUID → StoreTransaction Unit} :
    forOperation operationId body s = .ok (u, t) ↔
      (operationId = none ∧ s = t) ∨ ∃ id, operationId = some id ∧ body id s = .ok (u, t) := by
  cases operationId <;> simp [forOperation]

theorem Store.WellFormed.eq_of_id (wf : s.WellFormed) {job : OutboxJob}
    (hJob : job ∈ s.board.jobs) : ∀ j ∈ s.board.jobs, j.id = job.id → j = job :=
  fun _ hj h => wf.job_eq hj hJob h

/-- A turn without a notice enqueues no reply. -/
theorem Taken.silent (turn : Turn) {job : OutboxJob} (hBefore : job ∈ s.board.jobs)
    (hAllowed : turn.Allowed job (s.board.find job.operationId))
    (hNotice : turn.notice job = none) (wf : t.WellFormed)
    (hAfter : t.board =
      (s.board.setJob (turn.job job)).amend job.operationId (turn.operation job)) :
    Taken s t turn job := by
  refine ⟨hBefore, hAllowed, ⟨[], ?_, ?_⟩, wf⟩
  · simp only [Board.Answers, hNotice]
  · rw [hAfter, Board.take, Board.add_nil]

/-- A job that names no operation takes its turn alone. -/
theorem Taken.unlinked (turn : Turn) {job : OutboxJob} (hBefore : job ∈ s.board.jobs)
    (hAllowed : turn.Allowed job (s.board.find job.operationId)) (hNone : job.operationId = none)
    (wf : t.WellFormed) (hAfter : t.board = s.board.setJob (turn.job job)) :
    Taken s t turn job := by
  refine ⟨hBefore, hAllowed, ⟨[], ?_, ?_⟩, wf⟩
  · rw [Board.Answers, hNone, Board.find_none]
    cases turn.notice job <;> rfl
  · rw [hAfter, Board.take, hNone, Board.amend_none, Board.add_nil]

/-- A turn that announces what was enqueued after the other writes. -/
theorem Taken.announcing (turn : Turn) {job : OutboxJob} (wfBefore : s.WellFormed)
    (hBefore : job ∈ s.board.jobs) (hAllowed : turn.Allowed job (s.board.find job.operationId))
    {state : JobState} {evidence : JsonObject} {now : Timestamp} {replies : List OutboxJob}
    (hNotice : turn.notice job = some (state, evidence, now)) (wf : t.WellFormed)
    (hAnnounced : ((s.board.setJob (turn.job job)).amend job.operationId
        (turn.operation job)).Announced
      ((s.board.find job.operationId).map (turn.operation job)) state evidence now replies)
    (hAfter : t.board = s.board.take turn job replies) : Taken s t turn job := by
  refine ⟨hBefore, hAllowed, ⟨replies, ?_, hAfter⟩, wf⟩
  simp only [Board.Answers, hNotice]
  apply hAnnounced.mono
  intro reply hFresh
  exact Board.Fresh.of_setJob hBefore (wfBefore.eq_of_id hBefore) (turn.job_sameIntent job)
    ⟨hFresh.identifier, hFresh.connection, hFresh.key⟩

theorem Taken.of_board_eq {v : Store} {turn : Turn} {job : OutboxJob} (h : Taken s t turn job)
    (wf : v.WellFormed) (hBoard : v.board = t.board) : Taken s v turn job := by
  refine ⟨h.before, h.allowed, ?_, wf⟩
  rw [hBoard]
  exact h.after

theorem Taken.quiet {v : Store} {turn : Turn} {job : OutboxJob} (h : Taken s t turn job)
    (hQuiet : t.SameDocuments v) : Taken s v turn job :=
  h.of_board_eq (hQuiet.wellFormed h.wellFormed) hQuiet.board

/-- A turn that settles its operation and enqueues the answer to it. -/
theorem Taken.settling (turn : Turn) {job : OutboxJob} (wf : s.WellFormed)
    (hBefore : job ∈ s.board.jobs) (hAllowed : turn.Allowed job (s.board.find job.operationId))
    {operationId : UUID} {operationState : OperationState} {state : JobState}
    {evidence : JsonObject} {now : Timestamp} {replyUuid : UUID} {written settled : Store}
    {u v : Unit} (hSome : job.operationId = some operationId)
    (hOperation : ∀ o, turn.operation job o = Turn.settle operationState (some evidence) now o)
    (hNotice : turn.notice job = some (state, evidence, now)) (wfWritten : written.WellFormed)
    (hWritten : written.board = s.board.setJob (turn.job job))
    (hUpdate : updateOperationState operationId operationState now (some evidence) written =
      .ok (u, settled))
    (hReply : enqueueReplyForOperation operationId state evidence now replyUuid settled =
      .ok (v, t)) : Taken s t turn job := by
  obtain ⟨wfSettled, hSettled⟩ := updateOperationState_step wfWritten hUpdate
  obtain ⟨wfAfter, replies, hAfter, hAnnounced⟩ := enqueueReplyForOperation_step wfSettled hReply
  have hAmended : settled.board =
      (s.board.setJob (turn.job job)).amend job.operationId (turn.operation job) := by
    rw [hSettled, hWritten, hSome]
    exact Board.amend_congr fun o _ _ => (hOperation o).symm
  have hFind : settled.board.find (some operationId) =
      (s.board.find job.operationId).map (turn.operation job) := by
    rw [hAmended, ← hSome, Board.find_amend fun o => (turn.operation_sameIntent job o).id_eq]
    rfl
  apply Taken.announcing turn wf hBefore hAllowed hNotice wfAfter
  · rw [← hAmended, ← hFind]
    exact hAnnounced
  · rw [hAfter, hAmended]
    rfl

end Selection

/-- A turn taken under the rules is a move. -/
theorem Taken.move {rules : Board.Discipline} {s t : Store} {turn : Turn} {job : OutboxJob}
    (h : Taken s t turn job) (hAuthority : turn.recordsAuthority = true → rules.authority job) :
    Board.Move rules s.board t.board := by
  obtain ⟨replies, hAnswers, hBoard⟩ := h.after
  rw [hBoard]
  exact Board.Move.take turn job replies h.before h.allowed hAuthority hAnswers

section Methods

variable {s t : Store} {jobId : UUID} {claimFence : Nat} {now : Timestamp} {answer : OutboxJob}

theorem markSending_taken (wf : s.WellFormed)
    (h : markSending jobId claimFence now s = .ok (answer, t)) :
    ∃ job, Selected s jobId .claimed claimFence job ∧ Taken s t (.send now) job := by
  unfold markSending at h
  rw [fetch_bind] at h
  simp only [bind_eq_ok, expectRow_eq_ok, readJob_eq_ok, store_apply, Except.ok.injEq,
    Prod.mk.injEq, pure_apply] at h
  obtain ⟨row, _, ⟨hFind, rfl⟩, _, _, ⟨_, rfl, rfl⟩, _, sent, ⟨_, hSent⟩, _, _, hFor, _, rfl⟩ := h
  have hSelected : Selected s jobId .claimed claimFence row.document := by
    refine selected_of_find wf ?_ hFind
    intro r hr
    simp only [Bool.and_eq_true, beq_iff_eq] at hr
    exact ⟨hr.1.1.1, hr.1.1.2, hr.1.2⟩
  refine ⟨row.document, hSelected, ?_⟩
  have hWhere : ∀ r ∈ s.outboxJobs, (r.id == jobId && r.state == .claimed &&
      r.claimFence == claimFence) = (r.id == row.document.id) := by
    intro r hr
    by_cases hId : r.id = row.document.id
    · rw [wf.jobIds.eq hr (wf.ofJob_mem hSelected.mem) hId]
      simp [JobRow.ofJob, hSelected.id_eq, hSelected.state_eq, hSelected.fence_eq]
    · have hNe : r.id ≠ jobId := hSelected.id_eq ▸ hId
      rw [beq_eq_false_iff_ne.mpr hNe, beq_eq_false_iff_ne.mpr hId]
      rfl
  obtain ⟨wfSent, hSentBoard⟩ := putJob_step wf hSelected.mem
    (Turn.job_sameIntent (.send now) _) hWhere rfl hSent.symm
  by_cases hKind : row.document.kind = .issueAction
  · rw [if_pos hKind] at hFor
    rcases forOperation_eq_ok.mp hFor with ⟨hNone, rfl⟩ | ⟨operationId, hSome, hUpdate⟩
    · exact Taken.unlinked (.send now) hSelected.mem hSelected.state_eq hNone wfSent hSentBoard
    · obtain ⟨wfAfter, hAfter⟩ := updateOperationState_step wfSent hUpdate
      apply Taken.silent (.send now) hSelected.mem hSelected.state_eq rfl wfAfter
      rw [hAfter, hSentBoard, hSome]
      apply Board.amend_congr
      intro o _ _
      simp only [Turn.operation, hKind, if_true]
  · rw [if_neg hKind] at hFor
    obtain ⟨_, rfl⟩ := (forOperation_eq_ok.mp hFor).resolve_right (by simp)
    apply Taken.silent (.send now) hSelected.mem hSelected.state_eq rfl wfSent
    rw [hSentBoard, Board.amend_self]
    intro o _ _
    simp only [Turn.operation, hKind, if_false]

theorem selected_claimed (wf : s.WellFormed) {row : JobRow}
    (h : s.outboxJobs.find? (fun row =>
      row.id == jobId && row.state == .claimed && row.claimFence == claimFence) = some row) :
    Selected s jobId .claimed claimFence row.document := by
  refine selected_of_find wf ?_ h
  intro r hr
  simp only [Bool.and_eq_true, beq_iff_eq] at hr
  exact ⟨hr.1.1, hr.1.2, hr.2⟩

theorem selected_sending (wf : s.WellFormed) {row : JobRow}
    (h : s.outboxJobs.find? (fun row =>
      row.id == jobId && row.state == .sending && row.claimFence == claimFence) = some row) :
    Selected s jobId .sending claimFence row.document := by
  refine selected_of_find wf ?_ h
  intro r hr
  simp only [Bool.and_eq_true, beq_iff_eq] at hr
  exact ⟨hr.1.1, hr.1.2, hr.2⟩

theorem markAwaitingAuthority_taken (wf : s.WellFormed) {invocationId : String}
    {authorityState : AuthorityInvocationState}
    (h : markAwaitingAuthority jobId claimFence invocationId authorityState now s =
      .ok (answer, t)) :
    ∃ job, Selected s jobId .claimed claimFence job ∧
      Taken s t (.await invocationId authorityState now) job := by
  unfold markAwaitingAuthority at h
  simp only [bind_eq_ok, require_eq_ok, selectClaimed_eq_ok, expectRow_eq_ok,
    readJob_eq_ok, pure_apply, Except.ok.injEq, Prod.mk.injEq] at h
  obtain ⟨_, _, ⟨hInvocation, rfl⟩, _, _, ⟨rfl, rfl⟩, row, _, ⟨hFind, rfl⟩, _, _,
    ⟨_, rfl, rfl⟩, _, _, ⟨hConflict, rfl⟩, _, parked, hPersist, _, _, hFor, _, rfl⟩ := h
  have hSelected := selected_claimed wf hFind
  refine ⟨row.document, hSelected, ?_⟩
  obtain ⟨wfParked, hParked⟩ := persistJob_step wf hSelected.mem
    (Turn.job_sameIntent (.await invocationId authorityState now) _) hPersist
  simp only [Bool.and_eq_true, bne_iff_ne, ne_eq, decide_eq_true_eq] at hInvocation
  have hAllowed : ∀ o, (row.document.operationId.isSome → o.isSome) →
      (Turn.await invocationId authorityState now).Allowed row.document o := by
    intro o ho
    exact ⟨hSelected.state_eq, hInvocation.1, hInvocation.2, by simpa using hConflict, ho⟩
  rcases forOperation_eq_ok.mp hFor with ⟨hNone, rfl⟩ | ⟨operationId, hSome, hBody⟩
  · exact Taken.unlinked _ hSelected.mem (hAllowed _ (by simp [hNone])) hNone wfParked hParked
  · simp only [selectOperation, bind_eq_ok, fetch_apply, Except.ok.injEq, Prod.mk.injEq,
      expectRow_eq_ok, readOperation_eq_ok] at hBody
    obtain ⟨_, _, ⟨rfl, rfl⟩, operationRow, _, ⟨hSelect, rfl⟩, _, _, ⟨_, rfl, rfl⟩, hWrite⟩ :=
      hBody
    obtain ⟨hMem, hId, hBoardFind⟩ := find_of_select wfParked hSelect
    obtain ⟨wfAfter, hAfter⟩ := persistOperation_step
      (f := (Turn.await invocationId authorityState now).operation row.document)
      wfParked (Turn.operation_sameIntent _ _) hMem hId hWrite
    have hFound : s.board.find row.document.operationId = some operationRow.document := by
      rw [hSome, ← hBoardFind, hParked]
      rfl
    apply Taken.silent _ hSelected.mem (hAllowed _ (by simp [hFound])) rfl wfAfter
    rw [hAfter, hParked, hSome]

theorem prepareAuthorityEnqueue_taken (wf : s.WellFormed) {candidate : String}
    {prepared : Operation × OutboxJob × String}
    (h : prepareAuthorityEnqueue jobId claimFence candidate now s = .ok (prepared, t)) :
    ∃ job key, Selected s jobId .claimed claimFence job ∧ Taken s t (.prepare key now) job := by
  unfold prepareAuthorityEnqueue at h
  simp only [bind_eq_ok, require_eq_ok, selectClaimed_eq_ok, expectRow_eq_ok,
    readJob_eq_ok, selectOperation, fetch_apply, readOperation_eq_ok, pure_apply,
    Except.ok.injEq, Prod.mk.injEq] at h
  obtain ⟨_, _, ⟨hCandidate, rfl⟩, _, _, ⟨rfl, rfl⟩, row, _, ⟨hFind, rfl⟩, _, _,
    ⟨hValid, rfl, rfl⟩, operationId, _, ⟨hSome, rfl⟩, _, _, ⟨rfl, rfl⟩, operationRow, _,
    ⟨hSelect, rfl⟩, _, _, ⟨_, rfl, rfl⟩, _, _, ⟨hKeys, rfl⟩, _, written, hPersist, _, _,
    hDocument, rfl, rfl⟩ := h
  have hSelected := selected_claimed wf hFind
  obtain ⟨hMem, hId, hBoardFind⟩ := find_of_select wf hSelect
  obtain ⟨key, hKey⟩ : ∃ key, key = orElse row.document.authorityIdempotencyKey candidate :=
    ⟨_, rfl⟩
  rw [← hKey] at hPersist hDocument
  refine ⟨row.document, key, hSelected, ?_⟩
  obtain ⟨wfWritten, hWritten⟩ := persistJob_step wf hSelected.mem
    (Turn.job_sameIntent (.prepare key now) _) hPersist
  have hMem' : operationRow ∈ written.operations := by
    simp only [persistJob, store_apply, Except.ok.injEq, Prod.mk.injEq, true_and] at hPersist
    rw [← hPersist]
    exact hMem
  obtain ⟨wfAfter, hAfter⟩ := persistOperationDocument_step
    (f := (Turn.prepare key now).operation row.document) wfWritten (fun _ => rfl) (fun _ => rfl)
    hMem' rfl hDocument
  have hBounds : key ≠ "" ∧ key.length ≤ 300 := by
    simp only [Bool.and_eq_true, bne_iff_ne, ne_eq, decide_eq_true_eq] at hCandidate
    rw [hKey]
    cases hExisting : row.document.authorityIdempotencyKey with
    | none => exact hCandidate
    | some existing =>
        have hLength : existing.length ≤ 300 := by
          simp only [OutboxJob.valid, hExisting, atMost, Bool.and_eq_true,
            decide_eq_true_eq] at hValid
          exact hValid.2
        by_cases hEmpty : existing = ""
        · simpa only [orElse, hEmpty, if_true] using hCandidate
        · simp only [orElse, hEmpty, if_false]
          exact ⟨hEmpty, hLength⟩
  refine Taken.silent _ hSelected.mem ⟨hSelected.state_eq, hBounds.1, hBounds.2,
    operationRow.document, ?_, by simpa using hKeys⟩ rfl wfAfter ?_
  · rw [hSome]
    exact hBoardFind
  · rw [hAfter, hWritten, hSome, hId]

theorem updateAuthorityEvidence_taken (wf : s.WellFormed) {invocationId : String}
    {authorityState : AuthorityInvocationState}
    (h : updateAuthorityEvidence jobId claimFence invocationId authorityState now s =
      .ok (answer, t)) :
    ∃ job, Selected s jobId .claimed claimFence job ∧
      Taken s t (.poll authorityState now) job := by
  unfold updateAuthorityEvidence at h
  simp only [bind_eq_ok, require_eq_ok, selectClaimed_eq_ok, expectRow_eq_ok,
    readJob_eq_ok, pure_apply, Except.ok.injEq, Prod.mk.injEq] at h
  obtain ⟨_, _, ⟨rfl, rfl⟩, row, _, ⟨hFind, rfl⟩, _, _, ⟨_, rfl, rfl⟩, _, _, ⟨hInvocation, rfl⟩,
    _, parked, hPersist, _, _, hFor, _, rfl⟩ := h
  have hSelected := selected_claimed wf hFind
  refine ⟨row.document, hSelected, ?_⟩
  obtain ⟨wfParked, hParked⟩ := persistJob_step wf hSelected.mem
    (Turn.job_sameIntent (.poll authorityState now) _) hPersist
  have hAllowed : ∀ o, (Turn.poll authorityState now).Allowed row.document o := by
    intro o
    refine ⟨hSelected.state_eq, ?_⟩
    simp [(by simpa using hInvocation :
      row.document.authorityInvocationId = some invocationId)]
  rcases forOperation_eq_ok.mp hFor with ⟨hNone, rfl⟩ | ⟨operationId, hSome, hBody⟩
  · exact Taken.unlinked _ hSelected.mem (hAllowed _) hNone wfParked hParked
  · simp only [selectOperation, bind_eq_ok, fetch_apply, Except.ok.injEq, Prod.mk.injEq,
      expectRow_eq_ok, readOperation_eq_ok, store_apply, true_and] at hBody
    obtain ⟨_, _, ⟨rfl, rfl⟩, operationRow, _, ⟨hSelect, rfl⟩, _, _, ⟨_, rfl, rfl⟩, hWrite⟩ :=
      hBody
    obtain ⟨hMem, hId, _⟩ := find_of_select wfParked hSelect
    have hRowId : operationRow.id = operationId := (wfParked.operationRow_id hMem).trans hId
    have hTouched : ∀ r ∈ parked.operations,
        (r.id == operationId && r.state == .awaitingAuthority) = true →
        r.id = operationId ∧ { r with document := { operationRow.document with updatedAt := now } } =
          OperationRow.ofOperation ((Turn.poll authorityState now).operation row.document
            r.document) := by
      intro r hr hq
      simp only [Bool.and_eq_true, beq_iff_eq] at hq
      have hEq : r = operationRow := wfParked.operationIds.eq hr hMem (hq.1.trans hRowId.symm)
      have hState : operationRow.document.state = .awaitingAuthority := by
        rw [← wfParked.operationRow_state hMem, ← hEq]
        exact hq.2
      refine ⟨hq.1, ?_⟩
      rw [hEq, wfParked.operationRows operationRow hMem]
      simp only [Turn.operation, OperationRow.ofOperation, hState, if_true]
    have hUntouched : ∀ r ∈ parked.operations,
        (r.id == operationId && r.state == .awaitingAuthority) = false → r.id = operationId →
        (Turn.poll authorityState now).operation row.document r.document = r.document := by
      intro r hr hq hId'
      have hState : r.document.state ≠ .awaitingAuthority := by
        rw [← wfParked.operationRow_state hr]
        simpa [hId'] using hq
      simp only [Turn.operation, hState, if_false]
    obtain ⟨wfAfter, hAfter⟩ := amend_step wfParked
      (Turn.operation_sameIntent (.poll authorityState now) row.document) hTouched hUntouched
      hWrite.symm
    apply Taken.silent _ hSelected.mem (hAllowed _) rfl wfAfter
    rw [hAfter, hParked, hSome]

theorem markAuthorityResultUnknown_taken (wf : s.WellFormed) {invocationId : String}
    {replyUuid : UUID}
    (h : markAuthorityResultUnknown jobId claimFence invocationId now replyUuid s =
      .ok (answer, t)) :
    ∃ job, Selected s jobId .claimed claimFence job ∧ Taken s t (.lose now) job := by
  unfold markAuthorityResultUnknown at h
  simp only [bind_eq_ok, require_eq_ok, selectClaimed_eq_ok, expectRow_eq_ok,
    readJob_eq_ok, pure_apply, Except.ok.injEq, Prod.mk.injEq] at h
  obtain ⟨_, _, ⟨rfl, rfl⟩, row, _, ⟨hFind, rfl⟩, _, _, ⟨_, rfl, rfl⟩, _, _, ⟨hInvocation, rfl⟩,
    _, lost, hPersist, _, recorded, hEvidence, _, _, hFor, _, rfl⟩ := h
  have hSelected := selected_claimed wf hFind
  refine ⟨row.document, hSelected, ?_⟩
  obtain ⟨wfLost, hLost⟩ := persistJob_step wf hSelected.mem
    (Turn.job_sameIntent (.lose now) _) hPersist
  have hQuiet := insertEvidence_step hEvidence
  have hAllowed : ∀ o, (Turn.lose now).Allowed row.document o := by
    intro o
    refine ⟨hSelected.state_eq, ?_⟩
    simp [(by simpa using hInvocation :
      row.document.authorityInvocationId = some invocationId)]
  rcases forOperation_eq_ok.mp hFor with ⟨hNone, rfl⟩ | ⟨operationId, hSome, hBody⟩
  · exact Taken.unlinked (.lose now) hSelected.mem (hAllowed _) hNone
      (hQuiet.wellFormed wfLost) (hQuiet.board.trans hLost)
  · obtain ⟨_, settled, hUpdate, hReply⟩ := bind_eq_ok.mp hBody
    exact Taken.settling (.lose now) wf hSelected.mem (hAllowed _) hSome (fun _ => rfl) rfl
      (hQuiet.wellFormed wfLost) (hQuiet.board.trans hLost) hUpdate hReply

/-- The jobs whose operation a method leaves alone take their turn alone too. -/
theorem Taken.apart (turn : Turn) {job : OutboxJob} (hBefore : job ∈ s.board.jobs)
    (hAllowed : turn.Allowed job (s.board.find job.operationId)) (hNotice : turn.notice job = none)
    (hOperation : ∀ o, turn.operation job o = o) (wf : t.WellFormed)
    (hAfter : t.board = s.board.setJob (turn.job job)) : Taken s t turn job := by
  apply Taken.silent turn hBefore hAllowed hNotice wf
  rw [hAfter, Board.amend_self]
  intro o _ _
  exact hOperation o

/-- The unique key admits one reply to an operation. -/
theorem enqueueReplyForOperation_refused (wf : s.WellFormed) {operationId : UUID}
    {operation : Operation} {state : JobState} {evidence : JsonObject} {moment : Timestamp}
    {replyUuid replyUuid' : UUID} {v : Store} {u u' : Unit}
    (hFind : s.board.find (some operationId) = some operation)
    (hReply : operation.replyable = true)
    (hFirst : enqueueReplyForOperation operationId state evidence now replyUuid s = .ok (u, t)) :
    enqueueReplyForOperation operationId state evidence moment replyUuid' t ≠ .ok (u', v) := by
  intro hSecond
  obtain ⟨wfFirst, replies, hBoard, hAnnounced⟩ := enqueueReplyForOperation_step wf hFirst
  obtain ⟨_, replies', _, hAnnounced'⟩ := enqueueReplyForOperation_step wfFirst hSecond
  have hFind' : t.board.find (some operationId) = some operation := by
    rw [hBoard]
    exact hFind
  rw [hFind] at hAnnounced
  rw [hFind'] at hAnnounced'
  simp only [Board.Announced, hReply, if_true] at hAnnounced hAnnounced'
  obtain ⟨name, first, rfl, _⟩ := hAnnounced
  obtain ⟨name', second, rfl, hAll⟩ := hAnnounced'
  have hFresh := (hAll _ (List.mem_singleton_self _)).1
  have hMem : operation.reply name state evidence now first ∈ t.board.jobs := by
    rw [hBoard]
    exact List.mem_append_right _ (List.mem_singleton_self _)
  have hKey : (operation.reply name state evidence now first).idempotencyKey ≠
      (operation.reply name' state evidence moment second).idempotencyKey :=
    hFresh.key _ hMem rfl rfl
  exact absurd rfl hKey

/-- Enqueueing a second reply succeeds only when there is nothing to enqueue. -/
theorem enqueueReplyForOperation_again (wf : s.WellFormed) {operationId : UUID}
    {state : JobState} {evidence : JsonObject} {moment : Timestamp}
    {replyUuid replyUuid' : UUID} {v : Store} {u u' : Unit}
    (hFirst : enqueueReplyForOperation operationId state evidence now replyUuid s = .ok (u, t))
    (hSecond : enqueueReplyForOperation operationId state evidence moment replyUuid' t =
      .ok (u', v)) : v.WellFormed ∧ v.board = t.board := by
  obtain ⟨wfFirst, replies, hBoard, _⟩ := enqueueReplyForOperation_step wf hFirst
  obtain ⟨wfSecond, replies', hBoard', hAnnounced'⟩ :=
    enqueueReplyForOperation_step wfFirst hSecond
  refine ⟨wfSecond, ?_⟩
  have hFind : t.board.find (some operationId) = s.board.find (some operationId) := by
    rw [hBoard]
    rfl
  rw [hFind] at hAnnounced'
  have hNone : replies' = [] := by
    cases hOperation : s.board.find (some operationId) with
    | none =>
        rw [hOperation] at hAnnounced'
        exact hAnnounced'
    | some operation =>
        rw [hOperation] at hAnnounced'
        cases hReply : operation.replyable with
        | false => simpa [Board.Announced, hReply] using hAnnounced'
        | true =>
            exact absurd hSecond (enqueueReplyForOperation_refused wf hOperation hReply hFirst)
  rw [hBoard', hNone, Board.add_nil]

theorem failClaimedJob_taken (wf : s.WellFormed) {reasonCode : String}
    {replyUuid replyUuid' : UUID}
    (h : failClaimedJob jobId claimFence reasonCode now replyUuid replyUuid' s =
      .ok (answer, t)) :
    ∃ job, Selected s jobId .claimed claimFence job ∧
      Taken s t (.deny [("reasonCode", .str (clip 100 reasonCode))] now) job := by
  unfold failClaimedJob at h
  simp only [bind_eq_ok, selectClaimed_eq_ok, expectRow_eq_ok, readJob_eq_ok, pure_apply,
    Except.ok.injEq, Prod.mk.injEq] at h
  obtain ⟨_, _, ⟨rfl, rfl⟩, row, _, ⟨hFind, rfl⟩, _, _, ⟨_, rfl, rfl⟩, _, denied, hPersist, _,
    recorded, hEvidence, _, marked, hFor, _, _, hEvent, _, rfl⟩ := h
  have hSelected := selected_claimed wf hFind
  refine ⟨row.document, hSelected, ?_⟩
  obtain ⟨wfDenied, hDenied⟩ := persistJob_step wf hSelected.mem
    (Turn.job_sameIntent (.deny [("reasonCode", .str (clip 100 reasonCode))] now) _) hPersist
  have hQuiet := insertEvidence_step hEvidence
  refine Taken.quiet ?_ (markReplyEvent_step hEvent)
  by_cases hKind : row.document.kind = .issueAction
  · rw [if_pos hKind] at hFor
    rcases forOperation_eq_ok.mp hFor with ⟨hNone, rfl⟩ | ⟨operationId, hSome, hBody⟩
    · exact Taken.unlinked _ hSelected.mem hSelected.state_eq hNone (hQuiet.wellFormed wfDenied)
        (hQuiet.board.trans hDenied)
    · obtain ⟨_, settled, hUpdate, hReplies⟩ := bind_eq_ok.mp hBody
      obtain ⟨_, answered, hReply, hAgain⟩ := bind_eq_ok.mp hReplies
      have hTaken := Taken.settling (.deny [("reasonCode", .str (clip 100 reasonCode))] now) wf
        hSelected.mem hSelected.state_eq hSome (fun o => by simp [Turn.operation, hKind])
        (by simp [Turn.notice, hKind]) (hQuiet.wellFormed wfDenied)
        (hQuiet.board.trans hDenied) hUpdate hReply
      have wfSettled := (updateOperationState_step (hQuiet.wellFormed wfDenied) hUpdate).1
      obtain ⟨wfMarked, hMarked⟩ := enqueueReplyForOperation_again wfSettled hReply hAgain
      exact hTaken.of_board_eq wfMarked hMarked
  · rw [if_neg hKind] at hFor
    obtain ⟨_, rfl⟩ := (forOperation_eq_ok.mp hFor).resolve_right (by simp)
    exact Taken.apart _ hSelected.mem hSelected.state_eq (by simp [Turn.notice, hKind])
      (fun o => by simp [Turn.operation, hKind]) (hQuiet.wellFormed wfDenied)
      (hQuiet.board.trans hDenied)

theorem finishJob_taken (wf : s.WellFormed) {status : JobState} {evidence : JsonObject}
    {receipt : Option DeliveryReceipt} {clock : Timestamp} {replyUuid : UUID}
    (h : finishJob jobId claimFence status evidence receipt clock replyUuid s =
      .ok (answer, t)) :
    ∃ job moment, Selected s jobId .sending claimFence job ∧
      Taken s t (.finish status evidence moment) job := by
  unfold finishJob at h
  generalize finishTime receipt clock = moment at h
  simp only [bind_eq_ok, selectSending_eq_ok, expectRow_eq_ok, readJob_eq_ok, pure_apply,
    Except.ok.injEq, Prod.mk.injEq] at h
  obtain ⟨operationState, _, ⟨hState, rfl⟩, _, _, ⟨rfl, rfl⟩, row, _, ⟨hFind, rfl⟩, _, _,
    ⟨_, rfl, rfl⟩, _, finished, hPersist, _, recorded, hEvidence, _, marked, hFor, _, filed,
    hReceipt, _, _, hEvent, _, rfl⟩ := h
  have hSelected := selected_sending wf hFind
  refine ⟨row.document, moment, hSelected, ?_⟩
  obtain ⟨wfFinished, hFinished⟩ := persistJob_step wf hSelected.mem
    (Turn.job_sameIntent (.finish status evidence moment) _) hPersist
  have hQuiet := insertEvidence_step hEvidence
  have hAllowed : ∀ o, (Turn.finish status evidence moment).Allowed row.document o :=
    fun o => ⟨hSelected.state_eq, by simp [hState]⟩
  have hFiled : marked.SameDocuments filed := by
    cases receipt with
    | none =>
        simp only [bindReceipt, pure_apply, Except.ok.injEq, Prod.mk.injEq, true_and] at hReceipt
        exact hReceipt ▸ Store.SameDocuments.refl marked
    | some r => exact insertReceipt_step hReceipt
  refine Taken.quiet (Taken.quiet ?_ hFiled) (markReplyEvent_step hEvent)
  by_cases hKind : row.document.kind = .issueAction
  · rw [if_pos hKind] at hFor
    rcases forOperation_eq_ok.mp hFor with ⟨hNone, rfl⟩ | ⟨operationId, hSome, hBody⟩
    · exact Taken.unlinked _ hSelected.mem (hAllowed _) hNone (hQuiet.wellFormed wfFinished)
        (hQuiet.board.trans hFinished)
    · obtain ⟨_, settled, hUpdate, hReply⟩ := bind_eq_ok.mp hBody
      exact Taken.settling (.finish status evidence moment) wf hSelected.mem (hAllowed _) hSome
        (fun o => by simp [Turn.operation, hKind, hState]) (by simp [Turn.notice, hKind])
        (hQuiet.wellFormed wfFinished) (hQuiet.board.trans hFinished) hUpdate hReply
  · rw [if_neg hKind] at hFor
    obtain ⟨_, rfl⟩ := (forOperation_eq_ok.mp hFor).resolve_right (by simp)
    exact Taken.apart _ hSelected.mem (hAllowed _) (by simp [Turn.notice, hKind])
      (fun o => by simp [Turn.operation, hKind]) (hQuiet.wellFormed wfFinished)
      (hQuiet.board.trans hFinished)

theorem retryReadonlyJob_taken (wf : s.WellFormed) {retryAfterSeconds : Option Int}
    {replyUuid : UUID}
    (h : retryReadonlyJob jobId claimFence now retryAfterSeconds replyUuid s =
      .ok (answer, t)) :
    ∃ job turn, Selected s jobId .sending claimFence job ∧ Taken s t turn job ∧
      ((4 ≤ job.attempts ∧ ∃ reason, turn = .exhaust reason now) ∨
        (job.attempts < 4 ∧ ∃ availableAt reason, turn = .requeue availableAt reason now)) := by
  unfold retryReadonlyJob at h
  simp only [bind_eq_ok, selectSending_eq_ok, expectRow_eq_ok, readJob_eq_ok, require_eq_ok,
    pure_apply, Except.ok.injEq, Prod.mk.injEq] at h
  obtain ⟨_, _, ⟨rfl, rfl⟩, row, _, ⟨hFind, rfl⟩, _, _, ⟨_, rfl, rfl⟩, _, _, ⟨hReadonly, rfl⟩, _,
    written, hPersist, _, recorded, hEvidence, _, _, hFor, _, rfl⟩ := h
  have hSelected := selected_sending wf hFind
  have hQuiet := insertEvidence_step hEvidence
  generalize ([("reasonCode", .str "readonly_provider_error")] : JsonObject) = reason at hFor
  by_cases hExhausted : 4 ≤ row.document.attempts
  · simp only [hExhausted, decide_true, if_true] at hPersist hFor
    refine ⟨row.document, .exhaust reason now, hSelected, ?_, Or.inl ⟨hExhausted, _, rfl⟩⟩
    obtain ⟨wfWritten, hWritten⟩ := persistJob_step wf hSelected.mem
      (Turn.job_sameIntent (.exhaust reason now) _) hPersist
    rcases forOperation_eq_ok.mp hFor with ⟨hNone, rfl⟩ | ⟨operationId, hSome, hBody⟩
    · exact Taken.unlinked _ hSelected.mem ⟨hSelected.state_eq, hReadonly⟩ hNone
        (hQuiet.wellFormed wfWritten) (hQuiet.board.trans hWritten)
    · obtain ⟨_, settled, hUpdate, hReply⟩ := bind_eq_ok.mp hBody
      exact Taken.settling (.exhaust reason now) wf hSelected.mem
        ⟨hSelected.state_eq, hReadonly⟩ hSome (fun _ => rfl) rfl (hQuiet.wellFormed wfWritten)
        (hQuiet.board.trans hWritten) hUpdate hReply
  · simp only [hExhausted, decide_false, Bool.false_eq_true, if_false] at hPersist hFor
    generalize now + seconds (min 60 (max (retryBackoff row.document.attempts : Int)
      (retryAfterSeconds.getD 0))) = availableAt at hPersist
    refine ⟨row.document, .requeue availableAt reason now, hSelected, ?_,
      Or.inr ⟨Nat.lt_of_not_le hExhausted, _, _, rfl⟩⟩
    obtain ⟨wfWritten, hWritten⟩ := persistJob_step wf hSelected.mem
      (Turn.job_sameIntent (.requeue availableAt reason now) _) hPersist
    rcases forOperation_eq_ok.mp hFor with ⟨hNone, rfl⟩ | ⟨operationId, hSome, hBody⟩
    · exact Taken.unlinked _ hSelected.mem ⟨hSelected.state_eq, hReadonly⟩ hNone
        (hQuiet.wellFormed wfWritten) (hQuiet.board.trans hWritten)
    · obtain ⟨_, cleared, hClear, hUpdate⟩ := bind_eq_ok.mp hBody
      obtain ⟨wfCleared, hCleared⟩ :=
        clearOperationAuthority_step (hQuiet.wellFormed wfWritten) hClear
      obtain ⟨wfAfter, hAfter⟩ := updateOperationState_step wfCleared hUpdate
      apply Taken.silent (.requeue availableAt reason now) hSelected.mem
        ⟨hSelected.state_eq, hReadonly⟩ rfl wfAfter
      rw [hAfter, hCleared, hQuiet.board, hWritten, hSome,
        Board.amend_amend (f := Turn.forget) fun _ => rfl]
      rfl

/-- A successful claim hands out the next fence of the job it moves. -/
theorem claimReadyJob_taken (wf : s.WellFormed) {workerId : String} {leaseSeconds : Int}
    {claim : Option ClaimedJob}
    (h : claimReadyJob workerId now leaseSeconds s = .ok (claim, t)) :
    (claim = none ∧ t = s ∧ ∀ row ∈ s.outboxJobs, row.due now = false) ∨
      ∃ job, claim = some ⟨job.claimedBy workerId now leaseSeconds, job.claimFence + 1,
          job.state⟩ ∧ Taken s t (.claim workerId now leaseSeconds) job ∧
        (JobRow.ofJob job).due now = true := by
  unfold claimReadyJob at h
  rw [fetch_bind] at h
  cases hFirst : Table.firstBy JobRow.claimedBefore (s.outboxJobs.filter (JobRow.due now)) with
  | none =>
      simp only [hFirst, pure_apply, Except.ok.injEq, Prod.mk.injEq] at h
      refine Or.inl ⟨h.1.symm, h.2.symm, ?_⟩
      intro row hRow
      have hEmpty := List.filter_eq_nil_iff.mp (Table.firstBy_eq_none.mp hFirst) row hRow
      simpa using hEmpty
  | some row =>
      obtain ⟨hMem, hDue⟩ := List.mem_filter.mp (Table.mem_of_firstBy hFirst)
      simp only [hFirst] at h
      obtain ⟨_, _, hRead, h⟩ := bind_eq_ok.mp h
      obtain ⟨_, rfl, rfl⟩ := readJob_eq_ok.mp hRead
      have hWhere : ∀ r ∈ s.outboxJobs, (r.id == row.document.id &&
          r.state == row.document.state) = (r.id == row.document.id) := by
        intro r hr
        by_cases hId : r.id = row.document.id
        · rw [wf.jobIds.eq hr hMem (hId.trans (wf.row_id hMem).symm), ← wf.row_state hMem]
          simp
        · rw [beq_eq_false_iff_ne.mpr hId]
          rfl
      have hCount : s.outboxJobs.countP (fun r => r.id == row.document.id &&
          r.state == row.document.state) = 1 :=
        wf.jobIds.countP_eq_one hMem fun r hr => by rw [hWhere r hr, wf.row_id hMem]
      rw [fetch_bind, store_bind] at h
      simp only [id, hCount, ne_eq, not_true, if_false, pure_apply, Except.ok.injEq,
        Prod.mk.injEq] at h
      obtain ⟨rfl, hAfter⟩ := h
      obtain ⟨wfAfter, hBoard⟩ := putJob_step wf (Store.WellFormed.mem_jobs hMem)
        (Turn.job_sameIntent (.claim workerId now leaseSeconds) _) hWhere rfl hAfter.symm
      have hReady : row.document.state = .ready ∨ row.document.state = .awaitingAuthority := by
        rw [← wf.row_state hMem]
        simp only [JobRow.due, Bool.and_eq_true, Bool.or_eq_true, beq_iff_eq] at hDue
        exact hDue.1
      exact Or.inr ⟨row.document, rfl, Taken.apart (.claim workerId now leaseSeconds)
        (Store.WellFormed.mem_jobs hMem) hReady rfl (fun _ => rfl) wfAfter hBoard,
        wf.jobRows row hMem ▸ hDue⟩

theorem requireGrant_eq_ok {principal : IntegrationPrincipal} {grant : String} {u : Unit}
    (h : requireGrant principal grant now s = .ok (u, t)) : s = t := by
  unfold requireGrant at h
  simp only [bind_eq_ok, require_eq_ok] at h
  obtain ⟨_, _, ⟨_, rfl⟩, _, rfl⟩ := h
  rfl

theorem requireExecutionScope_eq_ok {principal : IntegrationPrincipal} {operation : Operation}
    {bindingId : UUID} {u : Unit}
    (h : requireExecutionScope principal operation bindingId s = .ok (u, t)) : s = t := by
  unfold requireExecutionScope at h
  simp only [bind_eq_ok, fetch_apply, expectRow_eq_ok, require_eq_ok, Except.ok.injEq,
    Prod.mk.injEq] at h
  obtain ⟨_, _, ⟨rfl, rfl⟩, _, _, ⟨_, rfl⟩, _, _, ⟨rfl, rfl⟩, _, _, ⟨_, rfl⟩, _, _, ⟨rfl, rfl⟩,
    _, _, ⟨_, rfl⟩, _, rfl⟩ := h
  rfl

/-- An authorized execution hands out the next fence of the job it takes
over. -/
theorem beginAuthorizedExecution_taken (wf : s.WellFormed) {principal : IntegrationPrincipal}
    {operationId bindingId : UUID}
    {executionOperationId argumentDigest authorityInvocationId : String} {leaseSeconds : Int}
    {execution : Operation × OutboxJob × Nat}
    (h : beginAuthorizedExecution principal operationId bindingId executionOperationId
      argumentDigest authorityInvocationId leaseSeconds now s = .ok (execution, t)) :
    ∃ job, job.operationId = some operationId ∧
      execution.2.1 = (Turn.begin authorityInvocationId now leaseSeconds).job job ∧
      execution.2.2 = job.claimFence + 1 ∧
      Taken s t (.begin authorityInvocationId now leaseSeconds) job := by
  unfold beginAuthorizedExecution at h
  obtain ⟨_, _, hGrant, h⟩ := bind_eq_ok.mp h
  obtain rfl := requireGrant_eq_ok hGrant
  rw [fetch_bind] at h
  obtain ⟨operationRow, _, hRow, h⟩ := bind_eq_ok.mp h
  obtain ⟨hFind, rfl⟩ := expectRow_eq_ok.mp hRow
  obtain ⟨_, _, hRead, h⟩ := bind_eq_ok.mp h
  obtain ⟨_, rfl, rfl⟩ := readOperation_eq_ok.mp hRead
  obtain ⟨_, _, hApproved, h⟩ := bind_eq_ok.mp h
  obtain ⟨hIntent, rfl⟩ := require_eq_ok.mp hApproved
  obtain ⟨_, _, hScope, h⟩ := bind_eq_ok.mp h
  obtain rfl := requireExecutionScope_eq_ok hScope
  rw [fetch_bind] at h
  obtain ⟨row, _, hJobRow, h⟩ := bind_eq_ok.mp h
  obtain ⟨hJobFind, rfl⟩ := expectRow_eq_ok.mp hJobRow
  obtain ⟨_, _, hReadJob, h⟩ := bind_eq_ok.mp h
  obtain ⟨_, rfl, rfl⟩ := readJob_eq_ok.mp hReadJob
  obtain ⟨_, _, hScoped, h⟩ := bind_eq_ok.mp h
  obtain ⟨hMatch, rfl⟩ := require_eq_ok.mp hScoped
  obtain ⟨_, written, hPersist, h⟩ := bind_eq_ok.mp h
  rw [fetch_bind, store_bind] at h
  obtain ⟨_, _, hClaimed, h⟩ := bind_eq_ok.mp h
  obtain ⟨_, rfl⟩ := require_eq_ok.mp hClaimed
  simp only [pure_apply, Except.ok.injEq, Prod.mk.injEq] at h
  obtain ⟨rfl, hAfterEq⟩ := h
  obtain ⟨hMem, hSelected⟩ := find_some_eq hFind
  obtain ⟨hJobMem, hJobSelected⟩ := find_some_eq hJobFind
  simp only [Bool.and_eq_true, Bool.or_eq_true, beq_iff_eq] at hSelected hJobSelected
  simp only [Bool.and_eq_true, beq_iff_eq, Bool.not_eq_true'] at hIntent hMatch
  obtain ⟨⟨hRowId, _⟩, hRowState⟩ := hSelected
  have hOperationId : row.document.operationId = some operationId := by
    rw [← wf.row_operationId hJobMem]
    exact hJobSelected.1
  have hId : operationRow.document.id = operationId := (wf.operationRow_id hMem).symm.trans hRowId
  have hFound : s.board.find row.document.operationId = some operationRow.document := by
    rw [hOperationId]
    exact wf.find_eq_some.mpr ⟨Store.WellFormed.mem_operations hMem, hId⟩
  refine ⟨row.document, hOperationId, rfl, rfl, ?_⟩
  obtain ⟨wfWritten, hWritten⟩ := persistJob_step wf (Store.WellFormed.mem_jobs hJobMem)
    (Turn.job_sameIntent (.begin authorityInvocationId now leaseSeconds) _) hPersist
  have hOperations : written.operations = s.operations := by
    simp only [persistJob, store_apply, Except.ok.injEq, Prod.mk.injEq, true_and] at hPersist
    rw [← hPersist]
  have hTouched : ∀ r ∈ written.operations, (r.id == operationId &&
      (r.state == .queued || r.state == .awaitingAuthority)) = true →
      r.id = operationId ∧ OperationRow.persist ((Turn.begin authorityInvocationId now
        leaseSeconds).operation row.document operationRow.document) r =
        OperationRow.ofOperation ((Turn.begin authorityInvocationId now leaseSeconds).operation
          row.document r.document) := by
    intro r hr hq
    simp only [Bool.and_eq_true, beq_iff_eq] at hq
    have hEq : r = operationRow :=
      wf.operationIds.eq (hOperations ▸ hr) hMem (hq.1.trans hRowId.symm)
    refine ⟨hq.1, ?_⟩
    rw [hEq, wf.operationRows operationRow hMem]
    rfl
  have hUntouched : ∀ r ∈ written.operations, (r.id == operationId &&
      (r.state == .queued || r.state == .awaitingAuthority)) = false → r.id = operationId →
      (Turn.begin authorityInvocationId now leaseSeconds).operation row.document r.document =
        r.document := by
    intro r hr hq hIdEq
    have hEq : r = operationRow :=
      wf.operationIds.eq (hOperations ▸ hr) hMem (hIdEq.trans hRowId.symm)
    rw [hEq, hRowId] at hq
    rcases hRowState with hState | hState <;> simp [hState] at hq
  obtain ⟨wfAfter, hAfter⟩ := amend_step wfWritten
    (Turn.operation_sameIntent (.begin authorityInvocationId now leaseSeconds) row.document)
    hTouched hUntouched hAfterEq.symm
  refine Taken.silent _ (Store.WellFormed.mem_jobs hJobMem) ⟨?_, operationRow.document, hFound,
    ?_, hIntent.2, hMatch.1.2⟩ rfl wfAfter ?_
  · rw [← wf.row_state hJobMem]
    exact hJobSelected.2
  · rw [← wf.operationRow_state hMem]
    exact hRowState
  · rw [hAfter, hWritten, hOperationId]

/-- What reconciliation writes for a job it settles. -/
def OutboxJob.reconciled (now : Timestamp) (job : OutboxJob) : OutboxJob :=
  { job with state := .succeeded, updatedAt := now }

theorem settleUnknownJobs_step {result : JsonObject} {rows : List JobRow} {u : Unit}
    (wf : s.WellFormed) (hRows : ∀ row ∈ rows, row.document ∈ s.board.jobs)
    (hIds : (rows.map fun row => row.document.id).Nodup)
    (h : settleUnknownJobs result now rows s = .ok (u, t)) :
    t.WellFormed ∧ t.board = { s.board with
      jobs := Table.updateWhere (fun j => rows.any fun row => row.document.id == j.id)
        (OutboxJob.reconciled now) s.board.jobs } := by
  induction rows generalizing s with
  | nil =>
      simp only [settleUnknownJobs, pure_apply, Except.ok.injEq, Prod.mk.injEq, true_and] at h
      subst h
      have hSame : Table.updateWhere (fun j => ([] : List JobRow).any fun row =>
          row.document.id == j.id) (OutboxJob.reconciled now) s.board.jobs = s.board.jobs :=
        Table.updateWhere_of_none fun _ _ => rfl
      rw [hSame]
      exact ⟨wf, rfl⟩
  | cons row rest ih =>
      unfold settleUnknownJobs at h
      obtain ⟨_, _, hRead, h⟩ := bind_eq_ok.mp h
      obtain ⟨_, rfl, rfl⟩ := readJob_eq_ok.mp hRead
      obtain ⟨_, written, hPersist, h⟩ := bind_eq_ok.mp h
      obtain ⟨_, recorded, hEvidence, h⟩ := bind_eq_ok.mp h
      have hMem := hRows row List.mem_cons_self
      obtain ⟨hHead, hTail⟩ := List.nodup_cons.mp hIds
      have hDistinct : ∀ r ∈ rest, r.document.id ≠ row.document.id := by
        intro r hr hEq
        exact hHead (List.mem_map.mpr ⟨r, hr, hEq⟩)
      have same : row.document.SameIntent (row.document.reconciled now) := rfl
      obtain ⟨wfWritten, hWritten⟩ := persistJob_step wf hMem same hPersist
      have hQuiet := replaceEvidence_step hEvidence
      have hJobs : recorded.board.jobs = Table.updateWhere (fun j => row.document.id == j.id)
          (OutboxJob.reconciled now) s.board.jobs := by
        rw [hQuiet.board, hWritten]
        refine Table.updateWhere_congr ?_ ?_
        · intro j _
          rw [Bool.beq_comm]
          rfl
        · intro j hj hId
          rw [wf.job_eq hj hMem (by simpa [OutboxJob.reconciled] using hId)]
      have hRest : ∀ r ∈ rest, r.document ∈ recorded.board.jobs := by
        intro r hr
        rw [hJobs]
        apply Table.mem_updateWhere_of_neg (hRows r (List.mem_cons_of_mem row hr))
        exact beq_eq_false_iff_ne.mpr (hDistinct r hr).symm
      obtain ⟨wfAfter, hAfter⟩ := ih (hQuiet.wellFormed wfWritten) hRest hTail h
      refine ⟨wfAfter, ?_⟩
      rw [hAfter, hJobs, Table.updateWhere_or, hQuiet.board, hWritten]
      · rfl
      · intro j _ hId
        rw [List.any_eq_false]
        intro r hr hEq
        simp only [OutboxJob.reconciled, beq_iff_eq] at hId hEq
        exact hDistinct r hr (hEq.trans hId.symm)

theorem resolveUnknownOperation_step (wf : s.WellFormed) {principal : IntegrationPrincipal}
    {operationId auditUuid : UUID} {succeeded : Bool} {result : JsonObject} {grant : String}
    {resolved : Operation}
    (h : resolveUnknownOperation principal operationId succeeded result grant now auditUuid s =
      .ok (resolved, t)) :
    ∃ operation ∈ s.board.operations, operation.id = operationId ∧ operation.state = .unknown ∧
      t.WellFormed ∧ t.board = s.board.resolve operation succeeded result now := by
  unfold resolveUnknownOperation at h
  obtain ⟨_, _, hGrant, h⟩ := bind_eq_ok.mp h
  obtain rfl := requireGrant_eq_ok hGrant
  rw [fetch_bind] at h
  obtain ⟨row, _, hRow, h⟩ := bind_eq_ok.mp h
  obtain ⟨hFind, rfl⟩ := expectRow_eq_ok.mp hRow
  obtain ⟨_, _, hRead, h⟩ := bind_eq_ok.mp h
  obtain ⟨_, rfl, rfl⟩ := readOperation_eq_ok.mp hRead
  obtain ⟨hMem, hSelected⟩ := find_some_eq hFind
  simp only [Bool.and_eq_true, beq_iff_eq] at hSelected
  obtain ⟨⟨hRowId, _⟩, hRowState⟩ := hSelected
  have hId : row.document.id = operationId := (wf.operationRow_id hMem).symm.trans hRowId
  refine ⟨row.document, Store.WellFormed.mem_operations hMem, hId,
    (wf.operationRow_state hMem).symm.trans hRowState, ?_⟩
  rw [store_bind] at h
  generalize hSettled : ({ s with operations := _ } : Store) = settled at h
  obtain ⟨wfSettled, hSettledBoard⟩ : settled.WellFormed ∧ settled.board =
      s.board.amend (some operationId)
        (Turn.settle (if succeeded then .succeeded else .unknown) (some result) now) := by
    refine amend_step wf (Turn.settle_sameIntent _ _ _) ?_ ?_ hSettled.symm
    · intro r hr hq
      simp only [Bool.and_eq_true, beq_iff_eq] at hq
      have hEq : r = row := wf.operationIds.eq hr hMem (hq.1.trans hRowId.symm)
      refine ⟨hq.1, ?_⟩
      rw [hEq, wf.operationRows row hMem]
      rfl
    · intro r hr hq hIdEq
      have hEq : r = row := wf.operationIds.eq hr hMem (hIdEq.trans hRowId.symm)
      simp [hEq, hRowId, hRowState] at hq
  have hOperations : Table.updateWhere (fun o : Operation => some operationId == some o.id)
      (Turn.settle (if succeeded then .succeeded else .unknown) (some result) now)
      s.board.operations = (s.board.resolve row.document succeeded result now).operations := by
    apply Table.updateWhere_congr
    · intro o _
      rw [hId, Bool.beq_comm]
      rfl
    · intro o _ _
      rfl
  cases succeeded with
  | false =>
      simp only [Bool.false_eq_true, if_false] at h
      obtain ⟨_, _, hAudit, h⟩ := bind_eq_ok.mp h
      simp only [pure_apply, Except.ok.injEq, Prod.mk.injEq] at h
      obtain ⟨_, rfl⟩ := h
      have hQuiet := insertAudit_step hAudit
      refine ⟨hQuiet.wellFormed wfSettled, ?_⟩
      rw [hQuiet.board, hSettledBoard]
      unfold Board.amend
      rw [hOperations]
      simp only [Board.resolve, Bool.false_and]
      rw [Table.updateWhere_of_none fun _ _ => rfl]
  | true =>
      simp only [if_true] at h
      rw [fetch_bind] at h
      obtain ⟨_, reconciled, hSettle, h⟩ := bind_eq_ok.mp h
      obtain ⟨_, _, hAudit, h⟩ := bind_eq_ok.mp h
      simp only [pure_apply, Except.ok.injEq, Prod.mk.injEq] at h
      obtain ⟨_, rfl⟩ := h
      have hQuiet := insertAudit_step hAudit
      have hIds : ((settled.outboxJobs.filter fun r => r.operationId == some operationId &&
          r.state == .unknown).map fun r => r.document.id).Nodup := by
        rw [List.map_congr_left fun r hr =>
          (wfSettled.row_id (List.mem_filter.mp hr).1).symm]
        exact List.Nodup.sublist (List.filter_sublist.map JobRow.id) wfSettled.jobIds
      obtain ⟨wfReconciled, hReconciled⟩ := settleUnknownJobs_step wfSettled
        (fun r hr => Store.WellFormed.mem_jobs (List.mem_filter.mp hr).1) hIds hSettle
      refine ⟨hQuiet.wellFormed wfReconciled, ?_⟩
      have hJobs : Table.updateWhere (fun j => (settled.outboxJobs.filter fun r =>
          r.operationId == some operationId && r.state == .unknown).any fun r =>
            r.document.id == j.id) (OutboxJob.reconciled now) settled.board.jobs =
          (s.board.resolve row.document true result now).jobs := by
        rw [hSettledBoard]
        apply Table.updateWhere_congr
        · intro j hj
          rw [Bool.eq_iff_iff, List.any_eq_true, hId]
          have hRow := wfSettled.ofJob_mem (hSettledBoard ▸ hj)
          constructor
          · rintro ⟨r, hr, hrId⟩
            obtain ⟨hrMem, hrSelected⟩ := List.mem_filter.mp hr
            have hEq : r = JobRow.ofJob j := wfSettled.jobIds.eq hrMem hRow
              ((wfSettled.row_id hrMem).trans (beq_iff_eq.mp hrId))
            simpa [hEq, JobRow.ofJob] using hrSelected
          · intro hSelected
            exact ⟨JobRow.ofJob j, List.mem_filter.mpr ⟨hRow,
              by simpa [JobRow.ofJob] using hSelected⟩, by simp [JobRow.ofJob]⟩
        · intro j _ _
          rfl
      rw [hQuiet.board, hReconciled, hJobs, hSettledBoard]
      unfold Board.amend
      rw [hOperations]
      rfl

theorem persistJob_after (wf : s.WellFormed) {job job' : OutboxJob} {replies : List OutboxJob}
    {b : Board} {u : Unit} (hJob : job ∈ b.jobs) (same : job.SameIntent job')
    (hBoard : s.board = b.add replies) (hFresh : ∀ r ∈ replies, b.Fresh r)
    (h : persistJob job' s = .ok (u, t)) :
    t.WellFormed ∧ t.board = (b.setJob job').add replies := by
  have hMem : job ∈ s.board.jobs := by
    rw [hBoard]
    exact List.mem_append_left _ hJob
  obtain ⟨wfAfter, hAfter⟩ := persistJob_step wf hMem same h
  refine ⟨wfAfter, ?_⟩
  rw [hAfter, hBoard, Board.add_setJob]
  intro r hr
  rw [same.id_eq]
  exact ((hFresh r hr).identifier job hJob).symm

/-- A lapsed send settles its operation first and its job last. -/
theorem Taken.recovering (turn : Turn) {job : OutboxJob} (wf : s.WellFormed)
    (hBefore : job ∈ s.board.jobs) (hAllowed : turn.Allowed job (s.board.find job.operationId))
    {operationId : UUID} {operationState : OperationState} {state : JobState}
    {evidence : JsonObject} {replyUuid : UUID} {settled answered : Store} {u v w : Unit}
    (hSome : job.operationId = some operationId)
    (hOperation : ∀ o, turn.operation job o = Turn.settle operationState (some evidence) now o)
    (hNotice : turn.notice job = some (state, evidence, now))
    (hUpdate : updateOperationState operationId operationState now (some evidence) s =
      .ok (u, settled))
    (hReply : enqueueReplyForOperation operationId state evidence now replyUuid settled =
      .ok (v, answered))
    (hPersist : persistJob (turn.job job) answered = .ok (w, t)) : Taken s t turn job := by
  obtain ⟨wfSettled, hSettled⟩ := updateOperationState_step wf hUpdate
  obtain ⟨wfAnswered, replies, hAnswered, hAnnounced⟩ :=
    enqueueReplyForOperation_step wfSettled hReply
  have hAmended : settled.board = s.board.amend job.operationId (turn.operation job) := by
    rw [hSettled, hSome]
    exact Board.amend_congr fun o _ _ => (hOperation o).symm
  obtain ⟨wfAfter, hAfter⟩ := persistJob_after wfAnswered (hAmended ▸ hBefore)
    (turn.job_sameIntent job) hAnswered hAnnounced.fresh hPersist
  have hFind : settled.board.find (some operationId) =
      (s.board.find job.operationId).map (turn.operation job) := by
    rw [hAmended, ← hSome, Board.find_amend fun o => (turn.operation_sameIntent job o).id_eq]
  refine ⟨hBefore, hAllowed, ⟨replies, ?_, ?_⟩, wfAfter⟩
  · simp only [Board.Answers, hNotice]
    rw [← hFind]
    apply hAnnounced.mono
    intro reply hFresh
    rw [hAmended] at hFresh
    exact ⟨hFresh.identifier, hFresh.connection, hFresh.key⟩
  · rw [hAfter, hAmended]
    rfl

/-- The turn recovery takes for a lapsed job. -/
def OutboxJob.recoveryTurn (job : OutboxJob) (now : Timestamp) : Turn :=
  if job.state = .claimed then .release now
  else match job.lapsedSend with
    | .requeue => .requeue (now + seconds (retryBackoff job.attempts))
        [("reasonCode", .str "readonly_query_retry_after_crash")] now
    | .unknown => .lapse [("reasonCode", .str "send_outcome_unknown_after_lease_expiry")] now
    | .exhausted => .exhaust [("reasonCode", .str "readonly_query_attempts_exhausted")] now

theorem OutboxJob.recoveryTurn_job (job : OutboxJob) (now : Timestamp) :
    (job.recoveryTurn now).job job = job.recovered now := by
  unfold OutboxJob.recoveryTurn OutboxJob.recovered
  split
  · rfl
  · cases job.lapsedSend <;> rfl

theorem OutboxJob.recoveryTurn_allowed {job : OutboxJob} (now : Timestamp)
    (operation : Option Operation) (hState : job.state = .claimed ∨ job.state = .sending) :
    (job.recoveryTurn now).Allowed job operation := by
  unfold OutboxJob.recoveryTurn
  rcases hState with hState | hState
  · simp only [hState, if_true]
    exact hState
  · rw [if_neg (by simp [hState])]
    unfold OutboxJob.lapsedSend
    cases hReadonly : job.isReadonlyQuery with
    | false => exact ⟨hState, hReadonly⟩
    | true =>
        by_cases hAttempts : job.attempts < 4
        · simp only [if_true, hAttempts]
          exact ⟨hState, hReadonly⟩
        · simp only [if_true, hAttempts, if_false]
          exact ⟨hState, hReadonly⟩

theorem OutboxJob.recoveryTurn_recordsAuthority (job : OutboxJob) (now : Timestamp) :
    (job.recoveryTurn now).recordsAuthority = false := by
  unfold OutboxJob.recoveryTurn
  split
  · rfl
  · cases job.lapsedSend <;> rfl

theorem recoverClaim_taken (wf : s.WellFormed) {row : JobRow} {replyUuid : UUID} {u : Unit}
    (hMem : row.document ∈ s.board.jobs)
    (hState : row.document.state = .claimed ∨ row.document.state = .sending)
    (h : recoverClaim now replyUuid row s = .ok (u, t)) :
    Taken s t (row.document.recoveryTurn now) row.document := by
  have hAllowed := OutboxJob.recoveryTurn_allowed now
    (s.board.find row.document.operationId) hState
  unfold recoverClaim at h
  obtain ⟨_, _, hRead, h⟩ := bind_eq_ok.mp h
  obtain ⟨_, rfl, rfl⟩ := readJob_eq_ok.mp hRead
  rw [← OutboxJob.recoveryTurn_job] at h
  rcases hState with hClaimed | hSending
  · have hTurn : row.document.recoveryTurn now = .release now := by
      simp [OutboxJob.recoveryTurn, hClaimed]
    simp only [hClaimed, ne_eq, not_true, if_false] at h
    obtain ⟨wfAfter, hAfter⟩ := persistJob_step wf hMem (Turn.job_sameIntent _ _) h
    exact Taken.apart _ hMem hAllowed (by rw [hTurn]; rfl) (by rw [hTurn]; exact fun _ => rfl)
      wfAfter hAfter
  · have hNotClaimed : row.document.state ≠ .claimed := by simp [hSending]
    simp only [hNotClaimed, ne_eq, not_false_eq_true, if_true] at h
    obtain ⟨_, settled, hFor, hPersist⟩ := bind_eq_ok.mp h
    rcases forOperation_eq_ok.mp hFor with ⟨hNone, rfl⟩ | ⟨operationId, hSome, hBody⟩
    · obtain ⟨wfAfter, hAfter⟩ := persistJob_step wf hMem (Turn.job_sameIntent _ _) hPersist
      exact Taken.unlinked _ hMem hAllowed hNone wfAfter hAfter
    · cases hLapsed : row.document.lapsedSend with
      | requeue =>
          have hTurn : row.document.recoveryTurn now = .requeue
              (now + seconds (retryBackoff row.document.attempts))
              [("reasonCode", .str "readonly_query_retry_after_crash")] now := by
            simp [OutboxJob.recoveryTurn, hNotClaimed, hLapsed]
          rw [hTurn] at hAllowed hPersist ⊢
          simp only [hLapsed, recoverOperation] at hBody
          obtain ⟨_, cleared, hClear, hUpdate⟩ := bind_eq_ok.mp hBody
          obtain ⟨wfCleared, hCleared⟩ := clearOperationAuthority_step wf hClear
          obtain ⟨wfSettled, hSettled⟩ := updateOperationState_step wfCleared hUpdate
          have hJobs : row.document ∈ settled.board.jobs := by
            rw [hSettled, hCleared]
            exact hMem
          obtain ⟨wfAfter, hAfter⟩ := persistJob_step wfSettled hJobs
            (Turn.job_sameIntent _ _) hPersist
          apply Taken.silent _ hMem hAllowed rfl wfAfter
          rw [hAfter, hSettled, hCleared, hSome, Board.amend_amend (f := Turn.forget) fun _ => rfl]
          rfl
      | unknown =>
          have hTurn : row.document.recoveryTurn now = .lapse
              [("reasonCode", .str "send_outcome_unknown_after_lease_expiry")] now := by
            simp [OutboxJob.recoveryTurn, hNotClaimed, hLapsed]
          rw [hTurn] at hAllowed hPersist ⊢
          simp only [hLapsed, recoverOperation] at hBody
          obtain ⟨_, _, hUpdate, hReply⟩ := bind_eq_ok.mp hBody
          exact Taken.recovering _ wf hMem hAllowed hSome (fun _ => rfl) rfl hUpdate hReply
            hPersist
      | exhausted =>
          have hTurn : row.document.recoveryTurn now = .exhaust
              [("reasonCode", .str "readonly_query_attempts_exhausted")] now := by
            simp [OutboxJob.recoveryTurn, hNotClaimed, hLapsed]
          rw [hTurn] at hAllowed hPersist ⊢
          simp only [hLapsed, recoverOperation] at hBody
          obtain ⟨_, _, hUpdate, hReply⟩ := bind_eq_ok.mp hBody
          exact Taken.recovering _ wf hMem hAllowed hSome (fun _ => rfl) rfl hUpdate hReply
            hPersist

/-- The recovery loop takes one turn for every selected job, in order, and
touches no other job. -/
theorem recoverClaims_step {R : Store → Store → Prop} (hRefl : ∀ a, R a a)
    (hTrans : ∀ {a b c}, R a b → R b c → R a c)
    (hTurn : ∀ {a b : Store} {row : JobRow}, a.WellFormed →
      Taken a b (row.document.recoveryTurn now) row.document → R a b)
    {draw : Nat → UUID} {rows : List JobRow} {k n : Nat} (wf : s.WellFormed)
    (hRows : ∀ row ∈ rows, row.document ∈ s.board.jobs ∧
      (row.document.state = .claimed ∨ row.document.state = .sending))
    (hIds : (rows.map fun row => row.document.id).Nodup)
    (h : recoverClaims now draw rows k s = .ok (n, t)) :
    t.WellFormed ∧ R s t ∧
      (∀ row ∈ rows, row.document.recovered now ∈ t.board.jobs) ∧
      ∀ j ∈ s.board.jobs, (∀ row ∈ rows, row.document.id ≠ j.id) → j ∈ t.board.jobs := by
  induction rows generalizing s k with
  | nil =>
      simp only [recoverClaims, pure_apply, Except.ok.injEq, Prod.mk.injEq] at h
      obtain ⟨_, rfl⟩ := h
      exact ⟨wf, hRefl s, by simp, fun j hj _ => hj⟩
  | cons row rest ih =>
      unfold recoverClaims at h
      obtain ⟨_, middle, hHead, hTail⟩ := bind_eq_ok.mp h
      obtain ⟨hMem, hState⟩ := hRows row List.mem_cons_self
      obtain ⟨hNotMem, hRestIds⟩ := List.nodup_cons.mp hIds
      have hDistinct : ∀ r ∈ rest, r.document.id ≠ row.document.id := by
        intro r hr hEq
        exact hNotMem (List.mem_map.mpr ⟨r, hr, hEq⟩)
      have hTaken := recoverClaim_taken wf hMem hState hHead
      obtain ⟨replies, _, hBoard⟩ := hTaken.after
      have hRest : ∀ r ∈ rest, r.document ∈ middle.board.jobs ∧
          (r.document.state = .claimed ∨ r.document.state = .sending) := by
        intro r hr
        obtain ⟨hrMem, hrState⟩ := hRows r (List.mem_cons_of_mem row hr)
        refine ⟨?_, hrState⟩
        rw [hBoard]
        exact Board.take_other hrMem (hDistinct r hr)
      obtain ⟨wfAfter, hRelated, hRecovered, hFrame⟩ :=
        ih hTaken.wellFormed hRest hRestIds hTail
      refine ⟨wfAfter, hTrans (hTurn wf hTaken) hRelated, ?_, ?_⟩
      · intro r hr
        rcases List.mem_cons.mp hr with rfl | hr
        · apply hFrame
          · rw [hBoard, ← OutboxJob.recoveryTurn_job]
            exact Board.take_self hMem
          · intro r' hr'
            rw [← OutboxJob.recoveryTurn_job, (Turn.job_sameIntent _ _).id_eq]
            exact hDistinct r' hr'
        · exact hRecovered r hr
      · intro j hj hOther
        apply hFrame
        · rw [hBoard]
          exact Board.take_other hj (hOther row List.mem_cons_self).symm
        · exact fun r hr => hOther r (List.mem_cons_of_mem row hr)

theorem lapsed_state {row : JobRow} (wf : s.WellFormed) (hMem : row ∈ s.outboxJobs)
    (h : row.lapsed now = true) :
    row.document.state = .claimed ∨ row.document.state = .sending := by
  simp only [JobRow.lapsed, Bool.and_eq_true, Bool.or_eq_true, beq_iff_eq] at h
  rw [← wf.row_state hMem]
  exact h.1

theorem lapsed_ids (wf : s.WellFormed) :
    ((s.outboxJobs.filter (JobRow.lapsed now)).map fun row => row.document.id).Nodup := by
  rw [List.map_congr_left fun r hr => (wf.row_id (List.mem_filter.mp hr).1).symm]
  exact List.Nodup.sublist (List.filter_sublist.map JobRow.id) wf.jobIds

theorem recoverExpiredClaims_step {R : Store → Store → Prop} (hRefl : ∀ a, R a a)
    (hTrans : ∀ {a b c}, R a b → R b c → R a c)
    (hTurn : ∀ {a b : Store} {row : JobRow}, a.WellFormed →
      Taken a b (row.document.recoveryTurn now) row.document → R a b)
    {draw : Nat → UUID} {n : Nat} (wf : s.WellFormed)
    (h : recoverExpiredClaims now draw s = .ok (n, t)) :
    t.WellFormed ∧ R s t ∧
      (∀ row ∈ s.outboxJobs, row.lapsed now = true →
        row.document.recovered now ∈ t.board.jobs) ∧
      ∀ row ∈ s.outboxJobs, row.lapsed now = false → row.document ∈ t.board.jobs := by
  unfold recoverExpiredClaims at h
  rw [fetch_bind] at h
  obtain ⟨wfAfter, hRelated, hRecovered, hFrame⟩ := recoverClaims_step hRefl hTrans hTurn wf
    (fun row hRow => ⟨Store.WellFormed.mem_jobs (List.mem_filter.mp hRow).1,
      lapsed_state wf (List.mem_filter.mp hRow).1 (List.mem_filter.mp hRow).2⟩)
    (lapsed_ids wf) h
  refine ⟨wfAfter, hRelated, ?_, ?_⟩
  · intro row hRow hLapsed
    exact hRecovered row (List.mem_filter.mpr ⟨hRow, hLapsed⟩)
  · intro row hRow hLapsed
    apply hFrame _ (Store.WellFormed.mem_jobs hRow)
    intro r hr hEq
    obtain ⟨hrMem, hrLapsed⟩ := List.mem_filter.mp hr
    have hSame : r = row := wf.jobIds.eq hrMem hRow
      ((wf.row_id hrMem).trans (hEq.trans (wf.row_id hRow).symm))
    rw [hSame, hLapsed] at hrLapsed
    cases hrLapsed

/-- Recovery is a sequence of moves. -/
theorem recoverExpiredClaims_moves (rules : Board.Discipline) {draw : Nat → UUID} {n : Nat}
    (wf : s.WellFormed) (h : recoverExpiredClaims now draw s = .ok (n, t)) :
    t.WellFormed ∧ Board.Moves rules s.board t.board ∧
      ∀ row ∈ s.outboxJobs, row.lapsed now = true → row.document.recovered now ∈ t.board.jobs := by
  obtain ⟨wfAfter, hMoves, hRecovered, _⟩ := recoverExpiredClaims_step
    (R := fun a b => Board.Moves rules a.board b.board) (fun _ => Relation.ReflTransGen.refl)
    Relation.ReflTransGen.trans (fun _ hTaken => Relation.ReflTransGen.single
      (hTaken.move (by simp [OutboxJob.recoveryTurn_recordsAuthority]))) wf h
  exact ⟨wfAfter, hMoves, hRecovered⟩

theorem insertOperation_step (wf : s.WellFormed) {operation : Operation} {u : Unit}
    (h : insertOperation operation s = .ok (u, t)) :
    t.WellFormed ∧ t.board = { s.board with operations := s.board.operations ++ [operation] } ∧
      (∀ o ∈ s.board.operations, o.id ≠ operation.id) ∧
      ∀ o ∈ s.board.operations, o.scope = operation.scope →
        o.connectionId = operation.connectionId →
        o.idempotencyKey ≠ operation.idempotencyKey := by
  unfold insertOperation at h
  rw [fetch_bind] at h
  simp only [bind_eq_ok, require_eq_ok, store_apply, Except.ok.injEq, Prod.mk.injEq, id] at h
  obtain ⟨_, _, ⟨hId, rfl⟩, _, _, ⟨_, rfl⟩, _, _, ⟨hScope, rfl⟩, _, rfl⟩ := h
  simp only [List.all_eq_true, Bool.or_eq_true, bne_iff_ne] at hId hScope
  refine ⟨⟨wf.jobRows, ?_, wf.jobIds, wf.operationIds.append_singleton hId⟩, ?_, ?_, ?_⟩
  · intro row hMem
    rcases List.mem_append.mp hMem with hMem | hMem
    · exact wf.operationRows row hMem
    · rw [List.mem_singleton.mp hMem]
      rfl
  · simp [Store.board, OperationRow.ofOperation]
  · intro o ho
    exact hId _ (wf.ofOperation_mem ho)
  · intro o ho hSame hConnection
    rcases hScope _ (wf.ofOperation_mem ho) with (hNe | hNe) | hNe
    · exact absurd hSame hNe
    · exact absurd hConnection hNe
    · exact hNe

theorem canonicalRequest_operationId (request : EnqueueIssueAction) (binding : SyncBinding)
    (sourceKind : SourceKind) (sourceEventRef : Option String) :
    ((canonicalRequest request binding sourceKind sourceEventRef).get "operationId").bind
      Json.asStr = some request.operationId.text := by
  simp [canonicalRequest, JsonObject.get, List.lookup, Json.asStr]

/-- An admitted intent is one new operation with its one job; a replay
changes nothing. -/
theorem persistIssueAction_step (sha256 : String → String) (rules : Board.Discipline)
    (wf : s.WellFormed) {intent : IssueIntent} {operation : Operation}
    (hIntent : ∀ executionOperationId argumentDigest, rules.intent s.board
      (intent.operation sha256 executionOperationId argumentDigest))
    (h : persistIssueAction sha256 intent s = .ok (operation, t)) :
    t.WellFormed ∧ (t = s ∨ (Board.Move rules s.board t.board ∧
      ∃ executionOperationId arguments,
        providerArguments intent.request intent.connection =
          .ok (executionOperationId, arguments) ∧
        (∀ o ∈ s.board.operations, o.id ≠ intent.operationUuid) ∧
        t.board = { s.board.add [intent.job] with
          operations := s.board.operations ++ [intent.operation sha256 executionOperationId
            (sha256 (Json.dumps (.obj arguments)))] })) := by
  unfold persistIssueAction at h
  rw [fetch_bind] at h
  cases hExisting : s.operations.find? (fun row =>
      row.scope == intent.scope && row.connectionId == intent.connection.id &&
        row.idempotencyKey == intent.request.idempotencyKey) with
  | some row =>
      simp only [hExisting, bind_eq_ok, require_eq_ok, readOperation_eq_ok] at h
      obtain ⟨_, _, ⟨_, rfl⟩, _, _, rfl⟩ := h
      exact ⟨wf, Or.inl rfl⟩
  | none =>
      cases hArguments : providerArguments intent.request intent.connection with
      | error e => simp [hExisting, hArguments] at h
      | ok arguments =>
          simp only [hExisting, hArguments] at h
          obtain ⟨_, _, hValid, h⟩ := bind_eq_ok.mp h
          obtain ⟨hOperationValid, rfl⟩ := require_eq_ok.mp hValid
          obtain ⟨_, admitted, hInsert, h⟩ := bind_eq_ok.mp h
          obtain ⟨_, _, hRequire, h⟩ := bind_eq_ok.mp h
          obtain ⟨hJobValid, rfl⟩ := require_eq_ok.mp hRequire
          obtain ⟨_, enqueued, hJob, h⟩ := bind_eq_ok.mp h
          simp only [pure_apply, Except.ok.injEq, Prod.mk.injEq] at h
          obtain ⟨_, rfl⟩ := h
          obtain ⟨wfAdmitted, hAdmitted, hFresh, hScope⟩ := insertOperation_step wf hInsert
          obtain ⟨wfEnqueued, hEnqueued, hFreshJob⟩ := insertJob_step wfAdmitted hJob
          rw [hAdmitted] at hFreshJob
          rw [hEnqueued, hAdmitted]
          refine ⟨wfEnqueued, Or.inr ⟨?_, _, _, rfl, hFresh, rfl⟩⟩
          exact Board.Move.enqueue _ intent.job hFresh hScope ⟨rfl, rfl, rfl⟩ hOperationValid
            (hIntent _ _) ⟨hFreshJob.identifier, hFreshJob.connection, hFreshJob.key⟩ hJobValid
            rfl rfl rfl (canonicalRequest_operationId _ _ _ _) rfl rfl ⟨rfl, rfl⟩

theorem enqueueDelivery_step (rules : Board.Discipline) (wf : s.WellFormed)
    {intent : DeliveryIntent} {u : Unit} (h : enqueueDelivery intent s = .ok (u, t)) :
    t.WellFormed ∧ Board.Move rules s.board t.board ∧
      t.board.jobs = s.board.jobs ++ [intent.job] := by
  unfold enqueueDelivery at h
  obtain ⟨_, _, hRequire, h⟩ := bind_eq_ok.mp h
  obtain ⟨hValid, rfl⟩ := require_eq_ok.mp hRequire
  obtain ⟨wfAfter, hAfter, hFresh⟩ := insertJob_step wf h
  rw [hAfter]
  refine ⟨wfAfter, ?_, rfl⟩
  refine Board.Move.deliver intent.job hFresh hValid ?_ rfl rfl rfl rfl
  unfold DeliveryIntent.job
  cases intent.kind
  · exact Or.inl rfl
  · exact Or.inr rfl

theorem administer_step (rules : Board.Discipline) (wf : s.WellFormed)
    {connections : List IntegrationConnection} {syncBindings : List SyncBinding}
    {actorBindings : List ActorBinding} {events : List WeComInboundEvent} {u : Unit}
    (h : administer connections syncBindings actorBindings events s = .ok (u, t)) :
    t.WellFormed ∧ Board.Move rules s.board t.board := by
  simp only [administer, store_apply, Except.ok.injEq, Prod.mk.injEq, true_and] at h
  subst h
  exact ⟨⟨wf.jobRows, wf.operationRows, wf.jobIds, wf.operationIds⟩,
    Board.Move.extend connections⟩

end Methods

/-- The job an Authority answer is recorded on, if the call records one. -/
def Call.authorityTarget : Call → Option UUID
  | .markAwaitingAuthority jobId .. => some jobId
  | .prepareAuthorityEnqueue jobId .. => some jobId
  | .updateAuthorityEvidence jobId .. => some jobId
  | .markAuthorityResultUnknown jobId .. => some jobId
  | _ => none

/-- The operations a call may admit, for any provider arguments. -/
def Call.admits (sha256 : String → String) (call : Call) (operation : Operation) : Prop :=
  match call with
  | .persistIssueAction intent => ∃ executionOperationId argumentDigest,
      operation = intent.operation sha256 executionOperationId argumentDigest
  | _ => False

/-- The caller keeps the rules in this call. -/
structure Call.Keeps (sha256 : String → String) (rules : Board.Discipline) (s : Store)
    (call : Call) : Prop where
  authority : ∀ job ∈ s.board.jobs, call.authorityTarget = some job.id → rules.authority job
  intent : ∀ operation, call.admits sha256 operation → rules.intent s.board operation

theorem Taken.moves {rules : Board.Discipline} {s t : Store} {turn : Turn} {job : OutboxJob}
    (h : Taken s t turn job) (hAuthority : turn.recordsAuthority = true → rules.authority job) :
    t.WellFormed ∧ Board.Moves rules s.board t.board :=
  ⟨h.wellFormed, Relation.ReflTransGen.single (h.move hAuthority)⟩

theorem Selected.authority {sha256 : String → String} {rules : Board.Discipline} {s : Store}
    {call : Call} {jobId : UUID} {state : JobState} {claimFence : Nat} {job : OutboxJob}
    (hKeeps : call.Keeps sha256 rules s) (hTarget : call.authorityTarget = some jobId)
    (h : Selected s jobId state claimFence job) : rules.authority job :=
  hKeeps.authority job h.mem (hTarget.trans (congrArg some h.id_eq.symm))

/-- The body of a committed call is a sequence of moves. -/
theorem Call.body_moves (sha256 : String → String) (rules : Board.Discipline) {s t : Store}
    {call : Call} {answer : Answer} (wf : s.WellFormed) (hKeeps : call.Keeps sha256 rules s)
    (h : call.body sha256 s = .ok (answer, t)) :
    t.WellFormed ∧ Board.Moves rules s.board t.board := by
  cases call with
  | persistIssueAction intent =>
      obtain ⟨_, _, hMethod, hPure⟩ := bind_eq_ok.mp h
      cases hPure
      obtain ⟨wfAfter, rfl | ⟨hMove, _⟩⟩ := persistIssueAction_step sha256 rules wf
        (fun e d => hKeeps.intent _ ⟨e, d, rfl⟩) hMethod
      · exact ⟨wf, Relation.ReflTransGen.refl⟩
      · exact ⟨wfAfter, Relation.ReflTransGen.single hMove⟩
  | enqueueDelivery intent =>
      obtain ⟨_, _, hMethod, hPure⟩ := bind_eq_ok.mp h
      cases hPure
      obtain ⟨wfAfter, hMove, _⟩ := enqueueDelivery_step rules wf hMethod
      exact ⟨wfAfter, Relation.ReflTransGen.single hMove⟩
  | claimReadyJob workerId now leaseSeconds =>
      obtain ⟨_, _, hMethod, hPure⟩ := bind_eq_ok.mp h
      cases hPure
      rcases claimReadyJob_taken wf hMethod with ⟨_, rfl, _⟩ | ⟨job, _, hTaken, _⟩
      · exact ⟨wf, Relation.ReflTransGen.refl⟩
      · exact hTaken.moves (by simp [Turn.recordsAuthority])
  | markSending jobId claimFence now =>
      obtain ⟨_, _, hMethod, hPure⟩ := bind_eq_ok.mp h
      cases hPure
      obtain ⟨job, _, hTaken⟩ := markSending_taken wf hMethod
      exact hTaken.moves (by simp [Turn.recordsAuthority])
  | failClaimedJob jobId claimFence reasonCode moment replyUuid replyUuid' =>
      obtain ⟨_, _, hMethod, hPure⟩ := bind_eq_ok.mp h
      cases hPure
      obtain ⟨job, _, hTaken⟩ := failClaimedJob_taken wf hMethod
      exact hTaken.moves (by simp [Turn.recordsAuthority])
  | markAwaitingAuthority jobId claimFence invocationId authorityState moment =>
      obtain ⟨_, _, hMethod, hPure⟩ := bind_eq_ok.mp h
      cases hPure
      obtain ⟨job, hSelected, hTaken⟩ := markAwaitingAuthority_taken wf hMethod
      exact hTaken.moves fun _ => hSelected.authority hKeeps rfl
  | prepareAuthorityEnqueue jobId claimFence candidate moment =>
      obtain ⟨_, _, hMethod, hPure⟩ := bind_eq_ok.mp h
      cases hPure
      obtain ⟨job, key, hSelected, hTaken⟩ := prepareAuthorityEnqueue_taken wf hMethod
      exact hTaken.moves fun _ => hSelected.authority hKeeps rfl
  | updateAuthorityEvidence jobId claimFence invocationId authorityState moment =>
      obtain ⟨_, _, hMethod, hPure⟩ := bind_eq_ok.mp h
      cases hPure
      obtain ⟨job, hSelected, hTaken⟩ := updateAuthorityEvidence_taken wf hMethod
      exact hTaken.moves fun _ => hSelected.authority hKeeps rfl
  | markAuthorityResultUnknown jobId claimFence invocationId moment replyUuid =>
      obtain ⟨_, _, hMethod, hPure⟩ := bind_eq_ok.mp h
      cases hPure
      obtain ⟨job, hSelected, hTaken⟩ := markAuthorityResultUnknown_taken wf hMethod
      exact hTaken.moves fun _ => hSelected.authority hKeeps rfl
  | beginAuthorizedExecution principal operationId bindingId executionOperationId argumentDigest
      authorityInvocationId leaseSeconds moment =>
      obtain ⟨_, _, hMethod, hPure⟩ := bind_eq_ok.mp h
      cases hPure
      obtain ⟨job, _, _, _, hTaken⟩ := beginAuthorizedExecution_taken wf hMethod
      exact hTaken.moves (by simp [Turn.recordsAuthority])
  | finishJob jobId claimFence status evidence receipt clock replyUuid =>
      obtain ⟨_, _, hMethod, hPure⟩ := bind_eq_ok.mp h
      cases hPure
      obtain ⟨job, moment, _, hTaken⟩ := finishJob_taken wf hMethod
      exact hTaken.moves (by simp [Turn.recordsAuthority])
  | recoverExpiredClaims now draw =>
      obtain ⟨_, _, hMethod, hPure⟩ := bind_eq_ok.mp h
      cases hPure
      obtain ⟨wfAfter, hMoves, _⟩ := recoverExpiredClaims_moves rules wf hMethod
      exact ⟨wfAfter, hMoves⟩
  | retryReadonlyJob jobId claimFence now retryAfterSeconds replyUuid =>
      obtain ⟨_, _, hMethod, hPure⟩ := bind_eq_ok.mp h
      cases hPure
      obtain ⟨job, turn, _, hTaken, ⟨_, _, rfl⟩ | ⟨_, _, _, rfl⟩⟩ :=
        retryReadonlyJob_taken wf hMethod
      · exact hTaken.moves (by simp [Turn.recordsAuthority])
      · exact hTaken.moves (by simp [Turn.recordsAuthority])
  | resolveUnknownOperation principal operationId succeeded result grant now auditUuid =>
      obtain ⟨_, _, hMethod, hPure⟩ := bind_eq_ok.mp h
      cases hPure
      obtain ⟨operation, hMem, _, hState, wfAfter, hBoard⟩ :=
        resolveUnknownOperation_step wf hMethod
      refine ⟨wfAfter, Relation.ReflTransGen.single ?_⟩
      rw [hBoard]
      exact Board.Move.resolve operation succeeded result now hMem hState
  | administer connections syncBindings actorBindings events =>
      obtain ⟨_, _, hMethod, hPure⟩ := bind_eq_ok.mp h
      cases hPure
      obtain ⟨wfAfter, hMove⟩ := administer_step rules wf hMethod
      exact ⟨wfAfter, Relation.ReflTransGen.single hMove⟩

/-- The store refines the board: a call that commits is a sequence of moves,
one that raises is none. -/
theorem perform_refines (sha256 : String → String) (rules : Board.Discipline) {s : Store}
    {call : Call} (wf : s.WellFormed) (hKeeps : call.Keeps sha256 rules s) :
    (perform sha256 call s).2.WellFormed ∧
      Board.Moves rules s.board (perform sha256 call s).2.board := by
  rcases commit_cases (call.body sha256) s with ⟨answer, t, hBody, hCommit⟩ | ⟨e, _, hCommit⟩
  · rw [perform, hCommit]
    exact Call.body_moves sha256 rules wf hKeeps hBody
  · rw [perform, hCommit]
    exact ⟨wf, Relation.ReflTransGen.refl⟩

end CyreneExchange.Integrations
