import CyreneExchange.Integrations.Outbox.Fencing

/-! The retry budget of read-only queries. The counter it is tested against is
raised by every claim and every authorized execution of the job, whatever the
claim was for. -/
namespace CyreneExchange.Integrations

open Machine Transaction

/-- The state of a job, if it exists. -/
def Store.stateOf (s : Store) (jobId : UUID) : Option JobState :=
  (s.outboxJobs.find? fun row => row.id == jobId).map JobRow.state

/-- The call brought the job into SENDING. -/
def startsSending (jobId : UUID) (e : Event Store Call (Except StoreError Answer)) : Bool :=
  e.before.stateOf jobId != some .sending && e.after.stateOf jobId == some .sending

/-- The call claimed the job or began its authorized execution. -/
def handsOut (jobId : UUID) (e : Event Store Call (Except StoreError Answer)) : Bool :=
  (handedOut jobId e).isSome

/-- The call records that the provider read of the query failed retryably, or
recovers the query after its worker was lost while sending. -/
def ReadFails (row : JobRow) (e : Event Store Call (Except StoreError Answer)) : Prop :=
  row ∈ e.before.outboxJobs ∧ row.state = .sending ∧ row.document.isReadonlyQuery = true ∧
    (∃ answer, e.output = .ok answer) ∧
    match e.input with
    | .retryReadonlyJob jobId .. => jobId = row.id
    | .recoverExpiredClaims now _ => row.lapsed now = true
    | _ => False

/-- The attempts of a job, or zero before the job exists. -/
def Board.attemptsOf (b : Board) (jobId : UUID) : Nat :=
  ((b.jobs.find? fun job => job.id == jobId).map OutboxJob.attempts).getD 0

section Attempts

variable {s t : Store} {b : Board} {job : OutboxJob} {turn : Turn} {jobId : UUID}

theorem Board.Keyed.attemptsOf_eq (hKeyed : b.Keyed) (hJob : job ∈ b.jobs) :
    b.attemptsOf job.id = job.attempts := by
  unfold Board.attemptsOf
  rw [hKeyed.find_job hJob]
  rfl

/-- New jobs have not been attempted. -/
theorem Board.attemptsOf_append {c : Board} (added : List OutboxJob)
    (hJobs : c.jobs = b.jobs ++ added) (hNew : ∀ j ∈ added, j.attempts = 0) (jobId : UUID) :
    c.attemptsOf jobId = b.attemptsOf jobId := by
  unfold Board.attemptsOf
  rw [hJobs, List.find?_append]
  cases b.jobs.find? (fun j => j.id == jobId) with
  | some found => rfl
  | none =>
      simp only [Option.none_or, Option.map_none, Option.getD_none]
      cases hAdded : added.find? (fun j => j.id == jobId) with
      | none => rfl
      | some j => exact hNew j (List.mem_of_find?_eq_some hAdded)

/-- A reconciled job keeps its attempts. -/
theorem Board.attemptsOf_resolve (operation : Operation) (succeeded : Bool) (result : JsonObject)
    (now : Timestamp) :
    (b.resolve operation succeeded result now).attemptsOf jobId = b.attemptsOf jobId := by
  have hJobs : (b.resolve operation succeeded result now).jobs = Table.updateWhere
      (fun j => succeeded && j.operationId == some operation.id && j.state == .unknown)
      (OutboxJob.reconciled now) b.jobs := rfl
  unfold Board.attemptsOf
  rw [hJobs, Table.find_updateWhere]
  · cases b.jobs.find? (fun j => j.id == jobId) with
    | none => rfl
    | some found =>
        simp only [Option.map_some, Option.getD_some]
        split <;> rfl
  · intro j _ _
    rfl

/-- A turn counts for its own job only. -/
theorem Taken.attemptsOf (wf : s.WellFormed) (h : Taken s t turn job) (jobId : UUID) :
    t.board.attemptsOf jobId =
      if job.id = jobId then (turn.job job).attempts else s.board.attemptsOf jobId := by
  obtain ⟨replies, hAnswers, hBoard⟩ := h.after
  have hReplies : ∀ r ∈ replies, r.attempts = 0 := by
    intro r hr
    obtain ⟨o, name, state, evidence, now, replyUuid, _, _, _, hReply, _⟩ := hAnswers.of_mem hr
    rw [hReply]
    rfl
  have hSet : t.board.attemptsOf jobId = (s.board.setJob (turn.job job)).attemptsOf jobId :=
    Board.attemptsOf_append replies (by rw [hBoard]; rfl) hReplies jobId
  rw [hSet]
  have same := (turn.job_sameIntent job).id_eq
  have hKeyed : (s.board.setJob (turn.job job)).Keyed := by
    refine ⟨wf.keyed.jobs.updateWhere ?_, wf.keyed.operations⟩
    intro j _ hId
    rw [beq_iff_eq] at hId
    exact hId.symm
  by_cases hId : job.id = jobId
  · have hMem : turn.job job ∈ (s.board.setJob (turn.job job)).jobs :=
      Table.mem_updateWhere_of_pos (f := fun _ => turn.job job) h.before (by simp [same])
    rw [if_pos hId, ← hId, ← same, hKeyed.attemptsOf_eq hMem]
  · rw [if_neg hId]
    unfold Board.attemptsOf Board.setJob
    rw [Table.find_updateWhere]
    · cases hFind : s.board.jobs.find? (fun j => j.id == jobId) with
      | none => rfl
      | some found =>
          obtain ⟨_, hFound⟩ := find_some_eq hFind
          have hOther : found.id ≠ (turn.job job).id := by
            rw [same, beq_iff_eq.mp hFound]
            exact fun hEq => hId hEq.symm
          simp [hOther]
    · intro j _ hEq
      rw [beq_iff_eq] at hEq
      rw [hEq]

/-- Every turn but a claim and the start of an execution leaves the count. -/
theorem Taken.attempts_kept (wf : s.WellFormed) (h : Taken s t turn job)
    (hTurn : (turn.job job).attempts = job.attempts) (jobId : UUID) :
    t.board.attemptsOf jobId = s.board.attemptsOf jobId := by
  rw [h.attemptsOf wf jobId]
  split
  · next hId => rw [hTurn, ← hId, wf.keyed.attemptsOf_eq h.before]
  · rfl

/-- A claim or an execution counts once for the job it is handed out for. -/
theorem Taken.attempts_raised (wf : s.WellFormed) (h : Taken s t turn job)
    (hTurn : (turn.job job).attempts = job.attempts + 1) (jobId : UUID) :
    t.board.attemptsOf jobId =
      s.board.attemptsOf jobId + if job.id = jobId then 1 else 0 := by
  rw [h.attemptsOf wf jobId]
  split
  · next hId => rw [hTurn, ← hId, wf.keyed.attemptsOf_eq h.before]
  · rfl

end Attempts

section Counting

variable (sha256 : String → String) {s : Store}

/-- A committed call raises the attempts of a job exactly when it hands the job
out. -/
theorem Call.body_attempts {t : Store} {call : Call} {answer : Answer} (wf : s.WellFormed)
    (h : call.body sha256 s = .ok (answer, t)) (jobId : UUID) :
    t.board.attemptsOf jobId = s.board.attemptsOf jobId +
      if handsOut jobId ⟨s, call, .ok answer, t⟩ = true then 1 else 0 := by
  cases call with
  | claimReadyJob workerId now leaseSeconds =>
      obtain ⟨_, _, hMethod, hPure⟩ := bind_eq_ok.mp h
      cases hPure
      rcases claimReadyJob_taken wf hMethod with ⟨rfl, rfl, _⟩ | ⟨job, rfl, hTaken, _⟩
      · rfl
      · rw [hTaken.attempts_raised wf rfl]
        by_cases hId : job.id = jobId <;> simp [handsOut, handedOut, OutboxJob.claimedBy, hId]
  | beginAuthorizedExecution principal operationId bindingId executionOperationId argumentDigest
      authorityInvocationId leaseSeconds moment =>
      obtain ⟨execution, _, hMethod, hPure⟩ := bind_eq_ok.mp h
      cases hPure
      obtain ⟨job, _, hJob, _, hTaken⟩ := beginAuthorizedExecution_taken wf hMethod
      rw [hTaken.attempts_raised wf rfl]
      by_cases hId : job.id = jobId <;> simp [handsOut, handedOut, hJob, Turn.job, hId]
  | persistIssueAction intent =>
      obtain ⟨_, _, hMethod, hPure⟩ := bind_eq_ok.mp h
      cases hPure
      obtain ⟨_, rfl | ⟨_, _, _, _, _, hBoard⟩⟩ := persistIssueAction_step sha256
        Board.Discipline.free wf (fun _ _ => trivial) hMethod
      · rfl
      · have hJobs : t.board.jobs = s.board.jobs ++ [intent.job] := congrArg Board.jobs hBoard
        exact Board.attemptsOf_append _ hJobs (fun j hj => by rw [List.mem_singleton.mp hj]; rfl)
          jobId
  | enqueueDelivery intent =>
      obtain ⟨_, _, hMethod, hPure⟩ := bind_eq_ok.mp h
      cases hPure
      obtain ⟨_, _, hJobs⟩ := enqueueDelivery_step Board.Discipline.free wf hMethod
      exact Board.attemptsOf_append _ hJobs (fun j hj => by rw [List.mem_singleton.mp hj]; rfl) jobId
  | markSending jobId' claimFence now =>
      obtain ⟨_, _, hMethod, hPure⟩ := bind_eq_ok.mp h
      cases hPure
      obtain ⟨job, _, hTaken⟩ := markSending_taken wf hMethod
      exact hTaken.attempts_kept wf rfl jobId
  | failClaimedJob jobId' claimFence reasonCode moment replyUuid replyUuid' =>
      obtain ⟨_, _, hMethod, hPure⟩ := bind_eq_ok.mp h
      cases hPure
      obtain ⟨job, _, hTaken⟩ := failClaimedJob_taken wf hMethod
      exact hTaken.attempts_kept wf rfl jobId
  | markAwaitingAuthority jobId' claimFence invocationId authorityState moment =>
      obtain ⟨_, _, hMethod, hPure⟩ := bind_eq_ok.mp h
      cases hPure
      obtain ⟨job, _, hTaken⟩ := markAwaitingAuthority_taken wf hMethod
      exact hTaken.attempts_kept wf rfl jobId
  | prepareAuthorityEnqueue jobId' claimFence candidate moment =>
      obtain ⟨_, _, hMethod, hPure⟩ := bind_eq_ok.mp h
      cases hPure
      obtain ⟨job, key, _, hTaken⟩ := prepareAuthorityEnqueue_taken wf hMethod
      exact hTaken.attempts_kept wf rfl jobId
  | updateAuthorityEvidence jobId' claimFence invocationId authorityState moment =>
      obtain ⟨_, _, hMethod, hPure⟩ := bind_eq_ok.mp h
      cases hPure
      obtain ⟨job, _, hTaken⟩ := updateAuthorityEvidence_taken wf hMethod
      exact hTaken.attempts_kept wf rfl jobId
  | markAuthorityResultUnknown jobId' claimFence invocationId moment replyUuid =>
      obtain ⟨_, _, hMethod, hPure⟩ := bind_eq_ok.mp h
      cases hPure
      obtain ⟨job, _, hTaken⟩ := markAuthorityResultUnknown_taken wf hMethod
      exact hTaken.attempts_kept wf rfl jobId
  | finishJob jobId' claimFence status evidence receipt clock replyUuid =>
      obtain ⟨_, _, hMethod, hPure⟩ := bind_eq_ok.mp h
      cases hPure
      obtain ⟨job, moment, _, hTaken⟩ := finishJob_taken wf hMethod
      exact hTaken.attempts_kept wf rfl jobId
  | retryReadonlyJob jobId' claimFence now retryAfterSeconds replyUuid =>
      obtain ⟨_, _, hMethod, hPure⟩ := bind_eq_ok.mp h
      cases hPure
      obtain ⟨job, turn, _, hTaken, ⟨_, _, rfl⟩ | ⟨_, _, _, rfl⟩⟩ :=
        retryReadonlyJob_taken wf hMethod
      · exact hTaken.attempts_kept wf rfl jobId
      · exact hTaken.attempts_kept wf rfl jobId
  | recoverExpiredClaims now draw =>
      obtain ⟨_, _, hMethod, hPure⟩ := bind_eq_ok.mp h
      cases hPure
      refine (recoverExpiredClaims_step
        (R := fun a b => b.board.attemptsOf jobId = a.board.attemptsOf jobId) (fun _ => rfl)
        (fun hab hbc => hbc.trans hab) ?_ wf hMethod).2.1
      intro a b row wfBefore hTaken
      refine hTaken.attempts_kept wfBefore ?_ jobId
      unfold OutboxJob.recoveryTurn
      split
      · rfl
      · cases row.document.lapsedSend <;> rfl
  | resolveUnknownOperation principal operationId succeeded result grant now auditUuid =>
      obtain ⟨_, _, hMethod, hPure⟩ := bind_eq_ok.mp h
      cases hPure
      obtain ⟨operation, _, _, _, _, hBoard⟩ := resolveUnknownOperation_step wf hMethod
      rw [hBoard, Board.attemptsOf_resolve]
      rfl
  | administer connections syncBindings actorBindings events =>
      obtain ⟨_, _, hMethod, hPure⟩ := bind_eq_ok.mp h
      cases hPure
      cases hMethod
      rfl

theorem perform_attempts (wf : s.WellFormed) (call : Call) (jobId : UUID) :
    (perform sha256 call s).2.board.attemptsOf jobId = s.board.attemptsOf jobId +
      if handsOut jobId ⟨s, call, (perform sha256 call s).1, (perform sha256 call s).2⟩ = true
        then 1 else 0 := by
  rcases commit_cases (call.body sha256) s with ⟨answer, t, hBody, hCommit⟩ | ⟨e, _, hCommit⟩
  · rw [perform, hCommit]
    exact call.body_attempts sha256 wf hBody jobId
  · rw [perform, hCommit]
    rfl

/-- The attempts of a job count the times it was handed out. -/
theorem run_attempts (calls : List Call) (jobId : UUID) :
    (run (perform sha256) calls Store.initial).board.attemptsOf jobId =
      (trace (perform sha256) calls Store.initial).countP (handsOut jobId) := by
  have hCount := counter_eq_countP (fun s : Store => s.board.attemptsOf jobId) (handsOut jobId)
    (perform_preserves_wellFormed sha256)
    (fun s call wf _ => perform_attempts sha256 wf call jobId) Store.initial_wellFormed
    (admitted_of_forall (fun _ _ => trivial) calls Store.initial)
  rw [hCount]
  exact Nat.zero_add _

theorem Store.WellFormed.stateOf_eq (wf : s.WellFormed) {job : OutboxJob}
    (hJob : job ∈ s.board.jobs) : s.stateOf job.id = some job.state := by
  unfold Store.stateOf
  cases hFind : s.outboxJobs.find? (fun row => row.id == job.id) with
  | none => simpa [JobRow.ofJob] using List.find?_eq_none.mp hFind _ (wf.ofJob_mem hJob)
  | some row =>
      obtain ⟨hRow, hId⟩ := find_some_eq hFind
      rw [wf.jobIds.eq hRow (wf.ofJob_mem hJob) (beq_iff_eq.mp hId)]
      rfl

/-- A lapsed send goes back to the queue while its counter is below four. -/
theorem OutboxJob.recovered_ready_iff {job : OutboxJob} {now : Timestamp}
    (hState : job.state = .sending) (hQuery : job.isReadonlyQuery = true) :
    (job.recovered now).state = .ready ↔ job.attempts < 4 := by
  have hNotClaimed : job.state ≠ .claimed := by rw [hState]; decide
  unfold OutboxJob.recovered
  rw [if_neg hNotClaimed]
  by_cases hAttempts : job.attempts < 4
  · simp [OutboxJob.lapsedSend, hQuery, hAttempts, OutboxJob.requeued, OutboxJob.settled]
  · simp [OutboxJob.lapsedSend, hQuery, hAttempts, OutboxJob.settled]

/-- A failed read goes back to the queue exactly while the counter of its job is
below four. -/
theorem readFails_requeued_iff {row : JobRow} {call : Call} (wf : s.WellFormed)
    (h : ReadFails row ⟨s, call, (perform sha256 call s).1, (perform sha256 call s).2⟩) :
    (perform sha256 call s).2.stateOf row.id = some .ready ↔ row.document.attempts < 4 := by
  obtain ⟨hRow, hState, hQuery, ⟨answer, hOutput⟩, hCall⟩ := h
  have hJob := Store.WellFormed.mem_jobs hRow
  have hId := wf.row_id hRow
  have hBody := commit_eq_ok hOutput
  change call.body sha256 s = .ok (answer, (perform sha256 call s).2) at hBody
  generalize (perform sha256 call s).2 = t at hBody ⊢
  cases call
  case retryReadonlyJob jobId claimFence now retryAfterSeconds replyUuid =>
    obtain ⟨_, _, hMethod, hPure⟩ := bind_eq_ok.mp hBody
    cases hPure
    obtain ⟨job, turn, hSelected, hTaken, hTurn⟩ := retryReadonlyJob_taken wf hMethod
    have hSame : job = row.document :=
      wf.job_eq hSelected.mem hJob ((hSelected.id_eq.trans hCall).trans hId)
    obtain ⟨replies, _, hBoard⟩ := hTaken.after
    have hAfter : turn.job job ∈ t.board.jobs := hBoard ▸ Board.take_self hTaken.before
    have hStateOf := hTaken.wellFormed.stateOf_eq hAfter
    rw [(turn.job_sameIntent job).id_eq, hSame, ← hId] at hStateOf
    rw [hSame] at hTurn
    rw [hStateOf]
    rcases hTurn with ⟨hSpent, _, rfl⟩ | ⟨hLeft, _, _, rfl⟩
    · refine ⟨fun hReady => ?_, fun hLeft => absurd hLeft (Nat.not_lt.mpr hSpent)⟩
      cases hReady
    · exact ⟨fun _ => hLeft, fun _ => rfl⟩
  case recoverExpiredClaims now draw =>
    obtain ⟨_, _, hMethod, hPure⟩ := bind_eq_ok.mp hBody
    cases hPure
    obtain ⟨wfAfter, _, hRecovered⟩ :=
      recoverExpiredClaims_moves Board.Discipline.free wf hMethod
    have hStateOf := wfAfter.stateOf_eq (hRecovered row hRow hCall)
    have hSame : (row.document.recovered now).id = row.id := by
      rw [← OutboxJob.recoveryTurn_job, (Turn.job_sameIntent _ _).id_eq, hId]
    rw [hSame] at hStateOf
    rw [hStateOf, Option.some.injEq]
    rw [wf.row_state hRow] at hState
    exact OutboxJob.recovered_ready_iff hState hQuery
  all_goals exact hCall.elim

end Counting

/-- Every failed read goes back to the queue exactly while its job has entered
SENDING less than four times. -/
def RetriesBySends (history : List (Event Store Call (Except StoreError Answer))) : Prop :=
  ∀ earlier e later row, history = earlier ++ e :: later → ReadFails row e →
    (e.after.stateOf row.id = some .ready ↔ earlier.countP (startsSending row.id) < 4)

/-- At every failed read, less than four claims and executions were handed out for
the job exactly when it entered SENDING less than four times. -/
def ClaimsMatchSends (history : List (Event Store Call (Except StoreError Answer))) : Prop :=
  ∀ earlier e later row, history = earlier ++ e :: later → ReadFails row e →
    (earlier.countP (handsOut row.id) < 4 ↔ earlier.countP (startsSending row.id) < 4)

/-- In every run, failed reads are retried by the number of their sends if and only
if the claims and executions of their jobs run out with the sends. -/
theorem retries_by_sends_iff (sha256 : String → String) (calls : List Call) :
    RetriesBySends (trace (perform sha256) calls Store.initial) ↔
      ClaimsMatchSends (trace (perform sha256) calls Store.initial) := by
  have hRequeued : ∀ earlier e later row,
      trace (perform sha256) calls Store.initial = earlier ++ e :: later → ReadFails row e →
        (e.after.stateOf row.id = some .ready ↔ earlier.countP (handsOut row.id) < 4) := by
    intro earlier e later row hTrace hFails
    obtain ⟨first, second, _, rfl, hLater⟩ := trace_eq_append hTrace
    have wf := run_wellFormed sha256 first Store.initial_wellFormed
    cases second with
    | nil => cases hLater
    | cons call second =>
        obtain ⟨rfl, _⟩ := List.cons.inj hLater
        have hRow := hFails.1
        rw [readFails_requeued_iff sha256 wf hFails, ← run_attempts sha256 first row.id,
          wf.row_id hRow, wf.keyed.attemptsOf_eq (Store.WellFormed.mem_jobs hRow)]
  constructor
  · intro h earlier e later row hTrace hFails
    exact (hRequeued earlier e later row hTrace hFails).symm.trans
      (h earlier e later row hTrace hFails)
  · intro h earlier e later row hTrace hFails
    exact (hRequeued earlier e later row hTrace hFails).trans
      (h earlier e later row hTrace hFails)

/-- A query whose Authority decision is polled twice before it is executed. -/
def samplePolledQuery : List Call := [
  .administer [sampleConnection] [sampleBinding] [sampleActor] [sampleEvent],
  .persistIssueAction { sampleIntent with
    request := { sampleIntent.request with operationId := .query } },
  .claimReadyJob "worker" 0 60,
  .prepareAuthorityEnqueue (sampleId '1') 1 "key" 0,
  .markAwaitingAuthority (sampleId '1') 1 "invocation" .pending 0,
  .claimReadyJob "worker" 0 60,
  .updateAuthorityEvidence (sampleId '1') 2 "invocation" .pending 0,
  .claimReadyJob "worker" (seconds 2) 60,
  .updateAuthorityEvidence (sampleId '1') 3 "invocation" .pending (seconds 2),
  .beginAuthorizedExecution
    { samplePrincipal with allowedOperationIds := ["integrationExecuteIssueQuery"] }
    (sampleId '0') (sampleId 'b') "integrationExecuteIssueQuery" "digest" "invocation" 60
    (seconds 4)]

/-- The provider read fails for the first time. -/
def sampleReadFailure : Call := .retryReadonlyJob (sampleId '1') 4 (seconds 5) none (sampleId '2')

/-- The first failed read is the last. -/
theorem polled_query_is_not_retried :
    ((trace (perform fun _ => "digest") samplePolledQuery Store.initial).countP
      (startsSending (sampleId '1')) = 1) ∧
    ((run (perform fun _ => "digest") (samplePolledQuery ++ [sampleReadFailure])
      Store.initial).stateOf (sampleId '1') = some .failed) ∧
    ¬ RetriesBySends (trace (perform fun _ => "digest") (samplePolledQuery ++ [sampleReadFailure])
      Store.initial) := by
  have hSends : (trace (perform fun _ => "digest") samplePolledQuery Store.initial).countP
      (startsSending (sampleId '1')) = 1 := by decide +kernel
  have hFailed : (run (perform fun _ => "digest") (samplePolledQuery ++ [sampleReadFailure])
      Store.initial).stateOf (sampleId '1') = some .failed := by decide +kernel
  refine ⟨hSends, hFailed, ?_⟩
  intro hRetries
  obtain ⟨row, hRow, hId, hState, hQuery⟩ :
      ∃ row ∈ (run (perform fun _ => "digest") samplePolledQuery Store.initial).outboxJobs,
        row.id = sampleId '1' ∧ row.state = .sending ∧ row.document.isReadonlyQuery = true := by
    decide +kernel
  have hOk : (perform (fun _ => "digest") sampleReadFailure
      (run (perform fun _ => "digest") samplePolledQuery Store.initial)).1.isOk = true := by
    decide +kernel
  have hTrace := @trace_append _ _ _ (perform fun _ => "digest") samplePolledQuery
    [sampleReadFailure] Store.initial
  have hAnswer : ∃ answer, (perform (fun _ => "digest") sampleReadFailure
      (run (perform fun _ => "digest") samplePolledQuery Store.initial)).1 = .ok answer := by
    generalize (perform (fun _ => "digest") sampleReadFailure _).1 = output at hOk
    cases output with
    | ok answer => exact ⟨answer, rfl⟩
    | error e => cases hOk
  have hStep := hRetries _ _ _ row hTrace ⟨hRow, hState, hQuery, hAnswer, hId.symm⟩
  rw [hId, hSends] at hStep
  rw [run_append] at hFailed
  have hReady := hStep.mpr (by decide)
  exact absurd (hFailed.symm.trans hReady) (by decide)

end CyreneExchange.Integrations
