import CyreneExchange.Integrations.Outbox.Evidence
import CyreneExchange.Integrations.Outbox.Fencing
import CyreneExchange.Integrations.Outbox.Recovery

/-! Failing a claimed job before any external effect. Its reply is enqueued twice
under one unique key, so the denial of a chat command never commits. -/
namespace CyreneExchange.Integrations

open Machine Transaction

/-- The job carries out a chat command that is answered. -/
def Store.owesReply (s : Store) (row : JobRow) : Bool :=
  row.kind == .issueAction &&
    s.operations.any fun o => row.operationId == some o.id && o.document.replyable

/-- The job of `row` and its operation failed from `s` to `t`, and the reply that
is owed was enqueued. -/
structure Store.Denied (s t : Store) (row : JobRow) : Prop where
  job : ∃ r ∈ t.outboxJobs, r.id = row.id ∧ r.state = .failed
  operation : row.kind = .issueAction →
    ∃ o ∈ t.operations, row.operationId = some o.id ∧ o.state = .failed
  replies : ∀ operationId, t.jobsNaming .commandReply operationId =
    s.jobsNaming .commandReply operationId +
      if s.owesReply row ∧ row.operationId = some operationId then 1 else 0
  inserted : t.outboxJobs.length = s.outboxJobs.length + if s.owesReply row then 1 else 0

/-- The call with the row's fence commits and denies the job. -/
def Store.FailsClaimed (s : Store) (row : JobRow) (reasonCode : String) (moment : Timestamp)
    (replyUuid replyUuid' : UUID) : Prop :=
  ∃ job t, commit (failClaimedJob row.id row.claimFence reasonCode moment replyUuid replyUuid') s =
    (.ok job, t) ∧ s.Denied t row

section Commits

variable {s t : Store} {job : OutboxJob} {operation : Operation} {now : Timestamp}

theorem insertEvidence_ok (s : Store) (row : JobEvidence)
    (h : ∀ e ∈ s.jobEvidence, e.jobId = row.jobId → e.claimFence ≠ row.claimFence) :
    insertEvidence row s = .ok ((), { s with jobEvidence := s.jobEvidence ++ [row] }) := by
  have hNew : (s.jobEvidence.all fun e =>
      e.jobId != row.jobId || e.claimFence != row.claimFence) = true := by
    rw [List.all_eq_true]
    intro e he
    by_cases hId : e.jobId = row.jobId
    · simp [h e he hId]
    · simp [hId]
  unfold insertEvidence
  rw [fetch_bind]
  exact bind_of_ok (require_of_true hNew _ s)

theorem markReplyEvent_ok (job : OutboxJob) (eligible : WeComInboundEvent → Bool)
    (state : WeComEventState) (s : Store) :
    ∃ t, markReplyEvent job eligible state s = .ok ((), t) := by
  unfold markReplyEvent
  split
  · cases (job.payload.get "eventId").bind Json.asStr with
    | none => exact ⟨s, rfl⟩
    | some eventRef =>
        simp only [fetch_bind]
        cases s.wecomInboundEvents.find?
            (fun event => event.id.text == eventRef && eligible event) with
        | none => exact ⟨s, rfl⟩
        | some event => exact ⟨_, rfl⟩
  · exact ⟨s, rfl⟩

/-- An operation that is not answered is read and left alone. -/
theorem enqueueReplyForOperation_unanswered (wf : s.WellFormed)
    (hMem : operation ∈ s.board.operations) (hValid : operation.valid = true)
    (hReply : operation.replyable = false) (state : JobState) (evidence : JsonObject)
    (now : Timestamp) (replyUuid : UUID) :
    enqueueReplyForOperation operation.id state evidence now replyUuid s = .ok ((), s) := by
  have hRead : readOperation (OperationRow.ofOperation operation) s = .ok (operation, s) :=
    readOperation_eq_ok.mpr ⟨hValid, rfl, rfl⟩
  unfold enqueueReplyForOperation selectOperation
  rw [fetch_bind, select_of_mem wf hMem]
  refine (bind_of_ok hRead).trans ?_
  unfold enqueueCommandReply
  rw [if_neg (by simp [hReply])]
  rfl

/-- The operation of a job that has not been sent passes its model. -/
theorem Board.Durable.claimed_operation {b : Board} (h : b.Durable) (hJob : job ∈ b.jobs)
    (hKind : job.kind = .issueAction) (hState : job.state = .claimed)
    (hMem : operation ∈ b.operations) (hNames : job.operationId = some operation.id) :
    operation.valid = true := by
  have hAgree := h.coherent.agree job hJob hKind operation hMem hNames
  obtain ⟨hInvocation, hKey⟩ := hAgree.authority (by rw [hState]; rfl)
  have hValid := (h.bounded job hJob).valid (by rw [hState]; rfl)
  obtain ⟨_, hJobInvocation, hJobKey⟩ := OutboxJob.valid_iff.mp hValid
  refine Operation.valid_iff.mpr ⟨h.intents operation hMem, ?_, ?_⟩
  · rw [hInvocation]
    exact hJobInvocation
  · rw [hKey]
    exact hJobKey

theorem select_claimed_of_mem (wf : s.WellFormed) (hJob : job ∈ s.board.jobs)
    (hState : job.state = .claimed) :
    selectClaimed job.id job.claimFence s = .ok (some (JobRow.ofJob job), s) := by
  refine selectClaimed_eq_ok.mpr ⟨?_, rfl⟩
  have hSelected : ((JobRow.ofJob job).id == job.id && (JobRow.ofJob job).state == .claimed &&
      (JobRow.ofJob job).claimFence == job.claimFence) = true := by
    simp [JobRow.ofJob, hState]
  cases hFind : s.outboxJobs.find? (fun row =>
      row.id == job.id && row.state == .claimed && row.claimFence == job.claimFence) with
  | none => exact absurd hSelected (List.find?_eq_none.mp hFind _ (wf.ofJob_mem hJob))
  | some row =>
      obtain ⟨hRow, hMatch⟩ := find_some_eq hFind
      simp only [Bool.and_eq_true, beq_iff_eq] at hMatch
      rw [wf.jobIds.eq hRow (wf.ofJob_mem hJob) hMatch.1.1]

/-- A denied operation that is not answered runs to its end. -/
theorem denyOperation_ok (wf : s.WellFormed) (hMem : operation ∈ s.board.operations)
    (hValid : operation.valid = true) (hReply : operation.replyable = false)
    (evidence : JsonObject) (moment : Timestamp) (replyUuid replyUuid' : UUID) :
    ∃ t, (do
      updateOperationState operation.id .failed moment (some evidence)
      enqueueReplyForOperation operation.id .failed evidence moment replyUuid
      enqueueReplyForOperation operation.id .failed evidence moment replyUuid') s =
        .ok ((), t) := by
  obtain ⟨t, hUpdate, _⟩ := updateOperationState_ok moment wf hMem hValid .failed (some evidence)
  obtain ⟨wfAfter, hBoard⟩ := updateOperationState_step wf hUpdate
  have hSettled : Turn.settle .failed (some evidence) moment operation ∈ t.board.operations := by
    rw [hBoard]
    exact Table.mem_updateWhere_of_pos hMem (beq_self_eq_true _)
  have hNone : ∀ uuid, enqueueReplyForOperation operation.id .failed evidence moment uuid t =
      .ok ((), t) := fun uuid =>
    enqueueReplyForOperation_unanswered wfAfter hSettled hValid hReply _ _ _ uuid
  exact ⟨t, (bind_of_ok hUpdate).trans ((bind_of_ok (hNone replyUuid)).trans (hNone replyUuid'))⟩

/-- A claimed job that owes no reply is denied. -/
theorem failClaimedJob_commits (h : s.Durable) (hAccounted : s.Accounted)
    (hJob : job ∈ s.board.jobs) (hState : job.state = .claimed)
    (hOwes : job.kind = .issueAction → ∀ o ∈ s.board.operations, job.operationId = some o.id →
      o.replyable = false) (reasonCode : String) (moment : Timestamp)
    (replyUuid replyUuid' : UUID) :
    ∃ failed t, failClaimedJob job.id job.claimFence reasonCode moment replyUuid replyUuid' s =
      .ok (failed, t) := by
  have hHeld : job.state.held = true := by rw [hState]; rfl
  have hValid := (h.board.bounded job hJob).valid (by rw [hState]; rfl)
  have hRow : (expectRow (some (JobRow.ofJob job)) (.conflict "job claim is stale") :
      StoreTransaction JobRow) s = .ok (JobRow.ofJob job, s) := expectRow_eq_ok.mpr ⟨rfl, rfl⟩
  have hRead : readJob (JobRow.ofJob job) s = .ok (job, s) :=
    readJob_eq_ok.mpr ⟨hValid, rfl, rfl⟩
  let evidence : JsonObject := [("reasonCode", .str (clip 100 reasonCode))]
  obtain ⟨written, hWrite⟩ : ∃ written, persistJob (job.settled .failed moment) s =
      .ok ((), written) := ⟨_, rfl⟩
  have hEvidence : written.jobEvidence = s.jobEvidence := by
    cases hWrite
    rfl
  obtain ⟨wfWritten, hWritten⟩ := persistJob_step h.wellFormed hJob
    (Turn.job_sameIntent (.deny evidence moment) job) hWrite
  have hRecord := insertEvidence_ok written ⟨job.id, job.claimFence, evidence⟩
    (by rw [hEvidence]; exact hAccounted.unrecorded h.wellFormed hJob hHeld)
  have hQuiet := insertEvidence_step hRecord
  generalize ({ written with jobEvidence := _ } : Store) = recorded at hRecord hQuiet
  obtain ⟨denied, hDeny⟩ : ∃ denied, (forOperation
      (if job.kind = .issueAction then job.operationId else none) fun operationId => do
        updateOperationState operationId .failed moment (some evidence)
        enqueueReplyForOperation operationId .failed evidence moment replyUuid
        enqueueReplyForOperation operationId .failed evidence moment replyUuid') recorded =
          .ok ((), denied) := by
    by_cases hKind : job.kind = .issueAction
    · obtain ⟨operation, hMem, hNames⟩ := h.board.coherent.issue job hJob hKind
      have hRecorded : operation ∈ recorded.board.operations := by
        rw [hQuiet.board, hWritten]
        exact hMem
      rw [if_pos hKind, hNames]
      exact denyOperation_ok (hQuiet.wellFormed wfWritten) hRecorded
        (h.board.claimed_operation hJob hKind hState hMem hNames)
        (hOwes hKind operation hMem hNames) _ _ _ _
    · rw [if_neg hKind]
      exact ⟨recorded, rfl⟩
  obtain ⟨t, hMark⟩ := markReplyEvent_ok job (fun _ => true) .rejected denied
  refine ⟨job.settled .failed moment, t, ?_⟩
  unfold failClaimedJob
  refine (bind_of_ok (select_claimed_of_mem h.wellFormed hJob hState)).trans ?_
  refine (bind_of_ok hRow).trans ((bind_of_ok hRead).trans ((bind_of_ok hWrite).trans ?_))
  refine (bind_of_ok hRecord).trans ((bind_of_ok hDeny).trans ((bind_of_ok hMark).trans ?_))
  rfl

/-- A denial that commits enqueued no reply: the second one would have been
refused. -/
theorem failClaimedJob_unanswered (wf : s.WellFormed) {jobId : UUID} {claimFence : Nat}
    {reasonCode : String} {moment : Timestamp} {replyUuid replyUuid' : UUID} {failed : OutboxJob}
    (hJob : job ∈ s.board.jobs) (hId : job.id = jobId) (hKind : job.kind = .issueAction)
    (hMem : operation ∈ s.board.operations) (hNames : job.operationId = some operation.id)
    (h : failClaimedJob jobId claimFence reasonCode moment replyUuid replyUuid' s =
      .ok (failed, t)) : operation.replyable = false := by
  unfold failClaimedJob at h
  simp only [bind_eq_ok, selectClaimed_eq_ok, expectRow_eq_ok, readJob_eq_ok, pure_apply,
    Except.ok.injEq, Prod.mk.injEq] at h
  obtain ⟨_, _, ⟨rfl, rfl⟩, row, _, ⟨hFind, rfl⟩, _, _, ⟨_, rfl, rfl⟩, _, written, hPersist, _,
    recorded, hEvidence, _, marked, hFor, _⟩ := h
  have hSelected := selected_claimed wf hFind
  have hRow : row.document = job := wf.job_eq hSelected.mem hJob (hSelected.id_eq.trans hId.symm)
  rw [hRow] at hPersist hFor
  obtain ⟨wfWritten, hWritten⟩ := persistJob_step wf hJob
    (Turn.job_sameIntent (.deny [("reasonCode", .str (clip 100 reasonCode))] moment) job) hPersist
  have hQuiet := insertEvidence_step hEvidence
  rw [if_pos hKind, hNames] at hFor
  obtain ⟨_, settled, hUpdate, hReplies⟩ := bind_eq_ok.mp hFor
  obtain ⟨_, answered, hReply, hAgain⟩ := bind_eq_ok.mp hReplies
  obtain ⟨wfSettled, hSettled⟩ :=
    updateOperationState_step (hQuiet.wellFormed wfWritten) hUpdate
  have hSame := Turn.settle_sameIntent .failed
    (some [("reasonCode", .str (clip 100 reasonCode))]) moment operation
  have hFound : settled.board.find (some operation.id) = some (Turn.settle .failed
      (some [("reasonCode", .str (clip 100 reasonCode))]) moment operation) := by
    refine wfSettled.find_eq_some.mpr ⟨?_, hSame.id_eq⟩
    rw [hSettled, hQuiet.board, hWritten]
    exact Table.mem_updateWhere_of_pos hMem (beq_self_eq_true _)
  cases hReplyable : operation.replyable with
  | false => rfl
  | true =>
      rw [← hSame.replyable_eq] at hReplyable
      exact absurd hAgain (enqueueReplyForOperation_refused wfSettled hFound hReplyable hReply)

end Commits

section Outcome

variable {s t : Store} {row : JobRow}

theorem Store.owesReply_iff (wf : s.WellFormed) (hRow : row ∈ s.outboxJobs) :
    s.owesReply row = true ↔ row.document.kind = .issueAction ∧
      ∃ o ∈ s.board.operations, row.document.operationId = some o.id ∧ o.replyable = true := by
  have hKind : row.kind = row.document.kind := congrArg JobRow.kind (wf.jobRows row hRow)
  simp only [Store.owesReply, Bool.and_eq_true, beq_iff_eq, List.any_eq_true, hKind,
    wf.row_operationId hRow]
  refine and_congr_right fun _ => ⟨?_, ?_⟩
  · rintro ⟨o, ho, hNames, hReply⟩
    refine ⟨o.document, Store.WellFormed.mem_operations ho, ?_, hReply⟩
    rw [hNames, wf.operationRow_id ho]
  · rintro ⟨o, ho, hNames, hReply⟩
    exact ⟨OperationRow.ofOperation o, wf.ofOperation_mem ho, hNames, hReply⟩

/-- A denial without a reply leaves exactly the failed job and operation. -/
theorem Taken.denied (hDurable : s.Durable) (hRow : row ∈ s.outboxJobs)
    {evidence : JsonObject} {moment : Timestamp} (hOwes : s.owesReply row = false)
    (h : Taken s t (.deny evidence moment) row.document) : s.Denied t row := by
  have wf := hDurable.wellFormed
  have hKind : row.kind = row.document.kind := congrArg JobRow.kind (wf.jobRows row hRow)
  obtain ⟨replies, hAnswers, hBoard⟩ := h.after
  have hNone : replies = [] := by
    rw [List.eq_nil_iff_forall_not_mem]
    intro reply hReply
    obtain ⟨o, _, _, _, _, _, hNotice, hFind, hReplyable, _⟩ := hAnswers.of_mem hReply
    have hOwed : s.owesReply row = true := by
      refine (Store.owesReply_iff wf hRow).mpr ⟨?_, ?_⟩
      · by_contra hOther
        simp [Turn.notice, hOther] at hNotice
      · cases hNames : row.document.operationId with
        | none =>
            rw [hNames, Board.find_none] at hFind
            cases hFind
        | some operationId =>
            rw [hNames] at hFind
            obtain ⟨hMem, rfl⟩ := wf.find_eq_some.mp hFind
            exact ⟨o, hMem, rfl, hReplyable⟩
    rw [hOwes] at hOwed
    cases hOwed
  subst hNone
  refine ⟨?_, ?_, ?_, ?_⟩
  · refine ⟨JobRow.ofJob (row.document.settled .failed moment), h.wellFormed.ofJob_mem ?_, ?_, rfl⟩
    · rw [hBoard]
      exact @Board.take_self _ _ (.deny evidence moment) _ h.before
    · exact (wf.row_id hRow).symm
  · intro hIssue
    rw [hKind] at hIssue
    obtain ⟨o, hMem, hNames⟩ :=
      hDurable.board.coherent.issue _ (Store.WellFormed.mem_jobs hRow) hIssue
    refine ⟨OperationRow.ofOperation (Turn.settle .failed (some evidence) moment o),
      h.wellFormed.ofOperation_mem ?_, ?_, rfl⟩
    · rw [hBoard]
      exact Board.mem_take_operations.mpr ⟨o, hMem, Or.inl ⟨hNames, by simp [Turn.operation, hIssue]⟩⟩
    · rw [wf.row_operationId hRow, hNames]
      rfl
  · intro operationId
    rw [jobsNaming_eq h.wellFormed, jobsNaming_eq wf, hBoard,
      Board.count_take h.before wf.keyed]
    simp [hOwes]
  · have hLength : t.board.jobs.length = s.board.jobs.length := by
      rw [hBoard]
      simp [Board.take, Board.add, Board.amend, Board.setJob, Table.updateWhere]
    simpa [Store.board, hOwes] using hLength

/-- The claimed job of a durable store is denied exactly when it owes no reply. -/
theorem Store.Durable.failsClaimed_iff (h : s.Durable) (hAccounted : s.Accounted)
    (hRow : row ∈ s.outboxJobs) (hState : row.state = .claimed) (reasonCode : String)
    (moment : Timestamp) (replyUuid replyUuid' : UUID) :
    s.FailsClaimed row reasonCode moment replyUuid replyUuid' ↔ s.owesReply row = false := by
  have wf := h.wellFormed
  have hJob := Store.WellFormed.mem_jobs hRow
  rw [wf.row_state hRow] at hState
  constructor
  · rintro ⟨failed, t, hCommit, _⟩
    have hBody := commit_eq_ok (congrArg Prod.fst hCommit)
    cases hOwes : s.owesReply row with
    | false => rfl
    | true =>
        obtain ⟨hKind, o, hMem, hNames, hReply⟩ := (Store.owesReply_iff wf hRow).mp hOwes
        have hSilent := failClaimedJob_unanswered wf hJob (wf.row_id hRow).symm hKind hMem hNames
          hBody
        rw [hReply] at hSilent
        cases hSilent
  · intro hOwes
    obtain ⟨failed, t, hBody⟩ := failClaimedJob_commits h hAccounted hJob hState
      (fun hKind o hMem hNames => by
        cases hReply : o.replyable with
        | false => rfl
        | true =>
            rw [(Store.owesReply_iff wf hRow).mpr ⟨hKind, o, hMem, hNames, hReply⟩] at hOwes
            cases hOwes) reasonCode moment replyUuid replyUuid'
    rw [← wf.row_id hRow, ← wf.row_fence hRow] at hBody
    obtain ⟨job, hSelected, hTaken⟩ := failClaimedJob_taken wf hBody
    have hSame : job = row.document :=
      wf.job_eq hSelected.mem hJob (hSelected.id_eq.trans (wf.row_id hRow))
    rw [hSame] at hTaken
    exact ⟨failed, t, commit_of_ok hBody, hTaken.denied h hRow hOwes⟩

/-- Another fence than the job's own raises and changes nothing. -/
theorem failClaimedJob_stale (wf : s.WellFormed) (hRow : row ∈ s.outboxJobs) {claimFence : Nat}
    (hFence : claimFence ≠ row.claimFence) (reasonCode : String) (moment : Timestamp)
    (replyUuid replyUuid' : UUID) :
    ∃ e, commit (failClaimedJob row.id claimFence reasonCode moment replyUuid replyUuid') s =
      (.error e, s) := by
  rcases commit_cases (failClaimedJob row.id claimFence reasonCode moment replyUuid replyUuid') s
    with ⟨failed, t, hBody, _⟩ | ⟨e, _, hCommit⟩
  · obtain ⟨job, hSelected, _⟩ := failClaimedJob_taken wf hBody
    refine absurd (hSelected.not_stale wf) (not_not.mpr ?_)
    intro r hr hId hEq
    rw [wf.jobIds.eq hr hRow hId] at hEq
    exact hFence hEq.symm
  · exact ⟨e, hCommit⟩

end Outcome

/-- In every reachable store, failing a claimed job under its fence commits and
denies it if and only if the job owes no reply to a chat command; under another
fence it raises and changes nothing. -/
theorem failClaimedJob_denies_iff (sha256 : String → String) (calls : List Call)
    (hPromised : Admitted (perform sha256) Promised calls Store.initial) :
    ∀ row ∈ (run (perform sha256) calls Store.initial).outboxJobs,
      ∀ reasonCode moment replyUuid replyUuid',
        (row.state = .claimed →
          ((run (perform sha256) calls Store.initial).FailsClaimed row reasonCode moment replyUuid
            replyUuid' ↔ (run (perform sha256) calls Store.initial).owesReply row = false)) ∧
        ∀ claimFence, claimFence ≠ row.claimFence →
          ∃ e, commit (failClaimedJob row.id claimFence reasonCode moment replyUuid replyUuid')
            (run (perform sha256) calls Store.initial) =
              (.error e, run (perform sha256) calls Store.initial) := by
  have hDurable := (perform_preserves_durable sha256).run Store.initial_durable hPromised
  have hAccounted := ((perform_preserves_accounted sha256).run
    ⟨Store.initial_wellFormed, Store.initial_accounted⟩
    (admitted_of_forall (fun _ _ => trivial) calls Store.initial)).2
  intro row hRow reasonCode moment replyUuid replyUuid'
  refine ⟨fun hState => ?_, fun claimFence hFence => ?_⟩
  · exact hDurable.failsClaimed_iff hAccounted hRow hState reasonCode moment replyUuid replyUuid'
  · exact failClaimedJob_stale hDurable.wellFormed hRow hFence reasonCode moment replyUuid
      replyUuid'

/-- An action that was requested over REST, and claimed. -/
def sampleRestClaim : List Call := [
  .administer [sampleConnection] [sampleBinding] [sampleActor] [sampleEvent],
  .persistIssueAction { sampleIntent with
    sourceKind := .rest
    sourceEventRef := none
    reply := {} },
  .claimReadyJob "worker" 0 60]

theorem failClaimedJob_denies_iff_sample :
    ∃ row ∈ (run (perform fun _ => "digest") sampleRestClaim Store.initial).outboxJobs,
      row.state = .claimed ∧
      (run (perform fun _ => "digest") sampleRestClaim Store.initial).FailsClaimed row "denied" 1
        (sampleId '2') (sampleId '3') := by
  obtain ⟨row, hRow, hState, hOwes⟩ :
      ∃ row ∈ (run (perform fun _ => "digest") sampleRestClaim Store.initial).outboxJobs,
        row.state = .claimed ∧ (run (perform fun _ => "digest") sampleRestClaim
          Store.initial).owesReply row = false := by decide
  have hDenies := failClaimedJob_denies_iff (fun _ => "digest") sampleRestClaim (by decide) row
    hRow "denied" 1 (sampleId '2') (sampleId '3')
  exact ⟨row, hRow, hState, (hDenies.1 hState).mpr hOwes⟩

/-- The denial of a claimed chat command raises. -/
theorem denied_command_raises :
    Admitted (perform fun _ => "digest") Promised
      (sampleSetup ++ [.claimReadyJob "worker" 0 60]) Store.initial ∧
    raised (failClaimedJob (sampleId '1') 1 "denied" 1 (sampleId '2') (sampleId '3'))
      (run (perform fun _ => "digest") (sampleSetup ++ [.claimReadyJob "worker" 0 60])
        Store.initial) = some .integrityError ∧
    ∃ row ∈ (run (perform fun _ => "digest") (sampleSetup ++ [.claimReadyJob "worker" 0 60])
        Store.initial).outboxJobs, row.state = .claimed ∧
      ¬ (run (perform fun _ => "digest") (sampleSetup ++ [.claimReadyJob "worker" 0 60])
        Store.initial).FailsClaimed row "denied" 1 (sampleId '2') (sampleId '3') := by
  have hRaised : raised (failClaimedJob (sampleId '1') 1 "denied" 1 (sampleId '2') (sampleId '3'))
      (run (perform fun _ => "digest") (sampleSetup ++ [.claimReadyJob "worker" 0 60])
        Store.initial) = some .integrityError := by decide
  obtain ⟨row, hRow, hState, hId, hFence⟩ :
      ∃ row ∈ (run (perform fun _ => "digest") (sampleSetup ++ [.claimReadyJob "worker" 0 60])
        Store.initial).outboxJobs, row.state = .claimed ∧ row.id = sampleId '1' ∧
          row.claimFence = 1 := by decide
  refine ⟨by decide, hRaised, row, hRow, hState, ?_⟩
  rintro ⟨failed, t, hCommit, _⟩
  have hBody := commit_eq_ok (congrArg Prod.fst hCommit)
  rw [hId, hFence] at hBody
  simp only [raised, hBody, reduceCtorEq] at hRaised

end CyreneExchange.Integrations
