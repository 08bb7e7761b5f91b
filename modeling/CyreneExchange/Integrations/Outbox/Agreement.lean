import CyreneExchange.Integrations.Outbox.Runs

/-! Every operation has one ISSUE_ACTION job and agrees with it in every
reachable store, and a chat command is answered exactly once. The worker
promises to record Authority answers on ISSUE_ACTION jobs only, as its
dispatch on the job kind does. -/
namespace CyreneExchange.Integrations

open Machine

/-- The states of an operation whose outcome has been announced. -/
def OperationState.settled : OperationState → Bool
  | .accepted | .succeeded | .failed | .unknown => true
  | _ => false

/-- Which operation states go with a job state. -/
def agrees : JobState → OperationState → Bool
  | .ready, .queued => true
  | .claimed, .queued => true
  | .claimed, .awaitingAuthority => true
  | .awaitingAuthority, .awaitingAuthority => true
  | .sending, .running => true
  | .accepted, .accepted => true
  | .succeeded, .succeeded => true
  | .failed, .failed => true
  | .unknown, .unknown => true
  | _, _ => false

/-- An ISSUE_ACTION job and its operation. An unsent job waits for the
Authority exactly when it carries an invocation. -/
structure Agree (job : OutboxJob) (operation : Operation) : Prop where
  states : agrees job.state operation.state = true
  waiting : job.state.spent = false →
    (operation.state = .awaitingAuthority ↔ job.authorityInvocationId.isSome) ∧
      job.authorityInvocationId ≠ some ""
  authority : job.state.settled = false →
    operation.authorityInvocationId = job.authorityInvocationId ∧
      operation.authorityIdempotencyKey = job.authorityIdempotencyKey

section Turns

variable {job : OutboxJob} {operation : Operation} {turn : Turn}

theorem Agree.settled_eq (h : Agree job operation) :
    operation.state.settled = job.state.settled := by
  have hStates := h.states
  cases hJob : job.state <;> cases hOperation : operation.state <;>
    simp [hJob, hOperation, agrees, JobState.settled, OperationState.settled] at hStates ⊢

theorem agrees_finish {status : JobState} {state : OperationState}
    (h : finishOperationState status = some state) :
    agrees status state = true ∧ status.settled = true ∧ state.settled = true := by
  cases status <;> cases h <;> exact ⟨rfl, rfl, rfl⟩

/-- A pair of settled states needs no more than its agreement. -/
theorem Agree.of_settled (hStates : agrees job.state operation.state = true)
    (hSettled : job.state.settled = true) : Agree job operation := by
  refine ⟨hStates, fun hSpent => ?_, fun hUnsettled => ?_⟩
  · rw [JobState.spent_of_settled hSettled] at hSpent
    cases hSpent
  · rw [hSettled] at hUnsettled
    cases hUnsettled

/-- A pair in flight needs no invocation to wait for. -/
theorem Agree.of_sending (hJob : job.state = .sending) (hOperation : operation.state = .running)
    (hAuthority : operation.authorityInvocationId = job.authorityInvocationId ∧
      operation.authorityIdempotencyKey = job.authorityIdempotencyKey) : Agree job operation := by
  refine ⟨by rw [hJob, hOperation]; rfl, fun hSpent => ?_, fun _ => hAuthority⟩
  rw [hJob] at hSpent
  cases hSpent

/-- A turn keeps the agreement of an ISSUE_ACTION job with its operation. -/
theorem Agree.after_turn (h : Agree job operation) (hKind : job.kind = .issueAction)
    (hAllowed : turn.Allowed job (some operation)) :
    Agree (turn.job job) (turn.operation job operation) := by
  have hAuthority := h.authority hAllowed.unsettled
  cases turn with
  | claim workerId now leaseSeconds =>
      have hSpent : job.state.spent = false := by
        rcases hAllowed with hState | hState <;> rw [hState] <;> rfl
      refine ⟨?_, fun _ => h.waiting hSpent, fun _ => hAuthority⟩
      have hStates := h.states
      rcases hAllowed with hState | hState <;>
        cases hOperation : operation.state <;>
        simp [hState, hOperation, agrees, Turn.operation, Turn.job, OutboxJob.claimedBy]
          at hStates ⊢
  | send now =>
      apply Agree.of_sending rfl
      · simp [Turn.operation, hKind, Turn.settle]
      · simpa [Turn.operation, Turn.job, hKind, Turn.settle] using hAuthority
  | deny evidence now =>
      apply Agree.of_settled
      · simp [Turn.operation, Turn.job, OutboxJob.settled, hKind, Turn.settle, agrees]
      · rfl
  | await invocationId authorityState now =>
      refine ⟨rfl, fun _ => ⟨?_, ?_⟩, fun _ => ⟨rfl, hAuthority.2⟩⟩
      · simp [Turn.operation, Turn.job]
      · simpa [Turn.job] using hAllowed.2.1
  | prepare key now =>
      exact ⟨h.states, h.waiting, fun _ => ⟨hAuthority.1, rfl⟩⟩
  | poll authorityState now =>
      have hSpent : job.state.spent = false := by rw [hAllowed.1]; rfl
      have hWaiting : operation.state = .awaitingAuthority :=
        (h.waiting hSpent).1.mpr hAllowed.2
      have hOperation : (Turn.poll authorityState now).operation job operation =
          { operation with updatedAt := now } := by simp [Turn.operation, hWaiting]
      rw [hOperation]
      exact ⟨by rw [hWaiting]; rfl, fun _ => h.waiting hSpent, fun _ => hAuthority⟩
  | lose now => exact Agree.of_settled rfl rfl
  | begin invocationId now leaseSeconds => exact Agree.of_sending rfl rfl ⟨rfl, hAuthority.2⟩
  | finish status evidence now =>
      obtain ⟨state, hState⟩ := Option.isSome_iff_exists.mp hAllowed.2
      obtain ⟨hAgrees, hSettled, _⟩ := agrees_finish hState
      refine Agree.of_settled ?_ hSettled
      simpa [Turn.operation, Turn.job, OutboxJob.settled, hKind, hState, Turn.settle] using hAgrees
  | release now =>
      have hClaimed : job.state = .claimed := hAllowed
      have hSpent : job.state.spent = false := by rw [hClaimed]; rfl
      obtain ⟨hIff, hNonempty⟩ := h.waiting hSpent
      refine ⟨?_, fun _ => h.waiting hSpent, fun _ => hAuthority⟩
      have hStates := h.states
      rw [hClaimed] at hStates
      cases hInvocation : job.authorityInvocationId with
      | none =>
          cases hOperation : operation.state <;>
            simp [hOperation, hInvocation, agrees] at hStates hIff
          simp [Turn.job, Turn.operation, OutboxJob.settled, hInvocation, truthy, hOperation,
            agrees]
      | some invocationId =>
          have hWaiting : operation.state = .awaitingAuthority := hIff.mpr (by simp [hInvocation])
          have hText : invocationId ≠ "" := by simpa [hInvocation] using hNonempty
          simp [Turn.job, Turn.operation, OutboxJob.settled, hInvocation, truthy, hText, hWaiting,
            agrees]
  | requeue availableAt reason now =>
      refine ⟨rfl, fun _ => ⟨?_, ?_⟩, fun _ => ⟨rfl, rfl⟩⟩
      · simp [Turn.operation, Turn.settle, Turn.job, OutboxJob.requeued]
      · simp [Turn.job, OutboxJob.requeued]
  | exhaust reason now => exact Agree.of_settled rfl rfl
  | lapse reason now => exact Agree.of_settled rfl rfl

/-- A turn announces an outcome exactly when it settles its operation. -/
theorem Agree.notice_isSome (h : Agree job operation) (hKind : job.kind = .issueAction)
    (hAllowed : turn.Allowed job (some operation)) :
    (turn.notice job).isSome = (turn.operation job operation).state.settled := by
  have hOpen : operation.state.settled = false := h.settled_eq.trans hAllowed.unsettled
  cases turn with
  | claim | release => exact hOpen.symm
  | prepare => exact hOpen.symm
  | send | deny => simp [Turn.notice, Turn.operation, hKind, Turn.settle, OperationState.settled]
  | await | lose | begin | requeue | exhaust | lapse => rfl
  | poll authorityState now =>
      simp only [Turn.operation]
      split
      · exact hOpen.symm
      · exact hOpen.symm
  | finish status evidence now =>
      obtain ⟨state, hState⟩ := Option.isSome_iff_exists.mp hAllowed.2
      obtain ⟨_, _, hSettled⟩ := agrees_finish hState
      simp [Turn.notice, Turn.operation, hKind, hState, Turn.settle, hSettled]

end Turns

/-- The job is of the kind and carries out or answers the operation. -/
def OutboxJob.names (kind : JobKind) (operationId : UUID) (job : OutboxJob) : Bool :=
  job.kind == kind && job.operationId == some operationId

/-- What holds of the jobs and operations together in every reachable store. -/
structure Board.Coherent (b : Board) : Prop where
  keyed : b.Keyed
  issue : ∀ job ∈ b.jobs, job.kind = .issueAction →
    ∃ o ∈ b.operations, job.operationId = some o.id
  reply : ∀ job ∈ b.jobs, job.kind = .commandReply →
    ∃ o ∈ b.operations, job.operationId = some o.id ∧ o.replyable = true ∧
      job.idempotencyKey = some o.replyKey
  delivery : ∀ job ∈ b.jobs, job.kind = .notify ∨ job.kind = .challengeReply →
    job.operationId = none
  assigned : ∀ o ∈ b.operations, b.jobs.countP (OutboxJob.names .issueAction o.id) = 1
  agree : ∀ job ∈ b.jobs, job.kind = .issueAction → ∀ o ∈ b.operations,
    job.operationId = some o.id → Agree job o
  answered : ∀ o ∈ b.operations, b.jobs.countP (OutboxJob.names .commandReply o.id) =
    if o.replyable && o.state.settled then 1 else 0

/-- Authority answers are recorded on ISSUE_ACTION jobs only. -/
def Board.Discipline.dispatch : Board.Discipline :=
  ⟨fun job => job.kind = .issueAction, fun _ _ => True⟩

section Coherence

variable {b : Board} {job job' : OutboxJob} {operation operation' : Operation} {turn : Turn}
  {replies : List OutboxJob} {kind : JobKind} {operationId : UUID}

theorem OutboxJob.names_iff :
    job.names kind operationId = true ↔ job.kind = kind ∧ job.operationId = some operationId := by
  simp [OutboxJob.names]

theorem OutboxJob.SameIntent.names_eq (h : job.SameIntent job') :
    job'.names kind operationId = job.names kind operationId := by
  unfold OutboxJob.names
  rw [h.kind_eq, h.operationId_eq]

theorem Operation.SameIntent.replyKey_eq (h : operation.SameIntent operation') :
    operation'.replyKey = operation.replyKey := by
  rw [h]
  rfl

theorem Board.Keyed.find_eq (h : b.Keyed) (hMem : operation ∈ b.operations) :
    b.find (some operation.id) = some operation := by
  unfold Board.find
  cases hFind : b.operations.find? (fun o => some operation.id == some o.id) with
  | none => simpa using List.find?_eq_none.mp hFind operation hMem
  | some found =>
      obtain ⟨hFound, hId⟩ := find_some_eq hFind
      simp only [beq_iff_eq, Option.some.injEq] at hId
      rw [h.operations.eq hFound hMem hId.symm]

theorem Board.find_mem (h : b.find (some operationId) = some operation) :
    operation ∈ b.operations ∧ operation.id = operationId := by
  obtain ⟨hMem, hId⟩ := find_some_eq h
  simp only [beq_iff_eq, Option.some.injEq] at hId
  exact ⟨hMem, hId.symm⟩

/-- Counting the jobs that name an operation, across a turn. -/
theorem Board.count_take (hJob : job ∈ b.jobs) (hKeyed : b.Keyed) :
    (b.take turn job replies).jobs.countP (OutboxJob.names kind operationId) =
      b.jobs.countP (OutboxJob.names kind operationId) +
        replies.countP (OutboxJob.names kind operationId) := by
  have hTurned : (b.setJob (turn.job job)).jobs.countP (OutboxJob.names kind operationId) =
      b.jobs.countP (OutboxJob.names kind operationId) := by
    apply Table.countP_updateWhere
    intro j hj hId
    rw [beq_iff_eq, (turn.job_sameIntent job).id_eq] at hId
    rw [hKeyed.jobs.eq hj hJob hId]
    exact (turn.job_sameIntent job).names_eq
  exact List.countP_append.trans (congrArg (· + _) hTurned)

/-- The operations after a turn: the one the job names is amended. -/
theorem Board.mem_take_operations :
    operation' ∈ (b.take turn job replies).operations ↔ ∃ o ∈ b.operations,
      (job.operationId = some o.id ∧ operation' = turn.operation job o) ∨
      (job.operationId ≠ some o.id ∧ operation' = o) := by
  refine Table.mem_updateWhere.trans ?_
  simp only [beq_iff_eq, beq_eq_false_iff_ne]
  exact Iff.rfl

theorem Board.take_operation (hMem : operation ∈ b.operations) :
    ∃ o ∈ (b.take turn job replies).operations, operation.SameIntent o := by
  by_cases hNames : job.operationId = some operation.id
  · exact ⟨_, mem_take_operations.mpr ⟨operation, hMem, Or.inl ⟨hNames, rfl⟩⟩,
      turn.operation_sameIntent job operation⟩
  · exact ⟨operation, mem_take_operations.mpr ⟨operation, hMem, Or.inr ⟨hNames, rfl⟩⟩, rfl⟩

theorem Board.mem_take_jobs (h : job' ∈ (b.take turn job replies).jobs) :
    job' = turn.job job ∨ (job' ∈ b.jobs ∧ job'.id ≠ job.id) ∨ job' ∈ replies := by
  rcases List.mem_append.mp h with hOld | hNew
  · obtain ⟨j, hj, ⟨_, rfl⟩ | ⟨hId, rfl⟩⟩ := Table.mem_updateWhere.mp hOld
    · exact Or.inl rfl
    · rw [(turn.job_sameIntent job).id_eq] at hId
      exact Or.inr (Or.inl ⟨hj, beq_eq_false_iff_ne.mp hId⟩)
  · exact Or.inr (Or.inr hNew)

/-- A job after a turn carries the intent of a job before it, or is a reply. -/
theorem Board.take_origin (hJob : job ∈ b.jobs) (h : job' ∈ (b.take turn job replies).jobs) :
    (∃ j ∈ b.jobs, j.SameIntent job') ∨ job' ∈ replies := by
  rcases mem_take_jobs h with rfl | ⟨hOld, _⟩ | hNew
  · exact Or.inl ⟨job, hJob, turn.job_sameIntent job⟩
  · exact Or.inl ⟨job', hOld, rfl⟩
  · exact Or.inr hNew

namespace Board.Coherent

/-- An answered operation is settled. -/
theorem settled_of_reply (h : b.Coherent) (hJob : job ∈ b.jobs) (hKind : job.kind = .commandReply)
    (hOperation : operation ∈ b.operations) (hNames : job.operationId = some operation.id) :
    operation.state.settled = true := by
  have hCount := h.answered operation hOperation
  have hPos : 0 < b.jobs.countP (OutboxJob.names .commandReply operation.id) :=
    List.countP_pos_iff.mpr ⟨job, hJob, OutboxJob.names_iff.mpr ⟨hKind, hNames⟩⟩
  cases hSettled : operation.state.settled with
  | true => rfl
  | false =>
      simp only [hSettled, Bool.and_false, Bool.false_eq_true, if_false] at hCount
      omega

/-- A reply lost in flight cannot be given up: giving it up would enqueue the
same reply under its own key. -/
theorem no_lapsed_reply (h : b.Coherent) (hJob : job ∈ b.jobs) (hKind : job.kind = .commandReply)
    {reason : JsonObject} {now : Timestamp} :
    ¬ b.Answers (.lapse reason now) job replies := by
  intro hAnswers
  obtain ⟨o, hMem, hNames, hReply, hKey⟩ := h.reply job hJob hKind
  have hFind : b.find job.operationId = some o := by
    rw [hNames]
    exact h.keyed.find_eq hMem
  have hSame := (Turn.lapse reason now).operation_sameIntent job o
  simp only [Board.Answers, Turn.notice, hFind, Option.map_some, Board.Announced,
    hSame.replyable_eq, hReply, if_true] at hAnswers
  obtain ⟨name, replyUuid, rfl, hAll⟩ := hAnswers
  have hFresh := (hAll _ (List.mem_singleton_self _)).1
  refine hFresh.key job hJob rfl hKind ?_
  rw [hKey, ← hSame.replyKey_eq]
  rfl

/-- The turns of notifications and replies change no operation and enqueue no
reply. -/
theorem apart (h : b.Coherent) (hJob : job ∈ b.jobs) (hKind : job.kind ≠ .issueAction)
    (hAllowed : turn.Allowed job (b.find job.operationId))
    (hAuthority : turn.recordsAuthority = true → job.kind = .issueAction)
    (hAnswers : b.Answers turn job replies) :
    replies = [] ∧ ∀ o ∈ b.operations, job.operationId = some o.id → turn.operation job o = o := by
  cases hCase : job.kind with
  | issueAction => exact absurd hCase hKind
  | notify | challengeReply =>
      have hNone : job.operationId = none := h.delivery job hJob (by simp [hCase])
      refine ⟨?_, fun o _ hSome => by rw [hNone] at hSome; cases hSome⟩
      unfold Board.Answers at hAnswers
      rw [hNone, Board.find_none] at hAnswers
      cases hNotice : turn.notice job <;> rw [hNotice] at hAnswers <;> exact hAnswers
  | commandReply =>
      obtain ⟨o, hMem, hNames, hReply, hKey⟩ := h.reply job hJob hCase
      have hFind : b.find job.operationId = some o := by
        rw [hNames]
        exact h.keyed.find_eq hMem
      cases turn with
      | claim | release => exact ⟨hAnswers, fun _ _ _ => rfl⟩
      | send | deny | finish =>
          simp only [Board.Answers, Turn.notice, hCase, reduceCtorEq, if_false] at hAnswers
          exact ⟨hAnswers, fun x _ _ => by simp [Turn.operation, hCase]⟩
      | await | prepare | poll | lose => exact absurd (hAuthority rfl) hKind
      | begin invocationId now leaseSeconds =>
          obtain ⟨_, found, hFound, hState, _⟩ := hAllowed
          rw [hFind, Option.some.injEq] at hFound
          have hSettled := h.settled_of_reply hJob hCase hMem hNames
          rw [hFound] at hSettled
          rcases hState with hState | hState <;> rw [hState] at hSettled <;> cases hSettled
      | requeue | exhaust =>
          have hReadonly := hAllowed.2
          simp [OutboxJob.isReadonlyQuery, hCase] at hReadonly
      | lapse reason now =>
          exact absurd hAnswers (h.no_lapsed_reply hJob hCase)

/-- An operation has one ISSUE_ACTION job. -/
theorem issue_unique (h : b.Coherent) (hJob : job ∈ b.jobs) (hJob' : job' ∈ b.jobs)
    (hKind : job.kind = .issueAction) (hKind' : job'.kind = .issueAction)
    (hMem : operation ∈ b.operations) (hNames : job.operationId = some operation.id)
    (hNames' : job'.operationId = some operation.id) : job = job' :=
  Table.eq_of_countP_le_one (le_of_eq (h.assigned operation hMem)) hJob hJob'
    (OutboxJob.names_iff.mpr ⟨hKind, hNames⟩) (OutboxJob.names_iff.mpr ⟨hKind', hNames'⟩)

/-- The agreement of all pairs survives a turn. -/
theorem agree_take (h : b.Coherent) (hJob : job ∈ b.jobs)
    (hAllowed : turn.Allowed job (b.find job.operationId))
    (hAuthority : turn.recordsAuthority = true → job.kind = .issueAction)
    (hAnswers : b.Answers turn job replies) :
    ∀ j ∈ (b.take turn job replies).jobs, j.kind = .issueAction →
      ∀ o ∈ (b.take turn job replies).operations, j.operationId = some o.id → Agree j o := by
  intro j hj hKind o' ho' hNames
  obtain ⟨o, ho, hAmended⟩ := mem_take_operations.mp ho'
  have hId : o'.id = o.id := by
    rcases hAmended with ⟨_, rfl⟩ | ⟨_, rfl⟩
    · exact (turn.operation_sameIntent job o).id_eq
    · rfl
  rw [hId] at hNames
  rcases mem_take_jobs hj with rfl | ⟨hOld, hOther⟩ | hReply
  · rw [(turn.job_sameIntent job).kind_eq] at hKind
    rw [(turn.job_sameIntent job).operationId_eq] at hNames
    rcases hAmended with ⟨_, rfl⟩ | ⟨hNot, _⟩
    · rw [hNames, h.keyed.find_eq ho] at hAllowed
      exact (h.agree job hJob hKind o ho hNames).after_turn hKind hAllowed
    · exact absurd hNames hNot
  · rcases hAmended with ⟨hNamed, rfl⟩ | ⟨_, rfl⟩
    · by_cases hIssue : job.kind = .issueAction
      · exact absurd (congrArg OutboxJob.id (h.issue_unique hOld hJob hKind hIssue ho hNames hNamed))
          hOther
      · rw [(h.apart hJob hIssue hAllowed hAuthority hAnswers).2 o ho hNamed]
        exact h.agree j hOld hKind o ho hNames
    · exact h.agree j hOld hKind _ ho hNames
  · obtain ⟨_, _, _, _, _, _, _, _, _, rfl, _⟩ := hAnswers.of_mem hReply
    cases hKind

/-- Exactly the operations that are settled and answerable have a reply,
after a turn as before. -/
theorem answered_take (h : b.Coherent) (hJob : job ∈ b.jobs)
    (hAllowed : turn.Allowed job (b.find job.operationId))
    (hAuthority : turn.recordsAuthority = true → job.kind = .issueAction)
    (hAnswers : b.Answers turn job replies) :
    ∀ o ∈ (b.take turn job replies).operations,
      (b.take turn job replies).jobs.countP (OutboxJob.names .commandReply o.id) =
        if o.replyable && o.state.settled then 1 else 0 := by
  intro o' ho'
  obtain ⟨o, ho, hAmended⟩ := mem_take_operations.mp ho'
  rw [count_take hJob h.keyed]
  by_cases hIssue : job.kind = .issueAction
  · rcases hAmended with ⟨hNamed, rfl⟩ | ⟨hNot, rfl⟩
    · have hFind : b.find job.operationId = some o := by
        rw [hNamed]
        exact h.keyed.find_eq ho
      rw [hFind] at hAllowed
      have hAgree := h.agree job hJob hIssue o ho hNamed
      have same := turn.operation_sameIntent job o
      have hNone : b.jobs.countP (OutboxJob.names .commandReply o.id) = 0 := by
        rw [h.answered o ho, hAgree.settled_eq, hAllowed.unsettled, Bool.and_false]
        rfl
      rw [same.id_eq, hNone, same.replyable_eq, ← hAgree.notice_isSome hIssue hAllowed, Nat.zero_add]
      unfold Board.Answers at hAnswers
      cases hNotice : turn.notice job with
      | none =>
          rw [hNotice] at hAnswers
          rw [show replies = [] from hAnswers, Option.isSome_none, Bool.and_false]
          rfl
      | some notice =>
          rw [hNotice, hFind] at hAnswers
          simp only [Option.map_some, Board.Announced, same.replyable_eq] at hAnswers
          cases hReply : o.replyable with
          | false =>
              simp only [hReply, Bool.false_eq_true, if_false] at hAnswers
              rw [hAnswers]
              rfl
          | true =>
              simp only [hReply, if_true] at hAnswers
              obtain ⟨name, replyUuid, rfl, _⟩ := hAnswers
              simp [Operation.reply, OutboxJob.names, same.id_eq]
    · rw [h.answered _ ho]
      have hReplies : replies.countP (OutboxJob.names .commandReply o'.id) = 0 := by
        rw [List.countP_eq_zero]
        intro reply hReply hNames
        obtain ⟨o1, _, _, _, _, _, _, hFound, _, rfl, _⟩ := hAnswers.of_mem hReply
        obtain ⟨x, hx, hxId⟩ := h.issue job hJob hIssue
        rw [hxId, h.keyed.find_eq hx, Option.some.injEq] at hFound
        have hId := (OutboxJob.names_iff.mp hNames).2
        simp only [Operation.reply, (turn.operation_sameIntent job o1).id_eq] at hId
        exact hNot (by rw [hxId, hFound, hId])
      rw [hReplies, Nat.add_zero]
  · obtain ⟨rfl, hSame⟩ := h.apart hJob hIssue hAllowed hAuthority hAnswers
    have hEq : o' = o := by
      rcases hAmended with ⟨hNamed, rfl⟩ | ⟨_, rfl⟩
      · exact hSame o ho hNamed
      · rfl
    rw [hEq, h.answered o ho]
    rfl

/-- A job that still carries an intent of the board still names what it named. -/
theorem issue_of_same {c : Board} (h : b.Coherent)
    (hOperations : ∀ o ∈ b.operations, ∃ o' ∈ c.operations, o.SameIntent o')
    (hJob : job ∈ b.jobs) (same : job.SameIntent job') (hKind : job'.kind = .issueAction) :
    ∃ o ∈ c.operations, job'.operationId = some o.id := by
  rw [same.kind_eq] at hKind
  obtain ⟨o, ho, hNames⟩ := h.issue job hJob hKind
  obtain ⟨o', ho', hSame⟩ := hOperations o ho
  exact ⟨o', ho', by rw [same.operationId_eq, hNames, hSame.id_eq]⟩

theorem reply_of_same {c : Board} (h : b.Coherent)
    (hOperations : ∀ o ∈ b.operations, ∃ o' ∈ c.operations, o.SameIntent o')
    (hJob : job ∈ b.jobs) (same : job.SameIntent job') (hKind : job'.kind = .commandReply) :
    ∃ o ∈ c.operations, job'.operationId = some o.id ∧ o.replyable = true ∧
      job'.idempotencyKey = some o.replyKey := by
  rw [same.kind_eq] at hKind
  obtain ⟨o, ho, hNames, hReply, hKey⟩ := h.reply job hJob hKind
  obtain ⟨o', ho', hSame⟩ := hOperations o ho
  refine ⟨o', ho', ?_, ?_, ?_⟩
  · rw [same.operationId_eq, hNames, hSame.id_eq]
  · rw [hSame.replyable_eq, hReply]
  · rw [same.key_eq, hKey, hSame.replyKey_eq]

theorem delivery_of_same (h : b.Coherent) (hJob : job ∈ b.jobs) (same : job.SameIntent job')
    (hKind : job'.kind = .notify ∨ job'.kind = .challengeReply) : job'.operationId = none := by
  rw [same.kind_eq] at hKind
  rw [same.operationId_eq, h.delivery job hJob hKind]

theorem take (h : b.Coherent) (hJob : job ∈ b.jobs)
    (hAllowed : turn.Allowed job (b.find job.operationId))
    (hAuthority : turn.recordsAuthority = true → job.kind = .issueAction)
    (hAnswers : b.Answers turn job replies) : (b.take turn job replies).Coherent := by
  have hMove : Board.Move Discipline.dispatch b (b.take turn job replies) :=
    Board.Move.take turn job replies hJob hAllowed hAuthority hAnswers
  have hOperations : ∀ o ∈ b.operations, ∃ o' ∈ (b.take turn job replies).operations,
      o.SameIntent o' := fun o ho => take_operation ho
  constructor
  · exact hMove.keyed h.keyed
  · intro j hj hKind
    rcases take_origin hJob hj with ⟨x, hx, same⟩ | hReply
    · exact h.issue_of_same hOperations hx same hKind
    · obtain ⟨_, _, _, _, _, _, _, _, _, rfl, _⟩ := hAnswers.of_mem hReply
      cases hKind
  · intro j hj hKind
    rcases take_origin hJob hj with ⟨x, hx, same⟩ | hReply
    · exact h.reply_of_same hOperations hx same hKind
    · obtain ⟨o, name, state, evidence, now, replyUuid, _, hFind, hReplyable, rfl, _⟩ :=
        hAnswers.of_mem hReply
      obtain ⟨id, hId⟩ : ∃ id, job.operationId = some id := by
        cases hId : job.operationId with
        | none => rw [hId, find_none] at hFind; cases hFind
        | some id => exact ⟨id, rfl⟩
      rw [hId] at hFind
      obtain ⟨hMem, rfl⟩ := find_mem hFind
      have hSame := turn.operation_sameIntent job o
      refine ⟨turn.operation job o, mem_take_operations.mpr ⟨o, hMem, Or.inl ⟨hId, rfl⟩⟩, rfl, ?_,
        rfl⟩
      rw [hSame.replyable_eq, hReplyable]
  · intro j hj hKind
    rcases take_origin hJob hj with ⟨x, hx, same⟩ | hReply
    · exact h.delivery_of_same hx same hKind
    · obtain ⟨_, _, _, _, _, _, _, _, _, rfl, _⟩ := hAnswers.of_mem hReply
      rcases hKind with hKind | hKind <;> cases hKind
  · intro o' ho'
    obtain ⟨o, ho, hAmended⟩ := mem_take_operations.mp ho'
    have hId : o'.id = o.id := by
      rcases hAmended with ⟨_, rfl⟩ | ⟨_, rfl⟩
      · exact (turn.operation_sameIntent job o).id_eq
      · rfl
    have hReplies : replies.countP (OutboxJob.names .issueAction o.id) = 0 := by
      rw [List.countP_eq_zero]
      intro reply hReply hNames
      obtain ⟨_, _, _, _, _, _, _, _, _, rfl, _⟩ := hAnswers.of_mem hReply
      cases (OutboxJob.names_iff.mp hNames).1
    rw [hId, count_take hJob h.keyed, h.assigned o ho, hReplies]
  · exact h.agree_take hJob hAllowed hAuthority hAnswers
  · exact h.answered_take hJob hAllowed hAuthority hAnswers

theorem enqueue (h : b.Coherent) (hFresh : ∀ o ∈ b.operations, o.id ≠ operation.id)
    (hNew : operation.state = .queued ∧ operation.authorityInvocationId = none ∧
      operation.authorityIdempotencyKey = none)
    (hJob : b.Fresh job) (hKind : job.kind = .issueAction)
    (hNames : job.operationId = some operation.id) (hState : job.state = .ready)
    (hAuthority : job.authorityInvocationId = none ∧ job.authorityIdempotencyKey = none) :
    ({ b.add [job] with operations := b.operations ++ [operation] } : Board).Coherent := by
  have hOperations : ∀ o ∈ b.operations, ∃ o' ∈ b.operations ++ [operation], o.SameIntent o' :=
    fun o ho => ⟨o, List.mem_append_left _ ho, rfl⟩
  have hForeign : ∀ o ∈ b.operations, ∀ kind, job.names kind o.id = false := by
    intro o ho kind
    cases hCase : job.names kind o.id with
    | false => rfl
    | true =>
        have hId := (OutboxJob.names_iff.mp hCase).2
        rw [hNames, Option.some.injEq] at hId
        exact absurd hId.symm (hFresh o ho)
  have hUnnamed : ∀ j ∈ b.jobs, j.kind = .issueAction ∨ j.kind = .commandReply →
      j.operationId ≠ some operation.id := by
    intro j hj hjKind hId
    have hNamed : ∃ o ∈ b.operations, j.operationId = some o.id := by
      rcases hjKind with hjKind | hjKind
      · exact h.issue j hj hjKind
      · obtain ⟨o, ho, hNamed, _⟩ := h.reply j hj hjKind
        exact ⟨o, ho, hNamed⟩
    obtain ⟨o, ho, hNamed⟩ := hNamed
    rw [hId, Option.some.injEq] at hNamed
    exact hFresh o ho hNamed.symm
  have hCount : ∀ kind, kind = .issueAction ∨ kind = .commandReply →
      b.jobs.countP (OutboxJob.names kind operation.id) = 0 := by
    intro kind hCase
    rw [List.countP_eq_zero]
    intro j hj hjNames
    obtain ⟨rfl, hId⟩ := OutboxJob.names_iff.mp hjNames
    exact hUnnamed j hj hCase hId
  refine ⟨⟨h.keyed.jobs.append_singleton hJob.identifier,
    h.keyed.operations.append_singleton hFresh⟩, ?_, ?_, ?_, ?_, ?_, ?_⟩
  · intro j hj hjKind
    rcases List.mem_append.mp hj with hj | hj
    · exact h.issue_of_same hOperations hj rfl hjKind
    · rw [List.mem_singleton.mp hj]
      exact ⟨operation, List.mem_append_right _ (List.mem_singleton_self _), hNames⟩
  · intro j hj hjKind
    rcases List.mem_append.mp hj with hj | hj
    · exact h.reply_of_same hOperations hj rfl hjKind
    · rw [List.mem_singleton.mp hj, hKind] at hjKind
      cases hjKind
  · intro j hj hjKind
    rcases List.mem_append.mp hj with hj | hj
    · exact h.delivery j hj hjKind
    · rw [List.mem_singleton.mp hj, hKind] at hjKind
      rcases hjKind with hjKind | hjKind <;> cases hjKind
  · intro o ho
    refine List.countP_append.trans ?_
    rw [List.countP_singleton]
    rcases List.mem_append.mp ho with ho | ho
    · rw [h.assigned o ho, hForeign o ho]
      rfl
    · rw [List.mem_singleton.mp ho, hCount _ (Or.inl rfl),
        OutboxJob.names_iff.mpr ⟨hKind, hNames⟩]
      rfl
  · intro j hj hjKind o ho hId
    rcases List.mem_append.mp hj with hj | hj <;> rcases List.mem_append.mp ho with ho | ho
    · exact h.agree j hj hjKind o ho hId
    · rw [List.mem_singleton.mp ho] at hId
      exact absurd hId (hUnnamed j hj (Or.inl hjKind))
    · rw [List.mem_singleton.mp hj, hNames, Option.some.injEq] at hId
      exact absurd hId.symm (hFresh o ho)
    · rw [List.mem_singleton.mp hj, List.mem_singleton.mp ho]
      refine ⟨by rw [hState, hNew.1]; rfl, fun _ => ?_, fun _ => ?_⟩
      · simp [hNew.1, hAuthority.1]
      · rw [hNew.2.1, hNew.2.2, hAuthority.1, hAuthority.2]
        exact ⟨rfl, rfl⟩
  · intro o ho
    refine List.countP_append.trans ?_
    rw [List.countP_singleton]
    rcases List.mem_append.mp ho with ho | ho
    · rw [h.answered o ho, hForeign o ho]
      rfl
    · have hSilent : job.names .commandReply operation.id = false := by
        simp [OutboxJob.names, hKind]
      rw [List.mem_singleton.mp ho, hCount _ (Or.inr rfl), hSilent, hNew.1]
      simp [OperationState.settled]

theorem deliver (h : b.Coherent) (hJob : b.Fresh job)
    (hKind : job.kind = .notify ∨ job.kind = .challengeReply) (hNames : job.operationId = none) :
    (b.add [job]).Coherent := by
  have hForeign : ∀ kind operationId, job.names kind operationId = false := by
    intro kind operationId
    simp [OutboxJob.names, hNames]
  have hOperations : ∀ o ∈ b.operations, ∃ o' ∈ b.operations, o.SameIntent o' :=
    fun o ho => ⟨o, ho, rfl⟩
  refine ⟨⟨h.keyed.jobs.append_singleton hJob.identifier, h.keyed.operations⟩, ?_, ?_, ?_, ?_,
    ?_, ?_⟩
  · intro j hj hjKind
    rcases List.mem_append.mp hj with hj | hj
    · exact h.issue j hj hjKind
    · rw [List.mem_singleton.mp hj] at hjKind
      rcases hKind with hKind | hKind <;> rw [hKind] at hjKind <;> cases hjKind
  · intro j hj hjKind
    rcases List.mem_append.mp hj with hj | hj
    · exact h.reply j hj hjKind
    · rw [List.mem_singleton.mp hj] at hjKind
      rcases hKind with hKind | hKind <;> rw [hKind] at hjKind <;> cases hjKind
  · intro j hj hjKind
    rcases List.mem_append.mp hj with hj | hj
    · exact h.delivery j hj hjKind
    · rw [List.mem_singleton.mp hj]
      exact hNames
  · intro o ho
    refine List.countP_append.trans ?_
    rw [List.countP_singleton, h.assigned o ho, hForeign]
    rfl
  · intro j hj hjKind o ho hId
    rcases List.mem_append.mp hj with hj | hj
    · exact h.agree j hj hjKind o ho hId
    · rw [List.mem_singleton.mp hj, hNames] at hId
      cases hId
  · intro o ho
    refine List.countP_append.trans ?_
    rw [List.countP_singleton, h.answered o ho, hForeign]
    rfl

theorem resolve (h : b.Coherent) {succeeded : Bool} {result : JsonObject} {now : Timestamp}
    (hMem : operation ∈ b.operations) (hUnknown : operation.state = .unknown) :
    (b.resolve operation succeeded result now).Coherent := by
  have hMove : Board.Move Discipline.dispatch b (b.resolve operation succeeded result now) :=
    Board.Move.resolve operation succeeded result now hMem hUnknown
  have hJobs : ∀ j' ∈ (b.resolve operation succeeded result now).jobs, ∃ j ∈ b.jobs,
      (succeeded = true ∧ j.operationId = some operation.id ∧ j.state = .unknown ∧
        j' = j.reconciled now) ∨
      ((succeeded = true → j.operationId = some operation.id → j.state ≠ .unknown) ∧
        j' = j) := by
    intro j' hj'
    obtain ⟨j, hj, ⟨hWhere, rfl⟩ | ⟨hWhere, rfl⟩⟩ := Table.mem_updateWhere.mp hj'
    · simp only [Bool.and_eq_true, beq_iff_eq] at hWhere
      exact ⟨j, hj, Or.inl ⟨hWhere.1.1, hWhere.1.2, hWhere.2, rfl⟩⟩
    · refine ⟨j', hj, Or.inr ⟨fun hSucceeded hNames hState => ?_, rfl⟩⟩
      simp [hSucceeded, hNames, hState] at hWhere
  have hOrigin : ∀ j' ∈ (b.resolve operation succeeded result now).jobs,
      ∃ j ∈ b.jobs, j.SameIntent j' := by
    intro j' hj'
    obtain ⟨j, hj, ⟨_, _, _, rfl⟩ | ⟨_, rfl⟩⟩ := hJobs j' hj'
    · exact ⟨j, hj, rfl⟩
    · exact ⟨j', hj, rfl⟩
  have hSettle : ∀ o' ∈ (b.resolve operation succeeded result now).operations,
      (o' = Turn.settle (if succeeded then .succeeded else .unknown) (some result) now operation) ∨
        (o' ∈ b.operations ∧ o'.id ≠ operation.id) := by
    intro o' ho'
    obtain ⟨o, ho, ⟨hId, rfl⟩ | ⟨hId, rfl⟩⟩ := Table.mem_updateWhere.mp ho'
    · rw [h.keyed.operations.eq ho hMem (beq_iff_eq.mp hId)]
      exact Or.inl rfl
    · exact Or.inr ⟨ho, beq_eq_false_iff_ne.mp hId⟩
  have hOperations : ∀ o ∈ b.operations,
      ∃ o' ∈ (b.resolve operation succeeded result now).operations, o.SameIntent o' := by
    intro o ho
    cases hId : o.id == operation.id with
    | false => exact ⟨o, Table.mem_updateWhere_of_neg ho hId, rfl⟩
    | true => exact ⟨_, Table.mem_updateWhere_of_pos ho hId, rfl⟩
  have hCount : ∀ kind operationId,
      (b.resolve operation succeeded result now).jobs.countP (OutboxJob.names kind operationId) =
        b.jobs.countP (OutboxJob.names kind operationId) :=
    fun kind operationId => Table.countP_updateWhere fun _ _ _ => rfl
  refine ⟨hMove.keyed h.keyed, ?_, ?_, ?_, ?_, ?_, ?_⟩
  · intro j' hj' hKind
    obtain ⟨j, hj, same⟩ := hOrigin j' hj'
    exact h.issue_of_same hOperations hj same hKind
  · intro j' hj' hKind
    obtain ⟨j, hj, same⟩ := hOrigin j' hj'
    exact h.reply_of_same hOperations hj same hKind
  · intro j' hj' hKind
    obtain ⟨j, hj, same⟩ := hOrigin j' hj'
    exact h.delivery_of_same hj same hKind
  · intro o' ho'
    rw [hCount]
    rcases hSettle o' ho' with rfl | ⟨ho, _⟩
    · exact h.assigned operation hMem
    · exact h.assigned o' ho
  · intro j' hj' hKind o' ho' hNames
    rcases hSettle o' ho' with rfl | ⟨ho, hOther⟩
    · obtain ⟨j, hj, ⟨hSucceeded, _, _, rfl⟩ | ⟨hKept, rfl⟩⟩ := hJobs j' hj'
      · simp only [hSucceeded, if_true]
        exact Agree.of_settled rfl rfl
      · have hStates := (h.agree j' hj hKind operation hMem hNames).states
        rw [hUnknown] at hStates
        have hState : j'.state = .unknown := by
          cases hCase : j'.state <;> rw [hCase] at hStates <;> first | rfl | cases hStates
        cases succeeded with
        | true => exact absurd hState (hKept rfl hNames)
        | false => exact Agree.of_settled (by rw [hState]; rfl) (by rw [hState]; rfl)
    · obtain ⟨j, hj, ⟨_, hNamed, _, rfl⟩ | ⟨_, rfl⟩⟩ := hJobs j' hj'
      · have hId : some operation.id = some o'.id := hNamed.symm.trans hNames
        exact absurd (Option.some.inj hId).symm hOther
      · exact h.agree j' hj hKind o' ho hNames
  · intro o' ho'
    rw [hCount]
    rcases hSettle o' ho' with rfl | ⟨ho, _⟩
    · refine (h.answered operation hMem).trans ?_
      rw [hUnknown]
      cases succeeded <;> rfl
    · exact h.answered o' ho

/-- Every move under the worker's discipline keeps the coherence. -/
theorem move {c : Board} (h : b.Coherent) (hMove : Board.Move Discipline.dispatch b c) :
    c.Coherent := by
  cases hMove with
  | extend connections =>
      exact ⟨⟨h.keyed.jobs, h.keyed.operations⟩, h.issue, h.reply, h.delivery, h.assigned,
        h.agree, h.answered⟩
  | enqueue operation job hFresh _ hNew _ _ hJob _ hKind hNames _ _ hState _ hAuthority =>
      exact h.enqueue hFresh hNew hJob hKind hNames hState hAuthority
  | deliver job hJob _ hKind hNames => exact h.deliver hJob hKind hNames
  | resolve operation succeeded result now hMem hUnknown => exact h.resolve hMem hUnknown
  | take turn job replies hJob hAllowed hAuthority hAnswers =>
      exact h.take hJob hAllowed hAuthority hAnswers

end Board.Coherent

/-- A final operation is never changed again. -/
theorem Board.Move.final {c : Board} (hMove : Board.Move Discipline.dispatch b c)
    (h : b.Coherent) (hMem : operation ∈ b.operations)
    (hFinal : operation.state = .accepted ∨ operation.state = .succeeded ∨
      operation.state = .failed) : operation ∈ c.operations := by
  have hSettled : operation.state.settled = true := by
    rcases hFinal with hState | hState | hState <;> rw [hState] <;> rfl
  cases hMove with
  | extend connections => exact hMem
  | enqueue => exact List.mem_append_left _ hMem
  | deliver => exact hMem
  | resolve unknown succeeded result now hUnknownMem hUnknown =>
      apply Table.mem_updateWhere_of_neg hMem
      rw [beq_eq_false_iff_ne]
      intro hId
      rw [h.keyed.operations.eq hMem hUnknownMem hId, hUnknown] at hFinal
      rcases hFinal with hState | hState | hState <;> cases hState
  | take turn job replies hJob hAllowed hAuthority hAnswers =>
      refine mem_take_operations.mpr ⟨operation, hMem, ?_⟩
      by_cases hNames : job.operationId = some operation.id
      · by_cases hIssue : job.kind = .issueAction
        · have hAgree := h.agree job hJob hIssue operation hMem hNames
          rw [hAgree.settled_eq, hAllowed.unsettled] at hSettled
          cases hSettled
        · exact Or.inl ⟨hNames,
            ((h.apart hJob hIssue hAllowed hAuthority hAnswers).2 operation hMem hNames).symm⟩
      · exact Or.inr ⟨hNames, rfl⟩

end Coherence

/-- The worker records Authority answers on ISSUE_ACTION jobs only. -/
def Dispatched (s : Store) (call : Call) : Prop :=
  ∀ row ∈ s.outboxJobs, call.authorityTarget = some row.id → row.kind = .issueAction

instance (s : Store) (call : Call) : Decidable (Dispatched s call) :=
  inferInstanceAs (Decidable (∀ row ∈ s.outboxJobs, call.authorityTarget = some row.id →
    row.kind = .issueAction))

/-- How many jobs of a kind name an operation. -/
def Store.jobsNaming (s : Store) (kind : JobKind) (operationId : UUID) : Nat :=
  s.outboxJobs.countP fun row => row.kind == kind && row.operationId == some operationId

/-- A store whose rows are well formed and whose documents are coherent. -/
structure Store.Coherent (s : Store) : Prop where
  wellFormed : s.WellFormed
  board : s.board.Coherent

section Runs

variable (sha256 : String → String) {s : Store} {call : Call}

theorem Dispatched.keeps (wf : s.WellFormed) (h : Dispatched s call) :
    call.Keeps sha256 Board.Discipline.dispatch s := by
  refine ⟨fun job hJob hTarget => ?_, fun _ _ => trivial⟩
  exact h (JobRow.ofJob job) (wf.ofJob_mem hJob) hTarget

theorem Store.initial_coherent : Store.initial.Coherent := by
  refine ⟨Store.initial_wellFormed, Store.initial_wellFormed.keyed, ?_, ?_, ?_, ?_, ?_, ?_⟩ <;>
    intro x hx <;> cases hx

theorem perform_coherent (h : s.Coherent) (hDispatched : Dispatched s call) :
    (perform sha256 call s).2.Coherent := by
  obtain ⟨wf, hMoves⟩ := perform_refines sha256 Board.Discipline.dispatch h.wellFormed
    (hDispatched.keeps sha256 h.wellFormed)
  exact ⟨wf, (hMoves.preserves Board.Coherent (fun hMove _ hHolds => hHolds.move hMove)
    h.wellFormed.keyed h.board).2⟩

theorem perform_preserves_coherent :
    Preserves (perform sha256) Dispatched Store.Coherent := fun _ _ h hDispatched =>
  perform_coherent sha256 h hDispatched

theorem jobsNaming_eq (wf : s.WellFormed) (kind : JobKind) (operationId : UUID) :
    s.jobsNaming kind operationId = s.board.jobs.countP (OutboxJob.names kind operationId) :=
  wf.countP_jobs _

/-- A final operation row survives every call unchanged. -/
theorem perform_final (h : s.Coherent) (hDispatched : Dispatched s call) {row : OperationRow}
    (hRow : row ∈ s.operations)
    (hFinal : row.state = .accepted ∨ row.state = .succeeded ∨ row.state = .failed) :
    row ∈ (perform sha256 call s).2.operations := by
  obtain ⟨wf, hMoves⟩ := perform_refines sha256 Board.Discipline.dispatch h.wellFormed
    (hDispatched.keeps sha256 h.wellFormed)
  rw [h.wellFormed.operationRow_state hRow] at hFinal
  have hKept : row.document ∈ (perform sha256 call s).2.board.operations :=
    (hMoves.preserves (fun b => b.Coherent ∧ row.document ∈ b.operations)
      (fun hMove _ hHolds => ⟨hHolds.1.move hMove, hMove.final hHolds.1 hHolds.2 hFinal⟩)
      h.wellFormed.keyed ⟨h.board, Store.WellFormed.mem_operations hRow⟩).2.2
  rw [h.wellFormed.operationRows row hRow]
  exact wf.ofOperation_mem hKept

theorem run_final {calls : List Call} (h : s.Coherent)
    (hDispatched : Admitted (perform sha256) Dispatched calls s) {row : OperationRow}
    (hRow : row ∈ s.operations)
    (hFinal : row.state = .accepted ∨ row.state = .succeeded ∨ row.state = .failed) :
    row ∈ (run (perform sha256) calls s).operations := by
  induction calls generalizing s with
  | nil => exact hRow
  | cons call rest ih =>
      exact ih (perform_coherent sha256 h hDispatched.1) hDispatched.2
        (perform_final sha256 h hDispatched.1 hRow hFinal)

end Runs

/-- In every reachable store every operation has exactly one ISSUE_ACTION job,
their states match, and a final operation is never changed again. -/
theorem operation_agrees_with_its_job (sha256 : String → String) (calls : List Call)
    (hDispatched : Admitted (perform sha256) Dispatched calls Store.initial) :
    (∀ row ∈ (run (perform sha256) calls Store.initial).operations,
      (run (perform sha256) calls Store.initial).jobsNaming .issueAction row.id = 1 ∧
      ∀ job ∈ (run (perform sha256) calls Store.initial).outboxJobs, job.kind = .issueAction →
        job.operationId = some row.id → agrees job.state row.state = true) ∧
    ∀ earlier later, calls = earlier ++ later →
      ∀ row ∈ (run (perform sha256) earlier Store.initial).operations,
        (row.state = .accepted ∨ row.state = .succeeded ∨ row.state = .failed) →
        row ∈ (run (perform sha256) calls Store.initial).operations := by
  constructor
  · obtain ⟨wf, hBoard⟩ :=
      (perform_preserves_coherent sha256).run Store.initial_coherent hDispatched
    intro row hRow
    have hMem := Store.WellFormed.mem_operations hRow
    have hId := wf.operationRow_id hRow
    refine ⟨?_, fun job hJob hKind hNames => ?_⟩
    · rw [jobsNaming_eq wf, hId]
      exact hBoard.assigned row.document hMem
    · rw [wf.row_state hJob, wf.operationRow_state hRow]
      have hDocument : job.document.kind = .issueAction :=
        (congrArg JobRow.kind (wf.jobRows job hJob)).symm.trans hKind
      exact (hBoard.agree job.document (Store.WellFormed.mem_jobs hJob) hDocument row.document
        hMem (by rw [← wf.row_operationId hJob, hNames, hId])).states
  · rintro earlier later rfl row hRow hFinal
    obtain ⟨hEarlier, hLater⟩ := admitted_append earlier later Store.initial |>.mp hDispatched
    rw [run_append]
    exact run_final sha256
      ((perform_preserves_coherent sha256).run Store.initial_coherent hEarlier) hLater hRow hFinal

/-- A chat command that is claimed, authorized, executed and finished. -/
def sampleDispatch : List Call := sampleSetup ++ [
  .claimReadyJob "worker" 0 60,
  .prepareAuthorityEnqueue (sampleId '1') 1 "key" 0,
  .markAwaitingAuthority (sampleId '1') 1 "invocation" .pending 0,
  .beginAuthorizedExecution samplePrincipal (sampleId '0') (sampleId 'b')
    "integrationExecuteIssueState" "digest" "invocation" 60 0,
  .finishJob (sampleId '1') 2 .succeeded [] none 0 (sampleId '2')]

theorem operation_agrees_with_its_job_sample :
    ((run (perform fun _ => "digest") sampleDispatch Store.initial).operations.map
      OperationRow.state = [.succeeded]) ∧
    (∀ row ∈ (run (perform fun _ => "digest") sampleDispatch Store.initial).operations,
      (run (perform fun _ => "digest") sampleDispatch Store.initial).jobsNaming
        .issueAction row.id = 1) :=
  ⟨by decide, fun row hRow =>
    ((operation_agrees_with_its_job (fun _ => "digest") sampleDispatch (by decide)).1 row
      hRow).1⟩

/-- In every reachable store a chat command with a complete reply context has
exactly one reply once its operation is settled, and none before. -/
theorem command_answered_exactly_once (sha256 : String → String) (calls : List Call)
    (hDispatched : Admitted (perform sha256) Dispatched calls Store.initial) :
    ∀ row ∈ (run (perform sha256) calls Store.initial).operations,
      row.document.sourceKind = .wecomCommand → row.document.replyContextComplete = true →
      (run (perform sha256) calls Store.initial).jobsNaming .commandReply row.id =
        if row.state = .accepted ∨ row.state = .succeeded ∨ row.state = .failed ∨
          row.state = .unknown then 1 else 0 := by
  obtain ⟨wf, hBoard⟩ :=
    (perform_preserves_coherent sha256).run Store.initial_coherent hDispatched
  intro row hRow hSource hComplete
  have hReplyable : row.document.replyable = true := by
    simp [Operation.replyable, hSource, hComplete]
  rw [jobsNaming_eq wf, wf.operationRow_id hRow,
    hBoard.answered row.document (Store.WellFormed.mem_operations hRow), hReplyable,
    wf.operationRow_state hRow]
  cases row.document.state <;> rfl

theorem command_answered_exactly_once_sample :
    (run (perform fun _ => "digest") sampleDispatch Store.initial).jobsNaming .commandReply
      (sampleId '0') = 1 := by
  have hAnswered := command_answered_exactly_once (fun _ => "digest") sampleDispatch (by decide)
  obtain ⟨row, hRow, hId, hSource, hComplete, hState⟩ :
      ∃ row ∈ (run (perform fun _ => "digest") sampleDispatch Store.initial).operations,
        row.id = sampleId '0' ∧ row.document.sourceKind = .wecomCommand ∧
          row.document.replyContextComplete = true ∧ row.state = .succeeded := by decide
  simpa [hId, hState] using hAnswered row hRow hSource hComplete

end CyreneExchange.Integrations
