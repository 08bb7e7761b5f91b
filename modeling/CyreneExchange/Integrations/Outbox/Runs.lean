import CyreneExchange.Integrations.Outbox.Refinement

/-! Runs of the store from the empty database, under any interleaving and any
clock readings: how far one job can travel, and which fences it hands out. -/
namespace CyreneExchange.Integrations

open Machine

/-- The empty database. -/
def Store.initial : Store := {}

/-- Callers that promise nothing. -/
def Board.Discipline.free : Board.Discipline := ⟨fun _ => True, fun _ _ => True⟩

/-- One job's document across one move. -/
inductive JobStep (job : OutboxJob) : OutboxJob → Prop
  | stay : JobStep job job
  | turn (turn : Turn) (operation : Option Operation) (hAllowed : turn.Allowed job operation) :
      JobStep job (turn.job job)
  | reconcile (now : Timestamp) (hUnknown : job.state = .unknown) :
      JobStep job (job.reconciled now)

/-- The states a job reaches only by having been sent or given up. -/
def JobState.spent : JobState → Bool
  | .sending | .accepted | .succeeded | .failed | .unknown => true
  | _ => false

/-- The states without a worker and without a next attempt. -/
def JobState.settled : JobState → Bool
  | .accepted | .succeeded | .failed | .unknown => true
  | _ => false

/-- The states an unknown outcome stays in. -/
def JobState.parked : JobState → Bool
  | .succeeded | .unknown => true
  | _ => false

section Steps

variable {job job' : OutboxJob} {rules : Board.Discipline} {b c : Board}

theorem JobStep.sameIntent (h : JobStep job job') : job.SameIntent job' := by
  cases h with
  | stay => rfl
  | turn turn operation hAllowed => exact turn.job_sameIntent job
  | reconcile now hUnknown => rfl

theorem OutboxJob.SameIntent.readonly_eq (h : job.SameIntent job') :
    job'.isReadonlyQuery = job.isReadonlyQuery := by
  unfold OutboxJob.isReadonlyQuery
  rw [h.kind_eq, h.payload_eq]

theorem finish_settled {status : JobState} (h : (finishOperationState status).isSome) :
    status.settled = true := by
  cases status <;> simp [finishOperationState, JobState.settled] at h ⊢

theorem JobState.settled_of_parked {state : JobState} (h : state.parked = true) :
    state.settled = true := by
  cases state <;> simp [JobState.parked, JobState.settled] at h ⊢

theorem JobState.spent_of_settled {state : JobState} (h : state.settled = true) :
    state.spent = true := by
  cases state <;> simp [JobState.settled, JobState.spent] at h ⊢

theorem JobState.sending_of_spent {state : JobState} (hSpent : state.spent = true)
    (hSettled : state.settled = false) : state = .sending := by
  cases state <;> simp [JobState.spent, JobState.settled] at hSpent hSettled ⊢

/-- Only a job that is not settled takes turns. -/
theorem Turn.Allowed.unsettled {turn : Turn} {operation : Option Operation}
    (h : turn.Allowed job operation) : job.state.settled = false := by
  cases turn with
  | claim => rcases h with hState | hState <;> rw [hState] <;> rfl
  | begin => rcases h.1 with hState | hState <;> rw [hState] <;> rfl
  | send | deny | release =>
      rw [show job.state = .claimed from h]
      rfl
  | _ =>
      rw [h.1]
      rfl

/-- Nothing moves a settled job but a confirmed reconciliation. -/
theorem JobStep.settled (h : JobStep job job') (hSettled : job.state.settled = true) :
    job' = job ∨ ∃ now, job.state = .unknown ∧ job' = job.reconciled now := by
  cases h with
  | stay => exact Or.inl rfl
  | reconcile now hUnknown => exact Or.inr ⟨now, hUnknown, rfl⟩
  | turn turn operation hAllowed =>
      rw [hAllowed.unsettled] at hSettled
      cases hSettled

theorem JobStep.settled_state (h : JobStep job job') (hSettled : job.state.settled = true) :
    job'.state.settled = true := by
  rcases h.settled hSettled with rfl | ⟨now, _, rfl⟩
  · exact hSettled
  · rfl

theorem JobStep.parked_state (h : JobStep job job') (hParked : job.state.parked = true) :
    job'.state.parked = true := by
  rcases h.settled (JobState.settled_of_parked hParked) with rfl | ⟨now, _, rfl⟩
  · exact hParked
  · rfl

/-- A write that has been sent never becomes sendable again. -/
theorem JobStep.spent_state (h : JobStep job job') (hWrite : job.isReadonlyQuery = false)
    (hSpent : job.state.spent = true) : job'.state.spent = true := by
  cases hSettled : job.state.settled with
  | true => exact JobState.spent_of_settled (h.settled_state hSettled)
  | false =>
      have hSending := JobState.sending_of_spent hSpent hSettled
      cases h with
      | stay => exact hSpent
      | reconcile now hUnknown => rfl
      | turn turn operation hAllowed =>
          cases turn with
          | begin | lapse => rfl
          | finish status evidence now =>
              exact JobState.spent_of_settled (finish_settled hAllowed.2)
          | requeue | exhaust =>
              have hReadonly := hAllowed.2
              rw [hWrite] at hReadonly
              cases hReadonly
          | claim =>
              rcases hAllowed with hState | hState <;> rw [hState] at hSending <;> cases hSending
          | send | deny | release =>
              rw [show job.state = .claimed from hAllowed] at hSending
              cases hSending
          | await | prepare | poll | lose =>
              rw [hAllowed.1] at hSending
              cases hSending

/-- Fences only grow. -/
theorem JobStep.fence_le (h : JobStep job job') : job.claimFence ≤ job'.claimFence := by
  cases h with
  | stay => exact le_refl _
  | reconcile now hUnknown => exact le_refl _
  | turn turn operation hAllowed =>
      cases turn with
      | claim | begin => exact Nat.le_succ _
      | _ => exact le_refl _

end Steps

/-- Identifiers are primary keys. -/
structure Board.Keyed (b : Board) : Prop where
  jobs : Table.KeysUnique OutboxJob.id b.jobs
  operations : Table.KeysUnique Operation.id b.operations

section Moves

variable {rules : Board.Discipline} {b c : Board} {job job' : OutboxJob}

theorem Store.WellFormed.keyed {s : Store} (wf : s.WellFormed) : s.board.Keyed := by
  constructor
  · have hIds : s.board.jobs.map OutboxJob.id = s.outboxJobs.map JobRow.id := by
      unfold Store.board
      rw [List.map_map]
      exact List.map_congr_left fun row hRow => (wf.row_id hRow).symm
    unfold Table.KeysUnique
    rw [hIds]
    exact wf.jobIds
  · have hIds : s.board.operations.map Operation.id = s.operations.map OperationRow.id := by
      unfold Store.board
      rw [List.map_map]
      exact List.map_congr_left fun row hRow => (wf.operationRow_id hRow).symm
    unfold Table.KeysUnique
    rw [hIds]
    exact wf.operationIds

/-- The replies of a turn are none or one fresh job. -/
theorem Board.Answers.length_le {turn : Turn} {replies : List OutboxJob}
    (h : b.Answers turn job replies) : replies = [] ∨ ∃ reply, replies = [reply] := by
  unfold Board.Answers Board.Announced at h
  split at h
  · exact Or.inl h
  · split at h
    · exact Or.inl h
    · split at h
      · obtain ⟨_, _, hEq, _⟩ := h
        exact Or.inr ⟨_, hEq⟩
      · exact Or.inl h

theorem Board.Keyed.add {replies : List OutboxJob} (hKeyed : Table.KeysUnique OutboxJob.id b.jobs)
    (hShort : replies = [] ∨ ∃ reply, replies = [reply]) (hFresh : ∀ r ∈ replies, b.Fresh r) :
    Table.KeysUnique OutboxJob.id (b.jobs ++ replies) := by
  rcases hShort with rfl | ⟨reply, rfl⟩
  · rwa [List.append_nil]
  · exact hKeyed.append_singleton (hFresh reply (List.mem_singleton_self reply)).identifier

theorem Board.Move.keyed (h : Board.Move rules b c) (hKeyed : b.Keyed) : c.Keyed := by
  cases h with
  | extend connections => exact ⟨hKeyed.jobs, hKeyed.operations⟩
  | enqueue operation job hOperation _ _ _ _ hFresh =>
      exact ⟨hKeyed.jobs.append_singleton hFresh.identifier,
        hKeyed.operations.append_singleton hOperation⟩
  | deliver job hFresh =>
      exact ⟨hKeyed.jobs.append_singleton hFresh.identifier, hKeyed.operations⟩
  | resolve operation succeeded result now _ _ =>
      exact ⟨hKeyed.jobs.updateWhere fun _ _ _ => rfl,
        hKeyed.operations.updateWhere fun _ _ _ => rfl⟩
  | take turn job replies hMem _ _ hAnswers =>
      constructor
      · have hSet : Table.KeysUnique OutboxJob.id (b.setJob (turn.job job)).jobs := by
          apply hKeyed.jobs.updateWhere
          intro j _ hId
          exact (beq_iff_eq.mp hId).symm
        apply Board.Keyed.add hSet hAnswers.length_le
        intro r hr
        obtain ⟨_, _, _, _, _, _, _, _, _, _, hFresh, _⟩ := hAnswers.of_mem hr
        refine ⟨?_, hFresh.connection, ?_⟩
        · intro j hj
          obtain ⟨x, hx, ⟨_, rfl⟩ | ⟨_, rfl⟩⟩ := Table.mem_updateWhere.mp hj
          · rw [(turn.job_sameIntent job).id_eq]
            exact hFresh.identifier job hMem
          · exact hFresh.identifier _ hx
        · intro j hj
          obtain ⟨x, hx, ⟨_, rfl⟩ | ⟨_, rfl⟩⟩ := Table.mem_updateWhere.mp hj
          · rw [(turn.job_sameIntent job).kind_eq, (turn.job_sameIntent job).key_eq]
            exact hFresh.key job hMem
          · exact hFresh.key _ hx
      · apply hKeyed.operations.updateWhere
        intro o _ _
        exact (turn.operation_sameIntent job o).id_eq

/-- What becomes of a job in a move. -/
theorem Board.Move.image (h : Board.Move rules b c) (hKeyed : b.Keyed) (hJob : job ∈ b.jobs) :
    ∃ job' ∈ c.jobs, JobStep job job' := by
  cases h with
  | extend connections => exact ⟨job, hJob, .stay⟩
  | enqueue operation admitted => exact ⟨job, List.mem_append_left _ hJob, .stay⟩
  | deliver delivered => exact ⟨job, List.mem_append_left _ hJob, .stay⟩
  | resolve operation succeeded result now _ _ =>
      cases hWhere : (succeeded && job.operationId == some operation.id &&
          job.state == .unknown) with
      | false => exact ⟨job, Table.mem_updateWhere_of_neg hJob hWhere, .stay⟩
      | true =>
          refine ⟨job.reconciled now, Table.mem_updateWhere_of_pos (f := fun j : OutboxJob =>
            { j with state := .succeeded, updatedAt := now }) hJob hWhere, .reconcile now ?_⟩
          simp only [Bool.and_eq_true, beq_iff_eq] at hWhere
          exact hWhere.2
  | take turn taken replies hMem hAllowed _ _ =>
      by_cases hId : job.id = taken.id
      · rw [hKeyed.jobs.eq hJob hMem hId]
        exact ⟨_, Board.take_self hMem, .turn turn _ hAllowed⟩
      · exact ⟨job, Board.take_other hJob hId, .stay⟩

/-- What every move preserves holds after any number of moves. -/
theorem Board.Moves.preserves (Holds : Board → Prop) (h : Board.Moves rules b c)
    (hStep : ∀ {x y : Board}, Board.Move rules x y → x.Keyed → Holds x → Holds y)
    (hKeyed : b.Keyed) (hStart : Holds b) : c.Keyed ∧ Holds c := by
  induction h with
  | refl => exact ⟨hKeyed, hStart⟩
  | tail _ hMove ih => exact ⟨hMove.keyed ih.1, hStep hMove ih.1 ih.2⟩

/-- A property of a job's document that its steps keep is kept by any number
of moves. -/
theorem Board.Moves.follows (Kept : OutboxJob → Prop) {jobId : UUID} (h : Board.Moves rules b c)
    (hStep : ∀ {j j' : OutboxJob}, JobStep j j' → Kept j → Kept j') (hKeyed : b.Keyed)
    (hStart : ∃ job ∈ b.jobs, job.id = jobId ∧ Kept job) :
    ∃ job ∈ c.jobs, job.id = jobId ∧ Kept job := by
  refine (h.preserves (fun x => ∃ job ∈ x.jobs, job.id = jobId ∧ Kept job) ?_ hKeyed hStart).2
  rintro x y hMove hKeyed ⟨job, hMem, hId, hKept⟩
  obtain ⟨job', hMem', hJobStep⟩ := hMove.image hKeyed hMem
  exact ⟨job', hMem', hJobStep.sameIntent.id_eq.trans hId, hStep hJobStep hKept⟩

/-- The fence of a job, or zero before the job exists. -/
def Board.fenceOf (b : Board) (jobId : UUID) : Nat :=
  ((b.jobs.find? fun job => job.id == jobId).map OutboxJob.claimFence).getD 0

theorem Board.Keyed.find_job (hKeyed : b.Keyed) (hJob : job ∈ b.jobs) :
    b.jobs.find? (fun j => j.id == job.id) = some job := by
  cases hFind : b.jobs.find? (fun j => j.id == job.id) with
  | none => simpa using List.find?_eq_none.mp hFind job hJob
  | some found =>
      obtain ⟨hMem, hId⟩ := find_some_eq hFind
      rw [hKeyed.jobs.eq hMem hJob (beq_iff_eq.mp hId)]

theorem Board.Keyed.fenceOf_eq (hKeyed : b.Keyed) (hJob : job ∈ b.jobs) :
    b.fenceOf job.id = job.claimFence := by
  unfold Board.fenceOf
  rw [hKeyed.find_job hJob]
  rfl

theorem Board.Move.fenceOf_le (h : Board.Move rules b c) (hKeyed : b.Keyed) (jobId : UUID) :
    b.fenceOf jobId ≤ c.fenceOf jobId := by
  cases hFind : b.jobs.find? (fun j => j.id == jobId) with
  | none =>
      unfold Board.fenceOf
      rw [hFind]
      exact Nat.zero_le _
  | some job =>
      obtain ⟨hMem, hId⟩ := find_some_eq hFind
      obtain ⟨job', hMem', hStep⟩ := h.image hKeyed hMem
      rw [← beq_iff_eq.mp hId, hKeyed.fenceOf_eq hMem, ← hStep.sameIntent.id_eq,
        (h.keyed hKeyed).fenceOf_eq hMem']
      exact hStep.fence_le

theorem Board.Moves.fenceOf_le (h : Board.Moves rules b c) (hKeyed : b.Keyed) (jobId : UUID) :
    b.fenceOf jobId ≤ c.fenceOf jobId := by
  refine (h.preserves (fun x => b.fenceOf jobId ≤ x.fenceOf jobId) ?_ hKeyed (le_refl _)).2
  intro x y hMove hKeyed hLe
  exact hLe.trans (hMove.fenceOf_le hKeyed jobId)

end Moves

section Runs

variable (sha256 : String → String)

theorem Store.initial_wellFormed : Store.initial.WellFormed :=
  ⟨by simp [Store.initial], by simp [Store.initial], List.nodup_nil, List.nodup_nil⟩

theorem Call.keeps_free (s : Store) (call : Call) :
    call.Keeps sha256 Board.Discipline.free s :=
  ⟨fun _ _ _ => trivial, fun _ _ => trivial⟩

/-- Every store of every run is well formed, whoever calls whatever. -/
theorem perform_preserves_wellFormed :
    Preserves (perform sha256) (fun _ _ => True) Store.WellFormed := fun s call wf _ =>
  (perform_refines sha256 Board.Discipline.free wf (call.keeps_free sha256 s)).1

theorem perform_moves {s : Store} (wf : s.WellFormed) (call : Call) :
    Board.Moves Board.Discipline.free s.board (perform sha256 call s).2.board :=
  (perform_refines sha256 Board.Discipline.free wf (call.keeps_free sha256 s)).2

theorem run_wellFormed (calls : List Call) {s : Store} (wf : s.WellFormed) :
    (run (perform sha256) calls s).WellFormed :=
  (perform_preserves_wellFormed sha256).run wf (admitted_of_forall (fun _ _ => trivial) calls s)

theorem run_moves (calls : List Call) {s : Store} (wf : s.WellFormed) :
    Board.Moves Board.Discipline.free s.board (run (perform sha256) calls s).board := by
  induction calls generalizing s with
  | nil => exact Relation.ReflTransGen.refl
  | cons call rest ih =>
      exact (perform_moves sha256 wf call).trans
        (ih (perform_preserves_wellFormed sha256 s call wf trivial))

end Runs

section Sample

/-- A workspace with one bound repository and one member. -/
def sampleScope : ActorScope := ⟨"organization", "workspace", "issuer", "member"⟩

def sampleId (digit : Char) : UUID where
  text := "00000000-0000-4000-8000-00000000000" ++ String.singleton digit
  canonical := by
    rw [String.length_append, String.length_singleton]
    rfl

def sampleConnection : IntegrationConnection where
  id := sampleId 'c'
  organizationId := "organization"
  workspaceId := "workspace"
  actorIssuer := "issuer"
  actorSubject := "owner"
  repositoryId := "repository"
  repositoryName := "owner/name"

def sampleBinding : SyncBinding where
  id := sampleId 'b'
  organizationId := "organization"
  workspaceId := "workspace"
  connectionId := sampleId 'c'
  notificationTargetRef := "target"

def sampleActor : ActorBinding where
  id := sampleId 'a'
  bindingId := sampleId 'b'
  scope := sampleScope
  accountLinkRef := "link"
  delegationRef := "delegation"

/-- The inbound message that carries the command below. -/
def sampleEvent : WeComInboundEvent where
  id := sampleId 'e'
  bindingId := sampleId 'b'
  organizationId := "organization"
  workspaceId := "workspace"
  sourceEventId := "source-event"
  payloadFingerprint := "fingerprint"
  senderId := "sender"
  conversationRef := "conversation"
  replyMessageId := some "message"
  replyContextRef := some "context"
  messageText := "/issue close 7"
  selfAuthored := false
  observedAt := 0
  state := .commandQueued
  operationId := some (sampleId '0')

/-- A chat command that closes issue 7. -/
def sampleIntent : IssueIntent where
  request := {
    connectionId := sampleId 'c'
    bindingId := sampleId 'b'
    operationId := .close
    idempotencyKey := "close-7"
    issueNumber := 7
    body := none
    reconcilesOperationId := none }
  binding := sampleBinding
  actorBinding := sampleActor
  connection := sampleConnection
  scope := sampleScope
  sourceKind := .wecomCommand
  sourceEventRef := some (sampleId 'e').text
  reply := {
    bindingRef := some "binding"
    senderId := some "sender"
    conversationRef := some "conversation"
    messageId := some "message"
    contextRef := some "context" }
  operationUuid := sampleId '0'
  jobUuid := sampleId '1'
  now := 0

def sampleSetup : List Call := [
  .administer [sampleConnection] [sampleBinding] [sampleActor] [sampleEvent],
  .persistIssueAction sampleIntent]

def samplePrincipal : IntegrationPrincipal where
  issuer := "issuer"
  subject := "member"
  organizationId := "organization"
  workspaceId := "workspace"
  allowedOperationIds := ["integrationExecuteIssueState"]

end Sample

end CyreneExchange.Integrations
