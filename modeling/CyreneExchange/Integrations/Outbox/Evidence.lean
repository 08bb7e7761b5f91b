import CyreneExchange.Integrations.Outbox.Durability
import CyreneExchange.Integrations.Outbox.Footprints

/-! Evidence over whole runs: a row is written for a fence only when the attempt
under this fence is over, so a job that is held has none for its own. -/
namespace CyreneExchange.Integrations

open Machine Transaction

/-- The job is held by a worker or by an authorized execution. -/
def JobState.held : JobState → Bool
  | .claimed | .sending => true
  | _ => false

/-- The attempt under the fence is over. -/
structure OutboxJob.Past (fence : Nat) (job : OutboxJob) : Prop where
  reached : fence ≤ job.claimFence
  ended : job.state.held = true → fence < job.claimFence

/-- A job of the board is past the fence. -/
def Board.Past (b : Board) (jobId : UUID) (fence : Nat) : Prop :=
  ∃ job ∈ b.jobs, job.id = jobId ∧ job.Past fence

section Fences

variable {job job' : OutboxJob} {fence : Nat} {s t : Store}

theorem JobStep.past (h : JobStep job job') (hPast : job.Past fence) : job'.Past fence := by
  obtain ⟨hReached, hEnded⟩ := hPast
  refine ⟨hReached.trans h.fence_le, ?_⟩
  intro hHeld
  cases h with
  | stay => exact hEnded hHeld
  | reconcile now hUnknown => cases hHeld
  | turn turn operation hAllowed =>
      cases turn with
      | claim | begin => exact Nat.lt_succ_of_le hReached
      | send => exact hEnded (by rw [show job.state = .claimed from hAllowed]; rfl)
      | prepare => exact hEnded hHeld
      | finish status evidence now =>
          rw [show ((Turn.finish status evidence now).job job).state = status from rfl] at hHeld
          have hSettled := finish_settled hAllowed.2
          cases status <;> cases hHeld <;> cases hSettled
      | release =>
          change (if truthy job.authorityInvocationId then JobState.awaitingAuthority
            else .ready).held = true at hHeld
          split at hHeld <;> cases hHeld
      | deny | await | poll | lose | requeue | exhaust | lapse => cases hHeld

theorem Board.Moves.past {rules : Board.Discipline} {b c : Board} {jobId : UUID}
    (h : Board.Moves rules b c) (hKeyed : b.Keyed) (hPast : b.Past jobId fence) :
    c.Past jobId fence :=
  h.follows (OutboxJob.Past fence) (fun hStep => hStep.past) hKeyed hPast

/-- A turn that lets its job go is past the fence it held. -/
theorem Taken.past {turn : Turn} {jobId : UUID} {claimFence : Nat} {state : JobState}
    (h : Taken s t turn job) (hSelected : Selected s jobId state claimFence job)
    (hFence : (turn.job job).claimFence = job.claimFence)
    (hFree : (turn.job job).state.held = false) : t.board.Past jobId claimFence := by
  obtain ⟨replies, _, hBoard⟩ := h.after
  refine ⟨turn.job job, ?_, ?_, ?_, ?_⟩
  · rw [hBoard]
    exact Board.take_self h.before
  · rw [(turn.job_sameIntent job).id_eq, hSelected.id_eq]
  · rw [hFence, hSelected.fence_eq]
  · intro hHeld
    rw [hFree] at hHeld
    cases hHeld

/-- Evidence that a committed call writes is for an attempt that is over. -/
theorem Call.body_evidence (sha256 : String → String) {call : Call} {answer : Answer}
    (wf : s.WellFormed) (h : call.body sha256 s = .ok (answer, t)) :
    s.Records (fun e => t.board.Past e.jobId e.claimFence) t := by
  have hMoves := (Call.body_moves sha256 Board.Discipline.free wf (call.keeps_free sha256 s) h).2
  cases call with
  | failClaimedJob jobId claimFence reasonCode moment replyUuid replyUuid' =>
      obtain ⟨_, _, hMethod, hPure⟩ := bind_eq_ok.mp h
      cases hPure
      obtain ⟨job, hSelected, hTaken⟩ := failClaimedJob_taken wf hMethod
      have hPast : t.board.Past jobId claimFence := hTaken.past hSelected rfl rfl
      exact Store.Footprint.records (failClaimedJob_footprint _ _ _ _ _ _ (fun _ => hPast) hMethod)
  | markAuthorityResultUnknown jobId claimFence invocationId moment replyUuid =>
      obtain ⟨_, _, hMethod, hPure⟩ := bind_eq_ok.mp h
      cases hPure
      obtain ⟨job, hSelected, hTaken⟩ := markAuthorityResultUnknown_taken wf hMethod
      have hPast : t.board.Past jobId claimFence := hTaken.past hSelected rfl rfl
      exact Store.Footprint.records
        (markAuthorityResultUnknown_footprint _ _ _ _ _ (fun _ => hPast) hMethod)
  | finishJob jobId claimFence status evidence receipt clock replyUuid =>
      obtain ⟨_, _, hMethod, hPure⟩ := bind_eq_ok.mp h
      cases hPure
      obtain ⟨job, moment, hSelected, hTaken⟩ := finishJob_taken wf hMethod
      have hFree : status.held = false := by
        have hSettled := finish_settled hTaken.allowed.2
        cases status <;> first | rfl | cases hSettled
      have hPast : t.board.Past jobId claimFence := hTaken.past hSelected rfl hFree
      exact Store.Footprint.records (finishJob_footprint _ _ _ _ _ _ _ (fun _ => hPast) hMethod)
  | retryReadonlyJob jobId claimFence now retryAfterSeconds replyUuid =>
      obtain ⟨_, _, hMethod, hPure⟩ := bind_eq_ok.mp h
      cases hPure
      have hPast : t.board.Past jobId claimFence := by
        obtain ⟨job, turn, hSelected, hTaken, ⟨_, _, rfl⟩ | ⟨_, _, _, rfl⟩⟩ :=
          retryReadonlyJob_taken wf hMethod
        · exact hTaken.past hSelected rfl rfl
        · exact hTaken.past hSelected rfl rfl
      exact Store.Footprint.records (retryReadonlyJob_footprint _ _ _ _ _ (fun _ => hPast) hMethod)
  | resolveUnknownOperation principal operationId succeeded result grant now auditUuid =>
      obtain ⟨_, _, hMethod, hPure⟩ := bind_eq_ok.mp h
      cases hPure
      refine Store.Footprint.records
        (resolveUnknownOperation_footprint (fun row hMem _ hUnknown _ => ?_) hMethod)
      refine hMoves.past wf.keyed ⟨row.document, Store.WellFormed.mem_jobs hMem, rfl, ?_, ?_⟩
      · rw [wf.row_fence hMem]
      · intro hHeld
        rw [← wf.row_state hMem, hUnknown] at hHeld
        cases hHeld
  | administer =>
      exact Respects.bind (.store fun _ => .of_eq rfl) (fun _ => .pure _) h
  | enqueueDelivery intent =>
      refine Store.Footprint.records (Respects.bind ?_ (fun _ => .pure _) h)
      exact .bind (.require _ _) fun _ => insertJob_footprint _
  | recoverExpiredClaims =>
      refine Store.Footprint.records (Respects.bind ?_ (fun _ => .pure _) h)
      exact .bind (.fetch _) fun _ => recoverClaims_footprint ..
  | persistIssueAction intent =>
      exact Store.Footprint.records
        (Respects.bind (persistIssueAction_footprint ..) (fun _ => .pure _) h)
  | claimReadyJob =>
      exact Store.Footprint.records
        (Respects.bind (claimReadyJob_footprint ..) (fun _ => .pure _) h)
  | markSending =>
      exact Store.Footprint.records
        (Respects.bind (markSending_footprint ..) (fun _ => .pure _) h)
  | markAwaitingAuthority =>
      exact Store.Footprint.records
        (Respects.bind (markAwaitingAuthority_footprint ..) (fun _ => .pure _) h)
  | prepareAuthorityEnqueue =>
      exact Store.Footprint.records
        (Respects.bind (prepareAuthorityEnqueue_footprint ..) (fun _ => .pure _) h)
  | updateAuthorityEvidence =>
      exact Store.Footprint.records
        (Respects.bind (updateAuthorityEvidence_footprint ..) (fun _ => .pure _) h)
  | beginAuthorizedExecution =>
      exact Store.Footprint.records
        (Respects.bind (beginAuthorizedExecution_footprint ..) (fun _ => .pure _) h)

end Fences

/-- Every evidence row is for an attempt of a job that is over. -/
def Store.Accounted (s : Store) : Prop :=
  ∀ e ∈ s.jobEvidence, s.board.Past e.jobId e.claimFence

section Runs

variable (sha256 : String → String)

theorem perform_preserves_accounted :
    Preserves (perform sha256) (fun _ _ => True) fun s => s.WellFormed ∧ s.Accounted := by
  intro s call ⟨wf, hAccounted⟩ _
  refine ⟨perform_preserves_wellFormed sha256 s call wf trivial, ?_⟩
  have hMoves := perform_moves sha256 wf call
  rcases commit_cases (call.body sha256) s with ⟨answer, t, hBody, hCommit⟩ | ⟨e, _, hCommit⟩
  · rw [perform, hCommit] at hMoves ⊢
    intro e he
    rcases Call.body_evidence sha256 wf hBody e he with hOld | hNew
    · exact hMoves.past wf.keyed (hAccounted e hOld)
    · exact hNew
  · rw [perform, hCommit]
    exact hAccounted

theorem Store.initial_accounted : Store.initial.Accounted := fun _ he => by cases he

/-- A job that is held has no evidence under its fence. -/
theorem Store.Accounted.unrecorded {s : Store} (h : s.Accounted) (wf : s.WellFormed)
    {job : OutboxJob} (hJob : job ∈ s.board.jobs) (hHeld : job.state.held = true) :
    ∀ e ∈ s.jobEvidence, e.jobId = job.id → e.claimFence ≠ job.claimFence := by
  intro e he hId hFence
  obtain ⟨j, hj, hjId, hPast⟩ := h e he
  rw [wf.job_eq hj hJob (hjId.trans hId)] at hPast
  have hEnded := hPast.ended hHeld
  omega

end Runs

end CyreneExchange.Integrations
