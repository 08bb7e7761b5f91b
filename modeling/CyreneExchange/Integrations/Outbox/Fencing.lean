import CyreneExchange.Integrations.Outbox.Runs

/-! Fencing tokens: every claim and every authorized execution hands out a
larger fence than any before, and a call that presents another fence than the
current one of its job changes nothing. -/
namespace CyreneExchange.Integrations

open Machine Transaction

/-- The fence a call hands out for a job. -/
def handedOut (jobId : UUID) (e : Event Store Call (Except StoreError Answer)) : Option Nat :=
  match e.output with
  | .ok (.claim (some claim)) => if claim.job.id = jobId then some claim.claimFence else none
  | .ok (.execution _ job fence) => if job.id = jobId then some fence else none
  | _ => none

/-- The job and fence a fenced call presents. -/
def Call.presents : Call → Option (UUID × Nat)
  | .markSending jobId claimFence .. => some (jobId, claimFence)
  | .failClaimedJob jobId claimFence .. => some (jobId, claimFence)
  | .markAwaitingAuthority jobId claimFence .. => some (jobId, claimFence)
  | .prepareAuthorityEnqueue jobId claimFence .. => some (jobId, claimFence)
  | .updateAuthorityEvidence jobId claimFence .. => some (jobId, claimFence)
  | .markAuthorityResultUnknown jobId claimFence .. => some (jobId, claimFence)
  | .finishJob jobId claimFence .. => some (jobId, claimFence)
  | .retryReadonlyJob jobId claimFence .. => some (jobId, claimFence)
  | _ => none

/-- The fence is not the current one of the job. -/
def Store.Stale (s : Store) (jobId : UUID) (claimFence : Nat) : Prop :=
  ∀ row ∈ s.outboxJobs, row.id = jobId → row.claimFence ≠ claimFence

/-- The call inserted a finish's evidence for the job and fence. -/
def recordsFinish (jobId : UUID) (claimFence : Nat)
    (e : Event Store Call (Except StoreError Answer)) : Bool :=
  match e.input, e.output with
  | .finishJob id fence .., .ok _ => id == jobId && fence == claimFence
  | _, _ => false

section Fences

variable (sha256 : String → String) {s : Store} {call : Call} {jobId : UUID} {claimFence : Nat}

theorem Selected.not_stale (wf : s.WellFormed) {state : JobState} {job : OutboxJob}
    (h : Selected s jobId state claimFence job) : ¬ s.Stale jobId claimFence := fun hStale =>
  hStale (JobRow.ofJob job) (wf.ofJob_mem h.mem) h.id_eq h.fence_eq

/-- A committed fenced call selected its job under the fence it presents. -/
theorem Call.selected_of_presents (wf : s.WellFormed) {answer : Answer} {t : Store}
    (hPresents : call.presents = some (jobId, claimFence))
    (h : call.body sha256 s = .ok (answer, t)) :
    ∃ state job, Selected s jobId state claimFence job := by
  cases call <;> cases hPresents
  all_goals obtain ⟨_, _, hMethod, _⟩ := bind_eq_ok.mp h
  case markSending => exact (markSending_taken wf hMethod).elim fun job h => ⟨_, job, h.1⟩
  case failClaimedJob => exact (failClaimedJob_taken wf hMethod).elim fun job h => ⟨_, job, h.1⟩
  case markAwaitingAuthority =>
    exact (markAwaitingAuthority_taken wf hMethod).elim fun job h => ⟨_, job, h.1⟩
  case prepareAuthorityEnqueue =>
    obtain ⟨job, key, hSelected, _⟩ := prepareAuthorityEnqueue_taken wf hMethod
    exact ⟨_, job, hSelected⟩
  case updateAuthorityEvidence =>
    exact (updateAuthorityEvidence_taken wf hMethod).elim fun job h => ⟨_, job, h.1⟩
  case markAuthorityResultUnknown =>
    exact (markAuthorityResultUnknown_taken wf hMethod).elim fun job h => ⟨_, job, h.1⟩
  case finishJob =>
    obtain ⟨job, moment, hSelected, _⟩ := finishJob_taken wf hMethod
    exact ⟨_, job, hSelected⟩
  case retryReadonlyJob =>
    obtain ⟨job, turn, hSelected, _⟩ := retryReadonlyJob_taken wf hMethod
    exact ⟨_, job, hSelected⟩

/-- A stale fence raises and leaves the whole store unchanged. -/
theorem perform_stale (wf : s.WellFormed) (hPresents : call.presents = some (jobId, claimFence))
    (hStale : s.Stale jobId claimFence) : ∃ e, perform sha256 call s = (.error e, s) := by
  rcases commit_cases (call.body sha256) s with ⟨answer, t, hBody, _⟩ | ⟨e, _, hCommit⟩
  · obtain ⟨state, job, hSelected⟩ := Call.selected_of_presents sha256 wf hPresents hBody
    exact absurd hStale (hSelected.not_stale wf)
  · exact ⟨e, hCommit⟩

theorem Taken.fences {t : Store} {turn : Turn} {job : OutboxJob} (wf : s.WellFormed)
    (h : Taken s t turn job) : s.board.fenceOf job.id = job.claimFence ∧
      t.board.fenceOf job.id = (turn.job job).claimFence := by
  obtain ⟨replies, _, hBoard⟩ := h.after
  have hAfter : turn.job job ∈ t.board.jobs := by
    rw [hBoard]
    exact Board.take_self h.before
  refine ⟨wf.keyed.fenceOf_eq h.before, ?_⟩
  rw [← (turn.job_sameIntent job).id_eq]
  exact h.wellFormed.keyed.fenceOf_eq hAfter

/-- A fence that is handed out is the job's next one and its current one
afterwards. -/
theorem handedOut_next (wf : s.WellFormed) {fence : Nat}
    (h : handedOut jobId ⟨s, call, (perform sha256 call s).1, (perform sha256 call s).2⟩ =
      some fence) :
    fence = s.board.fenceOf jobId + 1 ∧
      fence = (perform sha256 call s).2.board.fenceOf jobId := by
  rcases commit_cases (call.body sha256) s with ⟨answer, t, hBody, hCommit⟩ | ⟨e, _, hCommit⟩
  · rw [perform, hCommit] at h ⊢
    cases call
    case claimReadyJob workerId now leaseSeconds =>
      obtain ⟨_, _, hMethod, hPure⟩ := bind_eq_ok.mp hBody
      cases hPure
      rcases claimReadyJob_taken wf hMethod with ⟨rfl, _⟩ | ⟨job, rfl, hTaken, _⟩
      · cases h
      · obtain ⟨hId, hFence⟩ := Option.ite_none_right_eq_some.mp h
        have hId : job.id = jobId := hId
        have hFence : job.claimFence + 1 = fence := by simpa using hFence
        subst hFence
        obtain ⟨hBefore, hAfter⟩ := hTaken.fences wf
        rw [← hId, hBefore, hAfter]
        exact ⟨rfl, rfl⟩
    case beginAuthorizedExecution =>
      obtain ⟨execution, _, hMethod, hPure⟩ := bind_eq_ok.mp hBody
      cases hPure
      obtain ⟨job, _, hJob, hFence, hTaken⟩ := beginAuthorizedExecution_taken wf hMethod
      obtain ⟨hId, rfl⟩ : job.id = jobId ∧ job.claimFence + 1 = fence := by
        simpa [handedOut, hJob, hFence, Turn.job] using h
      obtain ⟨hBefore, hAfter⟩ := hTaken.fences wf
      rw [← hId, hBefore, hAfter]
      exact ⟨rfl, rfl⟩
    all_goals
      obtain ⟨_, _, _, hPure⟩ := bind_eq_ok.mp hBody
      cases hPure
      cases h
  · rw [perform, hCommit] at h
    cases h

/-- A finish settles its job for good. -/
def Board.Settled (b : Board) (jobId : UUID) : Prop :=
  ∃ job ∈ b.jobs, job.id = jobId ∧ job.state.settled = true

theorem finish_settles (wf : s.WellFormed)
    (h : recordsFinish jobId claimFence ⟨s, call, (perform sha256 call s).1,
      (perform sha256 call s).2⟩ = true) :
    ¬ s.board.Settled jobId ∧ (perform sha256 call s).2.board.Settled jobId := by
  rcases commit_cases (call.body sha256) s with ⟨answer, t, hBody, hCommit⟩ | ⟨e, _, hCommit⟩
  · rw [perform, hCommit] at h ⊢
    cases call
    case finishJob id fence status evidence receipt clock replyUuid =>
      obtain ⟨_, _, hMethod, hPure⟩ := bind_eq_ok.mp hBody
      cases hPure
      obtain ⟨job, moment, hSelected, hTaken⟩ := finishJob_taken wf hMethod
      simp only [recordsFinish, Bool.and_eq_true, beq_iff_eq] at h
      obtain ⟨rfl, rfl⟩ := h
      constructor
      · rintro ⟨j, hj, hId, hSettled⟩
        rw [wf.job_eq hj hSelected.mem (hId.trans hSelected.id_eq.symm),
          hSelected.state_eq] at hSettled
        cases hSettled
      · obtain ⟨replies, _, hBoard⟩ := hTaken.after
        refine ⟨_, hBoard ▸ Board.take_self hTaken.before, ?_, ?_⟩
        · exact (Turn.job_sameIntent _ job).id_eq.trans hSelected.id_eq
        · exact finish_settled hTaken.allowed.2
    all_goals cases h
  · rw [perform, hCommit] at h
    unfold recordsFinish at h
    split at h
    · next hOutput => cases hOutput
    · cases h

end Fences

/-- Fencing over whole runs: the fences handed out for a job strictly
increase; a fenced call with a stale fence raises and changes nothing; a
finish records evidence at most once for a job and fence; and an authorized
execution, which presents no fence, makes every fence before its own stale. -/
theorem fences_increase_and_guard (sha256 : String → String) (calls : List Call) :
    (∀ jobId, ((trace (perform sha256) calls Store.initial).filterMap
      (handedOut jobId)).Pairwise (· < ·)) ∧
    (∀ e ∈ trace (perform sha256) calls Store.initial, ∀ jobId claimFence,
      e.input.presents = some (jobId, claimFence) → e.before.Stale jobId claimFence →
      (∃ error, e.output = .error error) ∧ e.after = e.before) ∧
    (∀ jobId claimFence,
      (trace (perform sha256) calls Store.initial).countP (recordsFinish jobId claimFence) ≤ 1) ∧
    ∀ e ∈ trace (perform sha256) calls Store.initial, ∀ operation job fence,
      e.output = .ok (.execution operation job fence) →
      (∀ row ∈ e.before.outboxJobs, row.id = job.id → row.claimFence < fence) ∧
      ∀ earlier < fence, e.after.Stale job.id earlier := by
  have hPreserves := perform_preserves_wellFormed sha256
  have hAdmitted : Admitted (perform sha256) (fun _ _ => True) calls Store.initial :=
    admitted_of_forall (fun _ _ => trivial) calls Store.initial
  have hEvents := hPreserves.trace Store.initial_wellFormed hAdmitted
  refine ⟨?_, ?_, ?_, ?_⟩
  · intro jobId
    refine stamps_increase (fun s => s.board.fenceOf jobId) (handedOut jobId) hPreserves ?_ ?_
      Store.initial_wellFormed hAdmitted
    · intro s call wf _
      exact (perform_moves sha256 wf call).fenceOf_le wf.keyed jobId
    · intro s call fence wf _ hHanded
      obtain ⟨hNext, hCurrent⟩ := handedOut_next sha256 wf hHanded
      exact ⟨by omega, le_of_eq hCurrent⟩
  · intro e he jobId claimFence hPresents hStale
    obtain ⟨wf, _, hOutput, hAfter⟩ := hEvents e he
    obtain ⟨error, hPerform⟩ := perform_stale sha256 wf hPresents hStale
    rw [hOutput, hAfter, hPerform]
    exact ⟨⟨error, rfl⟩, rfl⟩
  · intro jobId claimFence
    refine countP_le_one_of_latch Store.WellFormed (fun s => s.board.Settled jobId)
      (recordsFinish jobId claimFence) hPreserves ?_ ?_ ?_ Store.initial_wellFormed hAdmitted
    · intro s call wf _ hSettled
      exact (perform_moves sha256 wf call).follows (fun j => j.state.settled = true)
        (fun hStep hKept => hStep.settled_state hKept) wf.keyed hSettled
    · intro s call wf _ hRecords
      exact (finish_settles sha256 wf hRecords).1
    · intro s call wf _ hRecords
      exact (finish_settles sha256 wf hRecords).2
  · intro e he operation job fence hExecution
    obtain ⟨wf, _, hOutput, hAfter⟩ := hEvents e he
    have wf' : e.after.WellFormed := hAfter ▸ hPreserves e.before e.input wf trivial
    have hHanded : handedOut job.id ⟨e.before, e.input, (perform sha256 e.input e.before).1,
        (perform sha256 e.input e.before).2⟩ = some fence := by
      rw [← hOutput, ← hAfter]
      simp [handedOut, hExecution]
    obtain ⟨hNext, hCurrent⟩ := handedOut_next sha256 wf hHanded
    rw [← hAfter] at hCurrent
    have hRowFence : ∀ {s : Store} {row : JobRow}, s.WellFormed → row ∈ s.outboxJobs →
        row.id = job.id → row.claimFence = s.board.fenceOf job.id := by
      intro s row wf hRow hId
      rw [wf.row_fence hRow, ← hId, wf.row_id hRow]
      exact (wf.keyed.fenceOf_eq (Store.WellFormed.mem_jobs hRow)).symm
    constructor
    · intro row hRow hId
      rw [hRowFence wf hRow hId]
      omega
    · intro earlier hEarlier row hRow hId
      rw [hRowFence wf' hRow hId]
      omega

/-- Worker A's lease lapses, worker B claims the job. -/
def supersededClaim : List Call := sampleSetup ++ [
  .claimReadyJob "worker-a" 0 60,
  .recoverExpiredClaims (seconds 60) (fun _ => sampleId '9'),
  .claimReadyJob "worker-b" (seconds 60) 60]

/-- The Authority dispatches the operation; no fence is presented. -/
def sampleExecution : Call :=
  .beginAuthorizedExecution samplePrincipal (sampleId '0') (sampleId 'b')
    "integrationExecuteIssueState" "digest" "invocation" 60 (seconds 61)

/-- The execution takes the job over from its current worker, whatever fence
its caller last held. -/
theorem begin_ignores_superseded_fence :
    ((run (perform fun _ => "digest") supersededClaim Store.initial).outboxJobs.map
      JobRow.claimFence = [2]) ∧
    ((perform (fun _ => "digest") sampleExecution
      (run (perform fun _ => "digest") supersededClaim Store.initial)).1.isOk = true) ∧
    ((perform (fun _ => "digest") sampleExecution
      (run (perform fun _ => "digest") supersededClaim Store.initial)).2.outboxJobs.map
        JobRow.claimFence = [3]) := by decide

end CyreneExchange.Integrations
