import CyreneExchange.Integrations.Outbox.Runs

/-! A provider write is sent at most once: in no run does a job other than a
read-only query enter SENDING twice, and an unknown outcome is never resent. -/
namespace CyreneExchange.Integrations

open Machine

/-- The job is a write at the provider boundary. -/
def Store.sendsWrite (s : Store) (jobId : UUID) : Bool :=
  s.outboxJobs.any fun row =>
    row.id == jobId && row.state == .sending && !row.document.isReadonlyQuery

/-- The call moved the write into SENDING. -/
def entersSending (jobId : UUID) (e : Event Store Call (Except StoreError Answer)) : Bool :=
  !e.before.sendsWrite jobId && e.after.sendsWrite jobId

/-- The write has been sent, whatever became of it. -/
def Board.Sent (b : Board) (jobId : UUID) : Prop :=
  ∃ job ∈ b.jobs, job.id = jobId ∧ job.isReadonlyQuery = false ∧ job.state.spent = true

section Latch

variable {s : Store} {jobId : UUID}

theorem sendsWrite_iff (wf : s.WellFormed) : s.sendsWrite jobId = true ↔
    ∃ job ∈ s.board.jobs, job.id = jobId ∧ job.isReadonlyQuery = false ∧ job.state = .sending := by
  unfold Store.sendsWrite
  rw [List.any_eq_true]
  constructor
  · rintro ⟨row, hRow, hSends⟩
    simp only [Bool.and_eq_true, beq_iff_eq, Bool.not_eq_true'] at hSends
    exact ⟨row.document, Store.WellFormed.mem_jobs hRow, (wf.row_id hRow).symm.trans hSends.1.1,
      hSends.2, (wf.row_state hRow).symm.trans hSends.1.2⟩
  · rintro ⟨job, hJob, hId, hWrite, hState⟩
    exact ⟨JobRow.ofJob job, wf.ofJob_mem hJob, by simp [JobRow.ofJob, hId, hWrite, hState]⟩

theorem sent_of_sendsWrite (wf : s.WellFormed) (h : s.sendsWrite jobId = true) :
    s.board.Sent jobId := by
  obtain ⟨job, hJob, hId, hWrite, hState⟩ := (sendsWrite_iff wf).mp h
  exact ⟨job, hJob, hId, hWrite, by rw [hState]; rfl⟩

theorem Board.Sent.moves {rules : Board.Discipline} {b c : Board} (h : b.Sent jobId)
    (hMoves : Board.Moves rules b c) (hKeyed : b.Keyed) : c.Sent jobId :=
  hMoves.follows (fun job => job.isReadonlyQuery = false ∧ job.state.spent = true)
    (fun hStep hKept => ⟨hStep.sameIntent.readonly_eq.trans hKept.1,
      hStep.spent_state hKept.1 hKept.2⟩) hKeyed h

/-- Once sent and no longer sending, the write stays settled. -/
theorem not_sendsWrite_of_sent {rules : Board.Discipline} {t : Store} (wf : s.WellFormed)
    (wf' : t.WellFormed) (hMoves : Board.Moves rules s.board t.board) (h : s.board.Sent jobId)
    (hIdle : s.sendsWrite jobId = false) : t.sendsWrite jobId = false := by
  obtain ⟨job, hJob, hId, hWrite, hSpent⟩ := h
  have hSettled : job.state.settled = true := by
    cases hCase : job.state.settled with
    | true => rfl
    | false =>
        have hSends := (sendsWrite_iff wf).mpr
          ⟨job, hJob, hId, hWrite, JobState.sending_of_spent hSpent hCase⟩
        rw [hIdle] at hSends
        cases hSends
  obtain ⟨job', hJob', hId', hSettled'⟩ := hMoves.follows (fun j => j.state.settled = true)
    (fun hStep hKept => hStep.settled_state hKept) wf.keyed ⟨job, hJob, hId, hSettled⟩
  cases hSends : t.sendsWrite jobId with
  | false => rfl
  | true =>
      obtain ⟨sending, hMem, hSame, _, hState⟩ := (sendsWrite_iff wf').mp hSends
      rw [wf'.job_eq hJob' hMem (hId'.trans hSame.symm), hState] at hSettled'
      cases hSettled'

end Latch

/-- In every run of the store every write enters SENDING at most once, and a
job found in UNKNOWN is never found ready, claimed or sending again. -/
theorem write_enters_sending_at_most_once (sha256 : String → String) (calls : List Call) :
    (∀ jobId, (trace (perform sha256) calls Store.initial).countP (entersSending jobId) ≤ 1) ∧
    ∀ earlier later, calls = earlier ++ later →
      ∀ row ∈ (run (perform sha256) earlier Store.initial).outboxJobs, row.state = .unknown →
      ∀ row' ∈ (run (perform sha256) calls Store.initial).outboxJobs, row'.id = row.id →
        row'.state ≠ .ready ∧ row'.state ≠ .claimed ∧ row'.state ≠ .sending := by
  have hPreserves := perform_preserves_wellFormed sha256
  constructor
  · intro jobId
    refine countP_le_one_of_latch Store.WellFormed (fun s => s.board.Sent jobId)
      (entersSending jobId) hPreserves ?_ ?_ ?_ Store.initial_wellFormed
      (admitted_of_forall (fun _ _ => trivial) calls _)
    · intro s call wf _ hSent
      exact hSent.moves (perform_moves sha256 wf call) wf.keyed
    · intro s call wf hTrue hEvent hSent
      simp only [entersSending, Bool.and_eq_true, Bool.not_eq_true'] at hEvent
      have hIdle := not_sendsWrite_of_sent wf (hPreserves s call wf hTrue)
        (perform_moves sha256 wf call) hSent hEvent.1
      rw [hEvent.2] at hIdle
      cases hIdle
    · intro s call wf hTrue hEvent
      simp only [entersSending, Bool.and_eq_true, Bool.not_eq_true'] at hEvent
      exact sent_of_sendsWrite (hPreserves s call wf hTrue) hEvent.2
  · rintro earlier later rfl row hRow hUnknown row' hRow' hId
    rw [run_append] at hRow'
    have wf := run_wellFormed sha256 earlier Store.initial_wellFormed
    have wf' := run_wellFormed sha256 later wf
    obtain ⟨job, hJob, hSame, hParked⟩ := (run_moves sha256 later wf).follows
      (fun j => j.state.parked = true) (fun hStep hKept => hStep.parked_state hKept) wf.keyed
      ⟨row.document, Store.WellFormed.mem_jobs hRow, rfl,
        by rw [← wf.row_state hRow, hUnknown]; rfl⟩
    have hDocument : row'.document = job := wf'.job_eq (Store.WellFormed.mem_jobs hRow') hJob
      ((wf'.row_id hRow').symm.trans (hId.trans ((wf.row_id hRow).trans hSame.symm)))
    rw [wf'.row_state hRow', hDocument]
    cases hState : job.state <;> simp [hState, JobState.parked] at hParked ⊢

end CyreneExchange.Integrations
