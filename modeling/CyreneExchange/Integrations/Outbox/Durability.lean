import CyreneExchange.Integrations.Outbox.Agreement

/-! What later reads and replies rely on: stored documents still pass their
models, and an operation can be answered through a recorded connection. The
admitting routes promise the connection and the event of a chat command. -/
namespace CyreneExchange.Integrations

open Machine

/-- The routes record the connection of an operation and, for a chat command,
the inbound event it answers. -/
structure Operation.Routed (connections : List IntegrationConnection) (operation : Operation) :
    Prop where
  connection : ∃ c ∈ connections, c.id = operation.connectionId ∧
    c.organizationId = operation.scope.organizationId ∧
    c.workspaceId = operation.scope.workspaceId
  source : operation.sourceKind = .wecomCommand →
    ∃ event : UUID, operation.sourceEventRef = some event.text

/-- The job's document passes its model again, up to an invocation id written
when execution begins. -/
structure OutboxJob.Bounded (job : OutboxJob) : Prop where
  key : atMost 300 job.idempotencyKey = true
  authorityKey : atMost 300 job.authorityIdempotencyKey = true
  invocation : job.state.spent = false → atMost 300 job.authorityInvocationId = true

/-- Authority answers on ISSUE_ACTION jobs, and routed operations. -/
def Board.Discipline.routed : Board.Discipline :=
  ⟨fun job => job.kind = .issueAction, fun b operation => operation.Routed b.connections⟩

/-- What holds of the documents in every store the routes and workers reach. -/
structure Board.Durable (b : Board) : Prop where
  coherent : b.Coherent
  bounded : ∀ job ∈ b.jobs, job.Bounded
  routed : ∀ o ∈ b.operations, o.Routed b.connections
  intents : ∀ o ∈ b.operations, (Turn.forget o).valid = true

section Documents

variable {b c : Board} {job reply : OutboxJob} {operation operation' : Operation} {turn : Turn}

theorem OutboxJob.valid_iff : job.valid = true ↔ atMost 300 job.idempotencyKey = true ∧
    atMost 300 job.authorityInvocationId = true ∧
    atMost 300 job.authorityIdempotencyKey = true := by
  simp only [OutboxJob.valid, Bool.and_eq_true, and_assoc]

theorem OutboxJob.Bounded.of_valid (h : job.valid = true) : job.Bounded := by
  obtain ⟨hKey, hInvocation, hAuthority⟩ := OutboxJob.valid_iff.mp h
  exact ⟨hKey, hAuthority, fun _ => hInvocation⟩

theorem OutboxJob.Bounded.valid (h : job.Bounded) (hSpent : job.state.spent = false) :
    job.valid = true :=
  OutboxJob.valid_iff.mpr ⟨h.key, h.invocation hSpent, h.authorityKey⟩

theorem Operation.valid_iff : operation.valid = true ↔ (Turn.forget operation).valid = true ∧
    atMost 300 operation.authorityInvocationId = true ∧
    atMost 300 operation.authorityIdempotencyKey = true := by
  have hNone : atMost 300 none = true := rfl
  simp only [Operation.valid, Turn.forget, Bool.and_eq_true, hNone, and_true]
  tauto

theorem Operation.SameIntent.forget_valid (h : operation.SameIntent operation') :
    (Turn.forget operation').valid = (Turn.forget operation).valid := by
  rw [h]
  rfl

theorem Operation.SameIntent.routed {connections : List IntegrationConnection}
    (h : operation.SameIntent operation') (hRouted : operation.Routed connections) :
    operation'.Routed connections := by
  rw [h]
  exact ⟨hRouted.connection, hRouted.source⟩

theorem Operation.Routed.append {connections added : List IntegrationConnection}
    (h : operation.Routed connections) : operation.Routed (connections ++ added) := by
  obtain ⟨c, hMem, hScope⟩ := h.connection
  exact ⟨⟨c, List.mem_append_left _ hMem, hScope⟩, h.source⟩

theorem atMost_of_le {n : Nat} {text : String} (h : text.length ≤ n) :
    atMost n (some text) = true := by
  simpa [atMost] using h

/-- A turn writes no text its job's model would refuse before the job is spent. -/
theorem OutboxJob.Bounded.after_turn (h : job.Bounded) {found : Option Operation}
    (hAllowed : turn.Allowed job found) : (turn.job job).Bounded := by
  refine ⟨?_, ?_, ?_⟩
  · rw [(turn.job_sameIntent job).key_eq]
    exact h.key
  · cases turn with
    | prepare key now => exact atMost_of_le hAllowed.2.2.1
    | requeue => rfl
    | _ => exact h.authorityKey
  · cases turn with
    | claim =>
        intro _
        apply h.invocation
        rcases hAllowed with hState | hState <;> rw [hState] <;> rfl
    | await invocationId authorityState now => exact fun _ => atMost_of_le hAllowed.2.2.1
    | prepare => exact h.invocation
    | poll =>
        intro _
        apply h.invocation
        rw [hAllowed.1]
        rfl
    | release =>
        intro _
        apply h.invocation
        rw [show job.state = .claimed from hAllowed]
        rfl
    | requeue => exact fun _ => rfl
    | finish status =>
        intro hSpent
        rw [show ((Turn.finish status _ _).job job).state = status from rfl,
          JobState.spent_of_settled (finish_settled hAllowed.2)] at hSpent
        cases hSpent
    | send | deny | lose | begin | exhaust | lapse => intro hSpent; cases hSpent

/-- A weaker discipline admits every move of a stronger one. -/
theorem Board.Move.mono {rules rules' : Board.Discipline} (h : Board.Move rules b c)
    (hAuthority : ∀ j, rules.authority j → rules'.authority j)
    (hIntent : ∀ x o, rules.intent x o → rules'.intent x o) : Board.Move rules' b c := by
  cases h with
  | enqueue operation job hFresh hScope hNew hValid hAdmitted hJob hJobValid hKind hOperation hKey
      hPayload hState hFence hNone =>
      exact .enqueue operation job hFresh hScope hNew hValid (hIntent _ _ hAdmitted) hJob hJobValid
        hKind hOperation hKey hPayload hState hFence hNone
  | deliver job hJob hJobValid hKind hOperation hState hFence hNone =>
      exact .deliver job hJob hJobValid hKind hOperation hState hFence hNone
  | take turn job replies hJob hAllowed hRecords hAnswers =>
      exact .take turn job replies hJob hAllowed (fun h => hAuthority _ (hRecords h)) hAnswers
  | resolve operation succeeded result now hMem hUnknown =>
      exact .resolve operation succeeded result now hMem hUnknown
  | extend connections => exact .extend connections

/-- An operation after a move is a new, admitted one or carries the intent of
an earlier one. -/
theorem Board.Move.operation_origin {rules : Board.Discipline} (h : Board.Move rules b c)
    (hMem : operation' ∈ c.operations) :
    (∃ o ∈ b.operations, o.SameIntent operation') ∨
      (rules.intent b operation' ∧ operation'.valid = true) := by
  cases h with
  | enqueue operation job _ _ _ hValid hAdmitted =>
      rcases List.mem_append.mp hMem with hOld | hNew
      · exact Or.inl ⟨operation', hOld, rfl⟩
      · rw [List.mem_singleton.mp hNew]
        exact Or.inr ⟨hAdmitted, hValid⟩
  | deliver | extend => exact Or.inl ⟨operation', hMem, rfl⟩
  | take turn job replies =>
      obtain ⟨o, ho, ⟨_, rfl⟩ | ⟨_, rfl⟩⟩ := Board.mem_take_operations.mp hMem
      · exact Or.inl ⟨o, ho, turn.operation_sameIntent job o⟩
      · exact Or.inl ⟨operation', ho, rfl⟩
  | resolve unknown succeeded result now =>
      obtain ⟨o, ho, ⟨_, rfl⟩ | ⟨_, rfl⟩⟩ := Table.mem_updateWhere.mp hMem
      · exact Or.inl ⟨o, ho, Turn.settle_sameIntent _ _ _ o⟩
      · exact Or.inl ⟨operation', ho, rfl⟩

theorem Board.Move.connections {rules : Board.Discipline} (h : Board.Move rules b c) :
    ∃ added, c.connections = b.connections ++ added := by
  cases h with
  | extend connections => exact ⟨connections, rfl⟩
  | _ => exact ⟨[], (List.append_nil _).symm⟩

/-- A job after a move is bounded when the jobs before it are. -/
theorem Board.Move.bounded {rules : Board.Discipline} (h : Board.Move rules b c)
    (hBounded : ∀ job ∈ b.jobs, job.Bounded) : ∀ job ∈ c.jobs, job.Bounded := by
  intro job' hMem
  cases h with
  | extend connections => exact hBounded job' hMem
  | enqueue operation job _ _ _ _ _ _ hValid =>
      rcases List.mem_append.mp hMem with hOld | hNew
      · exact hBounded job' hOld
      · rw [List.mem_singleton.mp hNew]
        exact .of_valid hValid
  | deliver job _ hValid =>
      rcases List.mem_append.mp hMem with hOld | hNew
      · exact hBounded job' hOld
      · rw [List.mem_singleton.mp hNew]
        exact .of_valid hValid
  | take turn job replies hJob hAllowed _ hAnswers =>
      rcases Board.mem_take_jobs hMem with rfl | ⟨hOld, _⟩ | hNew
      · exact (hBounded job hJob).after_turn hAllowed
      · exact hBounded job' hOld
      · obtain ⟨_, _, _, _, _, _, _, _, _, _, _, hValid⟩ := hAnswers.of_mem hNew
        exact .of_valid hValid
  | resolve operation succeeded result now =>
      obtain ⟨j, hj, ⟨_, rfl⟩ | ⟨_, rfl⟩⟩ := Table.mem_updateWhere.mp hMem
      · exact ⟨(hBounded j hj).key, (hBounded j hj).authorityKey, fun hSpent => by cases hSpent⟩
      · exact hBounded job' hj

theorem Board.Durable.move (h : b.Durable) (hMove : Board.Move Discipline.routed b c) :
    c.Durable := by
  have hDispatch : Board.Move Discipline.dispatch b c :=
    hMove.mono (fun _ hKind => hKind) fun _ _ _ => trivial
  obtain ⟨added, hConnections⟩ := hMove.connections
  refine ⟨h.coherent.move hDispatch, hMove.bounded h.bounded, ?_, ?_⟩
  · intro o ho
    rw [hConnections]
    rcases hMove.operation_origin ho with ⟨o', ho', same⟩ | ⟨hRouted, _⟩
    · exact (same.routed (h.routed o' ho')).append
    · exact Operation.Routed.append hRouted
  · intro o ho
    rcases hMove.operation_origin ho with ⟨o', ho', same⟩ | ⟨_, hValid⟩
    · rw [same.forget_valid]
      exact h.intents o' ho'
    · exact (Operation.valid_iff.mp hValid).1

end Documents

/-- The admitting routes read the intent's connection in its own scope, and
admit a chat command only for an inbound event they have recorded. -/
def Routed (s : Store) : Call → Prop
  | .persistIssueAction intent =>
      (∃ c ∈ s.connections, c.id = intent.connection.id ∧
        c.organizationId = intent.scope.organizationId ∧
        c.workspaceId = intent.scope.workspaceId) ∧
      (intent.sourceKind = .wecomCommand →
        ∃ event ∈ s.wecomInboundEvents, intent.sourceEventRef = some event.id.text)
  | _ => True

instance (s : Store) (call : Call) : Decidable (Routed s call) :=
  match call with
  | .persistIssueAction intent => inferInstanceAs (Decidable ((∃ c ∈ s.connections,
      c.id = intent.connection.id ∧ c.organizationId = intent.scope.organizationId ∧
        c.workspaceId = intent.scope.workspaceId) ∧ (intent.sourceKind = .wecomCommand →
        ∃ event ∈ s.wecomInboundEvents, intent.sourceEventRef = some event.id.text)))
  | .enqueueDelivery .. | .claimReadyJob .. | .markSending .. | .failClaimedJob ..
  | .markAwaitingAuthority .. | .prepareAuthorityEnqueue .. | .updateAuthorityEvidence ..
  | .markAuthorityResultUnknown .. | .beginAuthorizedExecution .. | .finishJob ..
  | .recoverExpiredClaims .. | .retryReadonlyJob .. | .resolveUnknownOperation ..
  | .administer .. => .isTrue trivial

/-- What workers and routes promise together. -/
def Promised (s : Store) (call : Call) : Prop := Dispatched s call ∧ Routed s call

instance (s : Store) (call : Call) : Decidable (Promised s call) :=
  inferInstanceAs (Decidable (Dispatched s call ∧ Routed s call))

/-- A store whose rows are well formed and whose documents are durable. -/
structure Store.Durable (s : Store) : Prop where
  wellFormed : s.WellFormed
  board : s.board.Durable

section Runs

variable (sha256 : String → String) {s : Store} {call : Call}

theorem Promised.keeps (wf : s.WellFormed) (h : Promised s call) :
    call.Keeps sha256 Board.Discipline.routed s := by
  refine ⟨(h.1.keeps sha256 wf).authority, ?_⟩
  intro operation hAdmits
  cases call with
  | persistIssueAction intent =>
      obtain ⟨executionOperationId, argumentDigest, rfl⟩ := hAdmits
      obtain ⟨hConnection, hSource⟩ := h.2
      refine ⟨hConnection, fun hCommand => ?_⟩
      obtain ⟨event, _, hRef⟩ := hSource hCommand
      exact ⟨event.id, hRef⟩
  | _ => cases hAdmits

theorem Store.initial_durable : Store.initial.Durable := by
  refine ⟨Store.initial_wellFormed, Store.initial_coherent.board, ?_, ?_, ?_⟩ <;>
    intro x hx <;> cases hx

theorem Store.Durable.moves {t : Store} (h : s.Durable) (wf : t.WellFormed)
    (hMoves : Board.Moves Board.Discipline.routed s.board t.board) : t.Durable :=
  ⟨wf, (hMoves.preserves Board.Durable (fun hMove _ hHolds => hHolds.move hMove)
    h.wellFormed.keyed h.board).2⟩

theorem perform_preserves_durable :
    Preserves (perform sha256) Promised Store.Durable := by
  intro s call h hPromised
  obtain ⟨wf, hMoves⟩ := perform_refines sha256 Board.Discipline.routed h.wellFormed
    (hPromised.keeps sha256 h.wellFormed)
  exact h.moves wf hMoves

end Runs

end CyreneExchange.Integrations
