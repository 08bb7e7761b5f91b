import CyreneExchange.Integrations.Connector.Steps

/-! The ledger never lets an operation be dispatched twice. A reservation
answered NEW is held by one execution until its row is terminal or that very
execution discards it, which it does only when it never dispatched. -/
namespace CyreneExchange.Integrations

open Transaction Machine

/-- The execution `id` is at a stage satisfying `p`. -/
def ConnectorSystem.At (s : ConnectorSystem) (id : Nat) (p : Stage → Bool) : Prop :=
  ∃ execution, s.executions[id]? = some execution ∧ p execution.stage = true

/-- A row of the operation stands, with no final outcome yet. -/
def ConnectorSystem.Standing (s : ConnectorSystem) (request : ConnectorRequest) : Prop :=
  ∃ row ∈ s.store.invocations, row.key = request.key ∧ row.signed = request.signed ∧
    row.stands = true

/-- A final outcome is recorded for the operation. -/
def ConnectorSystem.Ended (s : ConnectorSystem) (request : ConnectorRequest) : Prop :=
  ∃ row ∈ s.store.invocations, row.key = request.key ∧ row.signed = request.signed ∧
    row.state.terminal = true

namespace ConnectorEvent

/-- `reserve_connector_invocation` answers NEW to the execution `id`. -/
def ReservesNew (id : Nat) (e : ConnectorEvent) : Prop :=
  ∃ nowEpoch r, e.input = .advance id (.reserve nowEpoch) ∧ e.output = .reserved r ∧
    r.disposition = .new

/-- `reserve_connector_invocation` answers the execution `id` otherwise. -/
def ReservesOther (id : Nat) (e : ConnectorEvent) : Prop :=
  ∃ nowEpoch, e.input = .advance id (.reserve nowEpoch) ∧
    ((∃ error, e.output = .failed error) ∨ ∃ r, e.output = .reserved r ∧ r.disposition ≠ .new)

/-- The execution `id` consumes the grant of its own request. -/
def ConsumesOwnGrant (world : ConnectorWorld) (id : Nat) (e : ConnectorEvent) : Prop :=
  ∃ clock execution claims call, e.input = .advance id (.consume clock) ∧
    e.output = .consumed claims ∧ e.before.executions[id]? = some execution ∧
    world.verifier.consumption execution.request.grant execution.request.expected clock =
      .ok (claims, call) ∧ (performGrant call e.before.store).1 = true

/-- The dispatcher is invoked for the execution `id`. -/
def dispatches (id : Nat) (e : ConnectorEvent) : Bool :=
  match e.input, e.output with
  | .advance id' .dispatch, .done => id' == id
  | _, _ => false

/-- The execution `id` discards its reservation. -/
def Discards (id : Nat) (e : ConnectorEvent) : Prop :=
  e.input = .advance id .discard ∧ e.output = .done

end ConnectorEvent

/-- What a run of connector executions must be like for no operation to be
dispatched twice. -/
structure NeverRedispatches (world : ConnectorWorld) (events : List ConnectorEvent) : Prop where
  /-- One execution reserves once, so it dispatches at most once per NEW answer. -/
  once : ∀ id, events.countP (ConnectorEvent.dispatches id) ≤ 1
  /-- Before a dispatch came a NEW answer and the consumption of its own grant. -/
  earned : ∀ id earlier e later, events = earlier ++ e :: later → e.dispatches id = true →
    (∃ r ∈ earlier, r.ReservesNew id) ∧ ∃ c ∈ earlier, c.ConsumesOwnGrant world id
  /-- A replayed request never dispatches. -/
  replayed : ∀ id, ∀ e ∈ events, e.ReservesOther id → ∀ d ∈ events, d.dispatches id = false
  /-- From a dispatch on its row stands until a final outcome is recorded. -/
  kept : ∀ id execution earlier e between f later, events = earlier ++ e :: (between ++ f :: later) →
    e.dispatches id = true → e.before.executions[id]? = some execution →
    f.before.Standing execution.request ∨ ∃ g ∈ e :: between, g.after.Ended execution.request
  /-- NEW comes again only after a discard before any dispatch, or a final outcome. -/
  again : ∀ id id' execution execution' earlier e between f later,
    events = earlier ++ e :: (between ++ f :: later) → e.ReservesNew id → f.ReservesNew id' →
    e.before.executions[id]? = some execution → f.before.executions[id']? = some execution' →
    execution'.request.key = execution.request.key →
    ∃ g ∈ between, g.after.Ended execution.request ∨
      (g.Discards id ∧ ∀ d ∈ events, d.dispatches id = false)
  /-- A reservation whose key has a live row inserts nothing: it answers from
  that row, or conflicts with it when it is signed for another operation. -/
  conflicting : ∀ id nowEpoch execution row, ∀ e ∈ events,
    e.input = .advance id (.reserve nowEpoch) → e.before.executions[id]? = some execution →
    (e.before.At id fun stage => stage matches .requested) →
    row ∈ e.before.store.invocations → row.key = execution.request.key →
    row.unexpired nowEpoch = true →
    (e.output = .reserved row.reservation ∧ row.signed = execution.request.signed) ∨
      e.after.store = e.before.store ∧ ((∃ detail, e.output = .failed (.validation detail)) ∨
        (row.signed ≠ execution.request.signed ∧ e.output = .failed
          (.conflict "connector request id was already used for a different signed operation")))

section Stages

/-- The stages before a dispatch, on the way to one. -/
def Stage.mayDispatch : Stage → Bool
  | .requested | .reserved | .granted _ | .attached _ => true
  | _ => false

def Stage.pastDispatch : Stage → Bool
  | .dispatching _ | .answered _ _ | .completed _ | .finished => true
  | _ => false

def Stage.replays : Stage → Bool
  | .replayed | .replayGranted _ | .finished => true
  | _ => false

/-- The stages from a NEW reservation to the dispatch. -/
def Stage.newlyReserved : Stage → Bool
  | .reserved | .granted _ | .attached _ => true
  | _ => false

def Stage.newlyGranted : Stage → Bool
  | .granted _ | .attached _ => true
  | _ => false

def Stage.isFinished : Stage → Bool
  | .finished => true
  | _ => false

variable {world : ConnectorWorld} {request : ConnectorRequest} {move : Move}
  {stage stage' : Stage} {store store' : ConnectorStore} {answer : ConnectorAnswer}
  {s : ConnectorSystem} {action : ConnectorAction} {id : Nat} {p : Stage → Bool}

/-- Every step leads from a stage satisfying `p` to another one. -/
def StageStable (p : Stage → Bool) : Prop :=
  ∀ (world : ConnectorWorld) (request : ConnectorRequest) (move : Move) (stage stage' : Stage)
    (s t : ConnectorStore) (answer : ConnectorAnswer),
    request.Takes world move stage s answer stage' t → p stage = true → p stage' = true

theorem not_mayDispatch_stable : StageStable fun stage => !stage.mayDispatch := by
  intro world request move stage stage' s t answer hTakes hStage
  cases hTakes <;> first | rfl | cases hStage

theorem pastDispatch_stable : StageStable Stage.pastDispatch := by
  intro world request move stage stage' s t answer hTakes hStage
  cases hTakes <;> first | rfl | cases hStage

theorem replays_stable : StageStable Stage.replays := by
  intro world request move stage stage' s t answer hTakes hStage
  cases hTakes <;> first | rfl | cases hStage

theorem finished_stable : StageStable Stage.isFinished := by
  intro world request move stage stage' s t answer hTakes hStage
  cases hTakes <;> first | rfl | cases hStage

/-- What every step of an execution keeps, every action keeps. -/
theorem at_stable (hStable : StageStable p) (h : s.At id p) :
    (performConnector world action s).2.At id p := by
  obtain ⟨execution, hExecution, hStage⟩ := h
  have hActs := performConnector_acts world action s
  generalize (performConnector world action s).1 = answer at hActs
  generalize (performConnector world action s).2 = t at hActs ⊢
  cases hActs with
  | denied | ignored | registered => exact ⟨execution, hExecution, hStage⟩
  | arrived h =>
      have hLength := (List.getElem?_eq_some_iff.mp hExecution).1
      exact ⟨execution, by simpa [List.getElem?_append_left hLength] using hExecution, hStage⟩
  | @advanced moved move found answer stage store hFound hTakes =>
      by_cases hId : moved = id
      · subst hId
        rw [hExecution] at hFound
        cases hFound
        have hLength := (List.getElem?_eq_some_iff.mp hExecution).1
        exact ⟨⟨execution.request, stage⟩, by simp [hLength],
          hStable world execution.request move execution.stage stage _ _ _ hTakes hStage⟩
      · exact ⟨execution, by simpa [List.getElem?_set, hId] using hExecution, hStage⟩

theorem at_mono {q : Stage → Bool} (hImplies : ∀ stage, p stage = true → q stage = true)
    (h : s.At id p) : s.At id q := by
  obtain ⟨execution, hExecution, hStage⟩ := h
  exact ⟨execution, hExecution, hImplies _ hStage⟩

/-- An execution is at one stage. -/
theorem not_at_of_at {q : Stage → Bool} (hApart : ∀ stage, p stage = true → q stage = false)
    (h : s.At id p) : ¬ s.At id q := by
  rintro ⟨execution, hExecution, hStage⟩
  obtain ⟨execution', hExecution', hStage'⟩ := h
  rw [hExecution] at hExecution'
  cases hExecution'
  rw [hApart _ hStage'] at hStage
  cases hStage

end Stages

section Events

/-- A successful consumption is one of the registry. -/
theorem consume_eq_ok {verifier : GrantVerifier} {grant : List UInt8} {expected : ExpectedClaims}
    {clock : ℚ} {s t : ConnectorStore} {claims : ConnectorGrantClaims}
    (h : verifier.consume grant expected clock s = (.ok claims, t)) :
    ∃ call, verifier.consumption grant expected clock = .ok (claims, call) ∧
      (performGrant call s).1 = true := by
  unfold GrantVerifier.consume GrantVerifier.attempt at h
  match hCall : verifier.consumption grant expected clock with
  | .error e =>
      rw [hCall] at h
      cases h
  | .ok (claims', call) =>
      rw [hCall] at h
      dsimp only at h
      match hPerform : performGrant call s with
      | (true, u) =>
          rw [hPerform] at h
          cases h
          exact ⟨call, rfl, by rw [hPerform]⟩
      | (false, u) =>
          rw [hPerform] at h
          cases h

variable {world : ConnectorWorld} {actions : List ConnectorAction} {start : ConnectorSystem}
  {e : ConnectorEvent} {id : Nat} {move : Move} {execution : Execution} {p : Stage → Bool}

/-- Every event of a run is one action. -/
theorem mem_trace_acts (he : e ∈ trace (performConnector world) actions start) :
    e.before.Acts world e.input e.output e.after := by
  have hAdmitted : Admitted (performConnector world) (fun _ _ => True) actions start :=
    admitted_of_forall (fun _ _ => trivial) actions start
  have hTrivial : Preserves (performConnector world) (fun _ _ => True) (fun _ => True) :=
    fun _ _ _ _ => trivial
  obtain ⟨_, _, hOut, hAfter⟩ := hTrivial.trace trivial hAdmitted e he
  rw [hOut, hAfter]
  exact performConnector_acts world e.input e.before

/-- An answered step of an execution is one it takes. -/
theorem advanced_of_answer (hActs : e.before.Acts world e.input e.output e.after)
    (hInput : e.input = .advance id move) (hOutput : e.output ≠ .ignored) :
    ∃ execution stage store, e.before.executions[id]? = some execution ∧
      execution.request.Takes world move execution.stage e.before.store e.output stage store ∧
      e.after = ⟨store, e.before.executions.set id ⟨execution.request, stage⟩⟩ := by
  obtain ⟨before, input, output, after⟩ := e
  dsimp only at hInput hOutput hActs ⊢
  subst hInput
  cases hActs with
  | ignored => exact absurd rfl hOutput
  | advanced hExecution hTakes => exact ⟨_, _, _, hExecution, hTakes, rfl⟩

/-- The stage an execution has moved to. -/
theorem at_set {s : ConnectorSystem} {store : ConnectorStore} {stage : Stage}
    (hExecution : s.executions[id]? = some execution) (hStage : p stage = true) :
    (⟨store, s.executions.set id ⟨execution.request, stage⟩⟩ : ConnectorSystem).At id p := by
  have hLength := (List.getElem?_eq_some_iff.mp hExecution).1
  exact ⟨⟨execution.request, stage⟩, by simp [hLength], hStage⟩

theorem dispatches_advances (hActs : e.before.Acts world e.input e.output e.after)
    (h : e.dispatches id = true) :
    ∃ execution claims, e.before.executions[id]? = some execution ∧
      execution.stage = .attached claims ∧ e.after = ⟨e.before.store,
        e.before.executions.set id ⟨execution.request, .dispatching claims⟩⟩ := by
  have hShape : e.input = .advance id .dispatch ∧ e.output = .done := by
    unfold ConnectorEvent.dispatches at h
    split at h
    · rename_i id' hInput hOutput
      rw [beq_iff_eq.mp h] at hInput
      exact ⟨hInput, hOutput⟩
    · cases h
  obtain ⟨⟨request, stage⟩, stage', store, hExecution, hTakes, hAfter⟩ :=
    advanced_of_answer hActs hShape.1 (by rw [hShape.2]; exact ConnectorAnswer.noConfusion)
  rw [hShape.2] at hTakes
  cases hTakes with
  | dispatched => exact ⟨_, _, hExecution, rfl, hAfter⟩

theorem at_of_dispatches (hActs : e.before.Acts world e.input e.output e.after)
    (h : e.dispatches id = true) :
    e.before.At id Stage.newlyGranted ∧ e.after.At id Stage.pastDispatch := by
  obtain ⟨execution, claims, hExecution, hStage, hAfter⟩ := dispatches_advances hActs h
  refine ⟨⟨execution, hExecution, by rw [hStage]; rfl⟩, ?_⟩
  rw [hAfter]
  exact at_set hExecution rfl

theorem at_of_discards (hActs : e.before.Acts world e.input e.output e.after)
    (h : e.Discards id) :
    (e.before.At id fun stage => stage matches .refused) ∧ e.after.At id Stage.isFinished := by
  obtain ⟨⟨request, stage⟩, stage', store, hExecution, hTakes, hAfter⟩ :=
    advanced_of_answer hActs h.1 (by rw [h.2]; exact ConnectorAnswer.noConfusion)
  rw [h.2] at hTakes
  rw [hAfter]
  cases hTakes with
  | discarded _ => exact ⟨⟨_, hExecution, rfl⟩, at_set hExecution rfl⟩

theorem at_of_reservesOther (hActs : e.before.Acts world e.input e.output e.after)
    (h : e.ReservesOther id) :
    e.before.At id (fun stage => !stage.pastDispatch) ∧ e.after.At id Stage.replays := by
  obtain ⟨nowEpoch, hInput, hAnswer⟩ := h
  have hOutput : e.output ≠ .ignored := by
    rcases hAnswer with ⟨error, hFailed⟩ | ⟨r, hReserved, _⟩
    · rw [hFailed]
      exact ConnectorAnswer.noConfusion
    · rw [hReserved]
      exact ConnectorAnswer.noConfusion
  obtain ⟨⟨request, stage⟩, stage', store, hExecution, hTakes, hAfter⟩ :=
    advanced_of_answer hActs hInput hOutput
  rw [hAfter]
  generalize e.output = output at hTakes hAnswer
  cases hTakes with
  | @reserved _ _ _ r hReserve =>
      refine ⟨⟨_, hExecution, rfl⟩, at_set hExecution ?_⟩
      rcases hAnswer with ⟨_, hFailed⟩ | ⟨_, hReserved, hOld⟩
      · cases hFailed
      · cases hReserved
        unfold ConnectorRequest.afterReserve
        rw [if_neg hOld]
        split <;> rfl
  | failed error _ hReserve =>
      have hRequested : stage = .requested := hReserve nowEpoch rfl
      subst hRequested
      exact ⟨⟨_, hExecution, rfl⟩, at_set hExecution rfl⟩

/-- An execution comes to a stage it was not at only by a step of its own. -/
theorem advanced_of_at {s : ConnectorSystem} {action : ConnectorAction}
    (hRequested : p .requested = false) (hBefore : ¬ s.At id p)
    (hAfter : (performConnector world action s).2.At id p) :
    ∃ move execution stage store, action = .advance id move ∧
      s.executions[id]? = some execution ∧ execution.request.Takes world move execution.stage
        s.store (performConnector world action s).1 stage store ∧
      p execution.stage = false ∧ p stage = true := by
  have hActs := performConnector_acts world action s
  generalize (performConnector world action s).1 = answer at hActs ⊢
  generalize (performConnector world action s).2 = t at hActs hAfter
  obtain ⟨execution', hExecution', hStage'⟩ := hAfter
  cases hActs with
  | denied | ignored | registered => exact absurd ⟨execution', hExecution', hStage'⟩ hBefore
  | arrived h =>
      rcases executions_append hExecution' with hOld | hNew
      · exact absurd ⟨execution', hOld, hStage'⟩ hBefore
      · rw [hNew, hRequested] at hStage'
        cases hStage'
  | @advanced moved move execution answer stage store hExecution hTakes =>
      rcases executions_set hExecution hExecution' with ⟨rfl, rfl⟩ | ⟨_, hOld⟩
      · refine ⟨move, execution, stage, store, rfl, hExecution, hTakes, ?_, hStage'⟩
        cases hFrom : p execution.stage with
        | false => rfl
        | true => exact absurd ⟨execution, hExecution, hFrom⟩ hBefore
      · exact absurd ⟨execution', hOld, hStage'⟩ hBefore

/-- Only a NEW answer brings an execution among the newly reserved. -/
theorem reservesNew_of_at {s : ConnectorSystem} {action : ConnectorAction}
    (hBefore : ¬ s.At id Stage.newlyReserved)
    (hAfter : (performConnector world action s).2.At id Stage.newlyReserved) :
    ConnectorEvent.ReservesNew id ⟨s, action, (performConnector world action s).1,
      (performConnector world action s).2⟩ := by
  obtain ⟨move, ⟨request, stage⟩, stage', store, hAction, _, hTakes, hFrom, hTo⟩ :=
    advanced_of_at rfl hBefore hAfter
  dsimp only at hTakes hFrom
  unfold ConnectorEvent.ReservesNew
  dsimp only
  generalize (performConnector world action s).1 = answer at hTakes ⊢
  cases hTakes with
  | @reserved nowEpoch _ _ r _ =>
      refine ⟨nowEpoch, r, hAction, rfl, ?_⟩
      by_contra hOld
      unfold ConnectorRequest.afterReserve at hTo
      rw [if_neg hOld] at hTo
      split at hTo <;> cases hTo
  | granted _ => cases hFrom
  | attached _ => cases hFrom
  | _ => cases hTo

/-- Only the consumption of its own grant brings an execution among the newly
granted. -/
theorem consumesOwnGrant_of_at {s : ConnectorSystem} {action : ConnectorAction}
    (hBefore : ¬ s.At id Stage.newlyGranted)
    (hAfter : (performConnector world action s).2.At id Stage.newlyGranted) :
    ConnectorEvent.ConsumesOwnGrant world id ⟨s, action, (performConnector world action s).1,
      (performConnector world action s).2⟩ := by
  obtain ⟨move, ⟨request, stage⟩, stage', store, hAction, hExecution, hTakes, hFrom, hTo⟩ :=
    advanced_of_at rfl hBefore hAfter
  dsimp only at hTakes hFrom
  unfold ConnectorEvent.ConsumesOwnGrant
  dsimp only
  generalize (performConnector world action s).1 = answer at hTakes ⊢
  cases hTakes with
  | @granted clock _ _ claims h =>
      obtain ⟨call, hCall, hAnswer⟩ := consume_eq_ok h
      exact ⟨clock, ⟨request, .reserved⟩, claims, call, hAction, rfl, hExecution, hCall, hAnswer⟩
  | attached _ => cases hFrom
  | reserved _ =>
      unfold ConnectorRequest.afterReserve at hTo
      split at hTo
      · cases hTo
      · split at hTo <;> cases hTo
  | _ => cases hTo

end Events

section Holding

variable {world : ConnectorWorld} {request : ConnectorRequest} {move : Move}
  {stage stage' : Stage} {store store' : ConnectorStore} {answer : ConnectorAnswer}
  {s : ConnectorSystem} {action : ConnectorAction} {id : Nat} {row : ConnectorInvocation}

/-- The operation stands, and no execution but `id` owns its key. -/
structure ConnectorSystem.Held (s : ConnectorSystem) (id : Nat) (request : ConnectorRequest) :
    Prop where
  standing : s.Standing request
  alone : ∀ (id' : Nat) (execution : Execution), s.executions[id']? = some execution →
    execution.stage.owns = true → execution.request.key = request.key → id' = id

/-- A standing row stays in the ledger, if with a final outcome, unless a
refused execution of its key discards it. -/
theorem leaves (hTakes : request.Takes world move stage store answer stage' store')
    (hUnique : Table.KeysUnique ConnectorInvocation.key store.invocations)
    (hRow : row ∈ store.invocations) (hStands : row.stands = true) :
    (∃ row' ∈ store'.invocations, row'.key = row.key ∧ row'.signed = row.signed) ∨
      (move = .discard ∧ answer = .done ∧ stage.owns = true ∧ row.key = request.key) := by
  by_cases hOwn : stage.owns = true ∧ row.key = request.key
  · have hSame : ∃ row' ∈ store.invocations, row'.key = row.key ∧ row'.signed = row.signed :=
      ⟨row, hRow, rfl, rfl⟩
    cases hTakes with
    | reserved _ => cases hOwn.1
    | granted h | refused h =>
        rw [attempt_invocations h]
        exact Or.inl hSame
    | replayGranted _ | replayRefused _ => cases hOwn.1
    | replayAttached _ => cases hOwn.1
    | reconciled _ _ => cases hOwn.1
    | unreconciled _ => cases hOwn.1
    | discarded _ => exact Or.inr ⟨rfl, rfl, hOwn.1, hOwn.2⟩
    | attached h =>
        obtain ⟨row', hRow', hAgrees⟩ := (attach_carries h).keeps row hRow hStands
        exact Or.inl ⟨row', hRow', hAgrees.key, hAgrees.signed⟩
    | dispatched | answered | failed | crashed => exact Or.inl hSame
    | completed _ h =>
        obtain ⟨trimmed, stored, hCarries, hRows⟩ := complete_rows h
        obtain ⟨row', hRow', hAgrees⟩ := hCarries.keeps row hRow (unexpired_of_stands hStands)
        rw [hRows]
        cases hMatch : row'.isReservation request.key request.signed.envelopeSha256 with
        | true =>
            exact Or.inl ⟨_, Table.mem_updateWhere_of_pos hRow' hMatch, hAgrees.key,
              hAgrees.signed⟩
        | false =>
            exact Or.inl ⟨row', Table.mem_updateWhere_of_neg hRow' hMatch, hAgrees.key,
              hAgrees.signed⟩
  · obtain ⟨row', hRow', hSurvives⟩ := hTakes.keeps hUnique hRow hStands
      fun hOwns hKey => hOwn ⟨hOwns, hKey⟩
    exact Or.inl ⟨row', hRow', hSurvives.key, hSurvives.signed⟩

/-- One action keeps an operation held, or ends it, or is its own discard. -/
theorem held_step (hSound : s.Sound) (hHeld : s.Held id request) :
    (performConnector world action s).2.Held id request ∨
      (performConnector world action s).2.Ended request ∨
      (action = .advance id .discard ∧ (performConnector world action s).1 = .done) := by
  have hActs := performConnector_acts world action s
  generalize (performConnector world action s).1 = answer at hActs ⊢
  generalize (performConnector world action s).2 = t at hActs ⊢
  cases hActs with
  | denied | ignored => exact Or.inl hHeld
  | arrived h =>
      refine Or.inl ⟨hHeld.standing, ?_⟩
      intro id' found hFound hOwns hKey
      rcases executions_append hFound with hOld | hNew
      · exact hHeld.alone id' found hOld hOwns hKey
      · rw [hNew] at hOwns
        cases hOwns
  | registered h =>
      refine Or.inl ⟨?_, hHeld.alone⟩
      obtain ⟨row, hRow, hFacts⟩ := hHeld.standing
      exact ⟨row, by rw [h]; exact hRow, hFacts⟩
  | @advanced moved move execution answer stage store hExecution hTakes =>
      obtain ⟨row, hRow, hKey, hSigned, hStands⟩ := hHeld.standing
      rcases leaves hTakes hSound.unique hRow hStands with
        ⟨row', hRow', hKey', hSigned'⟩ | ⟨rfl, rfl, hOwns, hOwn⟩
      · cases hStands' : row'.stands with
        | true =>
            refine Or.inl ⟨⟨row', hRow', hKey'.trans hKey, hSigned'.trans hSigned, hStands'⟩, ?_⟩
            intro id' found hFound hOwns hFoundKey
            rcases executions_set hExecution hFound with ⟨rfl, rfl⟩ | ⟨_, hOld⟩
            · cases hBefore : execution.stage.owns with
              | true => exact hHeld.alone id' execution hExecution hBefore hFoundKey
              | false =>
                  -- a new owner would have found no standing row of the key
                  obtain ⟨_, hGone, _⟩ := hTakes.opens hSound.unique hBefore hOwns
                  rw [hGone row hRow (hKey.trans hFoundKey.symm)] at hStands
                  cases hStands
            · exact hHeld.alone id' found hOld hOwns hFoundKey
        | false =>
            exact Or.inr (Or.inl ⟨row', hRow', hKey'.trans hKey, hSigned'.trans hSigned,
              by simpa [ConnectorInvocation.stands] using hStands'⟩)
      · have hId := hHeld.alone moved execution hExecution hOwns (hOwn.symm.trans hKey)
        exact Or.inr (Or.inr ⟨by rw [hId], rfl⟩)

/-- An execution that owns its key holds its operation. -/
theorem held_of_owns {execution : Execution} (hSound : s.Sound)
    (hExecution : s.executions[id]? = some execution) (hOwns : execution.stage.owns = true) :
    s.Held id execution.request := by
  obtain ⟨row, hRow, hOpen⟩ := hSound.open_row id execution hExecution hOwns
  refine ⟨⟨row, hRow, hOpen.key, hOpen.signed, stands_of_inProgress hOpen.state⟩, ?_⟩
  intro id' found hFound hOwns' hKey
  exact hSound.alone id' id found execution hFound hExecution hOwns' hOwns hKey

/-- A NEW answer makes its execution hold the operation, which nothing stood
for before. -/
theorem reservesNew_holds {e : ConnectorEvent} {execution : Execution}
    (hSound : e.before.Sound) (hSound' : e.after.Sound)
    (hActs : e.before.Acts world e.input e.output e.after) (h : e.ReservesNew id)
    (hExecution : e.before.executions[id]? = some execution) :
    e.after.Held id execution.request ∧
      ∀ row ∈ e.before.store.invocations, row.key = execution.request.key →
        row.stands = false := by
  obtain ⟨nowEpoch, r, hInput, hOutput, hNew⟩ := h
  obtain ⟨found, stage, store, hFound, hTakes, hAfter⟩ :=
    advanced_of_answer hActs hInput (by rw [hOutput]; exact ConnectorAnswer.noConfusion)
  rw [hExecution] at hFound
  cases hFound
  rw [hOutput] at hTakes
  obtain ⟨request, from_⟩ := execution
  cases hTakes with
  | reserved hReserve =>
      have hOwns : (request.afterReserve r).owns = true := owns_afterReserve.mpr hNew
      have hLength := (List.getElem?_eq_some_iff.mp hExecution).1
      constructor
      · have hNow : e.after.executions[id]? = some ⟨request, request.afterReserve r⟩ := by
          rw [hAfter]
          simp [hLength]
        have hHeld := held_of_owns hSound' hNow hOwns
        exact hHeld
      · exact (reserve_inserts hSound.unique hReserve hNew).1

end Holding

section Runs

variable {world : ConnectorWorld} {actions : List ConnectorAction} {start : ConnectorSystem}
  {e f : ConnectorEvent} {id : Nat} {earlier between later : List ConnectorEvent}

/-- Any actions may follow one another. -/
theorem connector_admitted (world : ConnectorWorld) (actions : List ConnectorAction)
    (start : ConnectorSystem) :
    Admitted (performConnector world) (fun _ _ => True) actions start :=
  admitted_of_forall (fun _ _ => trivial) actions start

/-- Every event of a run from a sound system leads from a sound one to another. -/
theorem mem_trace_sound (hSound : start.Sound)
    (he : e ∈ trace (performConnector world) actions start) : e.before.Sound ∧ e.after.Sound := by
  obtain ⟨hBefore, _, _, hAfter⟩ :=
    (connector_sound world).trace hSound (connector_admitted world actions start) e he
  refine ⟨hBefore, ?_⟩
  rw [hAfter]
  exact performConnector_preserves_sound hBefore

theorem not_at_start (id : Nat) (p : Stage → Bool) : ¬ ({} : ConnectorSystem).At id p := by
  rintro ⟨execution, hExecution, _⟩
  simp at hExecution

/-- One execution dispatches at most once. -/
theorem dispatches_once (world : ConnectorWorld) (actions : List ConnectorAction)
    (start : ConnectorSystem) (id : Nat) :
    (trace (performConnector world) actions start).countP (ConnectorEvent.dispatches id) ≤ 1 := by
  refine countP_le_one_of_latch (fun _ => True)
    (fun s => s.At id fun stage => !stage.mayDispatch) (ConnectorEvent.dispatches id)
    (fun _ _ _ _ => trivial) ?_ ?_ ?_ trivial (connector_admitted world actions start)
  · intro s action _ _ hLatched
    exact at_stable not_mayDispatch_stable hLatched
  · intro s action _ _ hEvent
    have hActs := performConnector_acts world action s
    obtain ⟨hBefore, _⟩ := at_of_dispatches (e := ⟨s, action, _, _⟩) hActs hEvent
    exact not_at_of_at (by intro stage; cases stage <;> simp [Stage.newlyGranted, Stage.mayDispatch])
      hBefore
  · intro s action _ _ hEvent
    have hActs := performConnector_acts world action s
    obtain ⟨_, hAfter⟩ := at_of_dispatches (e := ⟨s, action, _, _⟩) hActs hEvent
    exact at_mono (by intro stage; cases stage <;> simp [Stage.pastDispatch, Stage.mayDispatch])
      hAfter

/-- A dispatching execution was answered NEW and consumed its own grant. -/
theorem dispatch_earned (hTrace : trace (performConnector world) actions {} = earlier ++ e :: later)
    (h : e.dispatches id = true) :
    (∃ r ∈ earlier, r.ReservesNew id) ∧ ∃ c ∈ earlier, c.ConsumesOwnGrant world id := by
  have he : e ∈ trace (performConnector world) actions {} := by
    rw [hTrace]
    exact List.mem_append_right _ List.mem_cons_self
  obtain ⟨execution, hExecution, hGranted⟩ := (at_of_dispatches (mem_trace_acts he) h).1
  have hReserved : execution.stage.newlyReserved = true := by
    cases hStage : execution.stage <;> simp_all [Stage.newlyGranted, Stage.newlyReserved]
  constructor
  · exact trace_cause (fun s => s.At id Stage.newlyReserved) (ConnectorEvent.ReservesNew id)
      (fun _ _ hBefore hAfter => reservesNew_of_at hBefore hAfter) (not_at_start id _) hTrace
      ⟨execution, hExecution, hReserved⟩
  · exact trace_cause (fun s => s.At id Stage.newlyGranted)
      (ConnectorEvent.ConsumesOwnGrant world id)
      (fun _ _ hBefore hAfter => consumesOwnGrant_of_at hBefore hAfter) (not_at_start id _) hTrace
      ⟨execution, hExecution, hGranted⟩

/-- Two kinds of events of one execution that rule each other out. -/
theorem never_both (id : Nat) {p q : Stage → Bool} (hp : StageStable p) (hq : StageStable q)
    (event event' : ConnectorEvent → Prop)
    (hEvent : ∀ e : ConnectorEvent, e.before.Acts world e.input e.output e.after → event e →
      e.after.At id p ∧ ¬ e.before.At id q)
    (hEvent' : ∀ e : ConnectorEvent, e.before.Acts world e.input e.output e.after → event' e →
      e.after.At id q ∧ ¬ e.before.At id p)
    (hApart : ∀ e, event e → ¬ event' e)
    (he : e ∈ trace (performConnector world) actions start)
    (hf : f ∈ trace (performConnector world) actions start) (hEventE : event e) :
    ¬ event' f := by
  intro hEventF
  have hTrivial : Preserves (performConnector world) (fun _ _ => True) fun _ => True :=
    fun _ _ _ _ => trivial
  exact trace_exclusive (fun s => s.At id p) (fun s => s.At id q) event event' hTrivial
    (fun s action _ _ hAt => at_stable hp hAt) (fun s action _ _ hAt => at_stable hq hAt) trivial
    (connector_admitted world actions start) (fun e he => hEvent e (mem_trace_acts he))
    (fun e he => hEvent' e (mem_trace_acts he)) hApart he hf hEventE hEventF

/-- A replayed request never dispatches. -/
theorem replay_never_dispatches (he : e ∈ trace (performConnector world) actions start)
    (hf : f ∈ trace (performConnector world) actions start) (h : e.ReservesOther id) :
    f.dispatches id = false := by
  apply Bool.eq_false_iff.mpr
  apply never_both id replays_stable pastDispatch_stable (ConnectorEvent.ReservesOther id)
    (fun e => e.dispatches id = true) ?_ ?_ ?_ he hf h
  · intro e hActs hOther
    obtain ⟨hBefore, hAfter⟩ := at_of_reservesOther hActs hOther
    exact ⟨hAfter, not_at_of_at (by simp) hBefore⟩
  · intro e hActs hDispatches
    obtain ⟨hBefore, hAfter⟩ := at_of_dispatches hActs hDispatches
    exact ⟨hAfter, not_at_of_at
      (by intro stage; cases stage <;> simp [Stage.newlyGranted, Stage.replays]) hBefore⟩
  · rintro e ⟨nowEpoch, hInput, _⟩ hDispatches
    simp [ConnectorEvent.dispatches, hInput] at hDispatches

/-- A discarding execution never dispatches. -/
theorem discard_never_dispatches (he : e ∈ trace (performConnector world) actions start)
    (hf : f ∈ trace (performConnector world) actions start) (h : e.Discards id) :
    f.dispatches id = false := by
  apply Bool.eq_false_iff.mpr
  apply never_both id finished_stable pastDispatch_stable (ConnectorEvent.Discards id)
    (fun e => e.dispatches id = true) ?_ ?_ ?_ he hf h
  · intro e hActs hDiscards
    obtain ⟨hBefore, hAfter⟩ := at_of_discards hActs hDiscards
    exact ⟨hAfter, not_at_of_at
      (by intro stage; cases stage <;> simp [Stage.pastDispatch]) hBefore⟩
  · intro e hActs hDispatches
    obtain ⟨hBefore, hAfter⟩ := at_of_dispatches hActs hDispatches
    exact ⟨hAfter, not_at_of_at
      (by intro stage; cases stage <;> simp [Stage.newlyGranted, Stage.isFinished]) hBefore⟩
  · rintro e ⟨hInput, _⟩ hDispatches
    simp [ConnectorEvent.dispatches, hInput] at hDispatches

/-- Once held, an operation stays held until it ends or its holder discards
it. -/
theorem held_until {request : ConnectorRequest} (hSound : start.Sound)
    (hHeld : start.Held id request)
    (hTrace : trace (performConnector world) actions start = earlier ++ e :: later) :
    e.before.Held id request ∨ ∃ g ∈ earlier, g.after.Ended request ∨ g.Discards id := by
  apply trace_until (fun s => s.Held id request)
    (fun g : ConnectorEvent => g.after.Ended request ∨ g.Discards id) (connector_sound world) ?_
    hSound (connector_admitted world actions start) hHeld hTrace
  intro s action hSound _ hHeld
  exact held_step hSound hHeld

/-- From a dispatch on, the row of its operation stands or has ended. -/
theorem dispatch_keeps_row {execution : Execution}
    (hTrace : trace (performConnector world) actions {} =
      earlier ++ e :: (between ++ f :: later))
    (h : e.dispatches id = true) (hExecution : e.before.executions[id]? = some execution) :
    f.before.Standing execution.request ∨
      ∃ g ∈ e :: between, g.after.Ended execution.request := by
  have he : e ∈ trace (performConnector world) actions {} := by
    rw [hTrace]
    exact List.mem_append_right _ List.mem_cons_self
  obtain ⟨hSound, _⟩ := mem_trace_sound connector_sound_start he
  obtain ⟨found, claims, hFound, hStage, _⟩ := dispatches_advances (mem_trace_acts he) h
  rw [hExecution] at hFound
  cases hFound
  have hHeld : e.before.Held id execution.request :=
    held_of_owns hSound hExecution (by rw [hStage]; rfl)
  obtain ⟨first, second, rfl, _, hSuffix⟩ := trace_eq_append hTrace
  have hStart : run (performConnector world) first {} = e.before := by
    cases second with
    | nil => simp [trace] at hSuffix
    | cons action rest =>
        obtain ⟨rfl, _⟩ := List.cons.inj hSuffix
        rfl
  rw [hStart] at hSuffix
  have hSplit : trace (performConnector world) second e.before = (e :: between) ++ f :: later :=
    hSuffix.symm
  rcases held_until hSound hHeld hSplit with hStill | ⟨g, hg, hEnded | hDiscards⟩
  · exact Or.inl hStill.standing
  · exact Or.inr ⟨g, hg, hEnded⟩
  · have hg' : g ∈ trace (performConnector world) (first ++ second) {} := by
      rw [hTrace]
      apply List.mem_append_right
      rcases List.mem_cons.mp hg with rfl | hg
      · exact List.mem_cons_self
      · exact List.mem_cons_of_mem _ (List.mem_append_left _ hg)
    rw [discard_never_dispatches hg' he hDiscards] at h
    cases h

/-- NEW is answered again for a key only after the first reservation was
discarded without a dispatch, or its operation ended. -/
theorem reserved_again {id' : Nat} {execution execution' : Execution}
    (hTrace : trace (performConnector world) actions {} =
      earlier ++ e :: (between ++ f :: later))
    (h : e.ReservesNew id) (h' : f.ReservesNew id')
    (hExecution : e.before.executions[id]? = some execution)
    (hExecution' : f.before.executions[id']? = some execution')
    (hKey : execution'.request.key = execution.request.key) :
    ∃ g ∈ between, g.after.Ended execution.request ∨
      (g.Discards id ∧ ∀ d ∈ trace (performConnector world) actions {},
        ConnectorEvent.dispatches id d = false) := by
  have he : e ∈ trace (performConnector world) actions {} := by
    rw [hTrace]
    exact List.mem_append_right _ List.mem_cons_self
  have hf : f ∈ trace (performConnector world) actions {} := by
    rw [hTrace]
    exact List.mem_append_right _ (List.mem_cons_of_mem _ (List.mem_append_right _
      List.mem_cons_self))
  obtain ⟨hSound, hSound'⟩ := mem_trace_sound connector_sound_start he
  obtain ⟨hSoundF, hSoundF'⟩ := mem_trace_sound connector_sound_start hf
  have hHeld := (reservesNew_holds hSound hSound' (mem_trace_acts he) h hExecution).1
  have hFree := (reservesNew_holds hSoundF hSoundF' (mem_trace_acts hf) h' hExecution').2
  obtain ⟨first, second, rfl, _, hSuffix⟩ := trace_eq_append hTrace
  cases second with
  | nil => simp [trace] at hSuffix
  | cons action rest =>
      obtain ⟨hHead, hTail⟩ := List.cons.inj hSuffix
      have hAfter : (performConnector world action
          (run (performConnector world) first {})).2 = e.after := by rw [hHead]
      rw [hAfter] at hTail
      rcases held_until hSound' hHeld hTail.symm with hStill | ⟨g, hg, hEnded | hDiscards⟩
      · obtain ⟨row, hRow, hRowKey, _, hStands⟩ := hStill.standing
        rw [hFree row hRow (hRowKey.trans hKey.symm)] at hStands
        cases hStands
      · exact ⟨g, hg, Or.inl hEnded⟩
      · refine ⟨g, hg, Or.inr ⟨hDiscards, ?_⟩⟩
        intro d hd
        have hg' : g ∈ trace (performConnector world) (first ++ action :: rest) {} := by
          rw [hTrace]
          exact List.mem_append_right _ (List.mem_cons_of_mem _ (List.mem_append_left _ hg))
        exact discard_never_dispatches hg' hd hDiscards

/-- A reservation of a key with a live row is answered from the row, or
refused with the store untouched. -/
theorem reserve_of_live_row {nowEpoch : Int} {execution : Execution} {row : ConnectorInvocation}
    (he : e ∈ trace (performConnector world) actions {})
    (hInput : e.input = .advance id (.reserve nowEpoch))
    (hExecution : e.before.executions[id]? = some execution)
    (hRequested : e.before.At id fun stage => stage matches .requested)
    (hRow : row ∈ e.before.store.invocations) (hKey : row.key = execution.request.key)
    (hLive : row.unexpired nowEpoch = true) :
    (e.output = .reserved row.reservation ∧ row.signed = execution.request.signed) ∨
      e.after.store = e.before.store ∧ ((∃ detail, e.output = .failed (.validation detail)) ∨
        (row.signed ≠ execution.request.signed ∧ e.output = .failed
          (.conflict "connector request id was already used for a different signed operation")))
    := by
  obtain ⟨hSound, _⟩ := mem_trace_sound connector_sound_start he
  obtain ⟨_, _, hOutput, hAfter⟩ := (connector_sound world).trace connector_sound_start
    (connector_admitted world actions {}) e he
  obtain ⟨request, stage⟩ := execution
  have hStage : stage = .requested := by
    obtain ⟨found, hFound, hMatches⟩ := hRequested
    rw [hExecution] at hFound
    cases hFound
    cases stage <;> simp_all
  subst hStage
  obtain ⟨answer, stage, store, hLedger⟩ : ∃ answer stage store,
      ledgerStep (reserveConnectorInvocation request.key request.signed request.grantRef nowEpoch)
        (fun reservation => (.reserved reservation, request.afterReserve reservation))
        e.before.store = (answer, stage, store) := ⟨_, _, _, rfl⟩
  have hStep : performConnector world e.input e.before =
      (answer, ⟨store, e.before.executions.set id ⟨request, stage⟩⟩) := by
    simp only [hInput, performConnector, hExecution, ConnectorRequest.advance, hLedger]
  rw [hOutput, hAfter, hStep]
  unfold ledgerStep commit at hLedger
  rcases reserve_live hSound.unique hRow hKey hLive with
    ⟨detail, hBody⟩ | ⟨hSigned, t, hBody⟩ | ⟨hSigned, hBody⟩
  · rw [hBody] at hLedger
    cases hLedger
    exact Or.inr ⟨rfl, Or.inl ⟨detail, rfl⟩⟩
  · rw [hBody] at hLedger
    cases hLedger
    exact Or.inl ⟨rfl, hSigned⟩
  · rw [hBody] at hLedger
    cases hLedger
    exact Or.inr ⟨rfl, Or.inr ⟨hSigned, rfl⟩⟩

/-- In every run of connector executions, whatever the interleaving, the
crashes, the clocks and the provider, no operation is dispatched twice. -/
theorem connector_never_redispatches (world : ConnectorWorld) (actions : List ConnectorAction) :
    NeverRedispatches world (trace (performConnector world) actions {}) where
  once := dispatches_once world actions {}
  earned := fun _ _ _ _ hTrace h => dispatch_earned hTrace h
  replayed := fun _ _ he h _ hd => replay_never_dispatches he hd h
  kept := fun _ _ _ _ _ _ _ hTrace h hExecution => dispatch_keeps_row hTrace h hExecution
  again := fun _ _ _ _ _ _ _ _ _ hTrace h h' hExecution hExecution' hKey =>
    reserved_again hTrace h h' hExecution hExecution' hKey
  conflicting := fun _ _ _ _ _ he hInput hExecution hRequested hRow hKey hLive =>
    reserve_of_live_row he hInput hExecution hRequested hRow hKey hLive

end Runs

end CyreneExchange.Integrations
