import CyreneExchange.Integrations.Connector.Dispatch

/-! Which reconciliations are backed by the provider. A status read settles the
rows that carry the reference it named; when the read raised, or answered about
another reference, those rows are settled without the provider having said so. -/
namespace CyreneExchange.Integrations

open Transaction Machine

/-- RFC 8785 serializes every object of texts and flags. -/
def CanonicalizesText (canonical : Json → Option String) : Prop :=
  ∀ entries : JsonObject, (∀ entry ∈ entries,
    (∃ text, entry.2 = .str text) ∨ ∃ flag, entry.2 = .bool flag) →
    (canonical (.obj entries)).isSome = true

/-- The provider answered the status read `id` with `result`, which reports the
very operation it was asked about. -/
structure AnsweredRead (id : Nat) (result : JsonObject) (execution : Execution)
    (row row' : ConnectorInvocation) : Prop where
  answered : execution.stage = .completed (.answered result)
  statusRead : execution.request.prepared.operationId = statusReadOperation
  scope : execution.request.key.scope = row.key.scope
  profile : execution.request.signed.profileRef = row.signed.profileRef
  asked : ∃ ref, execution.request.requestedRef = some (.str ref) ∧ row.operationRef = some ref
  reported : reportedState (connectorOperationState result) = some row'.state

namespace ConnectorEvent

/-- The provider answers the dispatch of the execution `id`. -/
def Answers (id : Nat) (result : JsonObject) (e : ConnectorEvent) : Prop :=
  e.input = .advance id (.answer (.answered result)) ∧ e.output = .done

/-- Every unresolved row the event settles is settled by a status read that the
provider answered, among the events before, for the operation it was asked. -/
def SettlesLawfully (earlier : List ConnectorEvent) (e : ConnectorEvent) : Prop :=
  ∀ row ∈ e.before.store.invocations, row.state.unresolved = true →
    ∀ row' ∈ e.after.store.invocations, row'.key = row.key →
      (row'.state = .succeeded ∨ row'.state = .failed) →
      ∃ id nowEpoch result execution, e.input = .advance id (.reconcile nowEpoch) ∧
        e.before.executions[id]? = some execution ∧
        (∃ a ∈ earlier, ConnectorEvent.Answers id result a) ∧
        AnsweredRead id result execution row row'

end ConnectorEvent

/-- Every event of the run settles lawfully. -/
def SettledLawfully (events : List ConnectorEvent) : Prop :=
  ∀ earlier e later, events = earlier ++ e :: later → e.SettlesLawfully earlier

/-- No unresolved row of the actor and profile of a request carries `ref`. -/
def ConnectorStore.Unawaited (s : ConnectorStore) (request : ConnectorRequest) (ref : String) :
    Prop :=
  request.signed.profileRef = "" ∨ ref = "" ∨ ∀ row ∈ s.invocations,
    row.awaits request.key.scope request.signed.profileRef ref = false

/-- A status read that may be reconciled: it was answered about the operation
it asked for, or no row awaits the reference it would reconcile. -/
def ConnectorStore.SafelyReconciled (s : ConnectorStore) (request : ConnectorRequest) :
    DispatchOutcome → Prop
  | .answered result => reportedState (connectorOperationState result) ≠ none →
      ∀ ref, connectorOperationRef result = some ref →
        request.requestedRef ≠ some (.str ref) → s.Unawaited request ref
  | .refused _ | .raised =>
      ∀ ref, request.requestedRef = some (.str ref) → s.Unawaited request ref

/-- If the event reconciles after a status read, the read was a safe one. -/
def ConnectorEvent.Backed (e : ConnectorEvent) : Prop :=
  ∀ id nowEpoch execution outcome, e.input = .advance id (.reconcile nowEpoch) →
    e.before.executions[id]? = some execution → execution.stage = .completed outcome →
    execution.request.prepared.operationId = statusReadOperation →
    e.before.store.SafelyReconciled execution.request outcome

/-- Event by event, a run settles lawfully exactly where it is backed. -/
def SettledExactlyWhereBacked (events : List ConnectorEvent) : Prop :=
  ∀ earlier e later, events = earlier ++ e :: later → (e.SettlesLawfully earlier ↔ e.Backed)

section Reads

variable {world : ConnectorWorld} {request : ConnectorRequest} {outcome : DispatchOutcome}
  {ref : String} {state : InvocationState} {s t : ConnectorStore} {nowEpoch : Int}

theorem statusRead_not_mutating (h : request.prepared.operationId = statusReadOperation) :
    request.prepared.isMutating = false := by
  unfold PreparedConnectorOperation.isMutating
  rw [h]
  decide

/-- A read that raised reports FAILED and names no reference of its own. -/
theorem raised_reports (h : request.prepared.operationId = statusReadOperation)
    (hRaised : ∀ result, outcome ≠ .answered result) :
    reportedState (connectorOperationState (request.result outcome)) = some .failed ∧
      connectorOperationRef (request.result outcome) = none := by
  unfold ConnectorRequest.result
  rw [statusRead_not_mutating h]
  cases outcome with
  | answered result => exact absurd rfl (hRaised result)
  | refused error =>
      have hText : reportedState (some (upper (strip "FAILED"))) = some .failed := by decide
      have hState : getEither (connectorExceptionResult error false) "state" "status" =
          some (.str "FAILED") := rfl
      have hRef : getEither (connectorExceptionResult error false) "operation_ref"
          "operationRef" = none := rfl
      constructor
      · unfold connectorOperationState DispatchOutcome.result
        rw [hState]
        exact hText
      · unfold connectorOperationRef DispatchOutcome.result
        rw [hRef]
  | raised =>
      constructor
      · decide
      · decide

/-- What a status read reconciles. -/
theorem reconciliation_eq_some :
    request.reconciliation outcome = some (ref, state) ↔
      request.prepared.operationId = statusReadOperation ∧
      reportedState (connectorOperationState (request.result outcome)) = some state ∧
      (connectorOperationRef (request.result outcome) = some ref ∨
        (connectorOperationRef (request.result outcome) = none ∧
          request.requestedRef = some (.str ref) ∧ ref ≠ "")) := by
  unfold ConnectorRequest.reconciliation
  dsimp only
  by_cases hRead : request.prepared.operationId = statusReadOperation
  · rw [if_pos hRead]
    cases hState : reportedState (connectorOperationState (request.result outcome)) with
    | none => simp
    | some reported =>
        cases hRef : connectorOperationRef (request.result outcome) with
        | some own => simp [hRead, and_comm]
        | none =>
            cases hRequested : request.requestedRef with
            | none => simp
            | some value =>
                cases value with
                | str text =>
                    by_cases hText : text = ""
                    · subst hText
                      simp [hRead]
                    · simp [hRead, hText]
                      constructor
                      · rintro ⟨rfl, rfl⟩
                        exact ⟨rfl, rfl, hText⟩
                      · rintro ⟨rfl, rfl, _⟩
                        exact ⟨rfl, rfl⟩
                | _ => simp
  · rw [if_neg hRead]
    simp [hRead]

/-- A canonicalizable receipt never stops a reconciliation. -/
theorem settle_commits (hCanonical : CanonicalizesText world.canonical)
    (settled : List ConnectorInvocation) (s : ConnectorStore) :
    ∃ t, settleInvocations world.canonical ref state nowEpoch settled s = .ok ((), t) := by
  induction settled generalizing s with
  | nil => exact ⟨s, rfl⟩
  | cons first later ih =>
      obtain ⟨text, hText⟩ := Option.isSome_iff_exists.mp (hCanonical [
        ("state", .str state.text), ("operation_ref", .str ref), ("reconciled", .bool true),
        ("receiptOnly", .bool true), ("replayPolicy", .str "do-not-repeat")] (by simp))
      unfold settleInvocations reconciledReceipt
      rw [fetch_bind, hText]
      dsimp only
      exact ih _

/-- A reconciliation that some row awaits reaches that row. -/
theorem reconciles_awaiting (state : InvocationState) (nowEpoch : Int)
    (hCanonical : CanonicalizesText world.canonical)
    (hUnique : Table.KeysUnique ConnectorInvocation.key s.invocations)
    (hProfile : request.signed.profileRef ≠ "") (hRef : ref ≠ "")
    {row : ConnectorInvocation} (hRow : row ∈ s.invocations)
    (hAwaits : row.awaits request.key.scope request.signed.profileRef ref = true) :
    ∃ t, reconcileConnectorInvocations world.canonical request.key.scope
        request.signed.profileRef ref state nowEpoch s = .ok ((), t) ∧
      ∃ row' ∈ t.invocations, row'.key = row.key ∧ row'.state = state := by
  have hStands : row.stands = true := by
    simp only [ConnectorInvocation.awaits, Bool.and_eq_true] at hAwaits
    unfold ConnectorInvocation.stands
    cases hState : row.state <;> simp_all [InvocationState.unresolved, InvocationState.terminal]
  obtain ⟨t, hSettle⟩ : ∃ t, settleInvocations world.canonical ref state nowEpoch
      (s.invocations.filter
        (ConnectorInvocation.awaits request.key.scope request.signed.profileRef ref)) s =
      .ok ((), t) := settle_commits hCanonical _ s
  have hCommit : reconcileConnectorInvocations world.canonical request.key.scope
      request.signed.profileRef ref state nowEpoch s = .ok ((), t) := by
    unfold reconcileConnectorInvocations
    rw [if_neg (by tauto), fetch_bind]
    exact hSettle
  refine ⟨t, hCommit, ?_⟩
  obtain ⟨row', hRow', _, hRestated⟩ := (reconcile_settles hProfile hRef hCommit).keeps row hRow
    (unexpired_of_stands hStands)
  refine ⟨row', hRow', hRestated.key, ?_⟩
  rw [hRestated.state, stateAfter_filter hUnique hRow, if_pos hAwaits]

end Reads

section Events

variable {world : ConnectorWorld} {actions : List ConnectorAction} {e : ConnectorEvent}
  {earlier later : List ConnectorEvent} {id : Nat} {execution : Execution}
  {row row' : ConnectorInvocation}

/-- The dispatch of the execution ended with `outcome`. -/
def Stage.concluded (outcome : DispatchOutcome) : Stage → Prop
  | .answered _ outcome' | .completed outcome' => outcome' = outcome
  | _ => False

/-- An execution concludes with what its dispatch was answered with. -/
theorem concluded_answered {result : JsonObject}
    (hTrace : trace (performConnector world) actions {} = earlier ++ e :: later)
    (hExecution : e.before.executions[id]? = some execution)
    (hStage : execution.stage.concluded (.answered result)) :
    ∃ a ∈ earlier, ConnectorEvent.Answers id result a := by
  apply trace_cause (fun s : ConnectorSystem => ∃ execution, s.executions[id]? = some execution ∧
    execution.stage.concluded (.answered result)) (ConnectorEvent.Answers id result) ?_ ?_ hTrace
    ⟨execution, hExecution, hStage⟩
  · intro s action hBefore hAfter
    have hActs := performConnector_acts world action s
    unfold ConnectorEvent.Answers
    dsimp only
    generalize (performConnector world action s).1 = answer at hActs ⊢
    generalize (performConnector world action s).2 = t at hActs hAfter
    obtain ⟨execution', hExecution', hStage'⟩ := hAfter
    cases hActs with
    | denied | ignored | registered => exact absurd ⟨execution', hExecution', hStage'⟩ hBefore
    | arrived h =>
        rcases executions_append hExecution' with hOld | hNew
        · exact absurd ⟨execution', hOld, hStage'⟩ hBefore
        · rw [hNew] at hStage'
          cases hStage'
    | @advanced moved move found answer stage store hFound hTakes =>
        rcases executions_set hFound hExecution' with ⟨rfl, rfl⟩ | ⟨_, hOld⟩
        · obtain ⟨request, from_⟩ := found
          cases hTakes with
          | answered =>
              cases hStage'
              exact ⟨rfl, rfl⟩
          | completed _ _ =>
              cases hStage'
              exact absurd ⟨_, hFound, rfl⟩ hBefore
          | reserved _ =>
              unfold ConnectorRequest.afterReserve at hStage'
              dsimp only at hStage'
              split at hStage'
              · cases hStage'
              · split at hStage' <;> cases hStage'
          | _ => cases hStage'
        · exact absurd ⟨execution', hOld, hStage'⟩ hBefore
  · rintro ⟨execution, hExecution, _⟩
    simp at hExecution

/-- An event that settles an unresolved row is the reconciliation of the row's
reference after a status read. -/
theorem settled_by_reconciliation (hSound : e.before.Sound) (hSound' : e.after.Sound)
    (hActs : e.before.Acts world e.input e.output e.after)
    (hRow : row ∈ e.before.store.invocations) (hUnresolved : row.state.unresolved = true)
    (hRow' : row' ∈ e.after.store.invocations) (hKey : row'.key = row.key)
    (hSettled : row'.state.unresolved = false) :
    ∃ id nowEpoch execution outcome ref, e.input = .advance id (.reconcile nowEpoch) ∧
      e.before.executions[id]? = some execution ∧ execution.stage = .completed outcome ∧
      execution.request.reconciliation outcome = some (ref, row'.state) ∧
      execution.request.signed.profileRef ≠ "" ∧ ref ≠ "" ∧
      row.awaits execution.request.key.scope execution.request.signed.profileRef ref = true := by
  have hStands : row.stands = true := by
    unfold ConnectorInvocation.stands
    cases hState : row.state <;> simp_all [InvocationState.unresolved, InvocationState.terminal]
  have hSame : row ∉ e.after.store.invocations := by
    intro hStill
    rw [hSound'.unique.eq hStill hRow' hKey.symm, hSettled] at hUnresolved
    cases hUnresolved
  obtain ⟨before, input, output, after⟩ := e
  dsimp only at hSound hSound' hActs hRow hRow' hSame ⊢
  cases hActs with
  | denied | arrived | ignored => exact absurd hRow hSame
  | registered h =>
      rw [h] at hSame
      exact absurd hRow hSame
  | @advanced moved move found answer stage store hFound hTakes =>
      have hOther : found.stage.owns = true → row.key ≠ found.request.key := by
        intro hOwns hOwn
        obtain ⟨own, hOwnRow, hOpen⟩ := hSound.open_row moved found hFound hOwns
        rw [hSound.unique.eq hRow hOwnRow (hOwn.trans hOpen.key.symm), hOpen.state] at hUnresolved
        cases hUnresolved
      obtain ⟨kept, hKept, hSurvives⟩ := hTakes.keeps hSound.unique hRow hStands hOther
      have hEq : kept = row' :=
        hSound'.unique.eq hKept hRow' (hSurvives.key.trans hKey.symm)
      subst hEq
      rcases hSurvives.state with hState | ⟨_, nowEpoch, rfl⟩
      · rw [hState, hUnresolved] at hSettled
        cases hSettled
      · obtain ⟨request, from_⟩ := found
        cases hTakes with
        | @reconciled _ outcome ref state _ _ hReference h =>
            by_cases hBlank : request.signed.profileRef = "" ∨ ref = ""
            · rw [reconcile_blank hBlank h] at hSame
              exact absurd hRow hSame
            · obtain ⟨hProfile, hRef⟩ := not_or.mp hBlank
              obtain ⟨settled, hSettledRow, _, hRestated⟩ :=
                (reconcile_settles hProfile hRef h).keeps row hRow (unexpired_of_stands hStands)
              have hEq := hSound'.unique.eq hSettledRow hRow' (hRestated.key.trans hKey.symm)
              subst hEq
              have hState := hRestated.state
              rw [stateAfter_filter hSound.unique hRow] at hState
              cases hAwaits : row.awaits request.key.scope request.signed.profileRef ref with
              | false =>
                  rw [hAwaits, if_neg Bool.false_ne_true] at hState
                  rw [hState, hUnresolved] at hSettled
                  cases hSettled
              | true =>
                  rw [hAwaits, if_pos rfl] at hState
                  exact ⟨moved, nowEpoch, ⟨request, .completed outcome⟩, outcome, ref, rfl, hFound,
                    rfl, by rw [hState]; exact hReference, hProfile, hRef, hAwaits⟩
        | unreconciled _ => exact absurd hRow hSame
        | failed => exact absurd hRow hSame

theorem reportedState_eq_some {text : Option String} {state : InvocationState}
    (h : reportedState text = some state) : state = .succeeded ∨ state = .failed := by
  unfold reportedState at h
  split at h
  · exact Or.inl (Option.some.inj h).symm
  · exact Or.inr (Option.some.inj h).symm
  · cases h

/-- The rows that await the reference of a reconciliation are settled by it. -/
theorem awaited_settles {nowEpoch : Int} {outcome : DispatchOutcome} {ref : String}
    {state : InvocationState} (hCanonical : CanonicalizesText world.canonical)
    (he : e ∈ trace (performConnector world) actions {})
    (hInput : e.input = .advance id (.reconcile nowEpoch))
    (hExecution : e.before.executions[id]? = some execution)
    (hStage : execution.stage = .completed outcome)
    (hReference : execution.request.reconciliation outcome = some (ref, state))
    (hAwaited : ¬ e.before.store.Unawaited execution.request ref) :
    ∃ row ∈ e.before.store.invocations,
      row.awaits execution.request.key.scope execution.request.signed.profileRef ref = true ∧
      ∃ row' ∈ e.after.store.invocations, row'.key = row.key ∧ row'.state = state := by
  obtain ⟨hSound, _⟩ := mem_trace_sound connector_sound_start he
  obtain ⟨_, _, _, hAfter⟩ := (connector_sound world).trace connector_sound_start
    (connector_admitted world actions {}) e he
  obtain ⟨hProfile, hRest⟩ := not_or.mp hAwaited
  obtain ⟨hRef, hSome⟩ := not_or.mp hRest
  obtain ⟨row, hRow, hAwaits⟩ : ∃ row ∈ e.before.store.invocations, row.awaits
      execution.request.key.scope execution.request.signed.profileRef ref = true := by
    by_contra hNone
    apply hSome
    intro row hRow
    cases hAwaits : row.awaits execution.request.key.scope execution.request.signed.profileRef ref
    · rfl
    · exact absurd ⟨row, hRow, hAwaits⟩ hNone
  obtain ⟨t, hCommit, row', hRow', hKey, hState⟩ := reconciles_awaiting state nowEpoch
    hCanonical hSound.unique hProfile hRef hRow hAwaits
  refine ⟨row, hRow, hAwaits, row', ?_, hKey, hState⟩
  have hStore : e.after.store = t := by
    rw [hAfter]
    simp only [hInput, performConnector, hExecution, hStage, ConnectorRequest.advance,
      reconcileStep, hReference, ledgerStep, commit, hCommit]
  rw [hStore]
  exact hRow'

/-- A lawful event is backed: an unbacked reconciliation that some row awaits
settles that row without an answer. -/
theorem backed_of_lawful (hCanonical : CanonicalizesText world.canonical)
    (he : e ∈ trace (performConnector world) actions {}) (h : e.SettlesLawfully earlier) :
    e.Backed := by
  intro id nowEpoch execution outcome hInput hExecution hStage hRead
  -- any row the reconciliation settles was asked about and answered
  have hLaw : ∀ ref state, execution.request.reconciliation outcome = some (ref, state) →
      ¬ e.before.store.Unawaited execution.request ref →
      ∃ result, outcome = .answered result ∧
        execution.request.requestedRef = some (.str ref) := by
    intro ref state hReference hAwaited
    obtain ⟨row, hRow, hAwaits, row', hRow', hKey, rfl⟩ := awaited_settles hCanonical he hInput
      hExecution hStage hReference hAwaited
    simp only [ConnectorInvocation.awaits, Bool.and_eq_true, beq_iff_eq] at hAwaits
    obtain ⟨id', nowEpoch', result, execution', hInput', hExecution', _, hRead'⟩ :=
      h row hRow hAwaits.2 row' hRow' hKey
        (reportedState_eq_some (reconciliation_eq_some.mp hReference).2.1)
    rw [hInput] at hInput'
    cases hInput'
    rw [hExecution] at hExecution'
    cases hExecution'
    obtain ⟨asked, hAsked, hRowRef⟩ := hRead'.asked
    have hAnswered := hRead'.answered
    rw [hStage] at hAnswered
    cases hAnswered
    rw [hAwaits.1.2] at hRowRef
    cases hRowRef
    exact ⟨result, rfl, hAsked⟩
  have hRaised : (∀ result, outcome ≠ .answered result) → ∀ ref,
      execution.request.requestedRef = some (.str ref) →
      e.before.store.Unawaited execution.request ref := by
    intro hNotAnswered ref hAsked
    by_contra hAwaited
    obtain ⟨hReports, hNone⟩ := raised_reports hRead hNotAnswered
    have hRef : ref ≠ "" := (not_or.mp (not_or.mp hAwaited).2).1
    obtain ⟨result, hOutcome, _⟩ := hLaw ref .failed
      (reconciliation_eq_some.mpr ⟨hRead, hReports, Or.inr ⟨hNone, hAsked, hRef⟩⟩) hAwaited
    exact hNotAnswered result hOutcome
  cases outcome with
  | answered result =>
      intro hReported ref hRef hOther
      by_contra hAwaited
      obtain ⟨state, hState⟩ := Option.ne_none_iff_exists'.mp hReported
      obtain ⟨_, _, hAsked⟩ := hLaw ref state
        (reconciliation_eq_some.mpr ⟨hRead, hState, Or.inl hRef⟩) hAwaited
      exact hOther hAsked
  | refused error => exact hRaised (fun _ h => DispatchOutcome.noConfusion h)
  | raised => exact hRaised (fun _ h => DispatchOutcome.noConfusion h)

/-- A backed event is lawful. -/
theorem lawful_of_backed
    (hTrace : trace (performConnector world) actions {} = earlier ++ e :: later)
    (h : e.Backed) : e.SettlesLawfully earlier := by
  have he : e ∈ trace (performConnector world) actions {} := by
    rw [hTrace]
    exact List.mem_append_right _ List.mem_cons_self
  obtain ⟨hSound, hSound'⟩ := mem_trace_sound connector_sound_start he
  intro row hRow hUnresolved row' hRow' hKey hTerminal
  have hSettled : row'.state.unresolved = false := by
    rcases hTerminal with hState | hState <;> rw [hState] <;> rfl
  obtain ⟨id, nowEpoch, execution, outcome, ref, hInput, hExecution, hStage, hReference, hProfile,
    hRef, hAwaits⟩ := settled_by_reconciliation hSound hSound' (mem_trace_acts he) hRow hUnresolved
      hRow' hKey hSettled
  obtain ⟨hRead, hReported, hSource⟩ := reconciliation_eq_some.mp hReference
  have hAwaited : ¬ e.before.store.Unawaited execution.request ref := by
    rintro (hBlank | hBlank | hNone)
    · exact hProfile hBlank
    · exact hRef hBlank
    · rw [hNone row hRow] at hAwaits
      cases hAwaits
  have hBacked := h id nowEpoch execution outcome hInput hExecution hStage hRead
  simp only [ConnectorInvocation.awaits, Bool.and_eq_true, beq_iff_eq] at hAwaits
  have hRaised : ∀ (hNotAnswered : ∀ result, outcome ≠ .answered result),
      execution.request.requestedRef = some (.str ref) := by
    intro hNotAnswered
    rcases hSource with hOwn | ⟨_, hAsked, _⟩
    · rw [(raised_reports hRead hNotAnswered).2] at hOwn
      cases hOwn
    · exact hAsked
  cases outcome with
  | refused error =>
      exact absurd (hBacked ref (hRaised fun _ h => DispatchOutcome.noConfusion h)) hAwaited
  | raised =>
      exact absurd (hBacked ref (hRaised fun _ h => DispatchOutcome.noConfusion h)) hAwaited
  | answered result =>
      refine ⟨id, nowEpoch, result, execution, hInput, hExecution,
        concluded_answered hTrace hExecution (by rw [hStage]; rfl), hStage, hRead,
        hAwaits.1.1.1.symm, hAwaits.1.1.2.symm, ⟨ref, ?_, hAwaits.1.2⟩, hReported⟩
      rcases hSource with hOwn | ⟨_, hAsked, _⟩
      · by_contra hOther
        exact hAwaited (hBacked (by
          intro hNone
          rw [show execution.request.result (.answered result) = result from rfl, hNone]
            at hReported
          cases hReported) ref hOwn hOther)
      · exact hAsked

/-- In every run of connector executions, an event settles lawfully exactly if
it is backed; so a run whose status reads are all safe settles no write that
the provider did not answer for. -/
theorem reconciliation_lawful_iff (hCanonical : CanonicalizesText world.canonical)
    (actions : List ConnectorAction) :
    SettledExactlyWhereBacked (trace (performConnector world) actions {}) := by
  intro earlier e later hTrace
  have he : e ∈ trace (performConnector world) actions {} := by
    rw [hTrace]
    exact List.mem_append_right _ List.mem_cons_self
  exact ⟨backed_of_lawful hCanonical he, lawful_of_backed hTrace⟩

end Events

section Samples

/-- The form of a digest; nothing below depends on the digits. -/
def sampleDigest : String := "9f86d081884c7d659a2feaa0c55ad015a3bf4f1b2b0b822cd15d6c15b0f00a08"

/-- An operation of one profile. -/
def sampleOperation (requestId operationId : String) (arguments : JsonObject) :
    PreparedConnectorOperation where
  connectionRef := "connection"
  providerId := "azure"
  profileRef := "profile"
  operationId := operationId
  resourceRef := "resource"
  arguments := arguments
  requestId := requestId
  expectedOrganizationId := "organization"
  expectedWorkspaceId := "workspace"

def sampleClaims (prepared : PreparedConnectorOperation) : ExpectedClaims where
  requestId := prepared.requestId
  organizationId := prepared.expectedOrganizationId
  workspaceId := prepared.expectedWorkspaceId
  principalIssuer := "issuer"
  principalSubject := "subject"
  connectionRef := prepared.connectionRef
  providerId := prepared.providerId
  profileRef := prepared.profileRef
  operationId := prepared.operationId
  resourceRef := prepared.resourceRef
  argumentsDigestSha256 := fromHex sampleDigest.toList

/-- The grant minted for an operation, valid from second 100 to second 110. -/
def sampleGrant (prepared : PreparedConnectorOperation) : ConnectorOperationGrant where
  content := {
    requestId := prepared.requestId
    audience := "exchange"
    organizationId := prepared.expectedOrganizationId
    workspaceId := prepared.expectedWorkspaceId
    principalIssuer := "issuer"
    principalSubject := "subject"
    connectionRef := prepared.connectionRef
    providerId := prepared.providerId
    profileRef := prepared.profileRef
    operationId := prepared.operationId
    resourceRef := prepared.resourceRef
    argumentsDigestSha256 := (sampleClaims prepared).argumentsDigestSha256
    issuedAt := some (seconds 100)
    expiresAt := some (seconds 110)
    signingKeyId := "key" }
  grantRef := "sha256:" ++ prepared.requestId
  authoritySignature := List.replicate 64 0

def sampleWrite : PreparedConnectorOperation :=
  sampleOperation "write" "cloud.resource.start" [("target", .str "machine")]

def sampleRead : PreparedConnectorOperation :=
  sampleOperation "read" statusReadOperation [("operation_ref", .str "op-1")]

/-- Two grants, told apart by their bytes, over some serialization. -/
def sampleWorld (canonical : Json → Option String) : ConnectorWorld where
  verifier := {
    wire := {
      parse := fun encoded =>
        if encoded = [1] then some (sampleGrant sampleWrite)
        else if encoded = [2] then some (sampleGrant sampleRead) else none
      digest := fun content => content.requestId
      keyring := fun _ => .ok ()
      signed := fun _ _ _ => true
      encodedSha256 := fun _ => sampleDigest }
    keyringPinned := true
    expectedAudience := "exchange" }
  canonical := canonical
  sha256 := fun _ => sampleDigest

/-- One execution up to the answer of its provider, then to its end. -/
def sampleWriteRun (id : Nat) (grant : List UInt8) (prepared : PreparedConnectorOperation)
    (outcome : DispatchOutcome) : List ConnectorAction := [
  .register grant (sampleClaims prepared) 100, .arrive grant prepared 101 101,
  .advance id (.reserve 102), .advance id (.consume 103), .advance id .attach,
  .advance id .dispatch, .advance id (.answer outcome), .advance id (.complete 104)]

/-- A write stays pending under op-1; the status read of op-1 raises. -/
def sampleRun : List ConnectorAction :=
  sampleWriteRun 0 [1] sampleWrite
    (.answered [("state", .str "PENDING"), ("operation_ref", .str "op-1")]) ++
  sampleWriteRun 1 [2] sampleRead .raised

theorem reconciliation_lawful_iff_sample : SettledExactlyWhereBacked
    (trace (performConnector (sampleWorld fun value => some value.dumps)) sampleRun {}) :=
  reconciliation_lawful_iff (fun _ _ => rfl) sampleRun

/-- The status read of `ref` has raised, and a write awaits that reference. -/
def ConnectorSystem.awaitsRaised (s : ConnectorSystem) (id : Nat) (ref : String) : Bool :=
  match s.executions[id]? with
  | some ⟨request, .completed .raised⟩ =>
      (match request.requestedRef with
        | some (.str asked) => asked == ref
        | _ => false) &&
      request.prepared.operationId == statusReadOperation &&
      request.signed.profileRef != "" && ref != "" &&
      s.store.invocations.any fun row =>
        row.awaits request.key.scope request.signed.profileRef ref
  | _ => false

/-- Reconciling then is not backed. -/
theorem not_backed_of_awaitsRaised {world : ConnectorWorld} {s : ConnectorSystem} {id : Nat}
    {ref : String} (nowEpoch : Int) (h : s.awaitsRaised id ref = true) :
    ¬ ConnectorEvent.Backed ⟨s, .advance id (.reconcile nowEpoch),
      (performConnector world (.advance id (.reconcile nowEpoch)) s).1,
      (performConnector world (.advance id (.reconcile nowEpoch)) s).2⟩ := by
  intro hBacked
  unfold ConnectorSystem.awaitsRaised at h
  split at h
  · rename_i request hExecution
    simp only [Bool.and_eq_true, beq_iff_eq, bne_iff_ne, List.any_eq_true] at h
    obtain ⟨⟨⟨⟨hAsked, hRead⟩, hProfile⟩, hRef⟩, row, hRow, hAwaits⟩ := h
    have hAskedRef : request.requestedRef = some (.str ref) := by
      split at hAsked
      · rename_i asked hRequested
        rw [hRequested, beq_iff_eq.mp hAsked]
      · cases hAsked
    rcases hBacked id nowEpoch _ .raised rfl hExecution rfl hRead ref hAskedRef with
      hBlank | hBlank | hNone
    · exact hProfile hBlank
    · exact hRef hBlank
    · rw [hNone row hRow] at hAwaits
      cases hAwaits
  · cases h

set_option maxRecDepth 10000 in
theorem sampleRun_awaits : (run (performConnector (sampleWorld fun _ => some "\x7b\x7d")) sampleRun
    {}).awaitsRaised 1 "op-1" = true := by
  decide +kernel

/-- The last event of a run that reconciles then is not lawful. -/
theorem not_lawful_of_awaitsRaised {world : ConnectorWorld} {actions : List ConnectorAction}
    {id : Nat} {ref : String} (nowEpoch : Int) (hCanonical : CanonicalizesText world.canonical)
    (h : (run (performConnector world) actions {}).awaitsRaised id ref = true) :
    ¬ SettledLawfully (trace (performConnector world)
      (actions ++ [.advance id (.reconcile nowEpoch)]) {}) := by
  intro hLawful
  have hSplit := @trace_append _ _ _ (performConnector world) actions
    [.advance id (.reconcile nowEpoch)] {}
  apply not_backed_of_awaitsRaised nowEpoch h
  apply backed_of_lawful hCanonical ?_ (hLawful _ _ [] hSplit)
  · exact actions ++ [.advance id (.reconcile nowEpoch)]
  · rw [hSplit]
    exact List.mem_append_right _ List.mem_cons_self

/-- A status read that raised settles the write it asked about. -/
theorem raised_read_settles_write : ¬ ∀ (world : ConnectorWorld) (actions : List ConnectorAction),
    CanonicalizesText world.canonical →
      SettledLawfully (trace (performConnector world) actions {}) := by
  intro h
  have hCanonical : CanonicalizesText (sampleWorld fun _ => some "\x7b\x7d").canonical :=
    fun _ _ => rfl
  exact not_lawful_of_awaitsRaised 105 hCanonical sampleRun_awaits (h _ _ hCanonical)

end Samples

end CyreneExchange.Integrations
