import CyreneExchange.Integrations.Connector.Execution
import CyreneExchange.Integrations.Connector.Rows

/-! What one step of a connector execution can do, and the invariant of a
system of executions: every execution between its reservation and its recorded
outcome owns the standing row of its key, and no two own one key. -/
namespace CyreneExchange.Integrations

open Transaction GrantVerifier

/-- Everything a step of an execution can do. -/
inductive ConnectorRequest.Takes (world : ConnectorWorld) (request : ConnectorRequest) :
    Move → Stage → ConnectorStore → ConnectorAnswer → Stage → ConnectorStore → Prop
  | reserved {nowEpoch : Int} {s t : ConnectorStore} {r : Reservation}
      (h : reserveConnectorInvocation request.key request.signed request.grantRef nowEpoch s =
        .ok (r, t)) :
      Takes world request (.reserve nowEpoch) .requested s (.reserved r) (request.afterReserve r) t
  | granted {clock : ℚ} {s t : ConnectorStore} {claims : ConnectorGrantClaims}
      (h : world.verifier.consume request.grant request.expected clock s = (.ok claims, t)) :
      Takes world request (.consume clock) .reserved s (.consumed claims) (.granted claims) t
  | refused {clock : ℚ} {s t : ConnectorStore} {e : ExchangeProductError}
      (h : world.verifier.consume request.grant request.expected clock s = (.error e, t)) :
      Takes world request (.consume clock) .reserved s (.denied e) .refused t
  | replayGranted {clock : ℚ} {s t : ConnectorStore} {claims : ConnectorGrantClaims}
      (h : world.verifier.consume request.grant request.expected clock s = (.ok claims, t)) :
      Takes world request (.consume clock) .replayed s (.consumed claims) (.replayGranted claims) t
  | replayRefused {clock : ℚ} {s t : ConnectorStore} {e : ExchangeProductError}
      (h : world.verifier.consume request.grant request.expected clock s = (.error e, t)) :
      Takes world request (.consume clock) .replayed s (.denied e) .finished t
  | discarded {s t : ConnectorStore}
      (h : discardConnectorInvocation request.key request.signed.envelopeSha256 s = .ok ((), t)) :
      Takes world request .discard .refused s .done .finished t
  | attached {claims : ConnectorGrantClaims} {s t : ConnectorStore}
      (h : attachConnectorInvocationGrant request.key request.signed.envelopeSha256
        claims.grantRef s = .ok ((), t)) :
      Takes world request .attach (.granted claims) s .done (.attached claims) t
  | replayAttached {claims : ConnectorGrantClaims} {s t : ConnectorStore}
      (h : attachConnectorInvocationGrant request.key request.signed.envelopeSha256
        claims.grantRef s = .ok ((), t)) :
      Takes world request .attach (.replayGranted claims) s .done .finished t
  | dispatched {claims : ConnectorGrantClaims} {s : ConnectorStore} :
      Takes world request .dispatch (.attached claims) s .done (.dispatching claims) s
  | answered {claims : ConnectorGrantClaims} {outcome : DispatchOutcome} {s : ConnectorStore} :
      Takes world request (.answer outcome) (.dispatching claims) s .done
        (.answered claims outcome) s
  | completed {nowEpoch : Int} {claims : ConnectorGrantClaims} {outcome : DispatchOutcome}
      {recorded : ConnectorOutcome} {response : JsonObject} {s t : ConnectorStore}
      (hResponse : connectorOperationResponse world.canonical claims.content.requestId
        (request.result outcome) request.prepared.isMutating request.prepared.operationId
        request.prepared.idempotencyKey = .ok (recorded, response))
      (h : completeConnectorInvocation world.canonical world.sha256 request.key
        request.signed.envelopeSha256 recorded.receiptState (some response)
        (connectorOperationRef (request.result outcome)) 200 nowEpoch s = .ok ((), t)) :
      Takes world request (.complete nowEpoch) (.answered claims outcome) s .done
        (.completed outcome) t
  | reconciled {nowEpoch : Int} {outcome : DispatchOutcome} {operationRef : String}
      {terminalState : InvocationState} {s t : ConnectorStore}
      (hReference : request.reconciliation outcome = some (operationRef, terminalState))
      (h : reconcileConnectorInvocations world.canonical request.key.scope
        request.signed.profileRef operationRef terminalState nowEpoch s = .ok ((), t)) :
      Takes world request (.reconcile nowEpoch) (.completed outcome) s .done .finished t
  | unreconciled {nowEpoch : Int} {outcome : DispatchOutcome} {s : ConnectorStore}
      (hReference : request.reconciliation outcome = none) :
      Takes world request (.reconcile nowEpoch) (.completed outcome) s .done .finished s
  | failed {move : Move} {stage : Stage} {s : ConnectorStore} (e : LedgerError)
      (hMove : move ≠ .dispatch)
      (hReserve : ∀ nowEpoch, move = .reserve nowEpoch → stage = .requested) :
      Takes world request move stage s (.failed e) .finished s
  | crashed {stage : Stage} {s : ConnectorStore} :
      Takes world request .crash stage s .done .finished s

section Inversion

variable {world : ConnectorWorld} {request : ConnectorRequest} {move : Move}
  {stage stage' : Stage} {s t : ConnectorStore} {answer : ConnectorAnswer}

/-- A ledger method commits, or the execution fails and the ledger is kept. -/
theorem takes_of_ledgerStep {α : Type} {body : ConnectorTransaction α}
    {next : α → ConnectorAnswer × Stage} (hMove : move ≠ .dispatch)
    (hReserve : ∀ nowEpoch, move = .reserve nowEpoch → stage = .requested)
    (hCommits : ∀ a u, body s = .ok (a, u) →
      request.Takes world move stage s (next a).1 (next a).2 u)
    (h : some (ledgerStep body next s) = some (answer, stage', t)) :
    request.Takes world move stage s answer stage' t := by
  unfold ledgerStep at h
  rcases commit_cases body s with ⟨a, u, hBody, hCommit⟩ | ⟨e, _, hCommit⟩
  · rw [hCommit] at h
    cases h
    exact hCommits a _ hBody
  · rw [hCommit] at h
    cases h
    exact .failed e hMove hReserve

/-- The grant is consumed or refused, with the ledger the registry leaves. -/
theorem takes_of_consumeStep {clock : ℚ} {granted : ConnectorGrantClaims → Stage} {denied : Stage}
    (hGranted : ∀ claims u, world.verifier.consume request.grant request.expected clock s =
      (.ok claims, u) → request.Takes world move stage s (.consumed claims) (granted claims) u)
    (hDenied : ∀ e u, world.verifier.consume request.grant request.expected clock s =
      (.error e, u) → request.Takes world move stage s (.denied e) denied u)
    (h : some (consumeStep world request clock granted denied s) = some (answer, stage', t)) :
    request.Takes world move stage s answer stage' t := by
  unfold consumeStep at h
  match hConsume : world.verifier.consume request.grant request.expected clock s with
  | (.ok claims, u) =>
      rw [hConsume] at h
      cases h
      exact hGranted claims _ hConsume
  | (.error e, u) =>
      rw [hConsume] at h
      cases h
      exact hDenied e _ hConsume

theorem advance_takes (h : request.advance world move stage s = some (answer, stage', t)) :
    request.Takes world move stage s answer stage' t := by
  cases move with
  | reserve nowEpoch =>
      cases stage <;> simp only [ConnectorRequest.advance, reduceCtorEq] at h
      exact takes_of_ledgerStep (by simp) (fun _ _ => rfl) (fun r u hBody => .reserved hBody) h
  | consume clock =>
      cases stage <;> simp only [ConnectorRequest.advance, reduceCtorEq] at h
      case reserved =>
        exact takes_of_consumeStep (fun _ _ hConsume => .granted hConsume)
          (fun _ _ hConsume => .refused hConsume) h
      case replayed =>
        exact takes_of_consumeStep (fun _ _ hConsume => .replayGranted hConsume)
          (fun _ _ hConsume => .replayRefused hConsume) h
  | discard =>
      cases stage <;> simp only [ConnectorRequest.advance, reduceCtorEq] at h
      exact takes_of_ledgerStep (by simp) (by simp) (fun _ u hBody => .discarded hBody) h
  | attach =>
      cases stage <;> simp only [ConnectorRequest.advance, reduceCtorEq] at h
      case granted claims =>
        exact takes_of_ledgerStep (by simp) (by simp) (fun _ u hBody => .attached hBody) h
      case replayGranted claims =>
        exact takes_of_ledgerStep (by simp) (by simp) (fun _ u hBody => .replayAttached hBody) h
  | dispatch =>
      cases stage <;> simp only [ConnectorRequest.advance, reduceCtorEq] at h
      cases h
      exact .dispatched
  | answer outcome =>
      cases stage <;> simp only [ConnectorRequest.advance, reduceCtorEq] at h
      cases h
      exact .answered
  | complete nowEpoch =>
      cases stage <;> simp only [ConnectorRequest.advance, reduceCtorEq] at h
      case answered claims outcome =>
        unfold completeStep at h
        dsimp only at h
        split at h
        · cases h
          exact .failed _ (by simp) (by simp)
        · rename_i recorded response hResponse
          exact takes_of_ledgerStep (by simp) (by simp) (fun _ u hBody => .completed hResponse hBody) h
  | reconcile nowEpoch =>
      cases stage <;> simp only [ConnectorRequest.advance, reduceCtorEq] at h
      case completed outcome =>
        unfold reconcileStep at h
        split at h
        · rename_i hReference
          cases h
          exact .unreconciled hReference
        · rename_i operationRef terminalState hReference
          exact takes_of_ledgerStep (by simp) (by simp) (fun _ u hBody => .reconciled hReference hBody) h
  | crash =>
      cases stage <;> simp only [ConnectorRequest.advance, reduceCtorEq] at h
      all_goals
        cases h
        exact .crashed

end Inversion

section Ledgers

variable {world : ConnectorWorld} {request : ConnectorRequest} {move : Move}
  {stage stage' : Stage} {s t : ConnectorStore} {answer : ConnectorAnswer}
  {row : ConnectorInvocation}

/-- The grant registry never touches the ledger. -/
theorem performGrant_invocations (call : GrantCall) (s : ConnectorStore) :
    (performGrant call s).2.invocations = s.invocations := by
  cases call with
  | register grantRef encodedSha256 expiresAt nowEpoch =>
      unfold performGrant registerConnectorGrant
      dsimp only
      split
      · rfl
      · split <;> rfl
  | consume grantRef encodedSha256 nowEpoch =>
      unfold performGrant consumeConnectorGrant
      dsimp only
      split <;> rfl

theorem attempt_invocations {call : Except ExchangeProductError (ConnectorGrantClaims × GrantCall)}
    {reasonCode : String} {result : Except ExchangeProductError ConnectorGrantClaims}
    (h : attempt call reasonCode s = (result, t)) : t.invocations = s.invocations := by
  match call with
  | .error e =>
      cases h
      rfl
  | .ok (claims, call) =>
      rw [← performGrant_invocations call s]
      unfold attempt at h
      dsimp only at h
      match hCall : performGrant call s with
      | (true, u) =>
          rw [hCall] at h
          cases h
          rfl
      | (false, u) =>
          rw [hCall] at h
          cases h
          rfl

/-- A stage between the reservation and the recorded outcome. -/
def Stage.owns : Stage → Bool
  | .reserved | .refused | .granted _ | .attached _ | .dispatching _ | .answered _ _ => true
  | .requested | .completed _ | .replayed | .replayGranted _ | .finished => false

/-- After a reservation the execution owns its key exactly if it is new. -/
theorem owns_afterReserve {r : Reservation} :
    (request.afterReserve r).owns = true ↔ r.disposition = .new := by
  unfold ConnectorRequest.afterReserve
  split
  · simp_all [Stage.owns]
  · split <;> simp_all [Stage.owns]

/-- A row still waiting for its own outcome. -/
structure ConnectorInvocation.Open (request : ConnectorRequest) (row : ConnectorInvocation) :
    Prop where
  key : row.key = request.key
  signed : row.signed = request.signed
  state : row.state = .inProgress

theorem stands_of_inProgress (h : row.state = .inProgress) : row.stands = true := by
  unfold ConnectorInvocation.stands
  rw [h]
  rfl

/-- No step duplicates a key. -/
theorem ConnectorRequest.Takes.unique (h : request.Takes world move stage s answer stage' t)
    (hUnique : Table.KeysUnique ConnectorInvocation.key s.invocations) :
    Table.KeysUnique ConnectorInvocation.key t.invocations := by
  cases h with
  | @reserved _ _ _ r h =>
      by_cases hNew : r.disposition = .new
      · obtain ⟨_, remaining, hCarries, hFresh, hRows⟩ := reserve_inserts hUnique h hNew
        rw [hRows]
        exact (hCarries.unique hUnique).append_singleton hFresh
      · exact (reserve_replays h hNew).unique hUnique
  | granted h | refused h | replayGranted h | replayRefused h =>
      rw [attempt_invocations h]
      exact hUnique
  | discarded h => exact (discard_keeps_other_keys h).unique hUnique
  | attached h | replayAttached h =>
      have hCarries : Carries ConnectorInvocation.stands s.invocations t.invocations :=
        attach_carries h
      exact hCarries.unique hUnique
  | dispatched | answered | unreconciled | failed | crashed => exact hUnique
  | completed _ h =>
      obtain ⟨trimmed, stored, hCarries, hRows⟩ := complete_rows h
      rw [hRows]
      exact (hCarries.unique hUnique).updateWhere fun _ _ _ => rfl
  | @reconciled _ _ operationRef _ _ _ _ h =>
      by_cases hBlank : request.signed.profileRef = "" ∨ operationRef = ""
      · rw [reconcile_blank hBlank h]
        exact hUnique
      · obtain ⟨hProfile, hRef⟩ := not_or.mp hBlank
        exact (reconcile_settles hProfile hRef h).unique hUnique

/-- What a step leaves of a standing row: only a reconciliation changes its
state, and only that of an unresolved one. -/
structure ConnectorInvocation.Survives (move : Move) (row row' : ConnectorInvocation) : Prop where
  key : row'.key = row.key
  signed : row'.signed = row.signed
  state : row'.state = row.state ∨
    (row.state.unresolved = true ∧ ∃ nowEpoch, move = .reconcile nowEpoch)

theorem ConnectorInvocation.Agrees.survives {row' : ConnectorInvocation} (h : row.Agrees row') :
    row.Survives move row' :=
  ⟨h.key, h.signed, Or.inl h.state⟩

/-- No step takes away a standing row of another key than its own, and a row
in progress stays in progress. -/
theorem ConnectorRequest.Takes.keeps (h : request.Takes world move stage s answer stage' t)
    (hUnique : Table.KeysUnique ConnectorInvocation.key s.invocations)
    (hRow : row ∈ s.invocations) (hStands : row.stands = true)
    (hOther : stage.owns = true → row.key ≠ request.key) :
    ∃ row' ∈ t.invocations, row.Survives move row' := by
  have hSame : ∃ row' ∈ s.invocations, row.Survives move row' :=
    ⟨row, hRow, rfl, rfl, Or.inl rfl⟩
  cases h with
  | @reserved _ _ _ r h =>
      by_cases hNew : r.disposition = .new
      · obtain ⟨_, remaining, hCarries, _, hRows⟩ := reserve_inserts hUnique h hNew
        obtain ⟨row', hRow', hAgrees⟩ := hCarries.keeps row hRow hStands
        rw [hRows]
        exact ⟨row', List.mem_append_left _ hRow', hAgrees.survives⟩
      · obtain ⟨row', hRow', hAgrees⟩ := (reserve_replays h hNew).keeps row hRow
          (unexpired_of_stands hStands)
        exact ⟨row', hRow', hAgrees.survives⟩
  | granted h | refused h | replayGranted h | replayRefused h =>
      rw [attempt_invocations h]
      exact hSame
  | discarded h =>
      obtain ⟨row', hRow', hAgrees⟩ := (discard_keeps_other_keys h).keeps row hRow
        (bne_iff_ne.mpr (hOther rfl))
      exact ⟨row', hRow', hAgrees.survives⟩
  | attached h | replayAttached h =>
      obtain ⟨row', hRow', hAgrees⟩ := (attach_carries h).keeps row hRow hStands
      exact ⟨row', hRow', hAgrees.survives⟩
  | dispatched | answered | unreconciled | failed | crashed => exact hSame
  | completed _ h =>
      obtain ⟨trimmed, stored, hCarries, hRows⟩ := complete_rows h
      obtain ⟨row', hRow', hAgrees⟩ := hCarries.keeps row hRow (unexpired_of_stands hStands)
      have hForeign : row'.isReservation request.key request.signed.envelopeSha256 = false := by
        unfold ConnectorInvocation.isReservation
        rw [hAgrees.key, beq_eq_false_iff_ne.mpr (hOther rfl), Bool.false_and]
      rw [hRows]
      exact ⟨row', Table.mem_updateWhere_of_neg hRow' hForeign, hAgrees.survives⟩
  | @reconciled _ _ operationRef _ _ _ _ h =>
      by_cases hBlank : request.signed.profileRef = "" ∨ operationRef = ""
      · rw [reconcile_blank hBlank h]
        exact hSame
      · obtain ⟨hProfile, hRef⟩ := not_or.mp hBlank
        obtain ⟨row', hRow', _, hRestated⟩ := (reconcile_settles hProfile hRef h).keeps row hRow
          (unexpired_of_stands hStands)
        refine ⟨row', hRow', hRestated.key, hRestated.signed, ?_⟩
        rw [hRestated.state, stateAfter_filter hUnique hRow]
        split
        · rename_i hAwaits
          simp only [ConnectorInvocation.awaits, Bool.and_eq_true] at hAwaits
          exact Or.inr ⟨hAwaits.2, _, rfl⟩
        · exact Or.inl rfl

/-- An execution that goes on owning its key keeps its row open. -/
theorem ConnectorRequest.Takes.keeps_open (h : request.Takes world move stage s answer stage' t)
    (hOwns : stage.owns = true) (hOwns' : stage'.owns = true)
    (hRow : row ∈ s.invocations) (hOpen : row.Open request) :
    ∃ row' ∈ t.invocations, row'.Open request := by
  cases h with
  | reserved h => cases hOwns
  | granted h | refused h =>
      rw [attempt_invocations h]
      exact ⟨row, hRow, hOpen⟩
  | replayGranted h | replayRefused h => cases hOwns
  | replayAttached h => cases hOwns
  | discarded h => cases hOwns'
  | attached h =>
      obtain ⟨row', hRow', hAgrees⟩ := (attach_carries h).keeps row hRow
        (stands_of_inProgress hOpen.state)
      exact ⟨row', hRow', hAgrees.key.trans hOpen.key, hAgrees.signed.trans hOpen.signed,
        hAgrees.state.trans hOpen.state⟩
  | dispatched | answered => exact ⟨row, hRow, hOpen⟩
  | completed _ h => cases hOwns'
  | reconciled _ h => cases hOwns
  | unreconciled _ => cases hOwns
  | failed | crashed => cases hOwns'

/-- An execution comes to own its key by a NEW reservation, where no row of
the key stands. -/
theorem ConnectorRequest.Takes.opens (h : request.Takes world move stage s answer stage' t)
    (hUnique : Table.KeysUnique ConnectorInvocation.key s.invocations)
    (hOwns : stage.owns = false) (hOwns' : stage'.owns = true) :
    (∃ r, answer = .reserved r ∧ r.disposition = .new) ∧
      (∀ row ∈ s.invocations, row.key = request.key → row.stands = false) ∧
      ∃ row ∈ t.invocations, row.Open request := by
  cases h with
  | @reserved nowEpoch _ _ r h =>
      have hNew := owns_afterReserve.mp hOwns'
      obtain ⟨hGone, remaining, _, _, hRows⟩ := reserve_inserts hUnique h hNew
      refine ⟨⟨r, rfl, hNew⟩, hGone,
        reservedRow request.key request.signed request.grantRef nowEpoch, ?_, rfl, rfl, rfl⟩
      rw [hRows]
      exact List.mem_append_right _ List.mem_cons_self
  | granted h | refused h => cases hOwns
  | attached h => cases hOwns
  | dispatched | answered => cases hOwns
  | replayGranted h | replayRefused h => cases hOwns'
  | discarded h => cases hOwns'
  | replayAttached h => cases hOwns'
  | completed _ h => cases hOwns'
  | reconciled _ h => cases hOwns'
  | unreconciled _ => cases hOwns'
  | failed | crashed => cases hOwns'

end Ledgers

section Systems

variable {world : ConnectorWorld} {action : ConnectorAction} {s t : ConnectorSystem}
  {answer : ConnectorAnswer} {id id' : Nat} {execution execution' : Execution}

/-- Everything an action can do to a system. -/
inductive ConnectorSystem.Acts (world : ConnectorWorld) (s : ConnectorSystem) :
    ConnectorAction → ConnectorAnswer → ConnectorSystem → Prop
  | denied {grant : List UInt8} {prepared : PreparedConnectorOperation} {clock clock' : ℚ}
      (e : ExchangeProductError) :
      Acts world s (.arrive grant prepared clock clock') (.denied e) s
  | arrived {grant : List UInt8} {prepared : PreparedConnectorOperation} {clock clock' : ℚ}
      {request : ConnectorRequest}
      (h : ConnectorRequest.inspect world grant prepared clock clock' = .ok request) :
      Acts world s (.arrive grant prepared clock clock') (.accepted s.executions.length)
        { s with executions := s.executions ++ [⟨request, .requested⟩] }
  | registered {grant : List UInt8} {expected : ExpectedClaims} {clock : ℚ}
      {answer : ConnectorAnswer} {store : ConnectorStore}
      (h : store.invocations = s.store.invocations) :
      Acts world s (.register grant expected clock) answer { s with store := store }
  | ignored {id : Nat} {move : Move} : Acts world s (.advance id move) .ignored s
  | advanced {id : Nat} {move : Move} {execution : Execution} {answer : ConnectorAnswer}
      {stage : Stage} {store : ConnectorStore}
      (hExecution : s.executions[id]? = some execution)
      (hTakes : execution.request.Takes world move execution.stage s.store answer stage store) :
      Acts world s (.advance id move) answer
        ⟨store, s.executions.set id ⟨execution.request, stage⟩⟩

theorem performConnector_acts (world : ConnectorWorld) (action : ConnectorAction)
    (s : ConnectorSystem) :
    s.Acts world action (performConnector world action s).1
      (performConnector world action s).2 := by
  cases action with
  | arrive grant prepared clock clock' =>
      cases hInspect : ConnectorRequest.inspect world grant prepared clock clock' with
      | error e =>
          simp only [performConnector, hInspect]
          exact .denied e
      | ok request =>
          simp only [performConnector, hInspect]
          exact .arrived hInspect
  | register grant expected clock =>
      match hValidate : world.verifier.validateAuthorityResponse grant expected clock s.store with
      | (.ok claims, t) =>
          simp only [performConnector, hValidate]
          exact .registered (attempt_invocations hValidate)
      | (.error e, t) =>
          simp only [performConnector, hValidate]
          exact .registered (attempt_invocations hValidate)
  | advance id move =>
      cases hExecution : s.executions[id]? with
      | none =>
          simp only [performConnector, hExecution]
          exact .ignored
      | some execution =>
          match hAdvance : execution.request.advance world move execution.stage s.store with
          | none =>
              simp only [performConnector, hExecution, hAdvance]
              exact .ignored
          | some (answer, stage, t) =>
              simp only [performConnector, hExecution, hAdvance]
              exact .advanced hExecution (advance_takes hAdvance)

/-- The invariant of a system of connector executions. -/
structure ConnectorSystem.Sound (s : ConnectorSystem) : Prop where
  unique : Table.KeysUnique ConnectorInvocation.key s.store.invocations
  open_row : ∀ (id : Nat) (execution : Execution), s.executions[id]? = some execution →
    execution.stage.owns = true → ∃ row ∈ s.store.invocations, row.Open execution.request
  alone : ∀ (id id' : Nat) (execution execution' : Execution),
    s.executions[id]? = some execution → s.executions[id']? = some execution' →
    execution.stage.owns = true → execution'.stage.owns = true → execution.request.key = execution'.request.key → id = id'

/-- Looking up an execution after one of them has moved on. -/
theorem executions_set {moved found : Execution}
    (hExecution : s.executions[id]? = some execution)
    (h : (s.executions.set id moved)[id']? = some found) :
    (id' = id ∧ found = moved) ∨ (id' ≠ id ∧ s.executions[id']? = some found) := by
  have hLength : id < s.executions.length := (List.getElem?_eq_some_iff.mp hExecution).1
  rw [List.getElem?_set] at h
  split at h
  · rename_i hId
    exact Or.inl ⟨hId.symm, (Option.some.inj h).symm⟩
  · rename_i hId
    exact Or.inr ⟨fun hEq => hId hEq.symm, h⟩

/-- Looking up an execution after a request has come in. -/
theorem executions_append {request : ConnectorRequest} {found : Execution}
    (h : (s.executions ++ [⟨request, .requested⟩])[id]? = some found) :
    s.executions[id]? = some found ∨ found.stage = .requested := by
  by_cases hOld : id < s.executions.length
  · rw [List.getElem?_append_left hOld] at h
    exact Or.inl h
  · have hMem := List.mem_of_getElem? h
    rw [List.getElem?_append_right (Nat.not_lt.mp hOld)] at h
    obtain ⟨hIndex, hFound⟩ := List.getElem?_eq_some_iff.mp h
    have hZero : id - s.executions.length = 0 := by simpa using hIndex
    simp only [hZero, List.getElem_cons_zero] at hFound
    exact Or.inr (by rw [← hFound])

/-- An execution that owns its key keeps its open row while others move. -/
theorem sound_advance {move : Move} {stage : Stage} {store : ConnectorStore}
    (hSound : s.Sound) (hExecution : s.executions[id]? = some execution)
    (hTakes : execution.request.Takes world move execution.stage s.store answer stage store) :
    (⟨store, s.executions.set id ⟨execution.request, stage⟩⟩ : ConnectorSystem).Sound := by
  -- an owner other than the moving execution has another key, or finds no new owner of its own
  have hApart : ∀ id' found, id' ≠ id → s.executions[id']? = some found →
      found.stage.owns = true → stage.owns = true → found.request.key ≠ execution.request.key := by
    intro id' found hId hFound hOwns hOwns' hKey
    cases hBefore : execution.stage.owns with
    | true => exact hId (hSound.alone id' id found execution hFound hExecution hOwns hBefore hKey)
    | false =>
        obtain ⟨_, hGone, _⟩ := hTakes.opens hSound.unique hBefore hOwns'
        obtain ⟨row, hRow, hOpen⟩ := hSound.open_row id' found hFound hOwns
        have hStands := stands_of_inProgress hOpen.state
        rw [hGone row hRow (hOpen.key.trans hKey)] at hStands
        cases hStands
  refine ⟨hTakes.unique hSound.unique, ?_, ?_⟩
  · intro id' found hFound hOwns
    rcases executions_set hExecution hFound with ⟨rfl, rfl⟩ | ⟨hId, hFound⟩
    · cases hBefore : execution.stage.owns with
      | true =>
          obtain ⟨row, hRow, hOpen⟩ := hSound.open_row id' execution hExecution hBefore
          exact hTakes.keeps_open hBefore hOwns hRow hOpen
      | false => exact (hTakes.opens hSound.unique hBefore hOwns).2.2
    · obtain ⟨row, hRow, hOpen⟩ := hSound.open_row id' found hFound hOwns
      obtain ⟨row', hRow', hSurvives⟩ := hTakes.keeps hSound.unique hRow
        (stands_of_inProgress hOpen.state) (by
          intro hBefore hKey
          exact hId (hSound.alone id' id found execution hFound hExecution hOwns hBefore
            (hOpen.key.symm.trans hKey)))
      refine ⟨row', hRow', hSurvives.key.trans hOpen.key, hSurvives.signed.trans hOpen.signed, ?_⟩
      rcases hSurvives.state with hState | ⟨hUnresolved, _⟩
      · exact hState.trans hOpen.state
      · rw [hOpen.state] at hUnresolved
        cases hUnresolved
  · intro id₁ id₂ first second hFirst hSecond hOwns hOwns' hKey
    rcases executions_set hExecution hFirst with ⟨rfl, rfl⟩ | ⟨hId, hOld⟩ <;>
      rcases executions_set hExecution hSecond with ⟨rfl, rfl⟩ | ⟨hId', hOld'⟩
    · rfl
    · exact absurd hKey.symm (hApart id₂ second hId' hOld' hOwns' hOwns)
    · exact absurd hKey (hApart id₁ first hId hOld hOwns hOwns')
    · exact hSound.alone id₁ id₂ first second hOld hOld' hOwns hOwns' hKey

theorem performConnector_preserves_sound (hSound : s.Sound) :
    (performConnector world action s).2.Sound := by
  have hActs := performConnector_acts world action s
  generalize (performConnector world action s).1 = answer at hActs
  generalize (performConnector world action s).2 = t at hActs ⊢
  cases hActs with
  | denied | ignored => exact hSound
  | arrived h =>
      refine ⟨hSound.unique, ?_, ?_⟩
      · intro id found hFound hOwns
        rcases executions_append hFound with hOld | hNew
        · exact hSound.open_row id found hOld hOwns
        · rw [hNew] at hOwns
          cases hOwns
      · intro id id' found found' hFound hFound' hOwns hOwns' hKey
        rcases executions_append hFound with hOld | hNew
        · rcases executions_append hFound' with hOld' | hNew'
          · exact hSound.alone id id' found found' hOld hOld' hOwns hOwns' hKey
          · rw [hNew'] at hOwns'
            cases hOwns'
        · rw [hNew] at hOwns
          cases hOwns
  | registered h =>
      refine ⟨?_, ?_, hSound.alone⟩
      · rw [h]
        exact hSound.unique
      · intro id found hFound hOwns
        rw [h]
        exact hSound.open_row id found hFound hOwns
  | advanced hExecution hTakes => exact sound_advance hSound hExecution hTakes

/-- Every reachable system is sound. -/
theorem connector_sound (world : ConnectorWorld) :
    Machine.Preserves (performConnector world) (fun _ _ => True) ConnectorSystem.Sound :=
  fun _ _ hSound _ => performConnector_preserves_sound hSound

theorem connector_sound_start : ({} : ConnectorSystem).Sound :=
  ⟨List.nodup_nil, fun _ _ h => by simp at h, fun _ _ _ _ h => by simp at h⟩

end Systems

end CyreneExchange.Integrations
