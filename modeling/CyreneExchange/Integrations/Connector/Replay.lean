import CyreneExchange.Integrations.Connector.Classification
import CyreneExchange.Integrations.Connector.Receipts
import CyreneExchange.Integrations.Loads

/-! What a replay of a connector operation reports while its receipt is cached,
and after the receipt was evicted. The original response, the compacted receipt
and the answer without a receipt all follow the state of the row; the receipt
of a reconciliation does not. -/
namespace CyreneExchange.Integrations

open Transaction Machine

/-- The outcome a state stands for where no receipt is left. -/
def InvocationState.outcome : InvocationState → ConnectorOutcome
  | .pending => .pending
  | .unknownResult | .inProgress => .uncertain
  | .failed | .rejected => .failed
  | .succeeded | .rateLimited => .verified

/-- The receipt of a reservation: `json.loads`, kept if it is an object. -/
def Reservation.receipt (reservation : Reservation) : Option JsonObject :=
  (reservation.response.bind Json.loads).bind Json.asObj

/-- `**({name: value} if value else {})`. -/
def entryIfTruthy (name : String) (value : Option String) : JsonObject :=
  if truthy value then [(name, optionalText value)] else []

/-- `_connector_replay_response`. -/
def connectorReplayResponse (canonical : Json → Option String) (requestId : String)
    (reservation : Reservation) : Except LedgerError JsonObject :=
  match reservation.receipt with
  | some response => .ok response
  | none =>
      let state := reservation.state
      let outcome := state.outcome
      let freshRequestRequired :=
        !reservation.isMutating && (state == .succeeded || state == .failed)
      let summary : JsonObject := [
        ("state", .str state.text),
        ("receiptOnly", .bool true),
        ("reasonCode", .str "connector_attempt_already_started"),
        ("freshRequestRequired", .bool freshRequestRequired),
        ("replayPolicy", .str (if freshRequestRequired then "fresh-read"
          else if state.unresolved || state == .inProgress then "status-reconciliation"
          else "do-not-repeat"))] ++ entryIfTruthy "operation_ref" reservation.operationRef
      match canonical (.obj summary) with
      | none => .error .canonicalization
      | some text => .ok ([
          ("requestId", .str requestId),
          ("outcome", .str outcome.text)] ++
          entryIfTruthy "operationRef" reservation.operationRef ++ [
          ("result", .obj [
            ("content", .arr [.obj [("type", .str "text"), ("text", .str text)]]),
            ("isError", .bool (outcome == .failed || outcome == .uncertain))])])

/-- The fields `outcome`, `isError` and `operationRef` of a response. -/
structure Report where
  outcome : Option String
  isError : Option Bool
  operationRef : Option String
deriving DecidableEq, Repr

/-- `isinstance(value, bool)`. -/
def Json.asBool : Json → Option Bool
  | .bool flag => some flag
  | _ => none

def report (response : JsonObject) : Report where
  outcome := (response.get "outcome").bind Json.asStr
  isError := ((response.get "result").bind Json.asObj).bind fun result =>
    (result.get "isError").bind Json.asBool
  operationRef := (response.get "operationRef").bind Json.asStr

/-- The report of an outcome. -/
def ConnectorOutcome.report (outcome : ConnectorOutcome) (operationRef : Option String) :
    Report where
  outcome := some outcome.text
  isError := some (outcome == .failed || outcome == .uncertain)
  operationRef := if truthy operationRef then operationRef else none

/-- A row whose receipt was evicted. -/
def ConnectorInvocation.evicted (row : ConnectorInvocation) : ConnectorInvocation :=
  { row with responseJson := none }

/-- What is written into a completed row: the response of its own execution, or
the state a status read settled it in. -/
inductive Written where
  | completed (response : JsonObject)
  | reconciled (state : InvocationState)

/-- What a step of an execution writes into the row of `key`. -/
def Execution.writes (world : ConnectorWorld) (key : InvocationKey) (s : ConnectorStore)
    (execution : Execution) (move : Move) : Option Written :=
  match move, execution.stage with
  | .complete _, .answered claims outcome =>
      match execution.request.reply world claims outcome with
      | .error _ => none
      | .ok (_, response) =>
          if execution.request.key = key then some (.completed response) else none
  | .reconcile _, .completed outcome =>
      match execution.request.reconciliation outcome with
      | none => none
      | some (ref, state) =>
          if execution.request.signed.profileRef ≠ "" ∧ (s.invocations.any fun row =>
              row.key == key && row.awaits execution.request.key.scope
                execution.request.signed.profileRef ref) = true then
            some (.reconciled state)
          else none
  | _, _ => none

/-- What an event writes into the row of `key`. -/
def ConnectorEvent.writes (world : ConnectorWorld) (key : InvocationKey) (e : ConnectorEvent) :
    Option Written :=
  match e.input, e.output with
  | .advance id move, .done => (e.before.executions[id]?).bind fun execution =>
      execution.writes world key e.before.store move
  | _, _ => none

/-- What was last written into the row of `key`. -/
def lastWritten (world : ConnectorWorld) (key : InvocationKey) (events : List ConnectorEvent) :
    Option Written :=
  lastNote (ConnectorEvent.writes world key) events

/-- A replay reports the same with and without the cached receipt, and what the
original response reported if that is what was last written. -/
def ReplaysAlike (canonical : Json → Option String) (requestId : String)
    (written : Option Written) (row : ConnectorInvocation) : Prop :=
  ∃ cached evicted,
    connectorReplayResponse canonical requestId row.reservation = .ok cached ∧
    connectorReplayResponse canonical requestId row.evicted.reservation = .ok evicted ∧
    report cached = report evicted ∧
    ∀ response, written = some (.completed response) → report cached = report response

section Reports

variable {canonical : Json → Option String} {requestId digest text : String}
  {result response : JsonObject} {isMutating fresh : Bool} {operationId ref : String}
  {key operationRef : Option String} {recorded : ConnectorOutcome} {state : InvocationState}
  {reservation : Reservation}

mutual
/-- A document without numbers has no floats. -/
theorem floatless_of_numberless : ∀ v : Json, v.numberless = true → v.Floatless
  | .null, _ | .bool _, _ | .str _, _ => .scalar rfl
  | .int _, h | .float _, h => nomatch h
  | .arr items, h => .arr (floatlessItems items h)
  | .obj entries, h => .obj (floatlessEntries entries h)

theorem floatlessItems : ∀ items : List Json, numberlessItems items = true →
    ∀ v ∈ items, v.Floatless
  | [], _, v, hv => nomatch hv
  | first :: rest, h, v, hv => by
      rw [numberlessItems, Bool.and_eq_true] at h
      rcases List.mem_cons.mp hv with hFirst | hRest
      · rw [hFirst]
        exact floatless_of_numberless first h.1
      · exact floatlessItems rest h.2 v hRest

theorem floatlessEntries : ∀ entries : List (String × Json), numberlessEntries entries = true →
    ∀ e ∈ entries, e.2.Floatless
  | [], _, e, he => nomatch he
  | (name, value) :: rest, h, e, he => by
      rw [numberlessEntries, Bool.and_eq_true] at h
      rcases List.mem_cons.mp he with hFirst | hRest
      · rw [hFirst]
        exact floatless_of_numberless value h.1
      · exact floatlessEntries rest h.2 e hRest
end

/-- Sorting the keys of a response changes nothing it reports. -/
theorem report_sorted {d : JsonObject} (hNodup : (d.map Prod.fst).Nodup)
    (hResult : ∀ result, d.get "result" = some (.obj result) → (result.map Prod.fst).Nodup) :
    report (Json.sortedByKey (Json.sortedEntries d)) = report d := by
  have hStr : ∀ value : Option Json,
      (value.map Json.sorted).bind Json.asStr = value.bind Json.asStr := by
    intro value
    cases value with
    | none => rfl
    | some value => cases value <;> rfl
  have hBool : ∀ value : Option Json,
      (value.map Json.sorted).bind Json.asBool = value.bind Json.asBool := by
    intro value
    cases value with
    | none => rfl
    | some value => cases value <;> rfl
  have hError : (((d.get "result").map Json.sorted).bind Json.asObj).bind (fun result =>
        (result.get "isError").bind Json.asBool) =
      ((d.get "result").bind Json.asObj).bind fun result =>
        (result.get "isError").bind Json.asBool := by
    cases hGet : d.get "result" with
    | none => rfl
    | some value =>
        cases value with
        | obj result =>
            show (JsonObject.get (Json.sortedByKey (Json.sortedEntries result)) "isError").bind
              Json.asBool = (JsonObject.get result "isError").bind Json.asBool
            rw [Json.get_sorted (hResult result hGet), hBool]
        | _ => rfl
  unfold report
  rw [Json.get_sorted hNodup, Json.get_sorted hNodup, Json.get_sorted hNodup, hStr, hStr, hError]

/-- A stored response is read back with its report. -/
theorem loads_report {d : JsonObject} (hPlain : (Json.obj d).numberless = true)
    (hNodup : (d.map Prod.fst).Nodup)
    (hResult : ∀ result, d.get "result" = some (.obj result) → (result.map Prod.fst).Nodup) :
    ∃ receipt, Json.loads (Json.dumps (.obj d)) = some (.obj receipt) ∧
      report receipt = report d :=
  ⟨_, Json.loads_dumps (floatless_of_numberless _ hPlain), report_sorted hNodup hResult⟩

theorem connectorOperationRef_truthy (h : connectorOperationRef result = some ref) :
    truthy (some ref) = true := by
  unfold connectorOperationRef at h
  split at h
  · split at h
    · cases h
    · cases h
      exact bne_iff_ne.mpr (by assumption)
  · cases h

theorem truthy_cases (value : Option String) :
    truthy value = false ∨ ∃ text, value = some text ∧ truthy (some text) = true := by
  cases value with
  | none => exact Or.inl rfl
  | some text =>
      cases hTruthy : truthy (some text) with
      | false => exact Or.inl rfl
      | true => exact Or.inr ⟨text, rfl, hTruthy⟩

theorem report_of_falsy (outcome : ConnectorOutcome) (h : truthy operationRef = false) :
    outcome.report operationRef =
      ⟨some outcome.text, some (outcome == .failed || outcome == .uncertain), none⟩ := by
  unfold ConnectorOutcome.report
  rw [h]
  rfl

theorem report_of_truthy (outcome : ConnectorOutcome) (h : truthy (some ref) = true) :
    outcome.report (some ref) =
      ⟨some outcome.text, some (outcome == .failed || outcome == .uncertain), some ref⟩ := by
  unfold ConnectorOutcome.report
  rw [h]
  rfl

/-- What the original response reports. -/
theorem report_response (h : connectorOperationResponse canonical requestId result isMutating
      operationId key = .ok (recorded, response)) :
    report response = recorded.report (connectorOperationRef result) := by
  have hRecorded := (response_eq_ok h).1
  unfold connectorOperationResponse at h
  dsimp only at h
  rw [← hRecorded] at h
  split at h
  · cases h
  · cases hRef : connectorOperationRef result with
    | none =>
        rw [hRef] at h
        cases h
        rfl
    | some ref =>
        rw [report_of_truthy recorded (connectorOperationRef_truthy hRef)]
        rw [hRef] at h
        cases h
        rfl

theorem response_requestId (h : connectorOperationResponse canonical requestId result isMutating
      operationId key = .ok (recorded, response)) :
    response.get "requestId" = some (.str requestId) := by
  unfold connectorOperationResponse at h
  dsimp only at h
  split at h
  · cases h
  · split at h <;> cases h <;> rfl

theorem receiptState_outcome (recorded : ConnectorOutcome) :
    recorded.receiptState.outcome = recorded := by
  cases recorded <;> rfl

/-- The `result` of a response envelope. -/
def envelopeResult (text : String) (isError : Bool) : Json :=
  .obj [("content", .arr [.obj [("type", .str "text"), ("text", .str text)]]),
    ("isError", .bool isError)]

theorem envelopeResult_nodup {isError : Bool} {result : JsonObject}
    (h : some (envelopeResult text isError) = some (.obj result)) :
    (result.map Prod.fst).Nodup := by
  cases h
  simp

/-- What a compacted receipt reports. -/
theorem report_compact (hOutcome : response.has "outcome" = true)
    (hRequest : response.get "requestId" = some (.str requestId))
    (h : compactConnectorReceipt canonical response digest operationRef recorded.receiptState
      fresh = .ok text) :
    ∃ receipt, Json.loads text = some (.obj receipt) ∧
      report receipt = recorded.report operationRef := by
  have hText : (if recorded.receiptState = .pending then "pending"
      else if recorded.receiptState = .unknownResult then "uncertain"
      else if recorded.receiptState = .failed then "failed" else "verified") = recorded.text := by
    cases recorded <;> rfl
  have hError : (recorded.text == "failed" || recorded.text == "uncertain") =
      (recorded == .failed || recorded == .uncertain) := by
    cases recorded <;> rfl
  unfold compactConnectorReceipt at h
  dsimp only at h
  rw [if_pos hOutcome, hRequest, hText, hError] at h
  split at h
  · cases h
  · rename_i summary _
    rcases truthy_cases operationRef with hFalsy | ⟨ref, rfl, hTruthy⟩
    · rw [hFalsy] at h
      cases h
      obtain ⟨receipt, hLoads, hReport⟩ := @loads_report [
          ("requestId", .str requestId), ("outcome", .str recorded.text),
          ("result", envelopeResult summary (recorded == .failed || recorded == .uncertain))]
        rfl (by simp) fun _ => envelopeResult_nodup
      rw [report_of_falsy recorded hFalsy]
      exact ⟨receipt, hLoads, hReport⟩
    · rw [hTruthy] at h
      cases h
      obtain ⟨receipt, hLoads, hReport⟩ := @loads_report [
          ("requestId", .str requestId), ("outcome", .str recorded.text),
          ("result", envelopeResult summary (recorded == .failed || recorded == .uncertain)),
          ("operationRef", .str ref)]
        rfl (by simp) fun _ => envelopeResult_nodup
      rw [report_of_truthy recorded hTruthy]
      exact ⟨receipt, hLoads, hReport⟩

/-- What the receipt of a reconciliation reports, whatever the state. -/
theorem report_reconciled (hRef : truthy (some ref) = true)
    (h : reconciledReceipt canonical requestId ref state = .ok text) :
    ∃ receipt, Json.loads text = some (.obj receipt) ∧
      report receipt = ConnectorOutcome.verified.report (some ref) := by
  unfold reconciledReceipt at h
  split at h
  · cases h
  · cases h
    rename_i summary _
    obtain ⟨receipt, hLoads, hReport⟩ := @loads_report [
        ("requestId", .str requestId), ("outcome", .str "verified"), ("operationRef", .str ref),
        ("result", envelopeResult summary false)]
      rfl (by simp) fun _ => envelopeResult_nodup
    rw [report_of_truthy .verified hRef]
    exact ⟨receipt, hLoads, hReport⟩

/-- Without a receipt a replay reports the state of its row. -/
theorem report_replay (hCanonical : RefusesNumbersOnly canonical)
    (hReceipt : reservation.receipt = none) :
    ∃ response, connectorReplayResponse canonical requestId reservation = .ok response ∧
      report response = reservation.state.outcome.report reservation.operationRef := by
  unfold connectorReplayResponse entryIfTruthy
  rw [hReceipt]
  dsimp only
  rcases truthy_cases reservation.operationRef with hFalsy | ⟨ref, hRef, hTruthy⟩
  · rw [hFalsy, report_of_falsy _ hFalsy]
    split
    · rename_i hNone
      have hNumber := numberless_of_refused hCanonical hNone
      simp [Json.numberless, numberlessEntries] at hNumber
    · exact ⟨_, rfl, rfl⟩
  · rw [hRef, hTruthy, report_of_truthy _ hTruthy]
    split
    · rename_i hNone
      have hNumber := numberless_of_refused hCanonical hNone
      simp [Json.numberless, numberlessEntries, optionalText] at hNumber
    · exact ⟨_, rfl, rfl⟩

end Reports

/-- A cached receipt of the row reports `r`. -/
def ConnectorInvocation.Caches (r : Report) (row : ConnectorInvocation) : Prop :=
  ∀ text ∈ row.responseJson, ∃ receipt, Json.loads text = some (.obj receipt) ∧
    report receipt = r

/-- The columns of a row as they follow from what was written into it. -/
inductive Written.Explains (row : ConnectorInvocation) : Written → Prop
  | completed {response : JsonObject}
      (hReport : report response = row.state.outcome.report row.operationRef)
      (hCached : row.Caches (row.state.outcome.report row.operationRef)) :
      Explains row (.completed response)
  | reconciled {state : InvocationState} (hState : row.state = state)
      (hSettled : state = .succeeded ∨ state = .failed)
      (hCached : row.Caches (ConnectorOutcome.verified.report row.operationRef)) :
      Explains row (.reconciled state)

/-- What a row has with its receipt it has without. -/
def SurvivesEviction (P : ConnectorInvocation → Prop) : Prop := ∀ row, P row → P row.evicted

/-- A completed row of `key` is explained by what was last written into it. -/
def Accounted (key : InvocationKey) (written : Option Written) (row : ConnectorInvocation) :
    Prop :=
  row.key = key → row.state ≠ .inProgress → ∃ w, written = some w ∧ w.Explains row

section Ledgers

variable {canonical : Json → Option String} {sha256 : String → String} {s t : ConnectorStore}
  {rows rows' : List ConnectorInvocation} {row : ConnectorInvocation} {key : InvocationKey}
  {written : Option Written} {P : ConnectorInvocation → Prop} {nowEpoch : Int} {u : Unit}

theorem ConnectorInvocation.Caches.evicted (r : Report) (row : ConnectorInvocation) :
    row.evicted.Caches r :=
  fun _ hText => nomatch hText

theorem accounted_survives (key : InvocationKey) (written : Option Written) :
    SurvivesEviction (Accounted key written) := by
  intro row h hKey hState
  obtain ⟨w, hWritten, hExplains⟩ := h hKey hState
  refine ⟨w, hWritten, ?_⟩
  cases hExplains with
  | completed hReport _ => exact .completed hReport (.evicted _ row)
  | reconciled hStored hSettled _ => exact .reconciled hStored hSettled (.evicted _ row)

/-- What every row has, with its receipt or without, the rows of a lighter
ledger have too. -/
theorem Lightens.all (h : Lightens rows rows') (hSurvives : SurvivesEviction P)
    (hAll : ∀ row ∈ rows, P row) : ∀ row ∈ rows', P row := by
  classical
  have hFades : Fades fun row => if P row then 0 else 1 := by
    intro row
    by_cases hRow : P row
    · simp [hRow, show P { row with responseJson := none } from hSurvives row hRow]
    · simp only [if_neg hRow]
      split <;> omega
  have hNone : ∀ rows : List ConnectorInvocation,
      Table.total (fun row => if P row then 0 else 1) rows = 0 ↔ ∀ row ∈ rows, P row := by
    intro rows
    unfold Table.total
    rw [List.sum_eq_zero_iff_forall_eq_nat]
    simp
  have hTotal := h _ hFades
  rw [(hNone rows).mpr hAll, Nat.le_zero] at hTotal
  exact (hNone rows').mp hTotal

/-- One settled row after another keeps what eviction and settling keep. -/
theorem settle_all {operationRef : String} {terminalState : InvocationState}
    {settled : List ConnectorInvocation} (hSurvives : SurvivesEviction P)
    (hSettle : ∀ first ∈ settled, ∀ stored row, P row →
      row.isReservation first.key first.signed.envelopeSha256 = true →
      (∀ text ∈ stored, reconciledReceipt canonical first.key.requestId operationRef
        terminalState = .ok text) → P (row.reconciled terminalState nowEpoch stored))
    (h : settleInvocations canonical operationRef terminalState nowEpoch settled s = .ok (u, t))
    (hAll : ∀ row ∈ s.invocations, P row) : ∀ row ∈ t.invocations, P row := by
  induction settled generalizing s with
  | nil =>
      cases h
      exact hAll
  | cons first later ih =>
      obtain ⟨receipt, mid, hReceipt, hMid, hLater⟩ := settle_cons h
      refine ih (fun next hNext => hSettle next (List.mem_cons_of_mem first hNext)) hLater ?_
      have hKept := (lightens_recordReceipt nowEpoch first.key (some receipt) s.invocations).all
        hSurvives hAll
      rw [hMid]
      intro row hRow
      obtain ⟨before, hBefore, ⟨hMatch, rfl⟩ | ⟨_, rfl⟩⟩ := Table.mem_updateWhere.mp hRow
      · apply hSettle first List.mem_cons_self _ before (hKept before hBefore) hMatch
        intro text hText
        cases (recordReceipt_fits hText).1
        exact hReceipt
      · exact hKept row hBefore

/-- And brings about what settling one of the rows brings about. -/
theorem settle_reaches {Q : ConnectorInvocation → Prop} {operationRef : String}
    {terminalState : InvocationState} {settled : List ConnectorInvocation}
    {reached : ConnectorInvocation} (hSurvives : SurvivesEviction P)
    (hSurvives' : SurvivesEviction Q)
    (hSettle : ∀ first ∈ settled, ∀ stored row, P row →
      row.isReservation first.key first.signed.envelopeSha256 = true →
      (∀ text ∈ stored, reconciledReceipt canonical first.key.requestId operationRef
        terminalState = .ok text) →
      P (row.reconciled terminalState nowEpoch stored) ∧
        Q (row.reconciled terminalState nowEpoch stored))
    (hOther : ∀ row, P row →
      row.isReservation reached.key reached.signed.envelopeSha256 = false → Q row)
    (hReached : reached ∈ settled)
    (h : settleInvocations canonical operationRef terminalState nowEpoch settled s = .ok (u, t))
    (hAll : ∀ row ∈ s.invocations, P row) : ∀ row ∈ t.invocations, Q row := by
  induction settled generalizing s with
  | nil => cases hReached
  | cons first later ih =>
      obtain ⟨receipt, mid, hReceipt, hMid, hLater⟩ := settle_cons h
      have hKept := (lightens_recordReceipt nowEpoch first.key (some receipt) s.invocations).all
        hSurvives hAll
      have hStored : ∀ text ∈ (recordReceipt nowEpoch first.key (some receipt)
          s.invocations).1, reconciledReceipt canonical first.key.requestId operationRef
            terminalState = .ok text := by
        intro text hText
        cases (recordReceipt_fits hText).1
        exact hReceipt
      rcases List.mem_cons.mp hReached with rfl | hMem
      · have hBoth : ∀ row ∈ mid.invocations, P row ∧ Q row := by
          rw [hMid]
          intro row hRow
          obtain ⟨before, hBefore, ⟨hMatch, rfl⟩ | ⟨hForeign, rfl⟩⟩ :=
            Table.mem_updateWhere.mp hRow
          · exact hSettle reached List.mem_cons_self _ before (hKept before hBefore) hMatch
              hStored
          · exact ⟨hKept row hBefore, hOther row (hKept row hBefore) hForeign⟩
        have hAfter : ∀ row ∈ t.invocations, P row ∧ Q row := settle_all
          (fun row hRow => ⟨hSurvives row hRow.1, hSurvives' row hRow.2⟩)
          (fun next hNext stored row hRow => hSettle next (List.mem_cons_of_mem reached hNext)
            stored row hRow.1) hLater hBoth
        exact fun row hRow => (hAfter row hRow).2
      · apply ih (fun next hNext => hSettle next (List.mem_cons_of_mem first hNext)) hMem hLater
        rw [hMid]
        intro row hRow
        obtain ⟨before, hBefore, ⟨hMatch, rfl⟩ | ⟨_, rfl⟩⟩ := Table.mem_updateWhere.mp hRow
        · exact (hSettle first List.mem_cons_self _ before (hKept before hBefore) hMatch
            hStored).1
        · exact hKept row hBefore

end Ledgers

section Steps

variable {world : ConnectorWorld} {request : ConnectorRequest} {s t : ConnectorStore}
  {claims : ConnectorGrantClaims} {outcome : DispatchOutcome} {recorded : ConnectorOutcome}
  {response : JsonObject} {state : InvocationState} {ref : String} {nowEpoch : Int} {u : Unit}
  {key : InvocationKey} {written : Option Written} {row : ConnectorInvocation}

/-- A completion explains its own row, and leaves the others explained. -/
theorem complete_accounts (hUnique : Table.KeysUnique ConnectorInvocation.key s.invocations)
    (hReply : request.reply world claims outcome = .ok (recorded, response))
    (h : completeConnectorInvocation world.canonical world.sha256 request.key
      request.signed.envelopeSha256 recorded.receiptState (some response)
      (connectorOperationRef (request.result outcome)) 200 nowEpoch s = .ok (u, t))
    (hAll : ∀ row ∈ s.invocations, Accounted key written row) :
    ∀ row ∈ t.invocations, Accounted key
      ((if request.key = key then some (.completed response) else none).or written) row := by
  obtain ⟨reservation, hReservation, hMatch, receipt, hCompacted, hRows⟩ := complete_stores h
  have hReport := report_response hReply
  have hOutcome := (response_eq_ok hReply).2.2.1
  -- no other row of the key is left
  have hOwn : ∀ row ∈ s.invocations, row.key = request.key →
      row.isReservation request.key request.signed.envelopeSha256 = true := by
    intro row hRow hKey
    rw [hUnique.eq hRow hReservation (hKey.trans (key_of_isReservation hMatch).symm)]
    exact hMatch
  have hLighter := lightens_recordReceipt nowEpoch request.key receipt s.invocations
  have hKept := hLighter.all (accounted_survives key written) hAll
  have hOwnKept := hLighter.all (P := fun row => row.key = request.key →
    row.isReservation request.key request.signed.envelopeSha256 = true) (fun _ hRow => hRow) hOwn
  rw [hRows]
  intro row hRow
  obtain ⟨before, hBefore, ⟨hOwned, rfl⟩ | ⟨hForeign, rfl⟩⟩ := Table.mem_updateWhere.mp hRow
  · intro hKey _
    have hSame : request.key = key := (key_of_isReservation hOwned).symm.trans hKey
    rw [if_pos hSame]
    refine ⟨_, rfl, .completed ?_ ?_⟩
    · show report response = recorded.receiptState.outcome.report _
      rw [receiptState_outcome, hReport]
      rfl
    · intro text hText
      obtain ⟨_, body, digest, fresh, hBody, hCompact⟩ :=
        hCompacted text (by rw [(recordReceipt_fits hText).1]; rfl)
      cases hBody
      show ∃ receipt, Json.loads text = some (.obj receipt) ∧
        report receipt = recorded.receiptState.outcome.report _
      rw [receiptState_outcome]
      exact report_compact hOutcome (response_requestId hReply) hCompact
  · have hOther : row.key ≠ request.key := by
      intro hKey
      rw [hOwnKept row hBefore hKey] at hForeign
      cases hForeign
    intro hKey hState
    rw [if_neg fun hSame => hOther (hKey.trans hSame.symm)]
    exact hKept row hBefore hKey hState

/-- A reconciliation explains the row it settles, and leaves the others
explained. -/
theorem reconcile_accounts (hUnique : Table.KeysUnique ConnectorInvocation.key s.invocations)
    (hReference : request.reconciliation outcome = some (ref, state))
    (h : reconcileConnectorInvocations world.canonical request.key.scope request.signed.profileRef
      ref state nowEpoch s = .ok (u, t))
    (hAll : ∀ row ∈ s.invocations, Accounted key written row) :
    ∀ row ∈ t.invocations, Accounted key
      ((if request.signed.profileRef ≠ "" ∧ (s.invocations.any fun row => row.key == key &&
          row.awaits request.key.scope request.signed.profileRef ref) = true then
        some (.reconciled state) else none).or written) row := by
  obtain ⟨_, hReported, hNamed⟩ := reconciliation_eq_some.mp hReference
  have hRef : truthy (some ref) = true := by
    rcases hNamed with hOwn | ⟨_, _, hNonempty⟩
    · exact connectorOperationRef_truthy hOwn
    · exact bne_iff_ne.mpr hNonempty
  by_cases hProfile : request.signed.profileRef = ""
  · rw [reconcile_blank (Or.inl hProfile) h, if_neg fun hBoth => hBoth.1 hProfile]
    exact hAll
  unfold reconcileConnectorInvocations at h
  rw [if_neg (not_or.mpr ⟨hProfile, bne_iff_ne.mp hRef⟩), fetch_bind] at h
  by_cases hAwaited : (s.invocations.any fun row => row.key == key &&
      row.awaits request.key.scope request.signed.profileRef ref) = true
  · rw [if_pos ⟨hProfile, hAwaited⟩]
    obtain ⟨reached, hReached, hBoth⟩ := List.any_eq_true.mp hAwaited
    obtain ⟨hKey, hAwaits⟩ := Bool.and_eq_true_iff.mp hBoth
    have hOperation : reached.operationRef = some ref := by
      simp only [ConnectorInvocation.awaits, Bool.and_eq_true, beq_iff_eq] at hAwaits
      exact hAwaits.1.2
    have hSame : ∀ row ∈ s.invocations, row.key = key →
        row.signed = reached.signed ∧ row.operationRef = some ref := by
      intro row hRow hRowKey
      rw [hUnique.eq hRow hReached (hRowKey.trans (beq_iff_eq.mp hKey).symm)]
      exact ⟨rfl, hOperation⟩
    apply settle_reaches (P := fun row => row.key = key →
      row.signed = reached.signed ∧ row.operationRef = some ref) (fun _ hRow => hRow)
      (accounted_survives key _) ?_ ?_ (List.mem_filter.mpr ⟨hReached, hAwaits⟩) h hSame
    · intro first _ stored row hRow hMatch hStored
      refine ⟨hRow, ?_⟩
      intro hRowKey _
      have hCached : (row.reconciled state nowEpoch stored).Caches
          (ConnectorOutcome.verified.report (some ref)) :=
        fun text hText => report_reconciled hRef (hStored text hText)
      rw [← (hRow hRowKey).2] at hCached
      exact ⟨_, rfl, .reconciled rfl (reportedState_eq_some hReported) hCached⟩
    · intro row hRow hForeign hRowKey
      simp [ConnectorInvocation.isReservation, (hRow hRowKey).1, hRowKey,
        beq_iff_eq.mp hKey] at hForeign
  · rw [if_neg fun hBoth => hAwaited hBoth.2]
    refine settle_all (accounted_survives key _) ?_ h hAll
    intro first hFirst stored row _ hMatch _ hRowKey _
    obtain ⟨hMem, hAwaits⟩ := List.mem_filter.mp hFirst
    have hFirstKey : first.key = key := (key_of_isReservation hMatch).symm.trans hRowKey
    exact absurd (List.any_eq_true.mpr ⟨first, hMem, by simp [hFirstKey, hAwaits]⟩) hAwaited

end Steps

section Runs

variable {world : ConnectorWorld} {s t : ConnectorSystem} {action : ConnectorAction}
  {answer : ConnectorAnswer} {id : Nat} {move : Move} {execution : Execution}
  {key : InvocationKey} {written : Option Written}

theorem writes_done (hExecution : s.executions[id]? = some execution) :
    ConnectorEvent.writes world key ⟨s, .advance id move, .done, t⟩ =
      execution.writes world key s.store move := by
  simp [ConnectorEvent.writes, hExecution]

/-- No event leaves a row unexplained. -/
theorem acts_accounts (hSound : s.Sound) (hActs : s.Acts world action answer t)
    (hAll : ∀ row ∈ s.store.invocations, Accounted key written row) :
    ∀ row ∈ t.store.invocations,
      Accounted key ((ConnectorEvent.writes world key ⟨s, action, answer, t⟩).or written) row := by
  cases hActs with
  | denied | arrived | ignored => exact hAll
  | registered h =>
      rw [h]
      exact hAll
  | @advanced id move execution answer stage store hExecution hTakes =>
      obtain ⟨request, from_⟩ := execution
      cases hTakes with
      | @reserved nowEpoch _ _ r h =>
          have hPruned := (lightens_deleteWhere (ConnectorInvocation.expired nowEpoch)
            s.store.invocations).all (accounted_survives key written) hAll
          rcases reserve_eq_ok h with ⟨_, _, _, _, _, hRows⟩ |
            ⟨_, _, _, remaining, hEvict, hRows⟩
          · rw [hRows]
            exact hPruned
          · have hKept := (evict_lightens hEvict).1.all (accounted_survives key written) hPruned
            rw [hRows]
            intro row hRow
            rcases List.mem_append.mp hRow with hOld | hNew
            · exact hKept row hOld
            · intro _ hState
              rw [List.mem_singleton.mp hNew] at hState
              exact absurd rfl hState
      | granted h | refused h | replayGranted h | replayRefused h =>
          rw [attempt_invocations h]
          exact hAll
      | discarded h =>
          rw [writes_done hExecution, discard_rows h]
          exact (lightens_deleteWhere _ _).all (accounted_survives key written) hAll
      | attached h | replayAttached h =>
          rw [writes_done hExecution, attach_rows h]
          intro row hRow
          obtain ⟨before, hBefore, ⟨_, rfl⟩ | ⟨_, rfl⟩⟩ := Table.mem_updateWhere.mp hRow
          · intro hKey hState
            obtain ⟨w, hWritten, hExplains⟩ := hAll before hBefore hKey hState
            refine ⟨w, hWritten, ?_⟩
            cases hExplains with
            | completed hReport hCached => exact .completed hReport hCached
            | reconciled hStored hSettled hCached => exact .reconciled hStored hSettled hCached
          · exact hAll row hBefore
      | dispatched | answered | crashed =>
          rw [writes_done hExecution]
          exact hAll
      | @completed nowEpoch claims outcome recorded response _ _ hReply h =>
          have hAccounts := complete_accounts hSound.unique hReply h hAll
          have hReply : request.reply world claims outcome = .ok (recorded, response) := hReply
          rw [writes_done hExecution]
          unfold Execution.writes
          dsimp only
          rw [hReply]
          exact hAccounts
      | reconciled hReference h =>
          have hAccounts := reconcile_accounts hSound.unique hReference h hAll
          rw [writes_done hExecution]
          unfold Execution.writes
          dsimp only
          rw [hReference]
          exact hAccounts
      | unreconciled hReference =>
          rw [writes_done hExecution]
          unfold Execution.writes
          dsimp only
          rw [hReference]
          exact hAll
      | failed => exact hAll

/-- In every run every completed row is explained by what was last written into
it. -/
theorem run_accounts (world : ConnectorWorld) (key : InvocationKey)
    (actions : List ConnectorAction) :
    ∀ row ∈ (run (performConnector world) actions {}).store.invocations,
      Accounted key (lastWritten world key (trace (performConnector world) actions {})) row := by
  apply lastNote_run (ConnectorEvent.writes world key) (fun written s =>
    ∀ row ∈ s.store.invocations, Accounted key written row) (connector_sound world)
  · intro written s action hSound _ hAll
    exact acts_accounts hSound (performConnector_acts world action s) hAll
  · exact connector_sound_start
  · exact connector_admitted world actions {}
  · exact fun _ h => nomatch h

end Runs

section Replays

variable {world : ConnectorWorld} {canonical : Json → Option String} {row : ConnectorInvocation}
  {written : Option Written} {r : Report}

/-- Without a receipt the state of the row is replayed. -/
theorem replay_of_uncached (hCanonical : RefusesNumbersOnly canonical) (requestId : String)
    (h : row.responseJson = none) :
    ∃ response, connectorReplayResponse canonical requestId row.reservation = .ok response ∧
      report response = row.state.outcome.report row.operationRef := by
  have hReceipt : row.reservation.receipt = none := by
    unfold Reservation.receipt ConnectorInvocation.reservation
    rw [h]
    rfl
  exact report_replay hCanonical hReceipt

/-- From a cached receipt a replay reports what the receipt reports. -/
theorem replay_of_cached (canonical : Json → Option String) (requestId : String)
    (hCached : row.Caches r) (h : row.responseJson.isSome = true) :
    ∃ response, connectorReplayResponse canonical requestId row.reservation = .ok response ∧
      report response = r := by
  obtain ⟨text, hText⟩ := Option.isSome_iff_exists.mp h
  obtain ⟨receipt, hLoads, hReport⟩ := hCached text hText
  have hReceipt : row.reservation.receipt = some receipt := by
    unfold Reservation.receipt ConnectorInvocation.reservation
    rw [hText]
    show (Json.loads text).bind Json.asObj = some receipt
    rw [hLoads]
    rfl
  unfold connectorReplayResponse
  rw [hReceipt]
  exact ⟨receipt, rfl, hReport⟩

/-- A replay that reports `r` survives eviction if `r` is what the state of the
row reports. -/
theorem replaysAlike_iff (hCanonical : RefusesNumbersOnly canonical) {requestId : String}
    (hReplay : ∃ cached, connectorReplayResponse canonical requestId row.reservation =
      .ok cached ∧ report cached = r) :
    ReplaysAlike canonical requestId written row ↔
      r = row.state.outcome.report row.operationRef ∧
        ∀ response, written = some (.completed response) → r = report response := by
  obtain ⟨cached, hCached, rfl⟩ := hReplay
  obtain ⟨evicted, hEvicted, hReport⟩ : ∃ evicted, connectorReplayResponse canonical requestId
      row.evicted.reservation = .ok evicted ∧
      report evicted = row.state.outcome.report row.operationRef :=
    replay_of_uncached hCanonical requestId rfl
  rw [← hReport]
  constructor
  · rintro ⟨cached', evicted', hCached', hEvicted', hAlike, hOriginal⟩
    cases hCached.symm.trans hCached'
    cases hEvicted.symm.trans hEvicted'
    exact ⟨hAlike, hOriginal⟩
  · rintro ⟨hAlike, hOriginal⟩
    exact ⟨cached, evicted, hCached, hEvicted, hAlike, hOriginal⟩

/-- A failure is not reported as verified. -/
theorem verified_ne_failed (operationRef : Option String) :
    ConnectorOutcome.verified.report operationRef ≠
      ConnectorOutcome.failed.report operationRef := by
  intro h
  have hOutcome : some "verified" = some "failed" := congrArg Report.outcome h
  exact absurd hOutcome (by decide)

/-- A row whose cached receipt was written by a reconciliation is replayed alike
if it was settled as succeeded. -/
theorem reconciled_alike_iff (hCanonical : RefusesNumbersOnly canonical) {requestId : String}
    {state : InvocationState} (hExplains : (Written.reconciled state).Explains row)
    (h : row.responseJson.isSome = true) :
    ReplaysAlike canonical requestId (some (.reconciled state)) row ↔ state ≠ .failed := by
  cases hExplains with
  | reconciled hState hSettled hCached =>
      rw [replaysAlike_iff hCanonical (replay_of_cached canonical requestId hCached h), hState]
      rcases hSettled with rfl | rfl
      · simp [InvocationState.outcome]
      · simp [InvocationState.outcome, verified_ne_failed]

/-- A replay of a completed row survives the eviction of its receipt, and
repeats the original response, exactly if the row does not cache the receipt of
a reconciliation that settled it as failed. -/
theorem replay_survives_eviction_iff (hCanonical : RefusesNumbersOnly world.canonical)
    (actions : List ConnectorAction) (requestId : String)
    (hRow : row ∈ (run (performConnector world) actions {}).store.invocations)
    (hState : row.state ≠ .inProgress) :
    let written := lastWritten world row.key (trace (performConnector world) actions {})
    ReplaysAlike world.canonical requestId written row ↔
      ¬ (written = some (.reconciled .failed) ∧ row.responseJson.isSome = true) := by
  intro written
  obtain ⟨w, hWritten, hExplains⟩ := run_accounts world row.key actions row hRow rfl hState
  replace hWritten : written = some w := hWritten
  rw [hWritten]
  cases hReceipt : row.responseJson with
  | none =>
      rw [replaysAlike_iff hCanonical (replay_of_uncached hCanonical requestId hReceipt)]
      simp only [Option.isSome_none, Bool.false_eq_true, and_false, not_false_eq_true, iff_true,
        true_and]
      rintro response ⟨⟩
      cases hExplains with
      | completed hReport _ => exact hReport.symm
  | some text =>
      have hSome : row.responseJson.isSome = true := by
        rw [hReceipt]
        rfl
      cases w with
      | reconciled state =>
          rw [reconciled_alike_iff hCanonical hExplains hSome]
          simp
      | completed response =>
          cases hExplains with
          | completed hReport hCached =>
              rw [replaysAlike_iff hCanonical
                (replay_of_cached world.canonical requestId hCached hSome)]
              simp [hReport]

end Replays

section Samples

/-- A write stays pending under op-1, until a status read answers that it
failed. -/
def failedRun : List ConnectorAction :=
  sampleWriteRun 0 [1] sampleWrite
    (.answered [("state", .str "PENDING"), ("operation_ref", .str "op-1")]) ++
  sampleWriteRun 1 [2] sampleRead
    (.answered [("state", .str "FAILED"), ("operation_ref", .str "op-1")]) ++
  [.advance 1 (.reconcile 105)]

/-- The ledger step keeps the receipts small, unless it reconciles. -/
theorem acts_small {world : ConnectorWorld} {s t : ConnectorSystem} {action : ConnectorAction}
    {answer : ConnectorAnswer} (hActs : s.Acts world action answer t)
    (hOther : ∀ id nowEpoch, action ≠ .advance id (.reconcile nowEpoch))
    (hSmall : SmallReceipts s.store.invocations) : SmallReceipts t.store.invocations := by
  have hSurvives : SurvivesEviction fun row => ∀ text ∈ row.responseJson,
      text.utf8ByteSize ≤ connectorReceiptMaxEntryBytes := fun _ _ _ hText => nomatch hText
  cases hActs with
  | denied | arrived | ignored => exact hSmall
  | registered h =>
      rw [SmallReceipts, h]
      exact hSmall
  | @advanced id move execution answer stage store hExecution hTakes =>
      obtain ⟨request, from_⟩ := execution
      cases hTakes with
      | @reserved nowEpoch _ _ r h =>
          have hPruned := (lightens_deleteWhere (ConnectorInvocation.expired nowEpoch)
            s.store.invocations).all hSurvives hSmall
          rcases reserve_eq_ok h with ⟨_, _, _, _, _, hRows⟩ |
            ⟨_, _, _, remaining, hEvict, hRows⟩
          · rw [SmallReceipts, hRows]
            exact hPruned
          · have hKept := (evict_lightens hEvict).1.all hSurvives hPruned
            rw [SmallReceipts, hRows]
            intro row hRow
            rcases List.mem_append.mp hRow with hOld | hNew
            · exact hKept row hOld
            · rw [List.mem_singleton.mp hNew]
              exact fun _ hText => nomatch hText
      | granted h | refused h | replayGranted h | replayRefused h =>
          rw [SmallReceipts, attempt_invocations h]
          exact hSmall
      | discarded h =>
          rw [SmallReceipts, discard_rows h]
          exact (lightens_deleteWhere _ _).all hSurvives hSmall
      | attached h | replayAttached h =>
          rw [SmallReceipts, attach_rows h]
          intro row hRow
          obtain ⟨before, hBefore, ⟨_, rfl⟩ | ⟨_, rfl⟩⟩ := Table.mem_updateWhere.mp hRow
          · exact hSmall before hBefore
          · exact hSmall row hBefore
      | dispatched | answered | crashed => exact hSmall
      | @completed nowEpoch _ _ _ _ _ _ _ h =>
          obtain ⟨receipt, hFits, hRows⟩ := complete_eq_ok h
          have hKept := (lightens_recordReceipt nowEpoch request.key receipt
            s.store.invocations).all hSurvives hSmall
          rw [SmallReceipts, hRows]
          intro row hRow
          obtain ⟨before, hBefore, ⟨_, rfl⟩ | ⟨_, rfl⟩⟩ := Table.mem_updateWhere.mp hRow
          · intro text hText
            exact hFits text (by rw [(recordReceipt_fits hText).1]; rfl)
          · exact hKept row hBefore
      | reconciled hReference h => exact absurd rfl (hOther _ _)
      | unreconciled hReference => exact hSmall
      | failed => exact hSmall

/-- The row an execution of the sample reserves. -/
def sampleRow (prepared : PreparedConnectorOperation) : ConnectorInvocation where
  key := ⟨⟨"organization", "workspace", "issuer", "subject"⟩, prepared.requestId⟩
  signed := {
    connectionRef := "connection"
    providerId := "azure"
    profileRef := "profile"
    operationId := prepared.operationId
    resourceRef := "resource"
    argumentsSha256 := sampleDigest
    envelopeSha256 := sampleDigest
    isMutating := prepared.isMutating }
  state := .inProgress
  grantRef := "sha256:" ++ prepared.requestId
  createdAt := 102

def executedRequest (grant : List UInt8) (prepared : PreparedConnectorOperation) :
    ConnectorRequest where
  key := (sampleRow prepared).key
  signed := (sampleRow prepared).signed
  expected := sampleClaims prepared
  grant := grant
  grantRef := "sha256:" ++ prepared.requestId
  prepared := prepared

def sampleGrantClaims (prepared : PreparedConnectorOperation) : ConnectorGrantClaims where
  content := (sampleGrant prepared).content
  issuedAt := seconds 100
  expiresAt := seconds 110
  grantRef := "sha256:" ++ prepared.requestId

/-- The grant of an operation, consumed. -/
def sampleReplay (prepared : PreparedConnectorOperation) : GrantReplay :=
  ⟨"sha256:" ++ prepared.requestId, sampleDigest, 110, some 103⟩

def pendingAnswer : DispatchOutcome :=
  .answered [("state", .str "PENDING"), ("operation_ref", .str "op-1")]

def failedAnswer : DispatchOutcome :=
  .answered [("state", .str "FAILED"), ("operation_ref", .str "op-1")]

/-- The row of the sample write once its answer is recorded. -/
def pendingWrite (stored : Option String) : ConnectorInvocation :=
  (sampleRow sampleWrite).completed .pending (some "op-1") 200 104 stored

/-- The write ran up to the answer of its provider. -/
def answeredWrite : ConnectorSystem where
  store := { grantReplays := [sampleReplay sampleWrite], invocations := [sampleRow sampleWrite] }
  executions := [⟨executedRequest [1] sampleWrite,
    .answered (sampleGrantClaims sampleWrite) pendingAnswer⟩]

/-- Its answer is recorded. -/
def completedWrite (stored : Option String) : ConnectorSystem where
  store := {
    grantReplays := [sampleReplay sampleWrite]
    invocations := [pendingWrite stored] }
  executions := [⟨executedRequest [1] sampleWrite, .completed pendingAnswer⟩]

/-- The receipt of the pending write. -/
def writeReceipt : String := Json.dumps (.obj (pendingEnvelope "write"
  (Json.dumps (.obj (pendingSummary sampleDigest))) "op-1"))

theorem writeReceipt_small : writeReceipt.utf8ByteSize ≤ connectorReceiptMaxEntryBytes := by
  have hRequest : Json.escapedBytes "write" = 5 := rfl
  have hRef : Json.escapedBytes "op-1" = 4 := rfl
  have hDigest : Json.escapedBytes (Json.quote sampleDigest) = 68 := rfl
  unfold writeReceipt
  rw [pendingEnvelope_size, escapedBytes_pendingSummary, hRequest, hRef, hDigest]
  decide

set_option maxRecDepth 10000 in
theorem run_answeredWrite : run (performConnector (sampleWorld plainCanonical))
    ((sampleWriteRun 0 [1] sampleWrite pendingAnswer).take 7) {} = answeredWrite := by
  with_unfolding_all rfl

/-- A completion that commits. -/
theorem perform_complete {world : ConnectorWorld} {s : ConnectorSystem} {id : Nat} {nowEpoch : Int}
    {request : ConnectorRequest} {claims : ConnectorGrantClaims} {outcome : DispatchOutcome}
    {recorded : ConnectorOutcome} {response : JsonObject} {t : ConnectorStore}
    (hExecution : s.executions[id]? = some ⟨request, .answered claims outcome⟩)
    (hReply : request.reply world claims outcome = .ok (recorded, response))
    (hBody : completeConnectorInvocation world.canonical world.sha256 request.key
      request.signed.envelopeSha256 recorded.receiptState (some response)
      (connectorOperationRef (request.result outcome)) 200 nowEpoch s.store = .ok ((), t)) :
    (performConnector world (.advance id (.complete nowEpoch)) s).2 =
      ⟨t, s.executions.set id ⟨request, .completed outcome⟩⟩ := by
  unfold ConnectorRequest.reply at hReply
  simp only [performConnector, hExecution, ConnectorRequest.advance, completeStep, hReply,
    ledgerStep, commit_of_ok hBody]

/-- A reconciliation that commits. -/
theorem perform_reconcile {world : ConnectorWorld} {s : ConnectorSystem} {id : Nat}
    {nowEpoch : Int} {request : ConnectorRequest} {outcome : DispatchOutcome} {ref : String}
    {state : InvocationState} {t : ConnectorStore}
    (hExecution : s.executions[id]? = some ⟨request, .completed outcome⟩)
    (hReference : request.reconciliation outcome = some (ref, state))
    (hBody : reconcileConnectorInvocations world.canonical request.key.scope
      request.signed.profileRef ref state nowEpoch s.store = .ok ((), t)) :
    performConnector world (.advance id (.reconcile nowEpoch)) s =
      (.done, ⟨t, s.executions.set id ⟨request, .finished⟩⟩) := by
  simp only [performConnector, hExecution, ConnectorRequest.advance, reconcileStep, hReference,
    ledgerStep, commit_of_ok hBody]

/-- The response to the sample write. -/
def writeResponse : JsonObject := [
  ("requestId", .str "write"),
  ("outcome", .str "pending"),
  ("result", .obj [
    ("content", .arr [.obj [("type", .str "text"), ("text", .str (Json.dumps (.obj [
      ("state", .str "PENDING"), ("operation_ref", .str "op-1")])))]]),
    ("isError", .bool false)]),
  ("operationRef", .str "op-1")]

/-- Recording the answer of the write. -/
theorem perform_completedWrite : (performConnector (sampleWorld plainCanonical)
    (.advance 0 (.complete 104)) answeredWrite).2 = completedWrite (some writeReceipt) := by
  have hRows : answeredWrite.store.invocations = [sampleRow sampleWrite] := rfl
  have hBody := @complete_of_few plainCanonical (fun _ => sampleDigest) answeredWrite.store
    (sampleRow sampleWrite) (sampleRow sampleWrite).key 104 writeReceipt sampleDigest .pending
    writeResponse _ (some "op-1") 200 rfl
    (by rw [hRows]; exact List.forall_mem_singleton.mpr rfl)
    (by rw [hRows]; exact List.forall_mem_singleton.mpr fun _ hText => nomatch hText)
    (by rw [hRows]; decide) rfl rfl rfl
  rw [if_pos writeReceipt_small] at hBody
  exact perform_complete rfl rfl hBody

/-- The status read is about to record that the write under op-1 failed. -/
def ConnectorSystem.readsFailure (s : ConnectorSystem) : Bool :=
  match s.executions, s.store.invocations with
  | [_, ⟨request, .answered claims outcome⟩], [write, read] =>
      (match request.reply (sampleWorld plainCanonical) claims outcome with
        | .ok (recorded, response) => recorded == .verified && response.has "outcome"
        | .error _ => false) &&
      request.reconciliation outcome == some ("op-1", .failed) &&
      request.signed.profileRef != "" && write.key.requestId == "write" &&
      write.key != request.key &&
      write.awaits request.key.scope request.signed.profileRef "op-1" &&
      read.isReservation request.key request.signed.envelopeSha256 && read.state == .inProgress
  | _, _ => false

set_option maxRecDepth 10000 in
theorem run_readsFailure :
    (run (performConnector (sampleWorld plainCanonical))
      ((sampleWriteRun 1 [2] sampleRead failedAnswer).take 7)
      (completedWrite (some writeReceipt))).readsFailure = true := by
  decide +kernel

theorem compact_plain {response : JsonObject} {digest : String} {ref : Option String}
    {state : InvocationState} {fresh : Bool} (h : response.has "outcome" = true) :
    ∃ receipt, compactConnectorReceipt plainCanonical response digest ref state fresh =
      .ok receipt := by
  unfold compactConnectorReceipt
  rw [if_pos h]
  exact ⟨_, rfl⟩

/-- The receipt that settles the write is small. -/
theorem failedReceipt_small {receipt : String}
    (h : reconciledReceipt plainCanonical "write" "op-1" .failed = .ok receipt) :
    receipt.utf8ByteSize ≤ connectorReceiptMaxEntryBytes := by
  have hRequest : Json.escapedBytes "write" = 5 := rfl
  have hRef : Json.escapedBytes "op-1" = 4 := rfl
  have hQuoted : Json.escapedBytes (Json.quote "op-1") = 8 := rfl
  have hState : InvocationState.failed.text.length = 6 := rfl
  rw [reconciledReceipt_size plainCanonical_plain h, reconciledBytes, hRequest, hRef, hQuoted,
    hState]
  decide

/-- A status read completed, and only the write under op-1 awaits what it
reported. -/
structure AwaitsFailure (s : ConnectorSystem) (request : ConnectorRequest)
    (outcome : DispatchOutcome) (write read : ConnectorInvocation) : Prop where
  execution : s.executions[1]? = some ⟨request, .completed outcome⟩
  rows : s.store.invocations = [write, read]
  reference : request.reconciliation outcome = some ("op-1", .failed)
  profile : request.signed.profileRef ≠ ""
  requestId : write.key.requestId = "write"
  awaited : write.awaits request.key.scope request.signed.profileRef "op-1" = true
  other : read.awaits request.key.scope request.signed.profileRef "op-1" = false
  live : ∀ row ∈ s.store.invocations, row.unexpired 105 = true
  small : SmallReceipts s.store.invocations

theorem live_of_awaits {scope : ActorScope} {profileRef ref : String} {row : ConnectorInvocation}
    (h : row.awaits scope profileRef ref = true) (nowEpoch : Int) :
    row.unexpired nowEpoch = true := by
  simp only [ConnectorInvocation.awaits, Bool.and_eq_true] at h
  have hUnresolved := h.2
  revert hUnresolved
  cases hState : row.state <;> simp [InvocationState.unresolved, InvocationState.terminal,
    ConnectorInvocation.unexpired, ConnectorInvocation.expired, hState]

/-- Recording the answer of the status read. -/
theorem readsFailure_completes {s : ConnectorSystem} (hReads : s.readsFailure = true)
    (hSmall : SmallReceipts s.store.invocations) :
    ∃ request outcome write read, AwaitsFailure
      (performConnector (sampleWorld plainCanonical) (.advance 1 (.complete 104)) s).2
        request outcome write read := by
  unfold ConnectorSystem.readsFailure at hReads
  split at hReads
  · rename_i first request claims outcome write read hExecutions hRows
    simp only [Bool.and_eq_true, beq_iff_eq, bne_iff_ne] at hReads
    obtain ⟨⟨⟨⟨⟨⟨⟨hReply, hReference⟩, hProfile⟩, hRequest⟩, hForeign⟩, hAwaits⟩, hMatch⟩, hOpen⟩ :=
      hReads
    split at hReply
    · rename_i recorded response hAnswered
      simp only [Bool.and_eq_true, beq_iff_eq] at hReply
      obtain ⟨rfl, hOutcome⟩ := hReply
      have hReadLive : read.unexpired 104 = true :=
        unexpired_of_stands (stands_of_inProgress hOpen)
      have hMiss : write.isReservation request.key request.signed.envelopeSha256 = false := by
        simp [ConnectorInvocation.isReservation, hForeign]
      obtain ⟨receipt, hReceipt⟩ := @compact_plain response sampleDigest
        (connectorOperationRef (request.result outcome)) .succeeded
        (!read.signed.isMutating && (InvocationState.succeeded == .succeeded ||
          InvocationState.succeeded == .failed)) hOutcome
      have hFind : s.store.invocations.find?
          (ConnectorInvocation.isReservation request.key request.signed.envelopeSha256) =
            some read := by
        simp [hRows, hMiss, hMatch]
      have hComplete := @complete_of_few plainCanonical (fun _ => sampleDigest) s.store read
        request.key 104 receipt request.signed.envelopeSha256 .succeeded response _
        (connectorOperationRef (request.result outcome)) 200 rfl
        (by simp [hRows, live_of_awaits hAwaits, hReadLive]) hSmall (by simp [hRows]) hFind rfl
        hReceipt
      have hStored : ∀ text ∈ (if receipt.utf8ByteSize ≤ connectorReceiptMaxEntryBytes then
          some receipt else none), text.utf8ByteSize ≤ connectorReceiptMaxEntryBytes := by
        intro text hText
        split at hText
        · cases hText
          assumption
        · cases hText
      generalize (if receipt.utf8ByteSize ≤ connectorReceiptMaxEntryBytes then some receipt
        else none) = stored at hComplete hStored
      have hUpdated : Table.updateWhere
          (ConnectorInvocation.isReservation request.key request.signed.envelopeSha256)
          (ConnectorInvocation.completed .succeeded (connectorOperationRef (request.result outcome))
            200 104 stored) s.store.invocations =
          [write, read.completed .succeeded (connectorOperationRef (request.result outcome)) 200 104
            stored] := by
        simp [hRows, Table.updateWhere, hMiss, hMatch]
      rw [hUpdated] at hComplete
      have hExecution : s.executions[1]? = some ⟨request, .answered claims outcome⟩ := by
        rw [hExecutions]
        rfl
      rw [@perform_complete (sampleWorld plainCanonical) s 1 104 request claims outcome .verified
        response _ hExecution hAnswered hComplete, hExecutions]
      refine ⟨request, outcome, write, _, rfl, rfl, hReference, hProfile, hRequest, hAwaits,
        ?_, ?_, ?_⟩
      · simp [ConnectorInvocation.awaits, ConnectorInvocation.completed, InvocationState.unresolved]
      · intro row hRow
        rcases List.mem_pair.mp hRow with rfl | rfl
        · exact live_of_awaits hAwaits 105
        · rfl
      · intro row hRow
        rcases List.mem_pair.mp hRow with rfl | rfl
        · exact hSmall row (by rw [hRows]; exact List.mem_cons_self)
        · exact hStored
    · cases hReply
  · cases hReads

/-- Reconciling then settles the write as failed, with a receipt. -/
theorem AwaitsFailure.settles {s : ConnectorSystem} {request : ConnectorRequest}
    {outcome : DispatchOutcome} {write read : ConnectorInvocation}
    (h : AwaitsFailure s request outcome write read) :
    let settled := performConnector (sampleWorld plainCanonical) (.advance 1 (.reconcile 105)) s
    ∃ row ∈ settled.2.store.invocations, row.state = .failed ∧ row.responseJson.isSome = true ∧
      ConnectorEvent.writes (sampleWorld plainCanonical) row.key
        ⟨s, .advance 1 (.reconcile 105), settled.1, settled.2⟩ = some (.reconciled .failed) := by
  obtain ⟨receipt, hReceipt⟩ : ∃ receipt,
      reconciledReceipt plainCanonical write.key.requestId "op-1" .failed = .ok receipt := ⟨_, rfl⟩
  have hSmall : receipt.utf8ByteSize ≤ connectorReceiptMaxEntryBytes := by
    rw [h.requestId] at hReceipt
    exact failedReceipt_small hReceipt
  have hSettle := settle_of_few h.live h.small (by simp [h.rows]) hReceipt hSmall
  have hBody : reconcileConnectorInvocations plainCanonical request.key.scope
      request.signed.profileRef "op-1" .failed 105 s.store =
        settleInvocations plainCanonical "op-1" .failed 105 [write] s.store := by
    unfold reconcileConnectorInvocations
    rw [if_neg (by simp [h.profile]), fetch_bind]
    simp [h.rows, h.awaited, h.other]
  dsimp only
  rw [@perform_reconcile (sampleWorld plainCanonical) s 1 105 request outcome "op-1" .failed _
    h.execution h.reference (hBody.trans hSettle)]
  refine ⟨write.reconciled .failed 105 (some receipt), ?_, rfl, rfl, ?_⟩
  · exact Table.mem_updateWhere.mpr ⟨write, by simp [h.rows], Or.inl ⟨by
      simp [ConnectorInvocation.isReservation], rfl⟩⟩
  · rw [writes_done h.execution]
    unfold Execution.writes
    simp only [h.reference]
    rw [if_pos ⟨h.profile, List.any_eq_true.mpr ⟨write, by simp [h.rows], by
      simp [h.awaited, ConnectorInvocation.reconciled]⟩⟩]

/-- The sample run up to the answer of the status read. -/
def readRun : List ConnectorAction :=
  ((sampleWriteRun 0 [1] sampleWrite pendingAnswer).take 7 ++ [.advance 0 (.complete 104)]) ++
    (sampleWriteRun 1 [2] sampleRead failedAnswer).take 7

theorem run_readRun : run (performConnector (sampleWorld plainCanonical)) readRun {} =
    run (performConnector (sampleWorld plainCanonical))
      ((sampleWriteRun 1 [2] sampleRead failedAnswer).take 7)
      (completedWrite (some writeReceipt)) := by
  unfold readRun
  rw [run_append, run_concat, run_answeredWrite, perform_completedWrite]

/-- Its receipts are small: it does not reconcile. -/
theorem readRun_small : SmallReceipts
    (run (performConnector (sampleWorld plainCanonical)) readRun {}).store.invocations := by
  have hKeeps : Preserves (performConnector (sampleWorld plainCanonical))
      (fun _ action => ∀ id nowEpoch, action ≠ .advance id (.reconcile nowEpoch))
      fun s => SmallReceipts s.store.invocations := fun s action hSmall hOther =>
    acts_small (performConnector_acts _ action s) hOther hSmall
  have hOther : ∀ action ∈ readRun, ∀ id nowEpoch, action ≠ .advance id (.reconcile nowEpoch) := by
    simp [readRun, sampleWriteRun]
  exact hKeeps.run (fun _ hRow => nomatch hRow) 
    (admitted_of_mem (fun action hAction _ => hOther action hAction) _)

theorem lastWritten_append (world : ConnectorWorld) (key : InvocationKey)
    (actions : List ConnectorAction) (action : ConnectorAction) (s : ConnectorSystem) :
    lastWritten world key (trace (performConnector world) (actions ++ [action]) s) =
      (ConnectorEvent.writes world key ⟨run (performConnector world) actions s, action,
        (performConnector world action (run (performConnector world) actions s)).1,
        (performConnector world action (run (performConnector world) actions s)).2⟩).or
        (lastWritten world key (trace (performConnector world) actions s)) := by
  unfold lastWritten lastNote
  rw [trace_append, List.foldl_append]
  rfl

/-- The sample run leaves a cached receipt of the failed write. -/
theorem failedRun_caches :
    ∃ row ∈ (run (performConnector (sampleWorld plainCanonical)) failedRun {}).store.invocations,
      row.state = .failed ∧ row.responseJson.isSome = true ∧
      (match lastWritten (sampleWorld plainCanonical) row.key
          (trace (performConnector (sampleWorld plainCanonical)) failedRun {}) with
        | some (.reconciled .failed) => true
        | _ => false) = true := by
  have hSplit : failedRun =
      (readRun ++ [.advance 1 (.complete 104)]) ++ [.advance 1 (.reconcile 105)] := rfl
  have hReads := run_readsFailure
  rw [← run_readRun] at hReads
  obtain ⟨request, outcome, write, read, hAwaits⟩ := readsFailure_completes hReads readRun_small
  obtain ⟨row, hRow, hState, hCached, hWritten⟩ := hAwaits.settles
  rw [← run_concat] at hRow hWritten
  rw [hSplit]
  refine ⟨row, ?_, hState, hCached, ?_⟩
  · rw [run_concat]
    exact hRow
  · rw [lastWritten_append, hWritten]
    rfl

theorem replay_survives_eviction_iff_sample :
    ∃ row ∈ (run (performConnector (sampleWorld plainCanonical)) failedRun {}).store.invocations,
      let written := lastWritten (sampleWorld plainCanonical) row.key
        (trace (performConnector (sampleWorld plainCanonical)) failedRun {})
      ReplaysAlike plainCanonical "write" written row ↔
        ¬ (written = some (.reconciled .failed) ∧ row.responseJson.isSome = true) := by
  obtain ⟨row, hRow, hState, _⟩ := failedRun_caches
  exact ⟨row, hRow, replay_survives_eviction_iff plainCanonical_refuses failedRun "write" hRow
    (by rw [hState]; exact InvocationState.noConfusion)⟩

/-- A write that a status read settled as failed is replayed as verified from
its receipt, and as failed once the receipt is gone. -/
theorem eviction_changes_replay : ¬ ∀ (world : ConnectorWorld),
    RefusesNumbersOnly world.canonical → ∀ (actions : List ConnectorAction) (requestId : String),
      ∀ row ∈ (run (performConnector world) actions {}).store.invocations,
        row.state ≠ .inProgress → ReplaysAlike world.canonical requestId
          (lastWritten world row.key (trace (performConnector world) actions {})) row := by
  intro h
  obtain ⟨row, hRow, hState, hCached, hWritten⟩ := failedRun_caches
  have hDone : row.state ≠ .inProgress := by
    rw [hState]
    exact InvocationState.noConfusion
  have hAlike := h (sampleWorld plainCanonical) plainCanonical_refuses failedRun "write" row hRow
    hDone
  obtain ⟨w, hLast, hExplains⟩ := run_accounts (sampleWorld plainCanonical) row.key failedRun row
    hRow rfl hDone
  rw [hLast] at hAlike hWritten
  split at hWritten
  · rename_i hSettled
    cases hSettled
    exact (reconciled_alike_iff plainCanonical_refuses hExplains hCached).mp hAlike rfl
  · cases hWritten

end Samples

end CyreneExchange.Integrations
