import CyreneExchange.Integrations.Connector.Budgets
import CyreneExchange.Integrations.Connector.Reconciliation

/-! What becomes of an uncertain write. The marks of a result that its outcome
is unknown, or that it failed, are read before the cascade of rules, but the
rules for some operations come first and do not look at them. -/
namespace CyreneExchange.Integrations

open Transaction Machine

mutual
/-- No number anywhere in the value. -/
def Json.numberless : Json → Bool
  | .null | .bool _ | .str _ => true
  | .int _ | .float _ => false
  | .arr items => numberlessItems items
  | .obj entries => numberlessEntries entries

def numberlessItems : List Json → Bool
  | [] => true
  | v :: rest => v.numberless && numberlessItems rest

def numberlessEntries : List (String × Json) → Bool
  | [] => true
  | (_, v) :: rest => v.numberless && numberlessEntries rest
end

/-- RFC 8785 refuses numbers only. -/
def RefusesNumbersOnly (canonical : Json → Option String) : Prop :=
  ∀ v : Json, v.numberless = true → (canonical v).isSome = true

/-- The state and the remote state of a result, as the cascade compares them. -/
def resultState (result : JsonObject) : String := stateText (getEither result "state" "status")

def resultRemoteState (result : JsonObject) : String :=
  stateText (getEither result "remote_state" "remoteState")

/-- `unknown_mutation_state`. -/
def marksUnknown (result : JsonObject) : Bool :=
  unknownMutationState (resultState result) (resultRemoteState result)

/-- The operations of `bilibili_write`. -/
def bilibiliWrites : List String :=
  ["bilibili.comment.create", "bilibili.dynamic.publish", "bilibili.dm.send"]

def graphMailSend : String := "microsoft_graph.mail.message.send"

/-- `exact_operation_ref and readback_proof`. -/
def readbackProof (result : JsonObject) (expectedOperationRef : Option String) : Bool :=
  (match expectedOperationRef with
    | some expected => workOperationRef expected && connectorOperationRef result == some expected
    | none => false) &&
  (match getEither result "external_id" "externalId" with
    | some (.str id) => decide (1 ≤ id.length) && decide (id.length ≤ 20) &&
        id.toList.all Char.isDigit
    | _ => false) &&
  (match getEither result "readback_verified" "readbackVerified" with
    | some (.bool true) => true
    | _ => false) &&
  match getEither result "readback_sha256" "readbackSha256" with
    | some (.str digest) => decide (digest.length = 64) && digest.toList.all lowerHex
    | _ => false

/-- A definite state and its proof, or a definite refusal. -/
def provenWrite (result : JsonObject) (expectedOperationRef : Option String) : Bool :=
  resultState result == "SUCCEEDED" && readbackProof result expectedOperationRef

def refusedWrite (result : JsonObject) : Bool :=
  ["REJECTED", "FAILED", "ERROR"].contains (resultState result)

section Cascade

variable {result : JsonObject} {operationId : String} {key : Option String}

theorem bilibiliOutcome_eq : bilibiliOutcome result (resultState result) key =
    if provenWrite result key = true then .verified
    else if refusedWrite result = true then .failed else .uncertain := by
  have hAll : ∀ ref id verified digest : Bool, (ref && id && verified && digest) = true ↔
      ref = true ∧ id = true ∧ verified = true ∧ digest = true := by
    intro ref id verified digest
    rw [Bool.and_eq_true, Bool.and_eq_true, Bool.and_eq_true, and_assoc, and_assoc]
  have hProven : provenWrite result key = true ↔
      resultState result = "SUCCEEDED" ∧ readbackProof result key = true := by
    rw [provenWrite, Bool.and_eq_true, beq_iff_eq]
  unfold bilibiliOutcome refusedWrite
  exact if_congr ((and_congr_right' (hAll _ _ _ _).symm).trans hProven.symm) rfl rfl

/-- The cascade for a write. -/
theorem rawOutcome_write : rawOutcome result true operationId key =
    if bilibiliWrites.contains operationId = true then
      bilibiliOutcome result (resultState result) key
    else if marksUnknown result = true then .uncertain
    else if operationId = graphMailSend ∧ resultState result = "ACCEPTED" then .verified
    else if resultState result = "COMMAND_FAILED" ∧
      ["", "NOT_APPLICABLE"].contains (resultRemoteState result) = true then .failed
    else if ["PENDING", "RUNNING", "SUBMITTED", "ACCEPTED"].contains (resultState result) = true
      then .pending
    else if providerError result = true then .failed
    else if ["FAILED", "REJECTED", "ERROR"].contains (resultState result) = true ∨
      resultState result = "" then
      if resultState result = "" then .uncertain else .failed
    else .verified := by
  unfold rawOutcome
  simp only [true_and]
  rfl

theorem rawOutcome_of_bilibili (h : bilibiliWrites.contains operationId = true) :
    rawOutcome result true operationId key = bilibiliOutcome result (resultState result) key := by
  rw [rawOutcome_write, if_pos h]

/-- Every other write marked as unknown is uncertain. -/
theorem rawOutcome_of_unknown (h : bilibiliWrites.contains operationId = false)
    (hUnknown : marksUnknown result = true) :
    rawOutcome result true operationId key = .uncertain := by
  rw [rawOutcome_write, if_neg (Bool.eq_false_iff.mp h), if_pos hUnknown]

/-- Every other write marked as failed is not verified, unless it is an
accepted mail. -/
theorem rawOutcome_of_error (h : bilibiliWrites.contains operationId = false)
    (hUnknown : marksUnknown result = false) (hError : providerError result = true) :
    rawOutcome result true operationId key = .verified ↔
      operationId = graphMailSend ∧ resultState result = "ACCEPTED" := by
  rw [rawOutcome_write, if_neg (Bool.eq_false_iff.mp h), if_neg (Bool.eq_false_iff.mp hUnknown),
    if_pos hError]
  split
  · rename_i hAccepted
    simp [hAccepted]
  · rename_i hOther
    simp only [hOther, iff_false]
    split
    · exact ConnectorOutcome.noConfusion
    · split <;> exact ConnectorOutcome.noConfusion

theorem connectorOutcome_of_ne {isMutating : Bool}
    (h : rawOutcome result isMutating operationId key ≠ .pending) :
    connectorOutcome result isMutating operationId key =
      rawOutcome result isMutating operationId key := by
  unfold connectorOutcome
  exact if_neg fun hPending => h hPending.1

theorem connectorOutcome_verified {isMutating : Bool} :
    connectorOutcome result isMutating operationId key = .verified ↔
      rawOutcome result isMutating operationId key = .verified := by
  by_cases hPending : rawOutcome result isMutating operationId key = .pending
  · unfold connectorOutcome
    simp only [hPending, true_and]
    split <;> simp
  · rw [connectorOutcome_of_ne hPending]

/-- A pending outcome has a reference to ask for. -/
theorem connectorOutcome_pending {isMutating : Bool}
    (h : connectorOutcome result isMutating operationId key = .pending) :
    ∃ ref, connectorOperationRef result = some ref := by
  unfold connectorOutcome at h
  dsimp only at h
  split at h
  · cases h
  · rename_i hRef
    cases hFound : connectorOperationRef result with
    | some ref => exact ⟨ref, rfl⟩
    | none => exact absurd ⟨h, hFound⟩ hRef

/-- A write marked as unknown is uncertain, unless it is a Bilibili write with a
definite state. -/
theorem connectorOutcome_uncertain (hUnknown : marksUnknown result = true) :
    connectorOutcome result true operationId key = .uncertain ↔
      ¬ (bilibiliWrites.contains operationId = true ∧
        (provenWrite result key = true ∨ refusedWrite result = true)) := by
  cases hBilibili : bilibiliWrites.contains operationId with
  | false =>
      have hRaw : rawOutcome result true operationId key = .uncertain :=
        rawOutcome_of_unknown hBilibili hUnknown
      rw [connectorOutcome_of_ne (by rw [hRaw]; exact ConnectorOutcome.noConfusion), hRaw]
      simp
  | true =>
      have hRaw : rawOutcome result true operationId key =
          bilibiliOutcome result (resultState result) key := rawOutcome_of_bilibili hBilibili
      rw [bilibiliOutcome_eq] at hRaw
      have hDefinite : rawOutcome result true operationId key ≠ .pending := by
        rw [hRaw]
        split
        · exact ConnectorOutcome.noConfusion
        · split <;> exact ConnectorOutcome.noConfusion
      rw [connectorOutcome_of_ne hDefinite, hRaw]
      cases provenWrite result key <;> cases refusedWrite result <;> simp

/-- A write marked as failed is verified for a Bilibili write with its proof
and for an accepted mail, and for nothing else. -/
theorem connectorOutcome_of_error (hError : providerError result = true) :
    connectorOutcome result true operationId key = .verified ↔
      (bilibiliWrites.contains operationId = true ∧ provenWrite result key = true) ∨
        (operationId = graphMailSend ∧ resultState result = "ACCEPTED" ∧
          marksUnknown result = false) := by
  rw [connectorOutcome_verified]
  cases hBilibili : bilibiliWrites.contains operationId with
  | true =>
      have hNotMail : operationId ≠ graphMailSend := by
        rintro rfl
        revert hBilibili
        decide
      rw [rawOutcome_of_bilibili hBilibili, bilibiliOutcome_eq]
      cases provenWrite result key <;> cases refusedWrite result <;> simp [hNotMail]
  | false =>
      cases hUnknown : marksUnknown result with
      | true =>
          rw [rawOutcome_of_unknown hBilibili hUnknown]
          simp
      | false =>
          rw [rawOutcome_of_error hBilibili hUnknown hError]
          simp

end Cascade

/-- The response `execute_connector_operation` builds from what its dispatch
came to. -/
def ConnectorRequest.reply (world : ConnectorWorld) (request : ConnectorRequest)
    (claims : ConnectorGrantClaims) (outcome : DispatchOutcome) :
    Except LedgerError (ConnectorOutcome × JsonObject) :=
  connectorOperationResponse world.canonical claims.content.requestId (request.result outcome)
    request.prepared.isMutating request.prepared.operationId request.prepared.idempotencyKey

section Recording

variable {canonical : Json → Option String} {sha256 : String → String} {requestId digest : String}
  {result response : JsonObject} {isMutating fresh : Bool} {operationId : String}
  {key operationRef : Option String} {recorded : ConnectorOutcome} {state : InvocationState}

/-- What a built response says. -/
theorem response_eq_ok (h : connectorOperationResponse canonical requestId result isMutating
      operationId key = .ok (recorded, response)) :
    recorded = connectorOutcome result isMutating operationId key ∧
      (canonical (.obj result)).isSome = true ∧ response.has "outcome" = true ∧
      response.get "operationRef" = (connectorOperationRef result).map Json.str ∧
      (Json.obj response).numberless = true := by
  unfold connectorOperationResponse at h
  dsimp only at h
  cases hText : canonical (.obj result) with
  | none =>
      rw [hText] at h
      cases h
  | some text =>
      rw [hText] at h
      dsimp only at h
      cases hRef : connectorOperationRef result with
      | none =>
          rw [hRef] at h
          cases h
          exact ⟨rfl, rfl, rfl, rfl, rfl⟩
      | some ref =>
          rw [hRef] at h
          cases h
          exact ⟨rfl, rfl, rfl, rfl, rfl⟩

/-- A response is built from every result that can be serialized. -/
theorem response_of_isSome (h : (canonical (.obj result)).isSome = true) :
    ∃ response, connectorOperationResponse canonical requestId result isMutating operationId key =
      .ok (connectorOutcome result isMutating operationId key, response) := by
  obtain ⟨text, hText⟩ := Option.isSome_iff_exists.mp h
  unfold connectorOperationResponse
  rw [hText]
  cases connectorOperationRef result with
  | none => exact ⟨_, rfl⟩
  | some ref => exact ⟨_, rfl⟩

theorem numberless_of_refused (hCanonical : RefusesNumbersOnly canonical) {v : Json}
    (h : canonical v = none) : v.numberless = false := by
  rw [Bool.eq_false_iff]
  intro hPlain
  have hSome := hCanonical v hPlain
  rw [h] at hSome
  cases hSome

theorem compact_of_outcome (hCanonical : RefusesNumbersOnly canonical)
    (hOutcome : response.has "outcome" = true) :
    ∃ text, compactConnectorReceipt canonical response digest operationRef state fresh =
      .ok text := by
  unfold compactConnectorReceipt
  rw [if_pos hOutcome]
  dsimp only
  split
  · rename_i hNone
    have hNumber := numberless_of_refused hCanonical hNone
    simp [Json.numberless, numberlessEntries] at hNumber
  · exact ⟨_, rfl⟩

/-- A completion of an existing reservation always commits. -/
theorem complete_commits {invocation : InvocationKey} {envelopeSha256 : String} {nowEpoch : Int}
    {s : ConnectorStore} {row : ConnectorInvocation} (hCanonical : RefusesNumbersOnly canonical)
    (hRow : row ∈ s.invocations) (hMatch : row.isReservation invocation envelopeSha256 = true)
    (hOutcome : response.has "outcome" = true) (hPlain : (Json.obj response).numberless = true) :
    ∃ t, completeConnectorInvocation canonical sha256 invocation envelopeSha256 state
      (some response) operationRef 200 nowEpoch s = .ok ((), t) := by
  obtain ⟨encoded, hEncoded⟩ := Option.isSome_iff_exists.mp (hCanonical _ hPlain)
  unfold completeConnectorInvocation
  have hStatus : (decide (200 ≤ 200) && decide (200 ≤ 599)) = true := rfl
  rw [bind_of_ok (require_of_true hStatus _ _), fetch_bind]
  cases hFind : s.invocations.find? (ConnectorInvocation.isReservation invocation
      envelopeSha256) with
  | none => exact absurd hMatch (List.find?_eq_none.mp hFind row hRow)
  | some reservation =>
      obtain ⟨text, hText⟩ := @compact_of_outcome canonical (sha256 encoded) response
        (!reservation.signed.isMutating && (state == .succeeded || state == .failed)) operationRef
        state hCanonical hOutcome
      simp only [hEncoded, hText]
      exact ⟨_, rfl⟩

end Recording

/-- What the claim of certainty is about: a write marked as unknown is answered
as uncertain and kept as such without expiry, one marked as failed is never
verified, and a pending one leaves its reference in its row. -/
structure CertaintyKept (world : ConnectorWorld) (id : Nat) (request : ConnectorRequest)
    (claims : ConnectorGrantClaims) (outcome : DispatchOutcome) (nowEpoch : Int)
    (s : ConnectorSystem) : Prop where
  unknown : marksUnknown (request.result outcome) = true →
    ∃ response t, request.reply world claims outcome = .ok (.uncertain, response) ∧
      performConnector world (.advance id (.complete nowEpoch)) s = (.done, t) ∧
      ∃ row ∈ t.store.invocations, row.key = request.key ∧ row.state = .unknownResult ∧
        row.expiresAt = 0
  error : providerError (request.result outcome) = true →
    ∀ response, request.reply world claims outcome ≠ .ok (.verified, response)
  pending : ∀ response, request.reply world claims outcome = .ok (.pending, response) →
    ∃ ref t, response.get "operationRef" = some (.str ref) ∧
      performConnector world (.advance id (.complete nowEpoch)) s = (.done, t) ∧
      ∃ row ∈ t.store.invocations, row.key = request.key ∧ row.state = .pending ∧
        row.operationRef = some ref ∧ row.expiresAt = 0

/-- A result whose marks the rules that come first do not overlook. -/
structure ReadsMarks (canonical : Json → Option String) (operationId : String)
    (key : Option String) (result : JsonObject) : Prop where
  serializes : marksUnknown result = true → (canonical (.obj result)).isSome = true
  proven : (canonical (.obj result)).isSome = true → bilibiliWrites.contains operationId = true →
    provenWrite result key = true → marksUnknown result = false ∧ providerError result = false
  refused : bilibiliWrites.contains operationId = true → refusedWrite result = true →
    marksUnknown result = false
  accepted : (canonical (.obj result)).isSome = true → operationId = graphMailSend →
    resultState result = "ACCEPTED" → providerError result = true → marksUnknown result = true

section Executions

variable {world : ConnectorWorld} {id : Nat} {request : ConnectorRequest}
  {claims : ConnectorGrantClaims} {outcome : DispatchOutcome} {nowEpoch : Int}
  {s : ConnectorSystem} {recorded : ConnectorOutcome} {response : JsonObject}

/-- A reply that was built is recorded in the row of the request. -/
theorem reply_recorded (nowEpoch : Int) (hCanonical : RefusesNumbersOnly world.canonical)
    (hSound : s.Sound)
    (hExecution : s.executions[id]? = some ⟨request, .answered claims outcome⟩)
    (hReply : request.reply world claims outcome = .ok (recorded, response)) :
    ∃ t, performConnector world (.advance id (.complete nowEpoch)) s = (.done, t) ∧
      ∃ row ∈ t.store.invocations, row.key = request.key ∧ row.state = recorded.receiptState ∧
        row.operationRef = connectorOperationRef (request.result outcome) ∧
        row.expiresAt = if recorded.receiptState.unresolved then 0
          else nowEpoch + connectorReceiptTtlSeconds := by
  obtain ⟨_, _, hOutcome, _, hPlain⟩ := response_eq_ok hReply
  obtain ⟨row, hRow, hOpen⟩ := hSound.open_row id _ hExecution rfl
  have hMatch : row.isReservation request.key request.signed.envelopeSha256 = true := by
    simp [ConnectorInvocation.isReservation, hOpen.key, hOpen.signed]
  obtain ⟨store, hBody⟩ := @complete_commits world.canonical world.sha256 response
    (connectorOperationRef (request.result outcome)) recorded.receiptState request.key
    request.signed.envelopeSha256 nowEpoch s.store row hCanonical hRow hMatch hOutcome hPlain
  refine ⟨⟨store, s.executions.set id ⟨request, .completed outcome⟩⟩, ?_, ?_⟩
  · have hStep : completeStep world request claims outcome nowEpoch s.store =
        (.done, .completed outcome, store) := by
      unfold ConnectorRequest.reply at hReply
      unfold completeStep ledgerStep
      simp only [hReply, commit_of_ok hBody]
    simp only [performConnector, hExecution, ConnectorRequest.advance, hStep]
  · obtain ⟨trimmed, stored, hCarries, hRows⟩ := complete_rows hBody
    obtain ⟨row', hRow', hAgrees⟩ := hCarries.keeps row hRow
      (unexpired_of_stands (stands_of_inProgress hOpen.state))
    have hMatch' : row'.isReservation request.key request.signed.envelopeSha256 = true := by
      rw [isReservation_congr hAgrees.key hAgrees.signed]
      exact hMatch
    refine ⟨row'.completed recorded.receiptState (connectorOperationRef (request.result outcome))
      200 nowEpoch stored, ?_, hAgrees.key.trans hOpen.key, rfl, rfl, rfl⟩
    show _ ∈ store.invocations
    rw [hRows]
    exact Table.mem_updateWhere_of_pos hRow' hMatch'

/-- In every reachable system an answered write is recorded with its
uncertainty exactly when the rules that come first do not overlook its marks. -/
theorem certainty_kept_iff (hCanonical : RefusesNumbersOnly world.canonical)
    (actions : List ConnectorAction) (nowEpoch : Int)
    (hExecution : (run (performConnector world) actions {}).executions[id]? =
      some ⟨request, .answered claims outcome⟩)
    (hMutating : request.prepared.isMutating = true) :
    CertaintyKept world id request claims outcome nowEpoch
        (run (performConnector world) actions {}) ↔
      ReadsMarks world.canonical request.prepared.operationId request.prepared.idempotencyKey
        (request.result outcome) := by
  have hSound : (run (performConnector world) actions {}).Sound :=
    (connector_sound world).run connector_sound_start (connector_admitted world actions {})
  generalize run (performConnector world) actions {} = s at hSound hExecution ⊢
  have hReply : ∀ recorded response, request.reply world claims outcome = .ok (recorded, response) →
      recorded = connectorOutcome (request.result outcome) true request.prepared.operationId
        request.prepared.idempotencyKey ∧
      (world.canonical (.obj (request.result outcome))).isSome = true := by
    intro recorded response h
    unfold ConnectorRequest.reply at h
    rw [hMutating] at h
    obtain ⟨hRecorded, hSome, _⟩ := response_eq_ok h
    exact ⟨hRecorded, hSome⟩
  have hAnswers : (world.canonical (.obj (request.result outcome))).isSome = true →
      ∃ response, request.reply world claims outcome = .ok (connectorOutcome
        (request.result outcome) true request.prepared.operationId
        request.prepared.idempotencyKey, response) := by
    intro h
    unfold ConnectorRequest.reply
    rw [hMutating]
    exact response_of_isSome h
  -- a Bilibili write with a definite state is not answered as uncertain
  have hDefinite : CertaintyKept world id request claims outcome nowEpoch s →
      bilibiliWrites.contains request.prepared.operationId = true →
      (provenWrite (request.result outcome) request.prepared.idempotencyKey = true ∨
        refusedWrite (request.result outcome) = true) →
      marksUnknown (request.result outcome) = false := by
    intro h hBilibili hState
    rw [Bool.eq_false_iff]
    intro hUnknown
    obtain ⟨response, _, hUncertain, _⟩ := h.unknown hUnknown
    exact (connectorOutcome_uncertain hUnknown).mp (hReply _ _ hUncertain).1.symm
      ⟨hBilibili, hState⟩
  constructor
  · intro h
    constructor
    · intro hUnknown
      obtain ⟨response, _, hUncertain, _⟩ := h.unknown hUnknown
      exact (hReply _ _ hUncertain).2
    · intro hSome hBilibili hProven
      constructor
      · exact hDefinite h hBilibili (Or.inl hProven)
      · rw [Bool.eq_false_iff]
        intro hError
        obtain ⟨response, hVerified⟩ := hAnswers hSome
        rw [(connectorOutcome_of_error hError).mpr (Or.inl ⟨hBilibili, hProven⟩)] at hVerified
        exact h.error hError response hVerified
    · exact fun hBilibili hRefused => hDefinite h hBilibili (Or.inr hRefused)
    · intro hSome hMail hAccepted hError
      rw [← Bool.not_eq_false]
      intro hKnown
      obtain ⟨response, hVerified⟩ := hAnswers hSome
      rw [(connectorOutcome_of_error hError).mpr (Or.inr ⟨hMail, hAccepted, hKnown⟩)] at hVerified
      exact h.error hError response hVerified
  · intro h
    constructor
    · intro hUnknown
      obtain ⟨response, hUncertain⟩ := hAnswers (h.serializes hUnknown)
      have hOutcome : connectorOutcome (request.result outcome) true
          request.prepared.operationId request.prepared.idempotencyKey = .uncertain := by
        rw [connectorOutcome_uncertain hUnknown]
        rintro ⟨hBilibili, hProven | hRefused⟩
        · rw [(h.proven (h.serializes hUnknown) hBilibili hProven).1] at hUnknown
          cases hUnknown
        · rw [h.refused hBilibili hRefused] at hUnknown
          cases hUnknown
      rw [hOutcome] at hUncertain
      obtain ⟨t, hStep, row, hRow, hKey, hState, _, hExpires⟩ :=
        reply_recorded nowEpoch hCanonical hSound hExecution hUncertain
      exact ⟨response, t, hUncertain, hStep, row, hRow, hKey, hState, hExpires⟩
    · intro hError response hVerified
      obtain ⟨hOutcome, hSome⟩ := hReply _ _ hVerified
      rcases (connectorOutcome_of_error hError).mp hOutcome.symm with
        ⟨hBilibili, hProven⟩ | ⟨hMail, hAccepted, hKnown⟩
      · rw [(h.proven hSome hBilibili hProven).2] at hError
        cases hError
      · rw [h.accepted hSome hMail hAccepted hError] at hKnown
        cases hKnown
    · intro response hPending
      obtain ⟨ref, hRef⟩ := connectorOutcome_pending (hReply _ _ hPending).1.symm
      obtain ⟨t, hStep, row, hRow, hKey, hState, hStored, hExpires⟩ :=
        reply_recorded nowEpoch hCanonical hSound hExecution hPending
      have hResponse := (response_eq_ok hPending).2.2.2.1
      rw [hRef] at hResponse hStored
      exact ⟨ref, t, hResponse, hStep, row, hRow, hKey, hState, hStored, hExpires⟩

end Executions

section Samples

/-- The answer to a write is in, and `p` is true of it. -/
def ConnectorSystem.holdsAnswer (s : ConnectorSystem) (id : Nat)
    (p : String → Option String → JsonObject → Bool) : Bool :=
  match s.executions[id]? with
  | some ⟨request, .answered _ outcome⟩ => request.prepared.isMutating &&
      p request.prepared.operationId request.prepared.idempotencyKey (request.result outcome)
  | _ => false

theorem answer_of_holds {s : ConnectorSystem} {id : Nat}
    {p : String → Option String → JsonObject → Bool} (h : s.holdsAnswer id p = true) :
    ∃ request claims outcome, s.executions[id]? = some ⟨request, .answered claims outcome⟩ ∧
      request.prepared.isMutating = true ∧ p request.prepared.operationId
        request.prepared.idempotencyKey (request.result outcome) = true := by
  unfold ConnectorSystem.holdsAnswer at h
  split at h
  · rename_i request claims outcome hExecution
    rw [Bool.and_eq_true] at h
    exact ⟨request, claims, outcome, hExecution, h⟩
  · cases h

/-- A world that knows the grant of one operation. -/
def singleWorld (prepared : PreparedConnectorOperation) : ConnectorWorld where
  verifier := { (sampleWorld plainCanonical).verifier with
    wire := { (sampleWorld plainCanonical).verifier.wire with
      parse := fun encoded => if encoded = [1] then some (sampleGrant prepared) else none } }
  canonical := plainCanonical
  sha256 := fun _ => sampleDigest

theorem plainCanonical_refuses : RefusesNumbersOnly plainCanonical := fun _ _ => rfl

/-- One write up to the answer of its provider. -/
def answeredRun (prepared : PreparedConnectorOperation) (result : JsonObject) :
    List ConnectorAction :=
  (sampleWriteRun 0 [1] prepared (.answered result)).dropLast

def sampleUnverified : JsonObject :=
  [("state", .str "COMMAND_COMPLETED"), ("remote_state", .str "UNVERIFIED")]

theorem certainty_kept_iff_sample : ∃ request claims outcome,
    (run (performConnector (singleWorld sampleWrite)) (answeredRun sampleWrite sampleUnverified)
      {}).executions[0]? = some ⟨request, .answered claims outcome⟩ ∧
    (CertaintyKept (singleWorld sampleWrite) 0 request claims outcome 104
        (run (performConnector (singleWorld sampleWrite))
          (answeredRun sampleWrite sampleUnverified) {}) ↔
      ReadsMarks plainCanonical request.prepared.operationId request.prepared.idempotencyKey
        (request.result outcome)) := by
  obtain ⟨request, claims, outcome, hExecution, hMutating, _⟩ := answer_of_holds
    (show (run (performConnector (singleWorld sampleWrite))
      (answeredRun sampleWrite sampleUnverified) {}).holdsAnswer 0 (fun _ _ _ => true) = true by
        decide +kernel)
  exact ⟨request, claims, outcome, hExecution,
    certainty_kept_iff plainCanonical_refuses _ 104 hExecution hMutating⟩

def bilibiliSend : PreparedConnectorOperation :=
  sampleOperation "send" "bilibili.dm.send" [("text", .str "hello")]

def sampleRefusal : JsonObject := [("state", .str "FAILED"), ("remote_state", .str "UNKNOWN")]

/-- A Bilibili write that failed with an unknown remote state is answered as
failed. -/
theorem unknown_remote_state_is_failed : ¬ ∀ (world : ConnectorWorld),
    RefusesNumbersOnly world.canonical → ∀ (actions : List ConnectorAction) (id : Nat)
      (request : ConnectorRequest) (claims : ConnectorGrantClaims) (outcome : DispatchOutcome)
      (nowEpoch : Int),
      (run (performConnector world) actions {}).executions[id]? =
        some ⟨request, .answered claims outcome⟩ → request.prepared.isMutating = true →
      CertaintyKept world id request claims outcome nowEpoch
        (run (performConnector world) actions {}) := by
  intro h
  obtain ⟨request, claims, outcome, hExecution, hMutating, hMarks⟩ := answer_of_holds
    (show (run (performConnector (singleWorld bilibiliSend))
      (answeredRun bilibiliSend sampleRefusal) {}).holdsAnswer 0 (fun operationId _ result =>
        bilibiliWrites.contains operationId && refusedWrite result && marksUnknown result) = true by
          decide +kernel)
  simp only [Bool.and_eq_true] at hMarks
  obtain ⟨⟨hBilibili, hRefused⟩, hUnknown⟩ := hMarks
  obtain ⟨response, _, hReply, _⟩ := (h _ plainCanonical_refuses _ 0 request claims outcome 104
    hExecution hMutating).unknown hUnknown
  unfold ConnectorRequest.reply at hReply
  rw [hMutating] at hReply
  exact (connectorOutcome_uncertain hUnknown).mp (response_eq_ok hReply).1.symm
    ⟨hBilibili, Or.inr hRefused⟩

end Samples

end CyreneExchange.Integrations
