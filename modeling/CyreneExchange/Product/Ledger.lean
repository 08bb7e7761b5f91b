import CyreneExchange.Product.Store

/-! The request audit ledger: the three methods that write `request_audits`. -/
namespace CyreneExchange.Product

open Gateway (Str RequestMetadata RequestPrincipal ProviderUsage)
open Transaction

/-- The value of the status column, where its CHECK admits the text. -/
def RequestAuditStatus.ofText (status : Str) : Option RequestAuditStatus :=
  if status = Gateway.text "started" then some .started
  else if status = Gateway.text "completed" then some .completed
  else if status = Gateway.text "failed" then some .failed
  else if status = Gateway.text "cancelled" then some .cancelled
  else if status = Gateway.text "rejected" then some .rejected
  else none

/-- SQLite takes text as UTF-8, so a lone surrogate cannot be bound. -/
def storable (texts : List (Option Str)) : Bool := texts.all fun value => !value.any Str.hasSurrogate

/-- Whatever is stored as a text is one. -/
theorem hasSurrogate_text (s : String) : (Gateway.text s).hasSurrogate = false := by
  rw [Str.hasSurrogate, List.any_eq_false]
  intro c hc
  obtain ⟨char, -, rfl⟩ := List.mem_map.mp hc
  have hValid := char.valid
  simp only [Str.isSurrogate, Bool.and_eq_true, decide_eq_true_eq, not_and, Nat.not_le]
  intro hLow
  rcases hValid with hSmall | ⟨hLarge, -⟩
  · exact absurd hSmall (Nat.not_lt.mpr hLow)
  · exact hLarge

/-- SQLite integers have 64 bits. -/
def storableCount (count : Option Nat) : Bool := count.all fun n => decide (n < 2 ^ 63)

def ExchangeStore.findAudit (s : ExchangeStore) (requestId : Str) : Option AuditRow :=
  s.requestAudits.find? fun row => decide (row.requestId = requestId)

def auditConflict (requestId : Str) : ExchangeProductError where
  code := "EXCHANGE_REQUEST_AUDIT_CONFLICT"
  title := "Request audit conflict"
  detail := "The request id is already present in the Exchange audit ledger."
  status := 409
  resourceRef := some requestId

def auditNotFound (requestId : Str) : ExchangeProductError where
  code := "EXCHANGE_REQUEST_AUDIT_NOT_FOUND"
  title := "Request audit not found"
  detail := "The request must be admitted before it can be completed."
  status := 500
  resourceRef := some requestId

/-- The row of an admitted request. -/
def startedRow (metadata : RequestMetadata) (now : Int) : AuditRow where
  requestId := metadata.requestId
  routeId := some metadata.routeId
  bindingId := some metadata.providerRef
  model := some metadata.model
  stream := some metadata.stream
  actorId := some metadata.principal.actorId
  workspaceId := some metadata.principal.workspaceId
  credentialRef := some metadata.principal.credentialRef
  status := .started
  startedAt := now

/-- `begin_request`. -/
def beginRequest (metadata : RequestMetadata) (now : Int) : StoreTransaction Unit := do
  require (storable [some metadata.requestId, some metadata.routeId, some metadata.providerRef,
    some metadata.model, some metadata.principal.actorId, some metadata.principal.workspaceId,
    some metadata.principal.credentialRef]) .unicodeEncodeError
  let existing ← fetch fun s => s.findAudit metadata.requestId
  require existing.isNone (.product (auditConflict metadata.requestId))
  store fun s => { s with requestAudits := s.requestAudits ++ [startedRow metadata now] }

/-- The row of a rejection. -/
def rejectedRow (rejection : Gateway.Rejection) (status : RequestAuditStatus)
    (startedAt finishedAt : Int) : AuditRow where
  requestId := rejection.requestId
  model := rejection.model
  stream := rejection.stream
  actorId := rejection.principal.map RequestPrincipal.actorId
  workspaceId := rejection.principal.map RequestPrincipal.workspaceId
  credentialRef := rejection.principal.map RequestPrincipal.credentialRef
  status := status
  startedAt := startedAt
  finishedAt := some finishedAt
  errorType := some rejection.errorType

/-- `record_rejection`: a request id that is already there wins. -/
def recordRejection (rejection : Gateway.Rejection) (startedAt finishedAt : Int) :
    StoreTransaction Unit := do
  require (storable [some rejection.requestId, rejection.model,
    rejection.principal.map RequestPrincipal.actorId,
    rejection.principal.map RequestPrincipal.workspaceId,
    rejection.principal.map RequestPrincipal.credentialRef, some rejection.status,
    some rejection.errorType]) .unicodeEncodeError
  match RequestAuditStatus.ofText rejection.status with
  | none => reject .integrityError
  | some status =>
      let existing ← fetch fun s => s.findAudit rejection.requestId
      if existing.isSome then pure ()
      else store fun s => { s with
        requestAudits := s.requestAudits ++ [rejectedRow rejection status startedAt finishedAt] }

/-- The state that `_usage_values` derives; nothing missing is inferred. -/
def usageStateOf : Option ProviderUsage → UsageState
  | none => .unknown
  | some usage =>
      if usage.promptTokens.isNone && usage.completionTokens.isNone &&
          usage.totalTokens.isNone then .unknown
      else if usage.promptTokens.isSome && usage.completionTokens.isSome then .final
      else .partially

/-- The columns that `finish_request` writes. -/
def AuditRow.finished (row : AuditRow) (status : RequestAuditStatus)
    (usage : Option ProviderUsage) (errorType : Option Str) (now : Int) : AuditRow :=
  { row with
    status := status
    finishedAt := some now
    usageState := usageStateOf usage
    promptTokens := usage.bind ProviderUsage.promptTokens
    completionTokens := usage.bind ProviderUsage.completionTokens
    totalTokens := usage.bind ProviderUsage.totalTokens
    usageSource := usage.map ProviderUsage.source
    errorType := errorType }

/-- `finish_request`: only a STARTED row is written. -/
def finishRequest (metadata : RequestMetadata) (status : Str) (usage : Option ProviderUsage)
    (errorType : Option Str) (now : Int) : StoreTransaction Unit := do
  require (storable [some metadata.requestId]) .unicodeEncodeError
  match ← fetch fun s => s.findAudit metadata.requestId with
  | none => reject (.product (auditNotFound metadata.requestId))
  | some row =>
      if row.status ≠ .started then pure ()
      else
        require (storable [some status, usage.map ProviderUsage.source, errorType])
          .unicodeEncodeError
        require (storableCount (usage.bind ProviderUsage.promptTokens) &&
          storableCount (usage.bind ProviderUsage.completionTokens) &&
          storableCount (usage.bind ProviderUsage.totalTokens)) .overflowError
        match RequestAuditStatus.ofText status with
        | none => reject .integrityError
        | some status => store fun s => { s with
            requestAudits := Table.updateWhere
              (fun row => decide (row.requestId = metadata.requestId) &&
                decide (row.status = .started))
              (fun row => row.finished status usage errorType now) s.requestAudits }

section Statements

variable {s t : ExchangeStore} {metadata : RequestMetadata} {now : Int} {u : Unit}

theorem beginRequest_eq_ok (h : beginRequest metadata now s = .ok (u, t)) :
    s.findAudit metadata.requestId = none ∧
      t = { s with requestAudits := s.requestAudits ++ [startedRow metadata now] } := by
  obtain ⟨_, _, hStorable, h⟩ := bind_eq_ok.mp h
  obtain ⟨-, rfl⟩ := require_eq_ok.mp hStorable
  simp only [fetch_bind] at h
  obtain ⟨_, _, hRequire, hStore⟩ := bind_eq_ok.mp h
  obtain ⟨hNone, rfl⟩ := require_eq_ok.mp hRequire
  cases hStore
  exact ⟨Option.isNone_iff_eq_none.mp hNone, rfl⟩

theorem recordRejection_eq_ok {rejection : Gateway.Rejection} {startedAt finishedAt : Int}
    (h : recordRejection rejection startedAt finishedAt s = .ok (u, t)) :
    (t = s ∧ (s.findAudit rejection.requestId).isSome = true) ∨
      (s.findAudit rejection.requestId = none ∧
        ∃ status, RequestAuditStatus.ofText rejection.status = some status ∧
          t = { s with
            requestAudits :=
              s.requestAudits ++ [rejectedRow rejection status startedAt finishedAt] }) := by
  obtain ⟨_, _, hStorable, h⟩ := bind_eq_ok.mp h
  obtain ⟨-, rfl⟩ := require_eq_ok.mp hStorable
  cases hStatus : RequestAuditStatus.ofText rejection.status with
  | none => simp [hStatus] at h
  | some status =>
      simp only [hStatus, fetch_bind] at h
      cases hFind : s.findAudit rejection.requestId with
      | some row =>
          rw [hFind] at h
          cases h
          exact Or.inl ⟨rfl, rfl⟩
      | none =>
          rw [hFind] at h
          cases h
          exact Or.inr ⟨rfl, status, rfl, rfl⟩

theorem finishRequest_eq_ok {status : Str} {usage : Option ProviderUsage} {errorType : Option Str}
    (h : finishRequest metadata status usage errorType now s = .ok (u, t)) :
    (t = s ∧ ∃ row, s.findAudit metadata.requestId = some row ∧ row.status ≠ .started) ∨
      ((∃ row, s.findAudit metadata.requestId = some row ∧ row.status = .started) ∧
        ∃ outcome, RequestAuditStatus.ofText status = some outcome ∧
          t = { s with
            requestAudits := Table.updateWhere
              (fun row => decide (row.requestId = metadata.requestId) &&
                decide (row.status = .started))
              (fun row => row.finished outcome usage errorType now) s.requestAudits }) := by
  obtain ⟨_, _, hStorable, h⟩ := bind_eq_ok.mp h
  obtain ⟨-, rfl⟩ := require_eq_ok.mp hStorable
  simp only [fetch_bind] at h
  cases hFind : s.findAudit metadata.requestId with
  | none => simp [hFind] at h
  | some row =>
      simp only [hFind] at h
      by_cases hStarted : row.status = .started
      · rw [if_neg (not_not.mpr hStarted)] at h
        obtain ⟨_, _, hTexts, h⟩ := bind_eq_ok.mp h
        obtain ⟨-, rfl⟩ := require_eq_ok.mp hTexts
        obtain ⟨_, _, hCounts, h⟩ := bind_eq_ok.mp h
        obtain ⟨-, rfl⟩ := require_eq_ok.mp hCounts
        cases hStatus : RequestAuditStatus.ofText status with
        | none => simp [hStatus] at h
        | some outcome =>
            simp only [hStatus] at h
            cases h
            exact Or.inr ⟨⟨row, rfl, hStarted⟩, outcome, rfl, rfl⟩
      · rw [if_pos hStarted] at h
        cases h
        exact Or.inl ⟨rfl, row, rfl, hStarted⟩

end Statements

end CyreneExchange.Product
