import CyreneExchange.General.Machine
import CyreneExchange.Product.Calls

/-! The ledger over whole runs of the store: one row for each request id, and
the first terminal outcome of a request is its last. -/
namespace CyreneExchange.Product

open Gateway (Str RequestMetadata ProviderUsage)
open Machine Transaction

/-- The request with this id finishes through this call. -/
def Finishes (call : StoreCall) (row row' : AuditRow) : Prop :=
  ∃ metadata status usage errorType now outcome,
    call = .operator (.finishRequest metadata status usage errorType now) ∧
      metadata.requestId = row.requestId ∧ RequestAuditStatus.ofText status = some outcome ∧
      row.status = .started ∧ row' = row.finished outcome usage errorType now

/-- What one call can do to the ledger. -/
inductive AuditWrite (call : StoreCall) (rows : List AuditRow) : List AuditRow → Prop
  | kept : AuditWrite call rows rows
  | added (row : AuditRow) (hFresh : ∀ r ∈ rows, r.requestId ≠ row.requestId) :
      AuditWrite call rows (rows ++ [row])
  | finished (p : AuditRow → Bool) (f : AuditRow → AuditRow)
      (hFinish : ∀ r ∈ rows, p r = true → Finishes call r (f r)) :
      AuditWrite call rows (Table.updateWhere p f rows)

section Steps

variable {host : Host} {s : ExchangeStore}

theorem findAudit_eq_none {requestId : Str} (h : s.findAudit requestId = none) :
    ∀ row ∈ s.requestAudits, row.requestId ≠ requestId := by
  intro row hRow hSame
  have hNone := List.find?_eq_none.mp h row hRow
  simp [hSame] at hNone

/-- The three writers of the ledger, and everyone else. -/
theorem storeStep_requestAudits (host : Host) (call : StoreCall) (s : ExchangeStore) :
    AuditWrite call s.requestAudits (storeStep host call s).2.requestAudits := by
  have hKept (h : StoreTable.requestAudits ∉ call.tables) :
      AuditWrite call s.requestAudits (storeStep host call s).2.requestAudits := by
    rw [storeStep_keeps_requestAudits host h]
    exact .kept
  have hCommit := commit_cases (storeBody host call) s
  cases call with
  | operator call =>
      cases call with
      | beginRequest metadata now =>
          rcases hCommit with ⟨answer, t, hBody, hStep⟩ | ⟨e, -, hStep⟩
          · obtain ⟨_, _, hBegin, hPure⟩ := bind_eq_ok.mp hBody
            obtain ⟨hNone, rfl⟩ := beginRequest_eq_ok hBegin
            cases hPure
            rw [storeStep, hStep]
            exact .added (startedRow metadata now) (findAudit_eq_none hNone)
          · rw [storeStep, hStep]
            exact .kept
      | recordRejection rejection startedAt finishedAt =>
          rcases hCommit with ⟨answer, t, hBody, hStep⟩ | ⟨e, -, hStep⟩
          · obtain ⟨_, _, hRecord, hPure⟩ := bind_eq_ok.mp hBody
            cases hPure
            rw [storeStep, hStep]
            rcases recordRejection_eq_ok hRecord with ⟨rfl, -⟩ | ⟨hNone, status, -, rfl⟩
            · exact .kept
            · exact .added (rejectedRow rejection status startedAt finishedAt)
                (findAudit_eq_none hNone)
          · rw [storeStep, hStep]
            exact .kept
      | finishRequest metadata status usage errorType now =>
          rcases hCommit with ⟨answer, t, hBody, hStep⟩ | ⟨e, -, hStep⟩
          · obtain ⟨_, _, hFinish, hPure⟩ := bind_eq_ok.mp hBody
            cases hPure
            rw [storeStep, hStep]
            rcases finishRequest_eq_ok hFinish with ⟨rfl, -⟩ | ⟨-, outcome, hOutcome, rfl⟩
            · exact .kept
            · refine .finished _ _ ?_
              intro row hRow hWhere
              simp only [Bool.and_eq_true, decide_eq_true_eq] at hWhere
              exact ⟨metadata, status, usage, errorType, now, outcome, rfl, hWhere.1.symm,
                hOutcome, hWhere.2, rfl⟩
          · rw [storeStep, hStep]
            exact .kept
      | restart | configureCredentials | configureWorkspaceEndpointGrants
      | configureWorkspaceReactorEndpointGrants | disableCredential | saveTenantQuota =>
          exact hKept (by simp [StoreCall.tables])
  | saveEndpoint | saveRoute | createRouteDraft | replaceRouteVersion | rememberIdempotency
  | createApiKey | revokeApiKey => exact hKept (by simp [StoreCall.tables])

/-- One row for each request id. -/
def UniqueAudits (s : ExchangeStore) : Prop :=
  Table.KeysUnique AuditRow.requestId s.requestAudits

theorem Finishes.requestId_eq {call : StoreCall} {row row' : AuditRow}
    (h : Finishes call row row') : row'.requestId = row.requestId := by
  obtain ⟨_, _, _, _, _, _, -, -, -, -, rfl⟩ := h
  rfl

theorem AuditWrite.unique {call : StoreCall} {rows rows' : List AuditRow}
    (h : AuditWrite call rows rows') (hUnique : Table.KeysUnique AuditRow.requestId rows) :
    Table.KeysUnique AuditRow.requestId rows' := by
  cases h with
  | kept => exact hUnique
  | added row hFresh => exact hUnique.append_singleton hFresh
  | finished p f hFinish => exact hUnique.updateWhere fun r hr hp => (hFinish r hr hp).requestId_eq

/-- A row stays as it is, or is finished by this very call. -/
theorem AuditWrite.image {call : StoreCall} {rows rows' : List AuditRow}
    (h : AuditWrite call rows rows') {row : AuditRow} (hRow : row ∈ rows) :
    ∃ row' ∈ rows', row'.requestId = row.requestId ∧ (row' = row ∨ Finishes call row row') := by
  cases h with
  | kept => exact ⟨row, hRow, rfl, Or.inl rfl⟩
  | added other hFresh => exact ⟨row, List.mem_append_left _ hRow, rfl, Or.inl rfl⟩
  | finished p f hFinish =>
      cases hp : p row with
      | false => exact ⟨row, Table.mem_updateWhere_of_neg hRow hp, rfl, Or.inl rfl⟩
      | true =>
          have hRowFinish := hFinish row hRow hp
          exact ⟨f row, Table.mem_updateWhere_of_pos hRow hp, hRowFinish.requestId_eq,
            Or.inr hRowFinish⟩

/-- A settled row is out of reach of every call. -/
theorem storeStep_settled {call : StoreCall} {row : AuditRow} (hRow : row ∈ s.requestAudits)
    (hSettled : row.status ≠ .started) : row ∈ (storeStep host call s).2.requestAudits := by
  obtain ⟨row', hRow', -, rfl | hFinish⟩ := (storeStep_requestAudits host call s).image hRow
  · exact hRow'
  · obtain ⟨_, _, _, _, _, _, -, -, -, hStarted, -⟩ := hFinish
    exact absurd hStarted hSettled

theorem storeStep_uniqueAudits (host : Host) :
    Preserves (storeStep host) (fun _ _ => True) UniqueAudits :=
  fun s call hUnique _ => (storeStep_requestAudits host call s).unique hUnique

end Steps

/-- The law of the ledger over a run of calls. -/
structure LedgerLaw (host : Host) (calls : List StoreCall) : Prop where
  unique : ∀ e ∈ trace (storeStep host) calls {}, UniqueAudits e.after
  step : ∀ e ∈ trace (storeStep host) calls {}, ∀ row ∈ e.before.requestAudits,
    ∃ row' ∈ e.after.requestAudits, row'.requestId = row.requestId ∧
      (row' = row ∨ Finishes e.input row row')
  settled : (trace (storeStep host) calls {}).Pairwise fun e f =>
    ∀ row ∈ e.after.requestAudits, row.status ≠ .started → row ∈ f.after.requestAudits

/-- The ledger of every run has one row per request, and a row is final once it is terminal. -/
theorem audit_ledger_law (host : Host) (calls : List StoreCall) : LedgerLaw host calls := by
  have hAdmitted : Admitted (storeStep host) (fun _ _ => True) calls {} :=
    admitted_of_forall (fun _ _ => trivial) calls _
  have hStart : UniqueAudits {} := List.nodup_nil
  have hEvents := (storeStep_uniqueAudits host).trace hStart hAdmitted
  refine ⟨?_, ?_, ?_⟩
  · intro e he
    obtain ⟨hUnique, -, -, hAfter⟩ := hEvents e he
    rw [hAfter]
    exact storeStep_uniqueAudits host e.before e.input hUnique trivial
  · intro e he row hRow
    obtain ⟨-, -, -, hAfter⟩ := hEvents e he
    rw [hAfter]
    exact (storeStep_requestAudits host e.input e.before).image hRow
  · have hLater := (trace_related
      (R := fun s t : ExchangeStore => ∀ row ∈ s.requestAudits, row.status ≠ .started →
        row ∈ t.requestAudits)
      (storeStep_uniqueAudits host) (fun _ _ hRow _ => hRow)
      (fun _ _ _ hst htu row hRow hSettled => htu row (hst row hRow hSettled) hSettled)
      (fun _ _ _ _ row hRow hSettled => storeStep_settled hRow hSettled) hStart hAdmitted).2
    refine List.Pairwise.imp_of_mem ?_ hLater
    intro e f _ hf hKept row hRow hSettled
    obtain ⟨-, -, -, hAfter⟩ := hEvents f hf
    rw [hAfter]
    exact storeStep_settled (hKept row hRow hSettled) hSettled

end CyreneExchange.Product
