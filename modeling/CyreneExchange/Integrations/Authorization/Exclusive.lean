import CyreneExchange.General.Lease
import CyreneExchange.Integrations.Authorization.Frames

/-! Claims on monitored connections and on cloud refreshes are leases under a
fence. No other call touches the columns of a claim. -/
namespace CyreneExchange.Integrations

open Machine Transaction Lease
open AuthorizationStore (ReportFrame)

abbrev AuthorizationEvent :=
  Event AuthorizationStore AuthorizationCall (Except AuthorizationError AuthorizationAnswer)

def MonitorRow.tenure (row : MonitorRow) : Tenure String Timestamp :=
  ⟨row.claimOwner, row.claimFence, row.leaseExpiresAt⟩

def CloudOutboxRow.tenure (row : CloudOutboxRow) : Tenure String Timestamp :=
  ⟨row.claimOwner, row.claimFence, row.leaseExpiresAt⟩

/-- Who holds the monitor of a connection. -/
def monitorTenure (connectionId : UUID) (s : AuthorizationStore) : Tenure String Timestamp :=
  tenureOf MonitorRow.connectionId MonitorRow.tenure s.monitorState connectionId

/-- Who holds a refresh operation. -/
def refreshTenure (operationId : UUID) (s : AuthorizationStore) : Tenure String Timestamp :=
  tenureOf CloudOutboxRow.operationId CloudOutboxRow.tenure s.cloudRefreshOutbox operationId

/-- The claim on a connection among those handed out together. -/
def batchGrant (connectionId : UUID) (now : Timestamp)
    (claims : List ClaimedAuthorizationMonitor) : Option (Grant String Timestamp) :=
  (claims.find? fun claim => decide (claim.connection.id = connectionId)).map fun claim =>
    ⟨claim.workerId, claim.claimFence, now⟩

/-- The claim on a connection that a call handed out. -/
def monitorGrant (connectionId : UUID) (e : AuthorizationEvent) :
    Option (Grant String Timestamp) :=
  match e.input, e.output with
  | .claimChecks _ now _ _, .ok (.checks claims) => batchGrant connectionId now claims
  | _, _ => none

/-- The claim on an operation that a call handed out. -/
def refreshGrant (operationId : UUID) (e : AuthorizationEvent) :
    Option (Grant String Timestamp) :=
  match e.input, e.output with
  | .claimRefresh _ now _, .ok (.claimedRefresh (some claim)) =>
      if claim.operation.id = operationId then some ⟨claim.workerId, claim.claimFence, now⟩
      else none
  | _, _ => none

/-- The claim under which a call tries to complete a check. -/
def monitorAttempt (connectionId : UUID) : AuthorizationCall → Option (Grant String Timestamp)
  | .completeCheck claim _ _ now _ _ _ =>
      if claim.connection.id = connectionId then some ⟨claim.workerId, claim.claimFence, now⟩
      else none
  | _ => none

/-- The claim under which a call tries to complete a refresh. -/
def refreshAttempt (operationId : UUID) : AuthorizationCall → Option (Grant String Timestamp)
  | .completeRefresh claim _ _ now _ _ _ =>
      if claim.operation.id = operationId then some ⟨claim.workerId, claim.claimFence, now⟩
      else none
  | _ => none

/-- Each connection has one monitor row and each operation one outbox row. -/
structure ClaimInv (s : AuthorizationStore) : Prop where
  monitors : Table.KeysUnique MonitorRow.connectionId s.monitorState
  refreshes : Table.KeysUnique CloudOutboxRow.operationId s.cloudRefreshOutbox
  named : ∀ row ∈ s.cloudRefreshOutbox, row.document.id = row.operationId

section Monitor

variable {s t : AuthorizationStore} {connectionId : UUID}

theorem leaseOver_iff {claimOwner : Option String} {leaseExpiresAt : Option Timestamp}
    {now : Timestamp} : leaseOver claimOwner leaseExpiresAt now = true ↔
      claimOwner = none ∨ ∀ expiry, leaseExpiresAt = some expiry → expiry ≤ now := by
  cases claimOwner <;> cases leaseExpiresAt <;> simp [leaseOver]

theorem holdsLease_iff {workerId : String} {fence : Nat} {now : Timestamp}
    {claimOwner : Option String} {claimFence : Nat} {leaseExpiresAt : Option Timestamp} :
    holdsLease workerId fence now claimOwner claimFence leaseExpiresAt = true ↔
      Tenure.Holds ⟨claimOwner, claimFence, leaseExpiresAt⟩ workerId fence now := by
  cases leaseExpiresAt <;> simp [holdsLease, Tenure.Holds, and_assoc]

theorem seedMonitors_unique (connections : List ProviderConnection) {rows : List MonitorRow}
    (h : Table.KeysUnique MonitorRow.connectionId rows) :
    Table.KeysUnique MonitorRow.connectionId (seedMonitors connections rows) := by
  unfold seedMonitors
  induction connections.filter ProviderConnection.enabled generalizing rows with
  | nil => exact h
  | cons connection rest ih =>
      rw [List.foldl_cons]
      apply ih
      split
      · exact h
      · rename_i hNone
        refine h.append_singleton ?_
        intro row hRow hSame
        exact hNone (List.any_eq_true.mpr ⟨row, hRow, beq_iff_eq.mpr hSame⟩)

/-- New monitor rows are free. -/
theorem tenureOf_seedMonitors (connections : List ProviderConnection) (rows : List MonitorRow) :
    tenureOf MonitorRow.connectionId MonitorRow.tenure (seedMonitors connections rows)
        connectionId =
      tenureOf MonitorRow.connectionId MonitorRow.tenure rows connectionId := by
  unfold seedMonitors
  induction connections.filter ProviderConnection.enabled generalizing rows with
  | nil => rfl
  | cons connection rest ih =>
      rw [List.foldl_cons, ih]
      split
      · rfl
      · have hFree : MonitorRow.tenure { connectionId := connection.id, nextCheckAt := 0 } = {} :=
          rfl
        exact tenureOf_append hFree connectionId

theorem MonitorRow.connection_id {connections : List ProviderConnection} {row : MonitorRow}
    {connection : ProviderConnection} (h : row.connection connections = some connection) :
    connection.id = row.connectionId := by
  have hFound := List.find?_some h
  simp only [Bool.and_eq_true, beq_iff_eq] at hFound
  exact hFound.1

/-- A committed batch claim: due rows are taken, each for its own claim. -/
theorem claimChecks_eq_ok {workerId : String} {now : Timestamp} {leaseSeconds limit : Nat}
    {claims : List ClaimedAuthorizationMonitor}
    (h : claimAuthorizationChecks workerId now leaseSeconds limit s = .ok (claims, t)) :
    ∃ selected : List MonitorRow,
      (∀ row ∈ selected, row ∈ seedMonitors s.connections s.monitorState ∧
        row.due now = true ∧ (row.connection s.connections).isSome = true) ∧
      claims = selected.filterMap (fun row => (row.connection s.connections).map fun connection =>
        ⟨connection, workerId, row.claimFence + 1, now + seconds leaseSeconds⟩) ∧
      t = { s with
        monitorState := Table.updateWhere (fun row => selected.contains row)
          (fun row => row.claimed workerId (now + seconds leaseSeconds))
          (seedMonitors s.connections s.monitorState) } := by
  unfold claimAuthorizationChecks at h
  obtain ⟨_, _, hWorker, hBody⟩ := bind_eq_ok.mp h
  obtain ⟨_, rfl⟩ := require_eq_ok.mp hWorker
  obtain ⟨_, _, hLimit, hNext⟩ := bind_eq_ok.mp hBody
  obtain ⟨_, rfl⟩ := require_eq_ok.mp hLimit
  rw [store_bind, fetch_bind, store_bind] at hNext
  cases hNext
  refine ⟨_, ?_, rfl, rfl⟩
  intro row hRow
  have hMem := List.mem_mergeSort.mp (List.mem_of_mem_take hRow)
  simpa [and_assoc] using hMem

/-- The claims a batch hands out, one for each selected row. -/
def claimsOf (connections : List ProviderConnection) (workerId : String) (expiry : Timestamp)
    (selected : List MonitorRow) : List ClaimedAuthorizationMonitor :=
  selected.filterMap fun row => (row.connection connections).map fun connection =>
    ⟨connection, workerId, row.claimFence + 1, expiry⟩

theorem mem_claimsOf {connections : List ProviderConnection} {workerId : String}
    {expiry : Timestamp} {selected : List MonitorRow} {claim : ClaimedAuthorizationMonitor}
    (h : claim ∈ claimsOf connections workerId expiry selected) :
    ∃ row ∈ selected, claim.connection.id = row.connectionId ∧ claim.workerId = workerId ∧
      claim.claimFence = row.claimFence + 1 := by
  obtain ⟨row, hRow, hMap⟩ := List.mem_filterMap.mp h
  obtain ⟨connection, hConnection, rfl⟩ := Option.map_eq_some_iff.mp hMap
  exact ⟨row, hRow, MonitorRow.connection_id hConnection, rfl, rfl⟩

/-- No claim is handed out for a connection without a selected row. -/
theorem batchGrant_eq_none {connections : List ProviderConnection} {workerId : String}
    {now expiry : Timestamp} {selected : List MonitorRow}
    (h : ∀ row ∈ selected, row.connectionId ≠ connectionId) :
    batchGrant connectionId now (claimsOf connections workerId expiry selected) = none := by
  rw [batchGrant, Option.map_eq_none_iff, List.find?_eq_none]
  intro claim hClaim hId
  obtain ⟨row, hRow, hRowId, _, _⟩ := mem_claimsOf hClaim
  exact h row hRow (hRowId.symm.trans (by simpa using hId))

/-- The claim handed out for the connection of a selected row. -/
theorem batchGrant_of_selected {connections : List ProviderConnection}
    {rows selected : List MonitorRow} {workerId : String} {now expiry : Timestamp}
    {row : MonitorRow} (unique : Table.KeysUnique MonitorRow.connectionId rows)
    (hSelected : ∀ row ∈ selected, row ∈ rows) (hRow : row ∈ selected)
    (hConnection : (row.connection connections).isSome = true) :
    batchGrant row.connectionId now (claimsOf connections workerId expiry selected) =
      some ⟨workerId, row.claimFence + 1, now⟩ := by
  obtain ⟨connection, hConnection⟩ := Option.isSome_iff_exists.mp hConnection
  have hMem : (⟨connection, workerId, row.claimFence + 1, expiry⟩ :
      ClaimedAuthorizationMonitor) ∈ claimsOf connections workerId expiry selected :=
    List.mem_filterMap.mpr ⟨row, hRow, by rw [hConnection]; rfl⟩
  cases hFind : (claimsOf connections workerId expiry selected).find?
      fun claim => decide (claim.connection.id = row.connectionId) with
  | none =>
      have hAbsent := List.find?_eq_none.mp hFind _ hMem
      simp [MonitorRow.connection_id hConnection] at hAbsent
  | some claim =>
      obtain ⟨other, hOther, hId, hWorker, hFence⟩ := mem_claimsOf (List.mem_of_find?_eq_some hFind)
      have hClaimId : claim.connection.id = row.connectionId := by
        simpa using List.find?_some hFind
      have hSame : other = row :=
        unique.eq (hSelected other hOther) (hSelected row hRow) (hId.symm.trans hClaimId)
      rw [batchGrant, hFind, Option.map_some, hWorker, hFence, hSame]

/-- A batch claim takes free connections only, and says so in its answer. -/
theorem monitor_move_of_claim {workerId : String} {now : Timestamp} {leaseSeconds limit : Nat}
    {claims : List ClaimedAuthorizationMonitor} (hInv : ClaimInv s)
    (h : claimAuthorizationChecks workerId now leaseSeconds limit s = .ok (claims, t)) :
    Move (monitorTenure connectionId s) (batchGrant connectionId now claims)
      (monitorTenure connectionId t) := by
  obtain ⟨selected, hSelected, hClaims, rfl⟩ := claimChecks_eq_ok h
  have unique := seedMonitors_unique s.connections hInv.monitors
  have hUpdated : tenureOf MonitorRow.connectionId MonitorRow.tenure
      (Table.updateWhere (fun row => selected.contains row)
        (fun row => row.claimed workerId (now + seconds leaseSeconds))
        (seedMonitors s.connections s.monitorState)) connectionId = _ :=
    tenureOf_updateWhere fun _ _ _ => rfl
  unfold monitorTenure
  rw [← tenureOf_seedMonitors s.connections s.monitorState, hUpdated, tenureOf, hClaims]
  cases hFind : (seedMonitors s.connections s.monitorState).find?
      fun row => decide (row.connectionId = connectionId) with
  | none =>
      have hAbsent : ∀ row ∈ selected, row.connectionId ≠ connectionId := by
        intro row hRow
        simpa using List.find?_eq_none.mp hFind row (hSelected row hRow).1
      show Move _ (batchGrant connectionId now (claimsOf s.connections workerId _ selected)) _
      rw [batchGrant_eq_none hAbsent]
      exact Move.keep
  | some row =>
      have hRow := List.mem_of_find?_eq_some hFind
      obtain rfl : row.connectionId = connectionId := by simpa using List.find?_some hFind
      show Move _ (batchGrant _ now (claimsOf s.connections workerId _ selected)) _
      cases hContains : selected.contains row with
      | false =>
          have hAbsent : ∀ other ∈ selected, other.connectionId ≠ row.connectionId := by
            intro other hOther hSame
            rw [unique.eq (hSelected other hOther).1 hRow hSame] at hOther
            rw [List.contains_iff_mem.mpr hOther] at hContains
            cases hContains
          rw [batchGrant_eq_none hAbsent]
          simp only [hContains, Bool.false_eq_true, if_false]
          exact Move.keep
      | true =>
          have hMem := List.contains_iff_mem.mp hContains
          obtain ⟨_, hDue, hConnection⟩ := hSelected row hMem
          rw [batchGrant_of_selected unique (fun r hr => (hSelected r hr).1) hMem hConnection]
          simp only [hContains, if_true]
          simp only [MonitorRow.due, Bool.and_eq_true] at hDue
          exact Move.grant (leaseOver_iff.mp hDue.2)

/-- The claim of a committed completion was in force, and it ends. -/
theorem completeCheck_eq_ok {claim : ClaimedAuthorizationMonitor}
    {health : AuthorizationHealthRecord} {notifications : List IntegrationNotificationDraft}
    {now : Timestamp} {intervalSeconds : Nat} {emailRecipientRef : Option String}
    {draw : Nat → NotificationDraws} {events : List IntegrationNotification}
    (h : completeAuthorizationCheck claim health notifications now intervalSeconds
      emailRecipientRef draw s = .ok (events, t)) :
    (∃ row ∈ s.monitorState, row.connectionId = claim.connection.id ∧
      row.tenure.Holds claim.workerId claim.claimFence now) ∧
    (health.connectionId = claim.connection.id ∧ health.scope = claim.connection.scope) ∧
    ∃ u v saved, insertHealth health s = .ok ((), u) ∧
      insertNotifications claim.connection.scope emailRecipientRef now draw notifications u =
        .ok (saved, v) ∧
      s.ReportFrame v ∧ t = { v with
        monitorState := Table.updateWhere (MonitorRow.isClaim claim)
          (fun row => { row with
            lastCheckedAt := some now
            nextCheckAt := now + seconds intervalSeconds
            claimOwner := none
            leaseExpiresAt := none }) s.monitorState } := by
  unfold completeAuthorizationCheck at h
  obtain ⟨_, _, hInterval, hBody⟩ := bind_eq_ok.mp h
  obtain ⟨_, rfl⟩ := require_eq_ok.mp hInterval
  obtain ⟨_, _, hScope, hNext⟩ := bind_eq_ok.mp hBody
  obtain ⟨hOwner, rfl⟩ := require_eq_ok.mp hScope
  rw [fetch_bind] at hNext
  obtain ⟨_, _, hLease, hRest⟩ := bind_eq_ok.mp hNext
  obtain ⟨hHeld, rfl⟩ := require_eq_ok.mp hLease
  obtain ⟨_, _, hConnection, hDrafts⟩ := bind_eq_ok.mp hRest
  obtain ⟨_, rfl⟩ := require_eq_ok.mp hConnection
  obtain ⟨_, _, hOwn, hWrites⟩ := bind_eq_ok.mp hDrafts
  obtain ⟨_, rfl⟩ := require_eq_ok.mp hOwn
  obtain ⟨_, u, hHealth, hSaves⟩ := bind_eq_ok.mp hWrites
  obtain ⟨saved, v, hSaved, hEnd⟩ := bind_eq_ok.mp hSaves
  rw [store_bind] at hEnd
  cases hEnd
  refine ⟨?_, by simpa using hOwner, ?_⟩
  · obtain ⟨row, hRow, hMatch⟩ := List.any_eq_true.mp hHeld
    simp only [Bool.and_eq_true, beq_iff_eq] at hMatch
    exact ⟨row, hRow, hMatch.1, holdsLease_iff.mp hMatch.2⟩
  · have hFrame : AuthorizationStore.ReportFrame _ v := trans_of ReportFrame
      (Respects.reportFrame (insertHealth_reports fun _ _ _ _ => trivial) hHealth)
      (Respects.reportFrame (insertNotifications_reports (fun _ _ => trivial) _ _ _) hSaved)
    refine ⟨u, v, _, hHealth, hSaved, hFrame, ?_⟩
    rw [hFrame.monitorState]

theorem releaseCheck_eq_ok {claim : ClaimedAuthorizationMonitor} {now : Timestamp}
    {retryDelaySeconds : Nat} {u : Unit}
    (h : releaseAuthorizationCheck claim now retryDelaySeconds s = .ok (u, t)) :
    t = { s with
      monitorState := Table.updateWhere (MonitorRow.isClaim claim)
        (fun row => { row with
          nextCheckAt := now + seconds retryDelaySeconds
          claimOwner := none
          leaseExpiresAt := none }) s.monitorState } := by
  unfold releaseAuthorizationCheck at h
  obtain ⟨_, _, hDelay, hBody⟩ := bind_eq_ok.mp h
  obtain ⟨_, rfl⟩ := require_eq_ok.mp hDelay
  rw [fetch_bind] at hBody
  obtain ⟨_, _, hClaim, hEnd⟩ := bind_eq_ok.mp hBody
  obtain ⟨_, rfl⟩ := require_eq_ok.mp hClaim
  cases hEnd
  rfl

/-- Ending claims leaves every other claim as it is. -/
theorem monitor_move_of_end {claim : ClaimedAuthorizationMonitor} {f : MonitorRow → MonitorRow}
    (hKey : ∀ row, (f row).connectionId = row.connectionId)
    (hEnd : ∀ row, (f row).tenure = ⟨none, row.claimFence, none⟩)
    (h : t.monitorState = Table.updateWhere (MonitorRow.isClaim claim) f s.monitorState) :
    Move (monitorTenure connectionId s) none (monitorTenure connectionId t) := by
  unfold monitorTenure
  rw [h]
  exact move_of_vacating (fun row _ _ => hKey row) (fun row _ _ => hEnd row)

theorem claimInv_of_monitorEnd {claim : ClaimedAuthorizationMonitor} {f : MonitorRow → MonitorRow}
    (hInv : ClaimInv s) (hKey : ∀ row, (f row).connectionId = row.connectionId)
    (hMonitor : t.monitorState = Table.updateWhere (MonitorRow.isClaim claim) f s.monitorState)
    (hOutbox : t.cloudRefreshOutbox = s.cloudRefreshOutbox) : ClaimInv t where
  monitors := hMonitor ▸ hInv.monitors.updateWhere fun row _ _ => hKey row
  refreshes := hOutbox ▸ hInv.refreshes
  named := hOutbox ▸ hInv.named

end Monitor

section Refresh

variable {s t : AuthorizationStore} {operationId : UUID}

/-- A committed claim takes the selected row, which was claimable. -/
theorem claimRefresh_eq_ok {workerId : String} {now : Timestamp} {leaseSeconds : Nat}
    {claim : Option ClaimedCloudRefresh}
    (h : claimCloudRefresh workerId now leaseSeconds s = .ok (claim, t)) :
    (claim = none ∧ t = s) ∨ ∃ row ∈ s.cloudRefreshOutbox, row.claimable now = true ∧
      claim = some ⟨{ row.document with state := .running, updatedAt := now }, workerId,
        row.claimFence + 1, now + seconds leaseSeconds⟩ ∧
      t.connections = s.connections ∧ t.monitorState = s.monitorState ∧
      t.cloudRefreshOutbox = Table.updateWhere
        (fun other => other.operationId == row.operationId)
        (fun other => { other with
          state := .running
          attempts := other.attempts + 1
          claimOwner := some workerId
          claimFence := row.claimFence + 1
          leaseExpiresAt := some (now + seconds leaseSeconds)
          document := { row.document with state := .running, updatedAt := now } })
        s.cloudRefreshOutbox := by
  unfold claimCloudRefresh at h
  obtain ⟨_, _, hWorker, hBody⟩ := bind_eq_ok.mp h
  obtain ⟨_, rfl⟩ := require_eq_ok.mp hWorker
  rw [fetch_bind] at hBody
  cases hFirst : Table.firstBy CloudOutboxRow.sooner
      (s.cloudRefreshOutbox.filter (CloudOutboxRow.claimable now)) with
  | none =>
      rw [hFirst] at hBody
      cases hBody
      exact Or.inl ⟨rfl, rfl⟩
  | some row =>
      right
      simp only [hFirst] at hBody
      rw [store_bind] at hBody
      obtain ⟨_, u, hPersist, hPure⟩ := bind_eq_ok.mp hBody
      cases hPersist
      cases hPure
      obtain ⟨hRow, hClaimable⟩ := List.mem_filter.mp (Table.mem_of_firstBy hFirst)
      exact ⟨row, hRow, hClaimable, rfl, rfl, rfl, rfl⟩

/-- The operation's claim in a single answer. -/
def singleGrant (operationId : UUID) (now : Timestamp) (claim : Option ClaimedCloudRefresh) :
    Option (Grant String Timestamp) :=
  claim.bind fun claim =>
    if claim.operation.id = operationId then some ⟨claim.workerId, claim.claimFence, now⟩
    else none

theorem refresh_move_of_claim {workerId : String} {now : Timestamp} {leaseSeconds : Nat}
    {claim : Option ClaimedCloudRefresh} (hInv : ClaimInv s)
    (h : claimCloudRefresh workerId now leaseSeconds s = .ok (claim, t)) :
    Move (refreshTenure operationId s) (singleGrant operationId now claim)
      (refreshTenure operationId t) := by
  obtain ⟨rfl, rfl⟩ | ⟨row, hRow, hClaimable, rfl, _, _, hOutbox⟩ := claimRefresh_eq_ok h
  · exact Move.keep
  simp only [CloudOutboxRow.claimable, Bool.and_eq_true] at hClaimable
  have hMove : Move (refreshTenure operationId s)
      (if row.operationId = operationId then
        some ⟨workerId, row.tenure.fence + 1, now⟩ else none) (refreshTenure operationId t) := by
    unfold refreshTenure
    rw [hOutbox]
    exact move_of_granting hInv.refreshes hRow (fun _ _ => rfl) rfl
      (leaseOver_iff.mp hClaimable.2) rfl
  rw [← hInv.named row hRow] at hMove
  exact hMove

theorem claimInv_of_claimRefresh {workerId : String} {now : Timestamp} {leaseSeconds : Nat}
    {claim : Option ClaimedCloudRefresh} (hInv : ClaimInv s)
    (h : claimCloudRefresh workerId now leaseSeconds s = .ok (claim, t)) : ClaimInv t := by
  obtain ⟨_, rfl⟩ | ⟨row, hRow, _, _, _, hMonitor, hOutbox⟩ := claimRefresh_eq_ok h
  · exact hInv
  refine ⟨hMonitor ▸ hInv.monitors, ?_, ?_⟩
  · rw [hOutbox]
    exact hInv.refreshes.updateWhere fun _ _ _ => rfl
  · rw [hOutbox]
    intro other hOther
    obtain ⟨old, hOld, ⟨hSelected, rfl⟩ | ⟨_, rfl⟩⟩ := Table.mem_updateWhere.mp hOther
    · exact (hInv.named row hRow).trans (beq_iff_eq.mp hSelected).symm
    · exact hInv.named _ hOld

/-- The claim of a committed completion was in force, and it ends. -/
theorem completeRefresh_eq_ok {sha256 : String → String} {claim : ClaimedCloudRefresh}
    {observations : List CloudResourceRecord} {state : CloudRefreshState} {now : Timestamp}
    {result : Option JsonObject} {emailRecipientRef : Option String}
    {draw : Nat → NotificationDraws}
    {answer : CloudRefreshOperation × List IntegrationNotification}
    (h : completeCloudRefresh sha256 claim observations state now result emailRecipientRef draw s =
      .ok (answer, t)) :
    (∃ row ∈ s.cloudRefreshOutbox, row.operationId = claim.operation.id ∧
      row.tenure.Holds claim.workerId claim.claimFence now) ∧
    t.connections = s.connections ∧ t.monitorState = s.monitorState ∧
    t.cloudRefreshOutbox = Table.updateWhere (CloudOutboxRow.isClaim claim)
      (fun row => { row with
        state := state
        claimOwner := none
        leaseExpiresAt := none
        document := { claim.operation with state := state, updatedAt := now, result := result } })
      s.cloudRefreshOutbox ∧
    ∃ connection saved u, findConnection claim.operation.connectionId claim.operation.scope
        s.connections = some connection ∧
      storeObservations sha256 connection emailRecipientRef now draw observations s =
        .ok (saved, u) ∧ t.notifications = u.notifications := by
  unfold completeCloudRefresh at h
  obtain ⟨_, _, hState, hBody⟩ := bind_eq_ok.mp h
  obtain ⟨_, rfl⟩ := require_eq_ok.mp hState
  obtain ⟨_, _, hEmpty, hNext⟩ := bind_eq_ok.mp hBody
  obtain ⟨_, rfl⟩ := require_eq_ok.mp hEmpty
  rw [fetch_bind] at hNext
  obtain ⟨_, _, hLease, hRest⟩ := bind_eq_ok.mp hNext
  obtain ⟨hHeld, rfl⟩ := require_eq_ok.mp hLease
  cases hFound : findConnection claim.operation.connectionId claim.operation.scope
      s.connections with
  | none =>
      simp only [id, hFound] at hRest
      cases hRest
  | some connection =>
      simp only [id, hFound] at hRest
      obtain ⟨saved, u, hStored, hWrites⟩ := bind_eq_ok.mp hRest
      rw [store_bind] at hWrites
      obtain ⟨_, v, hPersist, hPure⟩ := bind_eq_ok.mp hWrites
      cases hPersist
      cases hPure
      have hFrame := Respects.reportFrame
        (storeObservations_reports (fun _ _ _ => trivial) _ _ _) hStored
      refine ⟨?_, hFrame.connections, hFrame.monitorState, ?_, connection, saved, u, rfl, hStored,
        rfl⟩
      · obtain ⟨row, hRow, hMatch⟩ := List.any_eq_true.mp hHeld
        simp only [Bool.and_eq_true, beq_iff_eq] at hMatch
        exact ⟨row, hRow, hMatch.1, holdsLease_iff.mp hMatch.2⟩
      · rw [← hFrame.outbox]

theorem releaseRefresh_eq_ok {claim : ClaimedCloudRefresh} {now : Timestamp}
    {retryDelaySeconds : Nat} {operation : CloudRefreshOperation}
    (h : releaseCloudRefreshClaim claim now retryDelaySeconds s = .ok (operation, t)) :
    t.connections = s.connections ∧ t.monitorState = s.monitorState ∧
    t.cloudRefreshOutbox = Table.updateWhere (CloudOutboxRow.isClaim claim)
      (fun row => { row with
        state := .queued
        claimOwner := none
        leaseExpiresAt := none
        availableAt := now + seconds retryDelaySeconds
        document := { claim.operation with state := .queued, updatedAt := now } })
      s.cloudRefreshOutbox := by
  unfold releaseCloudRefreshClaim at h
  obtain ⟨_, _, hDelay, hBody⟩ := bind_eq_ok.mp h
  obtain ⟨_, rfl⟩ := require_eq_ok.mp hDelay
  rw [fetch_bind] at hBody
  obtain ⟨_, _, hClaim, hEnd⟩ := bind_eq_ok.mp hBody
  obtain ⟨_, rfl⟩ := require_eq_ok.mp hClaim
  rw [store_bind] at hEnd
  obtain ⟨_, v, hPersist, hPure⟩ := bind_eq_ok.mp hEnd
  cases hPersist
  cases hPure
  exact ⟨rfl, rfl, rfl⟩

/-- An enqueued refresh is a repeated one or a new free row. -/
theorem enqueueRefresh_eq_ok {sha256 : String → String} {principal : IntegrationPrincipal}
    {connectionId : UUID} {idempotencyKey : String} {now moment : Timestamp} {draw : UUID}
    {operation : CloudRefreshOperation}
    (h : enqueueCloudRefresh sha256 principal connectionId idempotencyKey now moment draw s =
      .ok (operation, t)) :
    t = s ∨ (t.connections = s.connections ∧ t.monitorState = s.monitorState ∧
      (∀ row ∈ s.cloudRefreshOutbox, row.operationId ≠ draw) ∧ operation.id = draw ∧
      t.cloudRefreshOutbox = s.cloudRefreshOutbox ++ [{
        operationId := draw
        state := .queued
        availableAt := moment
        document := operation }]) := by
  unfold enqueueCloudRefresh at h
  obtain ⟨_, _, hGrant, hBody⟩ := bind_eq_ok.mp h
  rw [requireOperation_eq_ok hGrant] at hBody
  obtain ⟨_, _, hKey, hNext⟩ := bind_eq_ok.mp hBody
  obtain ⟨_, rfl⟩ := require_eq_ok.mp hKey
  rw [fetch_bind] at hNext
  cases hFound : s.connections.find? (fun connection =>
      connection.id == connectionId && connection.scope == principal.scope) with
  | none =>
      rw [hFound] at hNext
      cases hNext
  | some connection =>
      simp only [hFound] at hNext
      obtain ⟨_, _, hCloud, hRest⟩ := bind_eq_ok.mp hNext
      obtain ⟨_, rfl⟩ := require_eq_ok.mp hCloud
      obtain ⟨_, _, hTarget, hSelect⟩ := bind_eq_ok.mp hRest
      obtain ⟨_, rfl⟩ := require_eq_ok.mp hTarget
      rw [fetch_bind] at hSelect
      cases hExisting : s.cloudRefreshOperations.find? (fun row =>
          row.scope == principal.scope && row.connectionId == connectionId &&
            row.idempotencyKey == idempotencyKey) with
      | some row =>
          left
          simp only [hExisting] at hSelect
          obtain ⟨_, _, hHash, hPure⟩ := bind_eq_ok.mp hSelect
          obtain ⟨_, rfl⟩ := require_eq_ok.mp hHash
          cases hPure
          rfl
      | none =>
          right
          simp only [hExisting] at hSelect
          rw [fetch_bind] at hSelect
          obtain ⟨_, _, hFresh, hInsert⟩ := bind_eq_ok.mp hSelect
          obtain ⟨hNew, rfl⟩ := require_eq_ok.mp hFresh
          rw [store_bind] at hInsert
          cases hInsert
          refine ⟨rfl, rfl, ?_, rfl, rfl⟩
          simp only [Bool.and_eq_true, Bool.not_eq_true', id, List.any_eq_false, beq_iff_eq]
            at hNew
          exact hNew.2

end Refresh

/-- What a committed call does to both kinds of claims. -/
structure ClaimsMove (e : AuthorizationEvent) : Prop where
  inv : ClaimInv e.after
  monitor : ∀ connectionId, Move (monitorTenure connectionId e.before)
    (monitorGrant connectionId e) (monitorTenure connectionId e.after)
  refresh : ∀ operationId, Move (refreshTenure operationId e.before)
    (refreshGrant operationId e) (refreshTenure operationId e.after)

section Calls

variable {sha256 : String → String} {s t : AuthorizationStore} {call : AuthorizationCall}
  {output : Except AuthorizationError AuthorizationAnswer}

/-- A call that hands out no claim and writes neither table of claims. -/
theorem claimsMove_of_same (hInv : ClaimInv s) (hMonitor : t.monitorState = s.monitorState)
    (hOutbox : t.cloudRefreshOutbox = s.cloudRefreshOutbox)
    (hNoCheck : ∀ connectionId, monitorGrant connectionId ⟨s, call, output, t⟩ = none)
    (hNoRefresh : ∀ operationId, refreshGrant operationId ⟨s, call, output, t⟩ = none) :
    ClaimsMove ⟨s, call, output, t⟩ where
  inv := ⟨hMonitor ▸ hInv.monitors, hOutbox ▸ hInv.refreshes, hOutbox ▸ hInv.named⟩
  monitor connectionId := by
    rw [hNoCheck, monitorTenure, monitorTenure, hMonitor]
    exact Move.keep
  refresh operationId := by
    rw [hNoRefresh, refreshTenure, refreshTenure, hOutbox]
    exact Move.keep

/-- A call that ends the claims of one monitor row, if any. -/
theorem claimsMove_of_monitorEnd {claim : ClaimedAuthorizationMonitor}
    {f : MonitorRow → MonitorRow} (hInv : ClaimInv s)
    (hMonitor : t.monitorState = Table.updateWhere (MonitorRow.isClaim claim) f s.monitorState)
    (hOutbox : t.cloudRefreshOutbox = s.cloudRefreshOutbox)
    (hKey : ∀ row, (f row).connectionId = row.connectionId)
    (hEnd : ∀ row, (f row).tenure = ⟨none, row.claimFence, none⟩)
    (hNoCheck : ∀ connectionId, monitorGrant connectionId ⟨s, call, output, t⟩ = none)
    (hNoRefresh : ∀ operationId, refreshGrant operationId ⟨s, call, output, t⟩ = none) :
    ClaimsMove ⟨s, call, output, t⟩ where
  inv := claimInv_of_monitorEnd hInv hKey hMonitor hOutbox
  monitor connectionId := by
    rw [hNoCheck]
    exact monitor_move_of_end hKey hEnd hMonitor
  refresh operationId := by
    rw [hNoRefresh, refreshTenure, refreshTenure, hOutbox]
    exact Move.keep

/-- A call that ends the claims of one refresh row, if any. -/
theorem claimsMove_of_refreshEnd {claim : ClaimedCloudRefresh}
    {f : CloudOutboxRow → CloudOutboxRow} (hInv : ClaimInv s)
    (hMonitor : t.monitorState = s.monitorState)
    (hOutbox : t.cloudRefreshOutbox =
      Table.updateWhere (CloudOutboxRow.isClaim claim) f s.cloudRefreshOutbox)
    (hKey : ∀ row, (f row).operationId = row.operationId)
    (hName : ∀ row, (f row).document.id = claim.operation.id)
    (hEnd : ∀ row, (f row).tenure = ⟨none, row.claimFence, none⟩)
    (hNoCheck : ∀ connectionId, monitorGrant connectionId ⟨s, call, output, t⟩ = none)
    (hNoRefresh : ∀ operationId, refreshGrant operationId ⟨s, call, output, t⟩ = none) :
    ClaimsMove ⟨s, call, output, t⟩ where
  inv := by
    refine ⟨hMonitor ▸ hInv.monitors, hOutbox ▸ hInv.refreshes.updateWhere fun row _ _ => hKey row,
      ?_⟩
    show ∀ row ∈ t.cloudRefreshOutbox, row.document.id = row.operationId
    rw [hOutbox]
    intro row hRow
    obtain ⟨old, hOld, ⟨hSelected, rfl⟩ | ⟨_, rfl⟩⟩ := Table.mem_updateWhere.mp hRow
    · simp only [CloudOutboxRow.isClaim, Bool.and_eq_true, beq_iff_eq] at hSelected
      rw [hName, hKey, hSelected.1.1]
    · exact hInv.named _ hOld
  monitor connectionId := by
    rw [hNoCheck, monitorTenure, monitorTenure, hMonitor]
    exact Move.keep
  refresh operationId := by
    rw [hNoRefresh, refreshTenure, refreshTenure, hOutbox]
    exact move_of_vacating (fun row _ _ => hKey row) (fun row _ _ => hEnd row)

/-- A new operation is queued beside the claimed ones, and nobody holds it. -/
theorem enqueueRefresh_moves {principal : IntegrationPrincipal} {connectionId : UUID}
    {idempotencyKey : String} {now moment : Timestamp} {draw : UUID}
    {operation : CloudRefreshOperation} (hInv : ClaimInv s)
    (h : enqueueCloudRefresh sha256 principal connectionId idempotencyKey now moment draw s =
      .ok (operation, t)) :
    ClaimsMove ⟨s, .enqueueRefresh principal connectionId idempotencyKey now moment draw,
      .ok (.refresh operation), t⟩ := by
  obtain rfl | ⟨_, hMonitor, hFresh, hDraw, hOutbox⟩ := enqueueRefresh_eq_ok h
  · exact claimsMove_of_same hInv rfl rfl (fun _ => rfl) fun _ => rfl
  · refine ⟨⟨hMonitor ▸ hInv.monitors, ?_, ?_⟩, ?_, ?_⟩
    · rw [hOutbox]
      exact hInv.refreshes.append_singleton hFresh
    · rw [hOutbox]
      intro row hRow
      rcases List.mem_append.mp hRow with hRow | hRow
      · exact hInv.named row hRow
      · rw [List.mem_singleton.mp hRow]
        exact hDraw
    · intro id
      show Move (monitorTenure id s) none _
      unfold monitorTenure
      rw [hMonitor]
      exact Move.keep
    · intro id
      have hFree : CloudOutboxRow.tenure ⟨draw, .queued, 0, moment, none, 0, none, operation⟩ =
        {} := rfl
      show Move (refreshTenure id s) none _
      unfold refreshTenure
      rw [hOutbox, tenureOf_append hFree]
      exact Move.keep

/-- Every committed call moves the claims as its answer says. -/
theorem call_moves {answer : AuthorizationAnswer} (hInv : ClaimInv s)
    (h : call.body sha256 s = .ok (answer, t)) : ClaimsMove ⟨s, call, .ok answer, t⟩ := by
  cases call with
  | createConnection connection =>
      obtain ⟨_, _, hBody, hPure⟩ := bind_eq_ok.mp h
      cases hPure
      unfold insertProviderConnection at hBody
      rw [fetch_bind] at hBody
      obtain ⟨_, _, hFresh, hStore⟩ := bind_eq_ok.mp hBody
      obtain ⟨_, rfl⟩ := require_eq_ok.mp hFresh
      cases hStore
      exact claimsMove_of_same hInv rfl rfl (fun _ => rfl) fun _ => rfl
  | claimChecks workerId now leaseSeconds limit =>
      obtain ⟨claims, _, hBody, hPure⟩ := bind_eq_ok.mp h
      cases hPure
      refine ⟨?_, fun connectionId => monitor_move_of_claim hInv hBody, ?_⟩
      · obtain ⟨selected, _, _, rfl⟩ := claimChecks_eq_ok hBody
        have unique := seedMonitors_unique s.connections hInv.monitors
        exact ⟨unique.updateWhere fun _ _ _ => rfl, hInv.refreshes, hInv.named⟩
      · obtain ⟨selected, _, _, rfl⟩ := claimChecks_eq_ok hBody
        intro operationId
        exact Move.keep
  | completeCheck claim health notifications now intervalSeconds emailRecipientRef draw =>
      obtain ⟨events, _, hBody, hPure⟩ := bind_eq_ok.mp h
      cases hPure
      obtain ⟨_, _, _, _, _, _, _, hFrame, rfl⟩ := completeCheck_eq_ok hBody
      exact claimsMove_of_monitorEnd hInv rfl hFrame.outbox (fun _ => rfl) (fun _ => rfl)
        (fun _ => rfl) fun _ => rfl
  | releaseCheck claim now retryDelaySeconds =>
      obtain ⟨_, _, hBody, hPure⟩ := bind_eq_ok.mp h
      cases hPure
      obtain rfl := releaseCheck_eq_ok hBody
      exact claimsMove_of_monitorEnd hInv rfl rfl (fun _ => rfl) (fun _ => rfl) (fun _ => rfl)
        fun _ => rfl
  | acknowledge principal notificationId idempotencyKey now moment =>
      obtain ⟨_, _, hBody, hPure⟩ := bind_eq_ok.mp h
      cases hPure
      have hFrame := Respects.reportFrame (acknowledgeNotification_reports _ _ _ _ _ _) hBody
      exact claimsMove_of_same hInv hFrame.monitorState hFrame.outbox (fun _ => rfl) fun _ => rfl
  | enqueueRefresh principal connectionId idempotencyKey now moment draw =>
      obtain ⟨operation, _, hBody, hPure⟩ := bind_eq_ok.mp h
      cases hPure
      exact enqueueRefresh_moves hInv hBody
  | claimRefresh workerId now leaseSeconds =>
      obtain ⟨claim, _, hBody, hPure⟩ := bind_eq_ok.mp h
      cases hPure
      refine ⟨claimInv_of_claimRefresh hInv hBody, ?_, ?_⟩
      · intro connectionId
        have hMonitor : t.monitorState = s.monitorState := by
          obtain ⟨_, rfl⟩ | ⟨_, _, _, _, _, hMonitor, _⟩ := claimRefresh_eq_ok hBody
          · rfl
          · exact hMonitor
        show Move (monitorTenure connectionId s) none _
        unfold monitorTenure
        rw [hMonitor]
        exact Move.keep
      · intro operationId
        have hMove : Move (refreshTenure operationId s) (singleGrant operationId now claim)
            (refreshTenure operationId _) := refresh_move_of_claim hInv hBody
        cases claim <;> exact hMove
  | completeRefresh claim observations state now result emailRecipientRef draw =>
      obtain ⟨completed, _, hBody, hPure⟩ := bind_eq_ok.mp h
      cases hPure
      obtain ⟨_, _, hMonitor, hOutbox, _⟩ := completeRefresh_eq_ok hBody
      exact claimsMove_of_refreshEnd hInv hMonitor hOutbox (fun _ => rfl) (fun _ => rfl)
        (fun _ => rfl) (fun _ => rfl) fun _ => rfl
  | releaseRefresh claim now retryDelaySeconds =>
      obtain ⟨operation, _, hBody, hPure⟩ := bind_eq_ok.mp h
      cases hPure
      obtain ⟨_, hMonitor, hOutbox⟩ := releaseRefresh_eq_ok hBody
      exact claimsMove_of_refreshEnd hInv hMonitor hOutbox (fun _ => rfl) (fun _ => rfl)
        (fun _ => rfl) (fun _ => rfl) fun _ => rfl
  | claimEmail workerId now leaseSeconds =>
      obtain ⟨_, _, hBody, hPure⟩ := bind_eq_ok.mp h
      cases hPure
      have hFrame := Respects.reportFrame (claimEmailNotification_reports _ _ _) hBody
      exact claimsMove_of_same hInv hFrame.monitorState hFrame.outbox (fun _ => rfl) fun _ => rfl
  | requestDelivery principal notificationId recipientRef idempotencyKey now moment draw =>
      obtain ⟨_, _, hBody, hPure⟩ := bind_eq_ok.mp h
      cases hPure
      have hFrame :=
        Respects.reportFrame (requestNotificationEmailDelivery_reports _ _ _ _ _ _ _ _) hBody
      exact claimsMove_of_same hInv hFrame.monitorState hFrame.outbox (fun _ => rfl) fun _ => rfl
  | releaseEmail claim now retryDelaySeconds failureReasonCode =>
      obtain ⟨_, _, hBody, hPure⟩ := bind_eq_ok.mp h
      cases hPure
      have hFrame := Respects.reportFrame (releaseEmailClaim_reports _ _ _ _) hBody
      exact claimsMove_of_same hInv hFrame.monitorState hFrame.outbox (fun _ => rfl) fun _ => rfl
  | markSending jobId claimFence now =>
      obtain ⟨_, _, hBody, hPure⟩ := bind_eq_ok.mp h
      cases hPure
      have hFrame := Respects.reportFrame (markEmailSending_reports _ _ _) hBody
      exact claimsMove_of_same hInv hFrame.monitorState hFrame.outbox (fun _ => rfl) fun _ => rfl
  | finishEmail jobId claimFence status vendorReceiptRef deliveryConfirmed now draws =>
      obtain ⟨_, _, hBody, hPure⟩ := bind_eq_ok.mp h
      cases hPure
      have hFrame := Respects.reportFrame
        (finishEmailNotification_reports (fun _ _ => trivial) _ _ _ _ _ _ _) hBody
      exact claimsMove_of_same hInv hFrame.monitorState hFrame.outbox (fun _ => rfl) fun _ => rfl
  | releaseSend jobId claimFence now failureReasonCode retryDelaySeconds =>
      obtain ⟨_, _, hBody, hPure⟩ := bind_eq_ok.mp h
      cases hPure
      have hFrame := Respects.reportFrame (releaseEmailSendBeforeProvider_reports _ _ _ _ _) hBody
      exact claimsMove_of_same hInv hFrame.monitorState hFrame.outbox (fun _ => rfl) fun _ => rfl

/-- So does every call, committed or rolled back. -/
theorem step_moves (sha256 : String → String) (call : AuthorizationCall) (hInv : ClaimInv s) :
    ClaimsMove ⟨s, call, (authorizationStep sha256 call s).1,
      (authorizationStep sha256 call s).2⟩ := by
  unfold authorizationStep
  rcases commit_cases (call.body sha256) s with ⟨answer, t, hBody, hCommit⟩ | ⟨e, _, hCommit⟩
  · rw [hCommit]
    exact call_moves hInv hBody
  · rw [hCommit]
    refine claimsMove_of_same hInv rfl rfl ?_ ?_ <;> intro _ <;> cases call <;> rfl

/-- A completion commits under the claim in force, or leaves nothing behind. -/
theorem completeCheck_guarded (sha256 : String → String) {connectionId : UUID}
    {attempt : Grant String Timestamp} (hInv : ClaimInv s)
    (hAttempt : monitorAttempt connectionId call = some attempt) :
    ((∃ e, (authorizationStep sha256 call s).1 = .error e) ∧
        (authorizationStep sha256 call s).2 = s) ∨
      (monitorTenure connectionId s).Holds attempt.owner attempt.fence attempt.clock := by
  cases call with
  | completeCheck claim health notifications now intervalSeconds emailRecipientRef draw =>
      simp only [monitorAttempt, Option.ite_none_right_eq_some, Option.some.injEq] at hAttempt
      obtain ⟨rfl, rfl⟩ := hAttempt
      unfold authorizationStep
      rcases commit_cases (AuthorizationCall.body sha256 (.completeCheck claim health notifications
        now intervalSeconds emailRecipientRef draw)) s with ⟨answer, t, hBody, _⟩ | ⟨e, _, hCommit⟩
      · right
        obtain ⟨_, _, hComplete, _⟩ := bind_eq_ok.mp hBody
        obtain ⟨⟨row, hRow, hId, hHolds⟩, _⟩ := completeCheck_eq_ok hComplete
        unfold monitorTenure
        rw [← hId, tenureOf_eq_of_mem hInv.monitors hRow]
        exact hHolds
      · left
        rw [hCommit]
        exact ⟨⟨e, rfl⟩, rfl⟩
  | _ => cases hAttempt

theorem completeRefresh_guarded (sha256 : String → String) {operationId : UUID}
    {attempt : Grant String Timestamp} (hInv : ClaimInv s)
    (hAttempt : refreshAttempt operationId call = some attempt) :
    ((∃ e, (authorizationStep sha256 call s).1 = .error e) ∧
        (authorizationStep sha256 call s).2 = s) ∨
      (refreshTenure operationId s).Holds attempt.owner attempt.fence attempt.clock := by
  cases call with
  | completeRefresh claim observations state now result emailRecipientRef draw =>
      simp only [refreshAttempt, Option.ite_none_right_eq_some, Option.some.injEq] at hAttempt
      obtain ⟨rfl, rfl⟩ := hAttempt
      unfold authorizationStep
      rcases commit_cases (AuthorizationCall.body sha256 (.completeRefresh claim observations state
        now result emailRecipientRef draw)) s with ⟨answer, t, hBody, _⟩ | ⟨e, _, hCommit⟩
      · right
        obtain ⟨_, _, hComplete, _⟩ := bind_eq_ok.mp hBody
        obtain ⟨⟨row, hRow, hId, hHolds⟩, _⟩ := completeRefresh_eq_ok hComplete
        unfold refreshTenure
        rw [← hId, tenureOf_eq_of_mem hInv.refreshes hRow]
        exact hHolds
      · left
        rw [hCommit]
        exact ⟨⟨e, rfl⟩, rfl⟩
  | _ => cases hAttempt

theorem claims_preserved :
    Preserves (authorizationStep sha256) (fun _ _ => True) ClaimInv :=
  fun _ call hInv _ => (step_moves sha256 call hInv).inv

/-- Monitor claims and refresh claims are exclusive in every run of calls, by
any workers under any clocks. -/
theorem authorization_claims_are_exclusive (sha256 : String → String)
    (calls : List AuthorizationCall) :
    (∀ connectionId, Exclusive (authorizationStep sha256) (monitorTenure connectionId)
      (monitorGrant connectionId) (monitorAttempt connectionId) calls {}) ∧
    ∀ operationId, Exclusive (authorizationStep sha256) (refreshTenure operationId)
      (refreshGrant operationId) (refreshAttempt operationId) calls {} := by
  have hStart : ClaimInv {} := ⟨List.nodup_nil, List.nodup_nil, by simp⟩
  have hAdmitted : Admitted (authorizationStep sha256) (fun _ _ => True) calls {} :=
    admitted_of_forall (fun _ _ => trivial) calls _
  constructor
  · intro connectionId
    exact exclusive_of_moves claims_preserved
      (fun s call hInv _ => (step_moves sha256 call hInv).monitor connectionId)
      (fun s call attempt hInv _ => completeCheck_guarded sha256 hInv) hStart hAdmitted rfl
  · intro operationId
    exact exclusive_of_moves claims_preserved
      (fun s call hInv _ => (step_moves sha256 call hInv).refresh operationId)
      (fun s call attempt hInv _ => completeRefresh_guarded sha256 hInv) hStart hAdmitted rfl

end Calls

end CyreneExchange.Integrations
