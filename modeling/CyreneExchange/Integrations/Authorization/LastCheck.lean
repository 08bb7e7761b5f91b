import CyreneExchange.General.OrderBy
import CyreneExchange.Integrations.Authorization.Outages

/-! Which stored check a reader takes for the newest one, and which was completed
last. Health facts are read by the time that they carry. -/
namespace CyreneExchange.Integrations

open Machine Transaction

section Reads

/-- `latest_authorization_health`: `clock` is the time the grant is checked at. -/
def latestAuthorizationHealth (principal : IntegrationPrincipal) (connectionId : UUID)
    (authorizationOperationId : String) (clock : Timestamp) :
    AuthorizationTransaction (Option AuthorizationHealthRecord) := do
  requireOperation principal authorizationOperationId clock
  let found ← fetch fun s => s.connections.find? fun connection =>
    connection.id == connectionId && connection.scope == principal.scope
  match found with
  | none => reject (.notFound "integration connection not found")
  | some _ => do
      let row ← fetch fun s => Table.firstBy HealthRow.newer (s.authorizationObservations.filter
        fun row => row.connectionId == connectionId && row.scope == principal.scope)
      match row with
      | none => pure none
      | some row => do
          let health ← readHealth row.document
          pure (some health)

/-- `health is not None and (... == REAUTHORIZATION_REQUIRED or ... == MISSING)`. -/
def reauthorizationRequired (health : Option AuthorizationHealthRecord) : Bool :=
  health.any fun health =>
    health.authorizationState == .reauthorizationRequired || health.loginState == .missing

/-- `latest_health is not None and ... == REAUTHORIZATION_REQUIRED`. -/
def refreshRefused (health : Option AuthorizationHealthRecord) : Bool :=
  health.any fun health => health.authorizationState == .reauthorizationRequired

/-- The gate before the resources of a connection are listed or refreshed. -/
def reauthorizationGate (principal : IntegrationPrincipal) (connectionId : UUID)
    (authorizationOperationId : String) (clock : Timestamp) : AuthorizationTransaction Bool := do
  let health ← latestAuthorizationHealth principal connectionId authorizationOperationId clock
  pure (reauthorizationRequired health)

/-- The gate of a refresh that a worker has claimed. -/
def refreshGate (connection : ProviderConnection) : AuthorizationTransaction Bool := do
  let health ← latestAuthorizationHealthForConnection connection
  pure (refreshRefused health)

/-- What the next check compares its observation with. -/
def checkTransition (claim : ClaimedAuthorizationMonitor) (current : AuthorizationHealthRecord) :
    AuthorizationTransaction Bool := do
  let previous ← latestAuthorizationHealthForMonitor claim
  pure (startsOutage previous current)

end Reads

section Governs

/-- All three reads of a connection's health return this record. -/
structure Governs (last : AuthorizationHealthRecord) (connection : ProviderConnection)
    (s : AuthorizationStore) : Prop where
  owner : ∀ principal operationId clock, principal.scope = connection.scope →
    requireOperation principal operationId clock s = .ok ((), s) →
      latestAuthorizationHealth principal connection.id operationId clock s = .ok (some last, s)
  refresh : latestAuthorizationHealthForConnection connection s = .ok (some last, s)
  monitor : ∀ claim, claim.connection = connection →
    latestAuthorizationHealthForMonitor claim s = .ok (some last, s)

/-- What is decided on the connection's health is decided on this record. -/
structure Decides (last : AuthorizationHealthRecord) (connection : ProviderConnection)
    (s : AuthorizationStore) : Prop where
  gate : ∀ principal operationId clock, principal.scope = connection.scope →
    requireOperation principal operationId clock s = .ok ((), s) →
      reauthorizationGate principal connection.id operationId clock s =
        .ok (reauthorizationRequired (some last), s)
  refresh : refreshGate connection s = .ok (refreshRefused (some last), s)
  transition : ∀ claim current, claim.connection = connection →
    checkTransition claim current s = .ok (startsOutage (some last) current, s)

/-- The health that this call completed a check of the connection with. -/
def completedHealth (connection : ProviderConnection)
    (e : Event AuthorizationStore AuthorizationCall (Except AuthorizationError AuthorizationAnswer)) :
    Option AuthorizationHealthRecord :=
  match e.input, e.output with
  | .completeCheck _ health .., .ok _ =>
      if health.connectionId = connection.id ∧ health.scope = connection.scope then some health
      else none
  | _, _ => none

/-- Every check of the connection that a run completes, oldest first. -/
def completedHealths (sha256 : String → String) (connection : ProviderConnection)
    (calls : List AuthorizationCall) : List AuthorizationHealthRecord :=
  (trace (authorizationStep sha256) calls {}).filterMap (completedHealth connection)

/-- This record comes after another: by the time it carries, then by its identifier. -/
def AuthorizationHealthRecord.supersedes (later earlier : AuthorizationHealthRecord) : Prop :=
  ∃ time known, later.checkedAt.utc = some time ∧ earlier.checkedAt.utc = some known ∧
    (known < time ∨ time = known ∧ earlier.id.text < later.id.text)

/-- A health that a check is completed with is one that its model admits. -/
def AuthorizationCall.Typed : AuthorizationCall → Prop
  | .completeCheck _ health .. => health.valid = true
  | _ => True

variable {last : AuthorizationHealthRecord} {connection : ProviderConnection}
  {s : AuthorizationStore}

theorem Governs.decides (h : Governs last connection s) : Decides last connection s := by
  refine ⟨?_, bind_of_ok h.refresh, ?_⟩
  · intro principal operationId clock hScope hGrant
    exact bind_of_ok (h.owner principal operationId clock hScope hGrant)
  · intro claim current hClaim
    exact bind_of_ok (h.monitor claim hClaim)

end Governs

section Stored

/-- The row of a health record. -/
def healthRow (health : AuthorizationHealthRecord) (checkedAt : Timestamp) : HealthRow where
  id := health.id
  scope := health.scope
  connectionId := health.connectionId
  authorizationRef := health.authorizationRef
  checkedAt := checkedAt
  generation := health.generation
  document := health

/-- Every stored fact is the row of an admitted record about a stored connection. -/
structure AuthorizationStore.FactsStored (s : AuthorizationStore) : Prop where
  unique : Table.KeysUnique HealthRow.id s.authorizationObservations
  rows : ∀ row ∈ s.authorizationObservations, row.document.valid = true ∧
    ∃ checkedAt, row.document.checkedAt.utc = some checkedAt ∧
      row = healthRow row.document checkedAt
  connections : ∀ row ∈ s.authorizationObservations, ∃ connection ∈ s.connections,
    connection.id = row.connectionId ∧ connection.scope = row.scope

/-- The facts about a connection, oldest first. -/
def AuthorizationStore.factsOf (s : AuthorizationStore) (connection : ProviderConnection) :
    List HealthRow :=
  s.authorizationObservations.filter fun row =>
    row.connectionId == connection.id && row.scope == connection.scope

variable {s t : AuthorizationStore} {health : AuthorizationHealthRecord}

theorem insertHealth_row {u : Unit} (h : insertHealth health s = .ok (u, t)) :
    ∃ checkedAt, health.checkedAt.utc = some checkedAt ∧
      (∀ row ∈ s.authorizationObservations, row.id ≠ health.id) ∧
      t = { s with authorizationObservations :=
        s.authorizationObservations ++ [healthRow health checkedAt] } := by
  unfold insertHealth at h
  cases hChecked : health.checkedAt.utc with
  | none =>
      simp only [hChecked] at h
      cases h
  | some checkedAt =>
      simp only [hChecked] at h
      obtain ⟨_, _, hFits, hRest⟩ := bind_eq_ok.mp h
      obtain ⟨_, rfl⟩ := require_eq_ok.mp hFits
      rw [fetch_bind] at hRest
      obtain ⟨_, _, hFresh, hStore⟩ := bind_eq_ok.mp hRest
      obtain ⟨hNew, rfl⟩ := require_eq_ok.mp hFresh
      cases hStore
      refine ⟨checkedAt, rfl, ?_, rfl⟩
      simpa using hNew

/-- A completed check adds its record, and nothing else, to the facts. -/
theorem completeCheck_facts {claim : ClaimedAuthorizationMonitor}
    {drafts : List IntegrationNotificationDraft} {now : Timestamp} {intervalSeconds : Nat}
    {emailRecipientRef : Option String} {draw : Nat → NotificationDraws}
    {events : List IntegrationNotification}
    (h : completeAuthorizationCheck claim health drafts now intervalSeconds emailRecipientRef
      draw s = .ok (events, t)) :
    ∃ checkedAt, health.checkedAt.utc = some checkedAt ∧
      (∀ row ∈ s.authorizationObservations, row.id ≠ health.id) ∧
      t.authorizationObservations =
        s.authorizationObservations ++ [healthRow health checkedAt] ∧
      t.connections = s.connections ∧
      ∃ connection ∈ s.connections,
        connection.id = health.connectionId ∧ connection.scope = health.scope := by
  obtain ⟨_, ⟨hConnection, hScope⟩, u, v, saved, hHealth, hSaved, hFrame, rfl⟩ :=
    completeCheck_eq_ok h
  obtain ⟨checkedAt, hChecked, hFresh, rfl⟩ := insertHealth_row hHealth
  have hGrown := (insertNotifications_reports (p := fun _ => True) (q := fun _ => False)
    (fun _ _ => trivial) emailRecipientRef now draw hSaved).healths
  obtain ⟨added, hAdded, hNone⟩ := hGrown
  have hSame : added = [] := List.eq_nil_iff_forall_not_mem.mpr fun row hRow => hNone row hRow
  rw [hSame, List.append_nil] at hAdded
  refine ⟨checkedAt, hChecked, hFresh, hAdded, hFrame.connections, ?_⟩
  unfold completeAuthorizationCheck at h
  obtain ⟨_, _, hInterval, hBody⟩ := bind_eq_ok.mp h
  obtain ⟨_, rfl⟩ := require_eq_ok.mp hInterval
  obtain ⟨_, _, hOwner, hNext⟩ := bind_eq_ok.mp hBody
  obtain ⟨_, rfl⟩ := require_eq_ok.mp hOwner
  rw [fetch_bind] at hNext
  obtain ⟨_, _, hLease, hRest⟩ := bind_eq_ok.mp hNext
  obtain ⟨_, rfl⟩ := require_eq_ok.mp hLease
  obtain ⟨_, _, hFound, -⟩ := bind_eq_ok.mp hRest
  obtain ⟨hStored, -⟩ := require_eq_ok.mp hFound
  obtain ⟨connection, hFind⟩ := Option.isSome_iff_exists.mp hStored
  have hMatch := List.find?_some hFind
  simp only [Bool.and_eq_true, beq_iff_eq] at hMatch
  exact ⟨connection, List.mem_of_find?_eq_some hFind, hMatch.1.1.trans hConnection.symm,
    hMatch.1.2.trans hScope.symm⟩

/-- No call takes a connection away. -/
theorem call_connections {sha256 : String → String} {call : AuthorizationCall}
    {answer : AuthorizationAnswer} (h : call.body sha256 s = .ok (answer, t)) :
    ∀ connection ∈ s.connections, connection ∈ t.connections := by
  have hSame : t.connections = s.connections →
      ∀ connection ∈ s.connections, connection ∈ t.connections :=
    fun hEq connection hMem => hEq ▸ hMem
  cases call with
  | createConnection connection =>
      obtain ⟨_, _, hBody, hPure⟩ := bind_eq_ok.mp h
      cases hPure
      unfold insertProviderConnection at hBody
      rw [fetch_bind] at hBody
      obtain ⟨_, _, hFresh, hStore⟩ := bind_eq_ok.mp hBody
      obtain ⟨_, rfl⟩ := require_eq_ok.mp hFresh
      cases hStore
      exact fun _ hMem => List.mem_append_left _ hMem
  | claimChecks workerId now leaseSeconds limit =>
      obtain ⟨_, _, hBody, hPure⟩ := bind_eq_ok.mp h
      cases hPure
      obtain ⟨_, _, _, rfl⟩ := claimChecks_eq_ok hBody
      exact hSame rfl
  | completeCheck claim health notifications now intervalSeconds emailRecipientRef draw =>
      obtain ⟨_, _, hBody, hPure⟩ := bind_eq_ok.mp h
      cases hPure
      obtain ⟨_, _, _, _, hConnections, _⟩ := completeCheck_facts hBody
      exact hSame hConnections
  | releaseCheck claim now retryDelaySeconds =>
      obtain ⟨_, _, hBody, hPure⟩ := bind_eq_ok.mp h
      cases hPure
      obtain rfl := releaseCheck_eq_ok hBody
      exact hSame rfl
  | acknowledge principal notificationId idempotencyKey now moment =>
      obtain ⟨_, _, hBody, hPure⟩ := bind_eq_ok.mp h
      cases hPure
      exact hSame (Respects.reportFrame
        (acknowledgeNotification_reports _ _ _ _ _ _) hBody).connections
  | enqueueRefresh principal connectionId idempotencyKey now moment draw =>
      obtain ⟨_, _, hBody, hPure⟩ := bind_eq_ok.mp h
      cases hPure
      obtain rfl | ⟨hConnections, _⟩ := enqueueRefresh_eq_ok hBody
      · exact hSame rfl
      · exact hSame hConnections
  | claimRefresh workerId now leaseSeconds =>
      obtain ⟨_, _, hBody, hPure⟩ := bind_eq_ok.mp h
      cases hPure
      obtain ⟨_, rfl⟩ | ⟨_, _, _, _, hConnections, _⟩ := claimRefresh_eq_ok hBody
      · exact hSame rfl
      · exact hSame hConnections
  | completeRefresh claim observations state now result emailRecipientRef draw =>
      obtain ⟨_, _, hBody, hPure⟩ := bind_eq_ok.mp h
      cases hPure
      obtain ⟨_, hConnections, _⟩ := completeRefresh_eq_ok hBody
      exact hSame hConnections
  | releaseRefresh claim now retryDelaySeconds =>
      obtain ⟨_, _, hBody, hPure⟩ := bind_eq_ok.mp h
      cases hPure
      exact hSame (releaseRefresh_eq_ok hBody).1
  | claimEmail workerId now leaseSeconds =>
      obtain ⟨_, _, hBody, hPure⟩ := bind_eq_ok.mp h
      cases hPure
      exact hSame (Respects.reportFrame (claimEmailNotification_reports _ _ _) hBody).connections
  | requestDelivery principal notificationId recipientRef idempotencyKey now moment draw =>
      obtain ⟨_, _, hBody, hPure⟩ := bind_eq_ok.mp h
      cases hPure
      exact hSame (Respects.reportFrame
        (requestNotificationEmailDelivery_reports _ _ _ _ _ _ _ _) hBody).connections
  | releaseEmail claim now retryDelaySeconds failureReasonCode =>
      obtain ⟨_, _, hBody, hPure⟩ := bind_eq_ok.mp h
      cases hPure
      exact hSame (Respects.reportFrame (releaseEmailClaim_reports _ _ _ _) hBody).connections
  | markSending jobId claimFence now =>
      obtain ⟨_, _, hBody, hPure⟩ := bind_eq_ok.mp h
      cases hPure
      exact hSame (Respects.reportFrame (markEmailSending_reports _ _ _) hBody).connections
  | finishEmail jobId claimFence status vendorReceiptRef deliveryConfirmed now draws =>
      obtain ⟨_, _, hBody, hPure⟩ := bind_eq_ok.mp h
      cases hPure
      exact hSame (Respects.reportFrame
        (finishEmailNotification_reports (fun _ _ => trivial) _ _ _ _ _ _ _) hBody).connections
  | releaseSend jobId claimFence now failureReasonCode retryDelaySeconds =>
      obtain ⟨_, _, hBody, hPure⟩ := bind_eq_ok.mp h
      cases hPure
      exact hSame (Respects.reportFrame
        (releaseEmailSendBeforeProvider_reports _ _ _ _ _) hBody).connections

end Stored

section Steps

variable {sha256 : String → String} {s t : AuthorizationStore} {connection : ProviderConnection}

/-- The facts are as they were, and the connections still there. -/
theorem AuthorizationStore.FactsStored.of_same (h : s.FactsStored)
    (hSame : t.authorizationObservations = s.authorizationObservations)
    (hKept : ∀ connection ∈ s.connections, connection ∈ t.connections) : t.FactsStored where
  unique := hSame ▸ h.unique
  rows := hSame ▸ h.rows
  connections row hRow := by
    rw [hSame] at hRow
    obtain ⟨found, hFound, hMatch⟩ := h.connections row hRow
    exact ⟨found, hKept found hFound, hMatch⟩

/-- A new fact of an admitted record about a stored connection. -/
theorem AuthorizationStore.FactsStored.append (h : s.FactsStored)
    {health : AuthorizationHealthRecord} {checkedAt : Timestamp} (hValid : health.valid = true)
    (hChecked : health.checkedAt.utc = some checkedAt)
    (hFresh : ∀ row ∈ s.authorizationObservations, row.id ≠ health.id)
    (hAdded : t.authorizationObservations =
      s.authorizationObservations ++ [healthRow health checkedAt])
    (hSame : t.connections = s.connections)
    (hStored : ∃ connection ∈ s.connections,
      connection.id = health.connectionId ∧ connection.scope = health.scope) : t.FactsStored where
  unique := by
    rw [hAdded]
    exact h.unique.append_singleton hFresh
  rows row hRow := by
    rw [hAdded] at hRow
    rcases List.mem_append.mp hRow with hOld | hNew
    · exact h.rows row hOld
    · rw [List.mem_singleton.mp hNew]
      exact ⟨hValid, checkedAt, hChecked, rfl⟩
  connections row hRow := by
    rw [hAdded] at hRow
    rw [hSame]
    rcases List.mem_append.mp hRow with hOld | hNew
    · exact h.connections row hOld
    · rw [List.mem_singleton.mp hNew]
      exact hStored

/-- A call leaves the facts about a connection alone, or completes a check of it and adds the
record of that. -/
structure FactsStep (connection : ProviderConnection) (s t : AuthorizationStore)
    (completed : Option AuthorizationHealthRecord) : Prop where
  stored : t.FactsStored
  facts : (completed = none ∧ t.factsOf connection = s.factsOf connection) ∨
    ∃ row, completed = some row.document ∧ row ∉ s.factsOf connection ∧
      t.factsOf connection = s.factsOf connection ++ [row]

theorem step_facts (call : AuthorizationCall) (hFacts : s.FactsStored) (hTyped : call.Typed) :
    FactsStep connection s (authorizationStep sha256 call s).2
      (completedHealth connection ⟨s, call, (authorizationStep sha256 call s).1,
        (authorizationStep sha256 call s).2⟩) := by
  unfold authorizationStep
  rcases commit_cases (call.body sha256) s with ⟨answer, t, hBody, hCommit⟩ | ⟨e, _, hCommit⟩
  · rw [hCommit]
    have hKept := call_connections hBody
    have hQuiet : (∀ row, ¬ call.mayObserve row) →
        t.FactsStored ∧ t.factsOf connection = s.factsOf connection := by
      intro hNever
      obtain ⟨added, hAdded, hMay⟩ := (call.body_announces sha256 hBody).healths
      have hNone : added = [] := List.eq_nil_iff_forall_not_mem.mpr fun row hRow =>
        hNever row (hMay row hRow)
      rw [hNone, List.append_nil] at hAdded
      exact ⟨hFacts.of_same hAdded hKept, congrArg (List.filter _) hAdded⟩
    cases call with
    | completeCheck claim health notifications now intervalSeconds emailRecipientRef draw =>
        obtain ⟨_, _, hCompleted, hPure⟩ := bind_eq_ok.mp hBody
        cases hPure
        obtain ⟨checkedAt, hChecked, hFresh, hAdded, hSame, hStored⟩ :=
          completeCheck_facts hCompleted
        refine ⟨hFacts.append hTyped hChecked hFresh hAdded hSame hStored, ?_⟩
        unfold AuthorizationStore.factsOf completedHealth
        rw [hAdded, List.filter_append, List.filter_singleton]
        by_cases hOf : health.connectionId = connection.id ∧ health.scope = connection.scope
        · refine Or.inr ⟨healthRow health checkedAt, if_pos hOf, ?_, ?_⟩
          · intro hMem
            exact hFresh _ (List.mem_filter.mp hMem).1 rfl
          · simp [healthRow, hOf.1, hOf.2]
        · refine Or.inl ⟨if_neg hOf, ?_⟩
          have hApart : ((healthRow health checkedAt).connectionId == connection.id &&
              (healthRow health checkedAt).scope == connection.scope) = false := by
            simpa [healthRow] using hOf
          simp [hApart]
    | _ =>
        obtain ⟨hStored, hSame⟩ := hQuiet fun _ => id
        exact ⟨hStored, Or.inl ⟨rfl, hSame⟩⟩
  · rw [hCommit]
    refine ⟨hFacts, Or.inl ⟨?_, rfl⟩⟩
    cases call <;> rfl

/-- The facts about a connection are what its checks were completed with. -/
theorem run_facts (calls : List AuthorizationCall) (hTyped : ∀ call ∈ calls, call.Typed) :
    (run (authorizationStep sha256) calls {}).FactsStored ∧
      ((run (authorizationStep sha256) calls {}).factsOf connection).map HealthRow.document =
        completedHealths sha256 connection calls := by
  induction calls using List.reverseRecOn with
  | nil => exact ⟨⟨List.nodup_nil, by simp [run], by simp [run]⟩, rfl⟩
  | append_singleton before call ih =>
      have hBefore : ∀ call ∈ before, call.Typed := fun other hOther =>
        hTyped other (List.mem_append_left _ hOther)
      obtain ⟨hFacts, hCompleted⟩ := ih hBefore
      have hStep := @step_facts sha256 _ connection call hFacts (hTyped call (by simp))
      rw [run_append]
      refine ⟨hStep.stored, ?_⟩
      rw [completedHealths, trace_append, List.filterMap_append, ← completedHealths, ← hCompleted]
      change List.map _ (AuthorizationStore.factsOf (authorizationStep sha256 call _).2 _) = _
      rw [trace, trace, List.filterMap_cons, List.filterMap_nil]
      rcases hStep.facts with ⟨hNone, hSame⟩ | ⟨row, hSome, -, hAdded⟩
      · rw [hNone, hSame, List.append_nil]
      · rw [hSome, hAdded, List.map_append]
        rfl

end Steps

section Newest

variable {sha256 : String → String} {s : AuthorizationStore} {connection : ProviderConnection}

/-- The order in which facts are read is the order of their records. -/
theorem AuthorizationStore.FactsStored.newer_iff (h : s.FactsStored) {later earlier : HealthRow}
    (hLater : later ∈ s.authorizationObservations)
    (hEarlier : earlier ∈ s.authorizationObservations) :
    later.newer earlier = true ↔ later.document.supersedes earlier.document := by
  obtain ⟨-, time, hTime, hRow⟩ := h.rows later hLater
  obtain ⟨-, known, hKnown, hRow'⟩ := h.rows earlier hEarlier
  rw [hRow, hRow']
  simp only [HealthRow.newer, healthRow, AuthorizationHealthRecord.supersedes, hTime, hKnown,
    Bool.or_eq_true, Bool.and_eq_true, beq_iff_eq, Option.some.injEq]
  constructor
  · intro hNewer
    exact ⟨time, known, rfl, rfl,
      hNewer.imp of_decide_eq_true (And.imp_right of_decide_eq_true)⟩
  · rintro ⟨_, _, rfl, rfl, hNewer⟩
    exact hNewer.imp decide_eq_true (And.imp_right decide_eq_true)

theorem latestAuthorizationHealthForConnection_eq (s : AuthorizationStore)
    (connection : ProviderConnection) :
    latestAuthorizationHealthForConnection connection s =
      match Table.firstBy HealthRow.newer (s.factsOf connection) with
      | none => .ok (none, s)
      | some row =>
          if row.document.valid then .ok (some row.document, s) else .error .documentInvalid := by
  unfold latestAuthorizationHealthForConnection latestHealth
  rw [fetch_bind]
  change (match Table.firstBy HealthRow.newer (s.factsOf connection) with
    | none => pure none
    | some row => do
        let health ← readHealth row.document
        pure (some health) : AuthorizationTransaction _) s = _
  cases Table.firstBy HealthRow.newer (s.factsOf connection) with
  | none => rfl
  | some row =>
      cases hValid : row.document.valid <;> simp [readHealth, bind_apply, require, hValid]

/-- The last record governs exactly when its row comes first. -/
theorem governs_iff (hFacts : s.FactsStored) :
    (∀ last, ((s.factsOf connection).map HealthRow.document).getLast? = some last →
      Governs last connection s) ↔
      Table.NewestLast HealthRow.newer (s.factsOf connection) := by
  have hMem : ∀ row ∈ s.factsOf connection, row ∈ s.authorizationObservations :=
    fun row hRow => (List.mem_filter.mp hRow).1
  rw [List.getLast?_map]
  unfold Table.NewestLast
  cases hLast : (s.factsOf connection).getLast? with
  | none =>
      have hNone := List.getLast?_eq_none_iff.mp hLast
      rw [hNone]
      simp [Table.firstBy]
  | some row =>
      have hRow := List.mem_of_getLast? hLast
      obtain ⟨hValid, -⟩ := hFacts.rows row (hMem row hRow)
      simp only [Option.map_some, Option.some.injEq, forall_eq']
      constructor
      · intro hGoverns
        have hRead := hGoverns.refresh
        rw [latestAuthorizationHealthForConnection_eq] at hRead
        cases hFirst : Table.firstBy HealthRow.newer (s.factsOf connection) with
        | none =>
            rw [hFirst] at hRead
            cases hRead
        | some found =>
            have hFound := Table.mem_of_firstBy hFirst
            obtain ⟨hFoundValid, _, -, hOwn⟩ := hFacts.rows found (hMem found hFound)
            obtain ⟨-, _, -, hOwn'⟩ := hFacts.rows row (hMem row hRow)
            simp only [hFirst, hFoundValid, if_true, Except.ok.injEq, Prod.mk.injEq,
              Option.some.injEq, and_true] at hRead
            have hId : found.id = row.id := by
              rw [hOwn, hOwn', hRead]
              rfl
            rw [hFacts.unique.eq (hMem found hFound) (hMem row hRow) hId]
      · intro hFirst
        have hRead : latestAuthorizationHealthForConnection connection s =
            .ok (some row.document, s) := by
          rw [latestAuthorizationHealthForConnection_eq, hFirst]
          simp [hValid]
        refine ⟨?_, hRead, ?_⟩
        · intro principal operationId clock hScope hGrant
          obtain ⟨found, hFound, hId, hOwner⟩ := hFacts.connections row (hMem row hRow)
          have hMatch := (List.mem_filter.mp hRow).2
          simp only [Bool.and_eq_true, beq_iff_eq] at hMatch
          have hStored : (s.connections.find? fun other =>
              other.id == connection.id && other.scope == principal.scope).isSome = true := by
            rw [List.find?_isSome]
            refine ⟨found, hFound, ?_⟩
            simp [hId, hOwner, hMatch, hScope]
          obtain ⟨stored, hFind⟩ := Option.isSome_iff_exists.mp hStored
          unfold latestAuthorizationHealth
          rw [bind_of_ok hGrant, fetch_bind, hFind]
          change latestAuthorizationHealthForConnection
            { connection with scope := principal.scope } s = _
          rw [hScope]
          exact hRead
        · rintro claim rfl
          exact hRead

/-- What holds of all beginnings of a longer list holds of those of the shorter one and of the
longer one itself. -/
theorem forall_beginning_concat {α : Type*} {P : List α → Prop} {items : List α} {item : α} :
    (∀ before after, items ++ [item] = before ++ after → P before) ↔
      (∀ before after, items = before ++ after → P before) ∧ P (items ++ [item]) := by
  constructor
  · intro h
    refine ⟨fun before after hSplit => ?_, h _ [] (List.append_nil _).symm⟩
    exact h before (after ++ [item]) (by rw [hSplit, List.append_assoc])
  · rintro ⟨hShorter, hWhole⟩ before after hSplit
    rcases List.eq_nil_or_concat after with rfl | ⟨rest, last, rfl⟩
    · rw [List.append_nil] at hSplit
      exact hSplit ▸ hWhole
    · rw [List.concat_eq_append, ← List.append_assoc] at hSplit
      exact hShorter before rest (List.append_inj_left' hSplit rfl)

/-- In every state of a run the last fact comes first exactly when each fact supersedes the one
before it. -/
theorem newestLast_iff (calls : List AuthorizationCall) (hTyped : ∀ call ∈ calls, call.Typed) :
    (∀ before after, calls = before ++ after → Table.NewestLast HealthRow.newer
      ((run (authorizationStep sha256) before {}).factsOf connection)) ↔
      (completedHealths sha256 connection calls).IsChain fun earlier later =>
        later.supersedes earlier := by
  induction calls using List.reverseRecOn with
  | nil =>
      refine iff_of_true ?_ .nil
      intro before after hSplit
      obtain ⟨rfl, -⟩ := List.append_eq_nil_iff.mp hSplit.symm
      exact Table.newestLast_nil
  | append_singleton known call ih =>
      have hKnown : ∀ call ∈ known, call.Typed := fun other hOther =>
        hTyped other (List.mem_append_left _ hOther)
      obtain ⟨hFacts, hCompleted⟩ := @run_facts sha256 connection known hKnown
      obtain ⟨hNext, hCompletedNext⟩ := @run_facts sha256 connection (known ++ [call]) hTyped
      have hStep := @step_facts sha256 _ connection call hFacts (hTyped call (by simp))
      have hRun : (authorizationStep sha256 call (run (authorizationStep sha256) known {})).2 =
          run (authorizationStep sha256) (known ++ [call]) {} := by
        rw [run_append]
        rfl
      rw [forall_beginning_concat, ih hKnown, ← hCompleted, ← hCompletedNext]
      have hLastKnown : List.IsChain (fun earlier later => later.supersedes earlier)
            (((run (authorizationStep sha256) known {}).factsOf connection).map
              HealthRow.document) →
          Table.NewestLast HealthRow.newer
            ((run (authorizationStep sha256) known {}).factsOf connection) := by
        rw [hCompleted, ← ih hKnown]
        exact fun h => h known [] (List.append_nil _).symm
      rcases hStep.facts with ⟨-, hSame⟩ | ⟨row, -, hNew, hAdded⟩
      · rw [hRun] at hSame
        rw [hSame]
        exact and_iff_left_of_imp hLastKnown
      · rw [hRun] at hAdded
        have hMem : ∀ other ∈ (run (authorizationStep sha256) known {}).factsOf connection ++ [row],
            other ∈ (run (authorizationStep sha256) (known ++ [call]) {}).authorizationObservations :=
          fun other hOther => (List.mem_filter.mp (hAdded ▸ hOther)).1
        rw [hAdded, List.map_append, List.isChain_append]
        refine and_congr_right fun hChain => ?_
        rw [Table.newestLast_concat hNew (hLastKnown hChain), List.getLast?_map]
        cases hLast : ((run (authorizationStep sha256) known {}).factsOf connection).getLast? with
        | none => simp
        | some last =>
            have hNewer := hNext.newer_iff (hMem row (by simp))
              (hMem last (List.mem_append_left _ (List.mem_of_getLast? hLast)))
            simpa using hNewer

end Newest

/-- In every run the last completed check of a connection governs in every state, and with it
the decisions on the connection, exactly when each of them supersedes the one before it. -/
theorem last_check_governs_iff (sha256 : String → String) (calls : List AuthorizationCall)
    (connection : ProviderConnection) (hTyped : ∀ call ∈ calls, call.Typed) :
    (∀ before after last, calls = before ++ after →
      (completedHealths sha256 connection before).getLast? = some last →
        Governs last connection (run (authorizationStep sha256) before {}) ∧
          Decides last connection (run (authorizationStep sha256) before {})) ↔
      (completedHealths sha256 connection calls).IsChain fun earlier later =>
        later.supersedes earlier := by
  rw [← newestLast_iff calls hTyped]
  refine forall_congr' fun before => forall_congr' fun after => ?_
  constructor
  · intro h hSplit
    have hBefore : ∀ call ∈ before, call.Typed := fun call hCall =>
      hTyped call (hSplit ▸ List.mem_append_left _ hCall)
    obtain ⟨hFacts, hCompleted⟩ := @run_facts sha256 connection before hBefore
    rw [← governs_iff hFacts, hCompleted]
    exact fun last hLast => (h last hSplit hLast).1
  · intro h last hSplit hLast
    have hBefore : ∀ call ∈ before, call.Typed := fun call hCall =>
      hTyped call (hSplit ▸ List.mem_append_left _ hCall)
    obtain ⟨hFacts, hCompleted⟩ := @run_facts sha256 connection before hBefore
    have hGoverns := (governs_iff hFacts).mpr (h hSplit) last (hCompleted ▸ hLast)
    exact ⟨hGoverns, hGoverns.decides⟩

section Sample

/-- A worker cannot reach the provider, and says so with its own time. -/
def unreachedHealth : AuthorizationHealthRecord :=
  unavailableHealth (repoId 0 0) repoConnection (seconds 1800) none
    "provider_observation_unavailable"

/-- The provider then answers with what it found at an earlier time. -/
def cachedHealth : AuthorizationHealthRecord where
  id := repoId 0 1
  scope := repoConnection.scope
  connectionId := repoConnection.id
  loginState := .present
  authorizationState := .valid
  checkedAt := .ofTimestamp (seconds 900)
  generation := 0

/-- The claim number `fence`, and the check that it is completed with. -/
def checkedAs (fence : Nat) (now : Timestamp) (health : AuthorizationHealthRecord) :
    List AuthorizationCall :=
  [.claimChecks "monitor" now 60 1,
    .completeCheck ⟨repoConnection, "monitor", fence, now + seconds 60⟩ health [] now 900 none
      fun _ => ⟨repoId 1 fence, repoId 2 fence⟩]

def twoChecks : List AuthorizationCall :=
  .createConnection repoConnection ::
    (checkedAs 1 (seconds 1800) unreachedHealth ++ checkedAs 2 (seconds 2700) cachedHealth)

theorem twoChecks_typed : ∀ call ∈ twoChecks, call.Typed := by
  simp only [twoChecks, checkedAs, List.cons_append, List.nil_append, List.forall_mem_cons,
    AuthorizationCall.Typed, List.not_mem_nil, false_implies, implies_true, and_true, true_and]
  decide

theorem last_check_governs_iff_sample :
    (∀ before after last, twoChecks = before ++ after →
      (completedHealths id repoConnection before).getLast? = some last →
        Governs last repoConnection (run (authorizationStep id) before {}) ∧
          Decides last repoConnection (run (authorizationStep id) before {})) ↔
      (completedHealths id repoConnection twoChecks).IsChain fun earlier later =>
        later.supersedes earlier :=
  last_check_governs_iff id twoChecks repoConnection twoChecks_typed

/-- The check that was completed last is not the one that is read. -/
theorem last_check_overlooked : ¬ ∀ (sha256 : String → String) (calls : List AuthorizationCall)
    (connection : ProviderConnection), (∀ call ∈ calls, call.Typed) →
    ∀ before after last, calls = before ++ after →
      (completedHealths sha256 connection before).getLast? = some last →
        Governs last connection (run (authorizationStep sha256) before {}) := by
  intro h
  have hLast : (completedHealths id repoConnection twoChecks).getLast? = some cachedHealth := by
    decide +kernel
  have hRead := (h id twoChecks repoConnection twoChecks_typed twoChecks [] cachedHealth
    (List.append_nil _).symm hLast).refresh
  have hMonitor : latestAuthorizationHealthForMonitor ⟨repoConnection, "monitor", 0, 0⟩ _ = _ :=
    hRead
  obtain ⟨hNewest, -⟩ := latestAuthorizationHealthForMonitor_eq_ok hMonitor
  exact absurd hNewest (by decide +kernel)

end Sample

end CyreneExchange.Integrations
