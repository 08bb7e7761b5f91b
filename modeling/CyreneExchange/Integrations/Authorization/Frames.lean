import CyreneExchange.Integrations.Authorization.Calls

/-! What the calls about observations, the feed and the email outbox leave
alone: the connections and both kinds of claims. -/
namespace CyreneExchange.Integrations

open Transaction

/-- The connections, the monitor claims and the refresh claims are as before. -/
structure AuthorizationStore.ReportFrame (s t : AuthorizationStore) : Prop where
  connections : t.connections = s.connections
  monitorState : t.monitorState = s.monitorState
  operations : t.cloudRefreshOperations = s.cloudRefreshOperations
  outbox : t.cloudRefreshOutbox = s.cloudRefreshOutbox

instance : Std.Refl AuthorizationStore.ReportFrame := ⟨fun _ => ⟨rfl, rfl, rfl, rfl⟩⟩

instance : IsTrans AuthorizationStore AuthorizationStore.ReportFrame where
  trans _ _ _ h h' := ⟨h'.connections.trans h.connections, h'.monitorState.trans h.monitorState,
    h'.operations.trans h.operations, h'.outbox.trans h.outbox⟩

/-- What a notification tells and by which key it is deduplicated; acknowledging
it changes neither. -/
structure Notice where
  kind : IntegrationNotificationKind
  scope : ActorScope
  dedupeKey : String
  incidentKey : Option String
deriving DecidableEq

def NotificationRow.notice (n : NotificationRow) : Notice :=
  ⟨n.kind, n.scope, n.dedupeKey, n.incidentKey⟩

def AuthorizationStore.notices (s : AuthorizationStore) : List Notice :=
  s.notifications.map NotificationRow.notice

theorem mem_notices {s : AuthorizationStore} {n : NotificationRow} (h : n ∈ s.notifications) :
    n.notice ∈ s.notices :=
  List.mem_map_of_mem h

/-- The notice a draft becomes. -/
def IntegrationNotificationDraft.notice (draft : IntegrationNotificationDraft)
    (scope : ActorScope) : Notice :=
  ⟨draft.kind, scope, draft.dedupeKey, draft.incidentKey⟩

/-- Besides the frame, the feed grows by notices that `p` admits and the health
facts by rows that `q` admits. -/
structure AuthorizationStore.Reports (p : Notice → Prop) (q : HealthRow → Prop)
    (s t : AuthorizationStore) : Prop where
  frame : s.ReportFrame t
  feed : Table.Grows p s.notices t.notices
  healths : Table.Grows q s.authorizationObservations t.authorizationObservations

instance (p : Notice → Prop) (q : HealthRow → Prop) : Std.Refl (AuthorizationStore.Reports p q) :=
  ⟨fun s => ⟨refl_of _ s, refl_of _ _, refl_of _ _⟩⟩

instance (p : Notice → Prop) (q : HealthRow → Prop) :
    IsTrans AuthorizationStore (AuthorizationStore.Reports p q) where
  trans _ _ _ h h' := ⟨trans_of _ h.frame h'.frame, trans_of _ h.feed h'.feed,
    trans_of _ h.healths h'.healths⟩

/-- A write to the email outbox or to the cloud observations. -/
@[grind ←]
theorem AuthorizationStore.Reports.of_eq {p : Notice → Prop} {q : HealthRow → Prop}
    {s t : AuthorizationStore} (hConnections : t.connections = s.connections)
    (hMonitor : t.monitorState = s.monitorState)
    (hOperations : t.cloudRefreshOperations = s.cloudRefreshOperations)
    (hOutbox : t.cloudRefreshOutbox = s.cloudRefreshOutbox)
    (hFeed : t.notifications = s.notifications)
    (hHealths : t.authorizationObservations = s.authorizationObservations) : s.Reports p q t :=
  ⟨⟨hConnections, hMonitor, hOperations, hOutbox⟩,
    .of_eq (congrArg (List.map NotificationRow.notice) hFeed), .of_eq hHealths⟩

/-- Of a call that reports anything, the frame remains. -/
theorem Respects.reportFrame {α : Type} {body : AuthorizationTransaction α}
    (h : Respects (AuthorizationStore.Reports (fun _ => True) fun _ => True) body) :
    Respects AuthorizationStore.ReportFrame body :=
  h.mono fun _ _ hReports => hReports.frame

section Reads

variable {R : AuthorizationStore → AuthorizationStore → Prop} [Std.Refl R]
  [IsTrans AuthorizationStore R]

@[grind ←]
theorem requireOperation_reads (principal : IntegrationPrincipal) (operationId : String)
    (now : Timestamp) : Respects R (requireOperation principal operationId now) := by
  unfold requireOperation
  grind

@[grind ←]
theorem idempotencyLookup_reads {Document : Type}
    (records : AuthorizationStore → List (IdempotencyRecord Document)) (scope : ActorScope)
    (key requestHash : String) :
    Respects R (idempotencyLookup records scope key requestHash) := by
  unfold idempotencyLookup
  grind

@[grind ←]
theorem readNotification_reads (event : IntegrationNotification) :
    Respects R (readNotification event) := by
  unfold readNotification
  grind

@[grind ←]
theorem draftNotification_reads (draft : IntegrationNotificationDraft) :
    Respects R (draftNotification draft) := by
  unfold draftNotification
  grind

@[grind ←]
theorem readEmailJob_reads (job : EmailNotificationJob) :
    Respects R (readEmailJob job) := by
  unfold readEmailJob
  grind

end Reads

theorem insertEmailJob_eq_ok {s t : AuthorizationStore} {job : EmailNotificationJob} {u : Unit}
    (h : insertEmailJob job s = .ok (u, t)) : job.valid = true ∧
      (s.emailOutbox.any fun row => row.id == job.id ||
        row.notificationId == job.notificationId) = false ∧
      t = { s with emailOutbox := s.emailOutbox ++ [job.row] } := by
  unfold insertEmailJob at h
  obtain ⟨_, _, hRequire, h⟩ := bind_eq_ok.mp h
  obtain ⟨hValid, rfl⟩ := require_eq_ok.mp hRequire
  rw [fetch_bind] at h
  obtain ⟨_, _, hRequire, h⟩ := bind_eq_ok.mp h
  obtain ⟨hFresh, rfl⟩ := require_eq_ok.mp hRequire
  cases h
  exact ⟨hValid, Bool.not_eq_true' _ ▸ hFresh, rfl⟩

section Frames

open AuthorizationStore (Reports)

variable {p : Notice → Prop} {q : HealthRow → Prop}

@[grind ←]
theorem insertEmailJob_reports (job : EmailNotificationJob) :
    Respects (Reports p q) (insertEmailJob job) := by
  unfold insertEmailJob
  grind

theorem notices_append (s : AuthorizationStore) (n : NotificationRow) :
    AuthorizationStore.notices { s with notifications := s.notifications ++ [n] } =
      s.notices ++ [n.notice] :=
  List.map_append

/-- A new notification is one that was named. -/
theorem insertNotification_reports {draft : IntegrationNotificationDraft} {scope : ActorScope}
    (h : p (draft.notice scope)) (emailRecipientRef : Option String) (now : Timestamp)
    (draws : NotificationDraws) : Respects (Reports p q)
      (insertNotification draft scope emailRecipientRef now draws) := by
  unfold insertNotification
  refine (Respects.fetch _).bind fun s => ?_
  split
  · exact Respects.pure _
  · refine (Respects.require _ _).bind fun _ => (Respects.require _ _).bind fun _ => ?_
    have hAppend : ∀ t : AuthorizationStore, Reports p q t { t with notifications :=
        t.notifications ++ [(draft.event scope now draws.notificationId
          (nextSequence s.notifications)).row draft.dedupeKey] } := by
      intro t
      refine ⟨⟨rfl, rfl, rfl, rfl⟩, ?_, refl_of _ _⟩
      rw [notices_append]
      exact .append_singleton h
    refine (Respects.store hAppend).bind fun _ => ?_
    cases emailRecipientRef with
    | none => exact Respects.pure _
    | some recipientRef =>
        change Respects _ (if recipientRef = "" then _ else _)
        split
        · exact Respects.pure _
        · exact (insertEmailJob_reports _).bind fun _ => Respects.pure _

theorem insertNotifications_reports {scope : ActorScope}
    {drafts : List IntegrationNotificationDraft} (h : ∀ draft ∈ drafts, p (draft.notice scope))
    (emailRecipientRef : Option String) (now : Timestamp) (draw : Nat → NotificationDraws) :
    Respects (Reports p q) (insertNotifications scope emailRecipientRef now draw drafts) := by
  induction drafts with
  | nil => exact Respects.pure _
  | cons draft rest ih =>
      have hRest := ih fun other hOther => h other (List.mem_cons_of_mem _ hOther)
      exact (insertNotification_reports (h draft List.mem_cons_self) ..).bind fun _ =>
        hRest.bind fun _ => Respects.pure _

theorem draftNotification_eq_ok {s t : AuthorizationStore}
    {draft draft' : IntegrationNotificationDraft}
    (h : draftNotification draft s = .ok (draft', t)) :
    draft' = draft ∧ t = s ∧ draft.valid = true := by
  unfold draftNotification at h
  obtain ⟨_, _, hRequire, hPure⟩ := bind_eq_ok.mp h
  obtain ⟨hValid, rfl⟩ := require_eq_ok.mp hRequire
  cases hPure
  exact ⟨rfl, rfl, hValid⟩

/-- A notification that a model has read back before it is stored. -/
theorem insertDrafted_reports {draft : IntegrationNotificationDraft} {scope : ActorScope}
    (h : p (draft.notice scope)) (emailRecipientRef : Option String) (now : Timestamp)
    (draws : NotificationDraws) : Respects (Reports p q) (do
      let drafted ← draftNotification draft
      insertNotification drafted scope emailRecipientRef now draws) := by
  intro s t event hBody
  obtain ⟨drafted, _, hDrafted, hInsert⟩ := bind_eq_ok.mp hBody
  obtain ⟨rfl, rfl, _⟩ := draftNotification_eq_ok hDrafted
  exact insertNotification_reports h emailRecipientRef now draws hInsert

theorem insertHealth_reports {health : AuthorizationHealthRecord}
    (h : ∀ row : HealthRow, row.connectionId = health.connectionId → row.scope = health.scope →
      row.document = health → q row) : Respects (Reports p q) (insertHealth health) := by
  unfold insertHealth
  cases health.checkedAt.utc with
  | none => exact Respects.reject _
  | some checkedAt =>
      refine (Respects.require _ _).bind fun _ => (Respects.fetch _).bind fun s => ?_
      refine (Respects.require _ _).bind fun _ => Respects.store fun t => ?_
      exact ⟨⟨rfl, rfl, rfl, rfl⟩, refl_of _ _, .append_singleton (h _ rfl rfl rfl)⟩

@[grind ←]
theorem insertObservation_reports (observation : CloudResourceRecord) :
    Respects (Reports p q) (insertObservation observation) := by
  unfold insertObservation
  grind

theorem storeObservation_reports {sha256 : String → String} {connection : ProviderConnection}
    {observation : CloudResourceRecord}
    (h : ∀ prior, p ((changedResourceDraft sha256 connection prior observation).notice
      connection.scope)) (emailRecipientRef : Option String) (now : Timestamp)
    (draws : NotificationDraws) : Respects (Reports p q)
      (storeObservation sha256 connection emailRecipientRef now draws observation) := by
  unfold storeObservation
  refine (Respects.require _ _).bind fun _ => (Respects.fetch _).bind fun prior => ?_
  refine (Respects.require _ _).bind fun _ => (insertObservation_reports _).bind fun _ => ?_
  cases prior with
  | none => exact Respects.pure _
  | some row =>
      dsimp only
      split
      · exact Respects.pure _
      · exact insertDrafted_reports (h row.document) emailRecipientRef now draws

theorem storeObservations_reports {sha256 : String → String} {connection : ProviderConnection}
    {observations : List CloudResourceRecord}
    (h : ∀ observation ∈ observations, ∀ prior, p ((changedResourceDraft sha256 connection prior
      observation).notice connection.scope)) (emailRecipientRef : Option String)
    (now : Timestamp) (draw : Nat → NotificationDraws) : Respects (Reports p q)
      (storeObservations sha256 connection emailRecipientRef now draw observations) := by
  induction observations with
  | nil => exact Respects.pure _
  | cons observation rest ih =>
      have hRest := ih fun other hOther => h other (List.mem_cons_of_mem _ hOther)
      exact (storeObservation_reports (h observation List.mem_cons_self) ..).bind fun _ =>
        hRest.bind fun _ => Respects.pure _

theorem acknowledgeNotification_reports (sha256 : String → String)
    (principal : IntegrationPrincipal) (notificationId : UUID) (idempotencyKey : String)
    (now moment : Timestamp) : Respects (Reports p q)
      (acknowledgeNotification sha256 principal notificationId idempotencyKey now moment) := by
  unfold acknowledgeNotification
  refine (requireOperation_reads _ _ _).bind fun _ => (Respects.require _ _).bind fun _ => ?_
  refine (idempotencyLookup_reads _ _ _ _).bind fun previous => ?_
  cases previous with
  | some record => exact readNotification_reads _
  | none =>
      refine (Respects.fetch _).bind fun found => ?_
      cases found with
      | none => exact Respects.reject _
      | some row =>
          refine (readNotification_reads _).bind fun event => ?_
          refine (Respects.store fun s => ⟨⟨rfl, rfl, rfl, rfl⟩, .of_eq ?_, refl_of _ _⟩).bind
            fun _ => Respects.pure _
          -- acknowledging rewrites the document, not the columns the feed is searched by
          unfold AuthorizationStore.notices
          dsimp only
          split
          · exact Table.map_updateWhere fun _ _ _ => rfl
          · rfl

@[grind ←]
theorem persistEmailJob_reports (job : EmailNotificationJob) :
    Respects (Reports p q) (persistEmailJob job) := by
  unfold persistEmailJob
  grind

@[grind ←]
theorem settleLapsed_reports (settle : EmailNotificationJob → EmailNotificationJob)
    (rows : List EmailRow) : Respects (Reports p q) (settleLapsed settle rows) := by
  induction rows with
  | nil =>
      unfold settleLapsed
      grind
  | cons row rest ih =>
      unfold settleLapsed
      grind

theorem claimEmailNotification_reports (workerId : String) (now : Timestamp) (leaseSeconds : Nat) :
    Respects (Reports p q) (claimEmailNotification workerId now leaseSeconds) := by
  unfold claimEmailNotification
  refine (Respects.require _ _).bind fun _ => (Respects.fetch _).bind fun claims => ?_
  refine (settleLapsed_reports _ claims).bind fun _ => (Respects.fetch _).bind fun sends => ?_
  refine (settleLapsed_reports _ sends).bind fun _ => ?_
  grind

theorem requestNotificationEmailDelivery_reports (sha256 : String → String)
    (principal : IntegrationPrincipal) (notificationId : UUID)
    (recipientRef idempotencyKey : String) (now moment : Timestamp) (draw : UUID) :
    Respects (Reports p q) (requestNotificationEmailDelivery sha256 principal notificationId
      recipientRef idempotencyKey now moment draw) := by
  unfold requestNotificationEmailDelivery
  refine (requireOperation_reads _ _ _).bind fun _ => (Respects.require _ _).bind fun _ => ?_
  refine (idempotencyLookup_reads _ _ _ _).bind fun replay => ?_
  cases replay with
  | some record => grind
  | none =>
      refine (Respects.fetch _).bind fun found => ?_
      cases found with
      | none => grind
      | some row =>
          refine (readNotification_reads _).bind fun _ => (Respects.require _ _).bind fun _ => ?_
          refine (Respects.fetch _).bind fun existing => ?_
          cases existing with
          | none => grind
          | some row => grind

@[grind ←]
theorem selectEmailJob_reports (id : UUID) (state : EmailOutboxState) (claimFence : Nat)
    (guard : EmailRow → Bool) (stale : String) :
    Respects (Reports p q) (selectEmailJob id state claimFence guard stale) := by
  unfold selectEmailJob
  grind

theorem releaseEmailClaim_reports (claim : ClaimedEmailNotification) (now : Timestamp)
    (retryDelaySeconds : Nat) (failureReasonCode : Option String) : Respects (Reports p q)
      (releaseEmailClaim claim now retryDelaySeconds failureReasonCode) := by
  unfold releaseEmailClaim
  grind

theorem markEmailSending_reports (jobId : UUID) (claimFence : Nat) (now : Timestamp) :
    Respects (Reports p q) (markEmailSending jobId claimFence now) := by
  unfold markEmailSending
  grind

theorem finishEmailNotification_reports
    (h : ∀ job verdict, p ((deliveryFailedDraft job verdict).notice job.scope)) (jobId : UUID)
    (claimFence : Nat) (status : String) (vendorReceiptRef : Option String)
    (deliveryConfirmed : Bool) (now : Timestamp) (draws : NotificationDraws) :
    Respects (Reports p q) (finishEmailNotification jobId claimFence status vendorReceiptRef
      deliveryConfirmed now draws) := by
  unfold finishEmailNotification
  cases EmailVerdict.ofText status with
  | none => exact Respects.reject _
  | some verdict =>
      refine (Respects.require _ _).bind fun _ => (selectEmailJob_reports ..).bind fun job => ?_
      refine (persistEmailJob_reports _).bind fun _ => ?_
      split
      · exact Respects.pure _
      · intro s t answer hBody
        obtain ⟨_, _, hDraft, hRest⟩ := bind_eq_ok.mp hBody
        obtain ⟨_, _, hInsert, hPure⟩ := bind_eq_ok.mp hRest
        cases hPure
        exact insertDrafted_reports (h job verdict) none now draws
          (bind_eq_ok.mpr ⟨_, _, hDraft, hInsert⟩)

theorem releaseEmailSendBeforeProvider_reports (jobId : UUID) (claimFence : Nat) (now : Timestamp)
    (failureReasonCode : String) (retryDelaySeconds : Nat) : Respects (Reports p q)
      (releaseEmailSendBeforeProvider jobId claimFence now failureReasonCode
        retryDelaySeconds) := by
  unfold releaseEmailSendBeforeProvider
  grind

end Frames

end CyreneExchange.Integrations
