import CyreneExchange.Integrations.Authorization.Exclusive
import CyreneExchange.Integrations.Authorization.Feed

/-! Undelivered mail in the notification feed. A finished send and a lapsed one
both end in UNKNOWN or REJECTED; the feed is told of it by one of them only. -/
namespace CyreneExchange.Integrations

open Machine Transaction

/-- The incident under which the feed reports on a job. -/
def mailIncident (jobId : UUID) : String := "email-delivery:" ++ jobId.text

/-- The row is a DELIVERY_FAILED notification about the job. -/
def NotificationRow.Reports (n : NotificationRow) (row : EmailRow) : Prop :=
  n.kind = .deliveryFailed ∧ n.scope = row.scope ∧ n.incidentKey = some (mailIncident row.id)

def EmailOutboxState.undelivered : EmailOutboxState → Bool
  | .unknown | .rejected => true
  | _ => false

/-- The states in which a job is still read and written. -/
def EmailOutboxState.active : EmailOutboxState → Bool
  | .ready | .claimed | .sending => true
  | _ => false

/-- Every undelivered mail is in the feed of its owner. -/
def UndeliveredVisible (s : AuthorizationStore) : Prop :=
  ∀ row ∈ s.emailOutbox, row.state.undelivered = true → ∃ n ∈ s.notifications, n.Reports row

instance (n : NotificationRow) (row : EmailRow) : Decidable (n.Reports row) :=
  inferInstanceAs (Decidable (_ ∧ _ ∧ _))

instance (s : AuthorizationStore) : Decidable (UndeliveredVisible s) :=
  inferInstanceAs (Decidable (∀ row ∈ s.emailOutbox, row.state.undelivered = true →
    ∃ n ∈ s.notifications, n.Reports row))

/-- An email claim arrives when the lease of a SENDING row has passed. -/
def FindsLapsedSend (e : AuthorizationEvent) : Prop :=
  ∃ workerId now leaseSeconds, e.input = .claimEmail workerId now leaseSeconds ∧
    (textWithin 200 workerId = true ∧ 1 ≤ leaseSeconds ∧ leaseSeconds ≤ 300) ∧
    ∃ row ∈ e.before.emailOutbox, row.lapsed .sending now = true

/-- A key or kind that only the email outbox writes. -/
def aboutMail (kind : IntegrationNotificationKind) (dedupeKey : String) : Bool :=
  kind == .deliveryFailed || startsWith dedupeKey "email-delivery:"

/-- The alerts given to a completed check are not about mail, and the reason
codes of released jobs fit their column. -/
def MailPromise (_ : AuthorizationStore) : AuthorizationCall → Prop
  | .completeCheck _ _ notifications .. =>
      ∀ draft ∈ notifications, aboutMail draft.kind draft.dedupeKey = false
  | .releaseEmail _ _ _ failureReasonCode => atMost 200 failureReasonCode = true
  | .releaseSend _ _ _ failureReasonCode _ => atMost 200 (some failureReasonCode) = true
  | _ => True

instance (s : AuthorizationStore) : DecidablePred (MailPromise s)
  | .completeCheck _ _ notifications .. => inferInstanceAs (Decidable
      (∀ draft ∈ notifications, aboutMail draft.kind draft.dedupeKey = false))
  | .releaseEmail _ _ _ failureReasonCode =>
      inferInstanceAs (Decidable (atMost 200 failureReasonCode = true))
  | .releaseSend _ _ _ failureReasonCode _ =>
      inferInstanceAs (Decidable (atMost 200 (some failureReasonCode) = true))
  | .createConnection .. | .claimChecks .. | .releaseCheck .. | .acknowledge ..
  | .enqueueRefresh .. | .claimRefresh .. | .completeRefresh .. | .releaseRefresh ..
  | .claimEmail .. | .requestDelivery .. | .markSending .. | .finishEmail .. => isTrue trivial

/-- The row's document says what its columns say, and can be read while the
row is active. -/
structure EmailRow.Agrees (row : EmailRow) : Prop where
  id : row.document.id = row.id
  scope : row.document.scope = row.scope
  state : row.document.state = row.state
  valid : row.state.active = true → row.document.valid = true

/-- Mail notices are about undelivered rows of the outbox. -/
structure MailSound (s : AuthorizationStore) : Prop where
  unique : Table.KeysUnique EmailRow.id s.emailOutbox
  agrees : ∀ row ∈ s.emailOutbox, row.Agrees
  notices : ∀ n ∈ s.notices, aboutMail n.kind n.dedupeKey = true →
    ∃ row ∈ s.emailOutbox, row.state.undelivered = true ∧
      n.incidentKey = some (mailIncident row.id) ∧
      ∃ stage, n.dedupeKey = mailIncident row.id ++ ":" ++ stage

theorem MailSound.initial : MailSound {} :=
  ⟨List.nodup_nil, by simp, by simp [AuthorizationStore.notices]⟩

theorem NotificationRow.Reports.of_notice {n n' : NotificationRow} {row : EmailRow}
    (h : n.Reports row) (hSame : n'.notice = n.notice) : n'.Reports row := by
  have hKind : n'.kind = n.kind := congrArg Notice.kind hSame
  have hScope : n'.scope = n.scope := congrArg Notice.scope hSame
  have hIncident : n'.incidentKey = n.incidentKey := congrArg Notice.incidentKey hSame
  exact ⟨hKind.trans h.1, hScope.trans h.2.1, hIncident.trans h.2.2⟩

theorem mailIncident_injective {a b : UUID} (h : mailIncident a = mailIncident b) : a = b :=
  UUID.eq_of_append_eq h

/-- The feed has no notice about a row that is not undelivered. -/
theorem MailSound.unreported {s : AuthorizationStore} (h : MailSound s) {row : EmailRow}
    (hRow : row ∈ s.emailOutbox) (hState : row.state.undelivered = false) {n : NotificationRow}
    (hn : n ∈ s.notifications) (hKind : n.kind = .deliveryFailed) :
    n.incidentKey ≠ some (mailIncident row.id) := by
  intro hIncident
  obtain ⟨row', hRow', hUndelivered, hSame, _⟩ := h.notices n.notice (mem_notices hn)
    (by simp [aboutMail, NotificationRow.notice, hKind])
  have hId : row.id = row'.id :=
    mailIncident_injective (Option.some.inj (hIncident.symm.trans hSame))
  rw [← h.unique.eq hRow hRow' hId, hState] at hUndelivered
  cases hUndelivered

section Feeds

/-- The feed grows by notifications that are not about mail, the outbox by
ready jobs. -/
structure AuthorizationStore.Feeds (s t : AuthorizationStore) : Prop where
  mails : ∃ added, t.emailOutbox = s.emailOutbox ++ added ∧
    ∀ row ∈ added, row.Agrees ∧ row.state = .ready
  unique : Table.KeysUnique EmailRow.id s.emailOutbox →
    Table.KeysUnique EmailRow.id t.emailOutbox
  kept : ∀ n ∈ s.notices, n ∈ t.notices
  origin : ∀ n ∈ t.notices, aboutMail n.kind n.dedupeKey = true → n ∈ s.notices

open AuthorizationStore (Feeds)

theorem AuthorizationStore.Feeds.of_notices {s t : AuthorizationStore}
    (hMails : t.emailOutbox = s.emailOutbox) (hNotices : t.notices = s.notices) : s.Feeds t := by
  refine ⟨⟨[], by rw [hMails, List.append_nil], by simp⟩, ?_, ?_, ?_⟩
  · rw [hMails]
    exact id
  · rw [hNotices]
    exact fun _ hn => hn
  · rw [hNotices]
    exact fun _ hn _ => hn

@[grind ←]
theorem AuthorizationStore.Feeds.of_eq {s t : AuthorizationStore}
    (hMails : t.emailOutbox = s.emailOutbox) (hFeed : t.notifications = s.notifications) :
    s.Feeds t :=
  .of_notices hMails (congrArg (List.map NotificationRow.notice) hFeed)

instance : Std.Refl AuthorizationStore.Feeds := ⟨fun _ => .of_eq rfl rfl⟩

instance : IsTrans AuthorizationStore AuthorizationStore.Feeds where
  trans s t u h h' := by
    obtain ⟨added, hAdded, hReady⟩ := h.mails
    obtain ⟨added', hAdded', hReady'⟩ := h'.mails
    refine ⟨⟨added ++ added', ?_, ?_⟩, fun hUnique => h'.unique (h.unique hUnique),
      fun n hn => h'.kept n (h.kept n hn),
      fun n hn hMail => h.origin n (h'.origin n hn hMail) hMail⟩
    · rw [hAdded', hAdded, List.append_assoc]
    · intro row hRow
      rcases List.mem_append.mp hRow with hFirst | hSecond
      · exact hReady row hFirst
      · exact hReady' row hSecond

/-- A new notification that is not about mail. -/
theorem AuthorizationStore.Feeds.notify {s : AuthorizationStore} {n : NotificationRow}
    (h : aboutMail n.kind n.dedupeKey = false) :
    s.Feeds { s with notifications := s.notifications ++ [n] } := by
  refine ⟨⟨[], (List.append_nil _).symm, by simp⟩, id, ?_, ?_⟩
  · rw [notices_append]
    exact fun _ hn => List.mem_append_left _ hn
  · rw [notices_append]
    intro notice hn hMail
    rcases List.mem_append.mp hn with hOld | hNew
    · exact hOld
    · rw [List.mem_singleton.mp hNew] at hMail
      exact absurd (h.symm.trans hMail) Bool.false_ne_true

theorem MailSound.feeds {s t : AuthorizationStore} (h : MailSound s) (hFeeds : s.Feeds t) :
    MailSound t := by
  obtain ⟨added, hAdded, hReady⟩ := hFeeds.mails
  refine ⟨hFeeds.unique h.unique, ?_, ?_⟩
  · intro row hRow
    rw [hAdded] at hRow
    rcases List.mem_append.mp hRow with hOld | hNew
    · exact h.agrees row hOld
    · exact (hReady row hNew).1
  · intro n hn hMail
    obtain ⟨row, hRow, hReport⟩ := h.notices n (hFeeds.origin n hn hMail) hMail
    exact ⟨row, by rw [hAdded]; exact List.mem_append_left _ hRow, hReport⟩

theorem UndeliveredVisible.feeds {s t : AuthorizationStore} (h : UndeliveredVisible s)
    (hFeeds : s.Feeds t) : UndeliveredVisible t := by
  intro row hRow hUndelivered
  obtain ⟨added, hAdded, hReady⟩ := hFeeds.mails
  rw [hAdded] at hRow
  rcases List.mem_append.mp hRow with hOld | hNew
  · obtain ⟨n, hn, hReports⟩ := h row hOld hUndelivered
    obtain ⟨n', hn', hSame⟩ := List.mem_map.mp (hFeeds.kept _ (mem_notices hn))
    exact ⟨n', hn', hReports.of_notice hSame⟩
  · rw [(hReady row hNew).2] at hUndelivered
    cases hUndelivered

/-- A new job is ready and has an identifier no job has. -/
theorem insertEmailJob_feeds {job : EmailNotificationJob} (hReady : job.state = .ready) :
    Respects Feeds (insertEmailJob job) := by
  intro s t u h
  obtain ⟨hValid, hFresh, rfl⟩ := insertEmailJob_eq_ok h
  refine ⟨⟨[job.row], rfl, ?_⟩, ?_, fun _ hn => hn, fun _ hn _ => hn⟩
  · intro row hRow
    rw [List.mem_singleton.mp hRow]
    exact ⟨⟨rfl, rfl, rfl, fun _ => hValid⟩, hReady⟩
  · intro hUnique
    refine hUnique.append_singleton ?_
    intro row hRow hSame
    have hTaken := List.any_eq_false.mp hFresh row hRow
    simp only [Bool.or_eq_true, beq_iff_eq, not_or] at hTaken
    exact hTaken.1 hSame

theorem insertNotification_feeds {draft : IntegrationNotificationDraft} (scope : ActorScope)
    (emailRecipientRef : Option String) (now : Timestamp) (draws : NotificationDraws)
    (hDraft : aboutMail draft.kind draft.dedupeKey = false) :
    Respects Feeds (insertNotification draft scope emailRecipientRef now draws) := by
  unfold insertNotification
  refine (Respects.fetch _).bind fun s => ?_
  split
  · exact Respects.pure _
  · refine (Respects.require _ _).bind fun _ => (Respects.require _ _).bind fun _ => ?_
    refine (Respects.store fun _ => .notify hDraft).bind fun _ => ?_
    cases emailRecipientRef with
    | none => exact Respects.pure _
    | some recipientRef =>
        dsimp only
        split
        · exact Respects.pure _
        · exact (insertEmailJob_feeds rfl).bind fun _ => Respects.pure _

theorem insertNotifications_feeds (scope : ActorScope) (emailRecipientRef : Option String)
    (now : Timestamp) (draw : Nat → NotificationDraws)
    (drafts : List IntegrationNotificationDraft)
    (hDrafts : ∀ draft ∈ drafts, aboutMail draft.kind draft.dedupeKey = false) :
    Respects Feeds (insertNotifications scope emailRecipientRef now draw drafts) := by
  induction drafts with
  | nil => exact Respects.pure _
  | cons draft rest ih =>
      have hRest := ih fun other hOther => hDrafts other (List.mem_cons_of_mem _ hOther)
      exact (insertNotification_feeds scope emailRecipientRef now _
        (hDrafts draft List.mem_cons_self)).bind fun _ => hRest.bind fun _ => Respects.pure _

/-- A drafted alert that is not about mail. -/
theorem insertDrafted_feeds {draft : IntegrationNotificationDraft} (scope : ActorScope)
    (emailRecipientRef : Option String) (now : Timestamp) (draws : NotificationDraws)
    (hDraft : aboutMail draft.kind draft.dedupeKey = false) :
    Respects Feeds (do
      let drafted ← draftNotification draft
      insertNotification drafted scope emailRecipientRef now draws) := by
  intro s t event h
  obtain ⟨drafted, _, hDrafted, hInsert⟩ := bind_eq_ok.mp h
  obtain ⟨rfl, rfl, _⟩ := draftNotification_eq_ok hDrafted
  exact insertNotification_feeds scope emailRecipientRef now draws hDraft hInsert

theorem changedResourceDraft_notAboutMail (sha256 : String → String)
    (connection : ProviderConnection) (prior observation : CloudResourceRecord) :
    aboutMail (changedResourceDraft sha256 connection prior observation).kind
      (changedResourceDraft sha256 connection prior observation).dedupeKey = false := by
  simp [aboutMail, changedResourceDraft, startsWith, List.isPrefixOf_cons_cons]

@[grind ←]
theorem storeObservation_feeds (sha256 : String → String) (connection : ProviderConnection)
    (emailRecipientRef : Option String) (now : Timestamp) (draws : NotificationDraws)
    (observation : CloudResourceRecord) : Respects Feeds
      (storeObservation sha256 connection emailRecipientRef now draws observation) := by
  have hInsert : Respects Feeds (insertObservation observation) := by
    unfold insertObservation
    grind
  unfold storeObservation
  refine (Respects.require _ _).bind fun _ => (Respects.fetch _).bind fun prior => ?_
  refine (Respects.require _ _).bind fun _ => hInsert.bind fun _ => ?_
  cases prior with
  | none => exact Respects.pure _
  | some row =>
      dsimp only
      split
      · exact Respects.pure _
      · exact insertDrafted_feeds connection.scope emailRecipientRef now draws
          (changedResourceDraft_notAboutMail sha256 connection row.document observation)

@[grind ←]
theorem storeObservations_feeds (sha256 : String → String) (connection : ProviderConnection)
    (emailRecipientRef : Option String) (now : Timestamp) (draw : Nat → NotificationDraws)
    (observations : List CloudResourceRecord) : Respects Feeds
      (storeObservations sha256 connection emailRecipientRef now draw observations) := by
  induction observations with
  | nil =>
      unfold storeObservations
      grind
  | cons observation rest ih =>
      unfold storeObservations
      grind

theorem acknowledgeNotification_feeds (sha256 : String → String)
    (principal : IntegrationPrincipal) (notificationId : UUID) (idempotencyKey : String)
    (now moment : Timestamp) : Respects Feeds
      (acknowledgeNotification sha256 principal notificationId idempotencyKey now moment) := by
  unfold acknowledgeNotification
  refine (requireOperation_reads _ _ _).bind fun _ => (Respects.require _ _).bind fun _ => ?_
  refine (idempotencyLookup_reads _ _ _ _).bind fun previous => ?_
  cases previous with
  | some record => exact readNotification_reads _
  | none =>
      refine (Respects.fetch _).bind fun found => ?_
      cases found with
      | none => exact Respects.reject _
      | some row =>
          refine (readNotification_reads _).bind fun event => ?_
          refine (Respects.store fun s => .of_notices rfl ?_).bind fun _ => Respects.pure _
          -- acknowledging rewrites the document, not the columns the feed is searched by
          unfold AuthorizationStore.notices
          dsimp only
          split
          · exact Table.map_updateWhere fun _ _ _ => rfl
          · rfl

theorem requestNotificationEmailDelivery_feeds (sha256 : String → String)
    (principal : IntegrationPrincipal) (notificationId : UUID)
    (recipientRef idempotencyKey : String) (now moment : Timestamp) (draw : UUID) :
    Respects Feeds (requestNotificationEmailDelivery sha256 principal notificationId
      recipientRef idempotencyKey now moment draw) := by
  unfold requestNotificationEmailDelivery
  refine (requireOperation_reads _ _ _).bind fun _ => (Respects.require _ _).bind fun _ => ?_
  refine (idempotencyLookup_reads _ _ _ _).bind fun replay => ?_
  cases replay with
  | some record => grind
  | none =>
      refine (Respects.fetch _).bind fun found => ?_
      cases found with
      | none => grind
      | some row =>
          refine (readNotification_reads _).bind fun event => (Respects.require _ _).bind fun _ => ?_
          refine (Respects.fetch _).bind fun existing => ?_
          have hInsert : Respects Feeds (insertEmailJob (event.emailJob recipientRef moment draw)) :=
            insertEmailJob_feeds rfl
          cases existing with
          | none => grind
          | some row => grind

theorem completeAuthorizationCheck_feeds (claim : ClaimedAuthorizationMonitor)
    (health : AuthorizationHealthRecord) (notifications : List IntegrationNotificationDraft)
    (now : Timestamp) (intervalSeconds : Nat) (emailRecipientRef : Option String)
    (draw : Nat → NotificationDraws)
    (hDrafts : ∀ draft ∈ notifications, aboutMail draft.kind draft.dedupeKey = false) :
    Respects Feeds (completeAuthorizationCheck claim health notifications now intervalSeconds
      emailRecipientRef draw) := by
  have hHealth : Respects Feeds (insertHealth health) := by
    unfold insertHealth
    grind
  have hInsert := insertNotifications_feeds claim.connection.scope emailRecipientRef now draw
    notifications hDrafts
  unfold completeAuthorizationCheck
  refine (Respects.require _ _).bind fun _ => (Respects.require _ _).bind fun _ => ?_
  refine (Respects.fetch _).bind fun _ => (Respects.require _ _).bind fun _ => ?_
  refine (Respects.require _ _).bind fun _ => (Respects.require _ _).bind fun _ => ?_
  refine hHealth.bind fun _ => hInsert.bind fun _ => ?_
  exact (Respects.store fun _ => .of_eq rfl rfl).bind fun _ => Respects.pure _

theorem completeCloudRefresh_feeds (sha256 : String → String) (claim : ClaimedCloudRefresh)
    (observations : List CloudResourceRecord) (state : CloudRefreshState) (now : Timestamp)
    (result : Option JsonObject) (emailRecipientRef : Option String)
    (draw : Nat → NotificationDraws) : Respects Feeds (completeCloudRefresh sha256 claim
      observations state now result emailRecipientRef draw) := by
  unfold completeCloudRefresh persistRefresh
  refine (Respects.require _ _).bind fun _ => (Respects.require _ _).bind fun _ => ?_
  refine (Respects.fetch _).bind fun s => (Respects.require _ _).bind fun _ => ?_
  split
  · exact Respects.reject _
  · refine (storeObservations_feeds sha256 _ _ _ _ _).bind fun _ => ?_
    refine (Respects.store fun _ => .of_eq rfl rfl).bind fun _ => ?_
    exact (Respects.store fun _ => .of_eq rfl rfl).bind fun _ => Respects.pure _

theorem enqueueCloudRefresh_feeds (sha256 : String → String) (principal : IntegrationPrincipal)
    (connectionId : UUID) (idempotencyKey : String) (now moment : Timestamp) (draw : UUID) :
    Respects Feeds (enqueueCloudRefresh sha256 principal connectionId idempotencyKey now moment
      draw) := by
  unfold enqueueCloudRefresh
  refine (requireOperation_reads _ _ _).bind fun _ => (Respects.require _ _).bind fun _ => ?_
  refine (Respects.fetch _).bind fun found => ?_
  cases found with
  | none => exact Respects.reject _
  | some connection =>
      refine (Respects.require _ _).bind fun _ => (Respects.require _ _).bind fun _ => ?_
      refine (Respects.fetch _).bind fun row => ?_
      cases row with
      | some row => exact (Respects.require _ _).bind fun _ => Respects.pure _
      | none =>
          refine (Respects.fetch _).bind fun _ => (Respects.require _ _).bind fun _ => ?_
          exact (Respects.store fun _ => .of_eq rfl rfl).bind fun _ => Respects.pure _

/-- The calls that move no job of the email outbox. -/
def AuthorizationCall.sparesMail : AuthorizationCall → Bool
  | .claimEmail .. | .releaseEmail .. | .markSending .. | .finishEmail .. | .releaseSend .. => false
  | _ => true

theorem AuthorizationCall.body_feeds (sha256 : String → String) {s : AuthorizationStore}
    {call : AuthorizationCall} (hPromise : MailPromise s call) (hSpares : call.sparesMail = true) :
    Respects Feeds (call.body sha256) := by
  cases call with
  | claimEmail | releaseEmail | markSending | finishEmail | releaseSend => cases hSpares
  | completeCheck claim health notifications now intervalSeconds emailRecipientRef draw =>
      exact (completeAuthorizationCheck_feeds claim health notifications now intervalSeconds
        emailRecipientRef draw hPromise).bind fun _ => Respects.pure _
  | completeRefresh claim observations state now result emailRecipientRef draw =>
      exact (completeCloudRefresh_feeds sha256 claim observations state now result
        emailRecipientRef draw).bind fun _ => Respects.pure _
  | acknowledge principal notificationId idempotencyKey now moment =>
      exact (acknowledgeNotification_feeds sha256 principal notificationId idempotencyKey now
        moment).bind fun _ => Respects.pure _
  | requestDelivery principal notificationId recipientRef idempotencyKey now moment draw =>
      exact (requestNotificationEmailDelivery_feeds sha256 principal notificationId recipientRef
        idempotencyKey now moment draw).bind fun _ => Respects.pure _
  | createConnection connection =>
      refine Respects.bind ?_ fun _ => Respects.pure _
      unfold insertProviderConnection
      exact (Respects.fetch _).bind fun _ => (Respects.require _ _).bind fun _ =>
        Respects.store fun _ => .of_eq rfl rfl
  | claimChecks workerId now leaseSeconds limit =>
      refine Respects.bind ?_ fun _ => Respects.pure _
      unfold claimAuthorizationChecks
      refine (Respects.require _ _).bind fun _ => (Respects.require _ _).bind fun _ => ?_
      refine (Respects.store fun _ => .of_eq rfl rfl).bind fun _ => ?_
      exact (Respects.fetch _).bind fun _ =>
        (Respects.store fun _ => .of_eq rfl rfl).bind fun _ => Respects.pure _
  | releaseCheck claim now retryDelaySeconds =>
      refine Respects.bind ?_ fun _ => Respects.pure _
      unfold releaseAuthorizationCheck
      refine (Respects.require _ _).bind fun _ => (Respects.fetch _).bind fun _ => ?_
      exact (Respects.require _ _).bind fun _ => Respects.store fun _ => .of_eq rfl rfl
  | enqueueRefresh principal connectionId idempotencyKey now moment draw =>
      exact (enqueueCloudRefresh_feeds sha256 principal connectionId idempotencyKey now moment
        draw).bind fun _ => Respects.pure _
  | claimRefresh workerId now leaseSeconds =>
      refine Respects.bind ?_ fun _ => Respects.pure _
      unfold claimCloudRefresh persistRefresh
      refine (Respects.require _ _).bind fun _ => (Respects.fetch _).bind fun row => ?_
      cases row with
      | none => exact Respects.pure _
      | some row =>
          refine (Respects.store fun _ => .of_eq rfl rfl).bind fun _ => ?_
          exact (Respects.store fun _ => .of_eq rfl rfl).bind fun _ => Respects.pure _
  | releaseRefresh claim now retryDelaySeconds =>
      refine Respects.bind ?_ fun _ => Respects.pure _
      unfold releaseCloudRefreshClaim persistRefresh
      refine (Respects.require _ _).bind fun _ => (Respects.fetch _).bind fun _ => ?_
      refine (Respects.require _ _).bind fun _ => ?_
      refine (Respects.store fun _ => .of_eq rfl rfl).bind fun _ => ?_
      exact (Respects.store fun _ => .of_eq rfl rfl).bind fun _ => Respects.pure _

end Feeds

section Mail

variable {s t : AuthorizationStore} {row : EmailRow} {job : EmailNotificationJob}

/-- The job may become the document of the row. -/
structure EmailNotificationJob.Replaces (job : EmailNotificationJob) (row : EmailRow) : Prop where
  id : job.id = row.id
  scope : job.scope = row.scope
  valid : job.state.active = true → job.valid = true

/-- The store after `_persist_email_job`. -/
def AuthorizationStore.putEmail (s : AuthorizationStore) (job : EmailNotificationJob) :
    AuthorizationStore :=
  { s with
    emailOutbox := Table.updateWhere (fun row => row.id == job.id)
      (fun row => row.persisted job) s.emailOutbox }

theorem persistEmailJob_apply (job : EmailNotificationJob) (s : AuthorizationStore) :
    persistEmailJob job s = .ok ((), s.putEmail job) := rfl

theorem readEmailJob_eq_ok {job' : EmailNotificationJob}
    (h : readEmailJob job s = .ok (job', t)) : job' = job ∧ t = s ∧ job.valid = true := by
  unfold readEmailJob at h
  obtain ⟨_, _, hRequire, hPure⟩ := bind_eq_ok.mp h
  obtain ⟨hValid, rfl⟩ := require_eq_ok.mp hRequire
  cases hPure
  exact ⟨rfl, rfl, hValid⟩

theorem readEmailJob_of_valid (h : job.valid = true) (s : AuthorizationStore) :
    readEmailJob job s = .ok (job, s) := by
  unfold readEmailJob
  rw [bind_of_ok (require_of_true h _ s)]
  rfl

theorem selectEmailJob_eq_ok {id : UUID} {state : EmailOutboxState} {claimFence : Nat}
    {guard : EmailRow → Bool} {stale : String}
    (h : selectEmailJob id state claimFence guard stale s = .ok (job, t)) :
    t = s ∧ job.valid = true ∧
      ∃ row ∈ s.emailOutbox, row.id = id ∧ row.state = state ∧ row.document = job := by
  unfold selectEmailJob at h
  rw [fetch_bind] at h
  cases hFind : s.emailOutbox.find? (fun row => row.isHeld id state claimFence && guard row) with
  | none =>
      rw [hFind] at h
      cases h
  | some row =>
      rw [hFind] at h
      obtain ⟨rfl, rfl, hValid⟩ := readEmailJob_eq_ok h
      have hHeld := List.find?_some hFind
      simp only [EmailRow.isHeld, Bool.and_eq_true, beq_iff_eq] at hHeld
      exact ⟨rfl, hValid, row, List.mem_of_find?_eq_some hFind, hHeld.1.1.1, hHeld.1.1.2, rfl⟩

theorem EmailOutboxState.active_of_undelivered {state : EmailOutboxState}
    (h : state.undelivered = true) : state.active = false := by
  cases state <;> simp [EmailOutboxState.undelivered, EmailOutboxState.active] at h ⊢

theorem MailSound.mem_putEmail (h : MailSound s) (hRow : row ∈ s.emailOutbox)
    (hId : job.id = row.id) {row' : EmailRow} : row' ∈ (s.putEmail job).emailOutbox ↔
      row' = row.persisted job ∨ (row' ∈ s.emailOutbox ∧ row'.id ≠ row.id) := by
  unfold AuthorizationStore.putEmail
  rw [Table.mem_updateWhere]
  constructor
  · rintro ⟨x, hx, ⟨hSame, rfl⟩ | ⟨hOther, rfl⟩⟩
    · left
      rw [h.unique.eq hx hRow ((beq_iff_eq.mp hSame).trans hId)]
    · right
      exact ⟨hx, fun hSame => by simp [hSame, hId] at hOther⟩
  · rintro (rfl | ⟨hOld, hOther⟩)
    · exact ⟨row, hRow, Or.inl ⟨by simp [hId], rfl⟩⟩
    · exact ⟨row', hOld, Or.inr ⟨by simpa [hId] using hOther, rfl⟩⟩

/-- Writing an active job leaves the reports about the undelivered ones. -/
theorem MailSound.putEmail (h : MailSound s) (hRow : row ∈ s.emailOutbox)
    (hActive : row.state.active = true) (hReplaces : job.Replaces row) :
    MailSound (s.putEmail job) := by
  refine ⟨h.unique.updateWhere fun x _ _ => rfl, ?_, ?_⟩
  · intro row' hRow'
    rcases (h.mem_putEmail hRow hReplaces.id).mp hRow' with rfl | ⟨hOld, _⟩
    · exact ⟨hReplaces.id, hReplaces.scope, rfl, hReplaces.valid⟩
    · exact h.agrees row' hOld
  · intro n hn hMail
    obtain ⟨row', hRow', hUndelivered, hReport⟩ := h.notices n hn hMail
    refine ⟨row', (h.mem_putEmail hRow hReplaces.id).mpr (Or.inr ⟨hRow', ?_⟩), hUndelivered,
      hReport⟩
    intro hSame
    rw [h.unique.eq hRow' hRow hSame] at hUndelivered
    rw [EmailOutboxState.active_of_undelivered hUndelivered] at hActive
    cases hActive

/-- Nothing became undelivered and the feed stayed. -/
theorem UndeliveredVisible.of_rows (h : UndeliveredVisible s)
    (hFeed : t.notifications = s.notifications)
    (hRows : ∀ row ∈ t.emailOutbox, row.state.undelivered = true → row ∈ s.emailOutbox) :
    UndeliveredVisible t := by
  intro row hRow hUndelivered
  rw [hFeed]
  exact h row (hRows row hRow hUndelivered) hUndelivered

theorem UndeliveredVisible.putEmail (h : UndeliveredVisible s) (hSound : MailSound s)
    (hRow : row ∈ s.emailOutbox) (hId : job.id = row.id)
    (hState : job.state.undelivered = false) : UndeliveredVisible (s.putEmail job) := by
  refine h.of_rows rfl ?_
  intro row' hRow' hUndelivered
  rcases (hSound.mem_putEmail hRow hId).mp hRow' with rfl | ⟨hOld, _⟩
  · exact absurd (hState.symm.trans hUndelivered) Bool.false_ne_true
  · exact hOld

/-- The calls that hand an active job on to another active state. -/
theorem rewriteActive_mail {id : UUID} {state : EmailOutboxState} {claimFence : Nat}
    {guard : EmailRow → Bool} {stale : String} {f : EmailNotificationJob → EmailNotificationJob}
    {job' : EmailNotificationJob} (h : MailSound s) (hActive : state.active = true)
    (hf : ∀ job, (f job).id = job.id ∧ (f job).scope = job.scope ∧
      (f job).state.undelivered = false ∧ (job.valid = true → (f job).valid = true))
    (hBody : (do
      let job ← selectEmailJob id state claimFence guard stale
      persistEmailJob (f job)
      pure (f job)) s = .ok (job', t)) :
    MailSound t ∧ (UndeliveredVisible s → UndeliveredVisible t) := by
  obtain ⟨job, _, hSelect, hBody⟩ := bind_eq_ok.mp hBody
  obtain ⟨rfl, hValid, row, hRow, _, hState, rfl⟩ := selectEmailJob_eq_ok hSelect
  cases hBody
  have hAgrees := h.agrees row hRow
  obtain ⟨hId, hScope, hOpen, hKept⟩ := hf row.document
  have hReplaces : (f row.document).Replaces row :=
    ⟨hId.trans hAgrees.id, hScope.trans hAgrees.scope, fun _ => hKept hValid⟩
  have hBefore : row.state.active = true := by rw [hState, hActive]
  exact ⟨h.putEmail hRow hBefore hReplaces,
    fun hVisible => hVisible.putEmail h hRow hReplaces.id hOpen⟩

theorem EmailNotificationJob.postponed_valid (job : EmailNotificationJob) {now : Timestamp}
    {retryDelaySeconds : Nat} {failureReasonCode : Option String}
    (hReason : atMost 200 failureReasonCode = true) (hValid : job.valid = true) :
    (job.postponed now retryDelaySeconds failureReasonCode).valid = true := by
  unfold EmailNotificationJob.valid EmailNotificationJob.postponed at *
  rw [Bool.and_eq_true] at hValid ⊢
  exact ⟨hValid.1, hReason⟩

theorem releaseEmailClaim_mail {claim : ClaimedEmailNotification} {now : Timestamp}
    {retryDelaySeconds : Nat} {failureReasonCode : Option String} (h : MailSound s)
    (hReason : atMost 200 failureReasonCode = true)
    (hBody : releaseEmailClaim claim now retryDelaySeconds failureReasonCode s = .ok (job, t)) :
    MailSound t ∧ (UndeliveredVisible s → UndeliveredVisible t) := by
  unfold releaseEmailClaim at hBody
  obtain ⟨_, _, hRequire, hBody⟩ := bind_eq_ok.mp hBody
  obtain ⟨_, rfl⟩ := require_eq_ok.mp hRequire
  refine rewriteActive_mail (f := fun job => job.postponed now retryDelaySeconds failureReasonCode)
    h rfl (fun job => ⟨rfl, rfl, rfl, fun hValid => ?_⟩) hBody
  exact job.postponed_valid hReason hValid

theorem releaseEmailSendBeforeProvider_mail {jobId : UUID} {claimFence : Nat} {now : Timestamp}
    {failureReasonCode : String} {retryDelaySeconds : Nat} (h : MailSound s)
    (hReason : atMost 200 (some failureReasonCode) = true)
    (hBody : releaseEmailSendBeforeProvider jobId claimFence now failureReasonCode
      retryDelaySeconds s = .ok (job, t)) :
    MailSound t ∧ (UndeliveredVisible s → UndeliveredVisible t) := by
  unfold releaseEmailSendBeforeProvider at hBody
  obtain ⟨_, _, hRequire, hBody⟩ := bind_eq_ok.mp hBody
  obtain ⟨_, rfl⟩ := require_eq_ok.mp hRequire
  refine rewriteActive_mail
    (f := fun job => job.postponed now retryDelaySeconds (some failureReasonCode))
    h rfl (fun job => ⟨rfl, rfl, rfl, fun hValid => ?_⟩) hBody
  exact job.postponed_valid hReason hValid

theorem markEmailSending_mail {jobId : UUID} {claimFence : Nat} {now : Timestamp}
    (h : MailSound s) (hBody : markEmailSending jobId claimFence now s = .ok (job, t)) :
    MailSound t ∧ (UndeliveredVisible s → UndeliveredVisible t) :=
  rewriteActive_mail
    (f := fun job => { job with state := .sending, attempts := job.attempts + 1, updatedAt := now })
    h rfl (fun _ => ⟨rfl, rfl, rfl, fun hValid => hValid⟩) hBody

/-- Notices about two jobs never share a key. -/
theorem mailIncident_append_injective {a b : UUID} {x y : String}
    (h : mailIncident a ++ ":" ++ x = mailIncident b ++ ":" ++ y) : a = b := by
  unfold mailIncident at h
  simp only [String.append_assoc] at h
  exact (UUID.text_append_inj (append_cancel_left h)).1

theorem aboutMail_incident (kind : IntegrationNotificationKind) (jobId : UUID) (rest : String) :
    aboutMail kind (mailIncident jobId ++ ":" ++ rest) = true := by
  unfold aboutMail startsWith mailIncident
  simp

/-- A notification that is no duplicate and asks for no mail is appended. -/
theorem insertNotification_fresh {draft : IntegrationNotificationDraft} {scope : ActorScope}
    {now : Timestamp} {draws : NotificationDraws} {event : Option IntegrationNotification}
    (hFresh : s.notifications.any (NotificationRow.isDuplicate scope draft.dedupeKey) = false)
    (h : insertNotification draft scope none now draws s = .ok (event, t)) :
    ∃ n : NotificationRow, n.notice = ⟨draft.kind, scope, draft.dedupeKey, draft.incidentKey⟩ ∧
      t = { s with notifications := s.notifications ++ [n] } := by
  unfold insertNotification at h
  rw [fetch_bind] at h
  simp only [id_eq, hFresh, Bool.false_eq_true, if_false] at h
  obtain ⟨_, _, hRequire, h⟩ := bind_eq_ok.mp h
  obtain ⟨_, rfl⟩ := require_eq_ok.mp hRequire
  obtain ⟨_, _, hRequire, h⟩ := bind_eq_ok.mp h
  obtain ⟨_, rfl⟩ := require_eq_ok.mp hRequire
  cases h
  exact ⟨_, rfl, rfl⟩

/-- The feed has no notice yet about a job that is still active. -/
theorem MailSound.no_duplicate (h : MailSound s) (hRow : row ∈ s.emailOutbox)
    (hActive : row.state.active = true) (scope : ActorScope) (stage : String) :
    s.notifications.any
      (NotificationRow.isDuplicate scope (mailIncident row.id ++ ":" ++ stage)) = false := by
  rw [List.any_eq_false]
  intro n hn hDuplicate
  simp only [NotificationRow.isDuplicate, Bool.and_eq_true, beq_iff_eq] at hDuplicate
  obtain ⟨row', hRow', hUndelivered, _, stage', hKey⟩ := h.notices n.notice (mem_notices hn)
    (by rw [NotificationRow.notice, hDuplicate.2]; exact aboutMail_incident _ _ _)
  have hSame : row'.id = row.id :=
    mailIncident_append_injective (hKey.symm.trans hDuplicate.2)
  rw [h.unique.eq hRow' hRow hSame] at hUndelivered
  rw [EmailOutboxState.active_of_undelivered hUndelivered] at hActive
  cases hActive

/-- A notice about an undelivered row. -/
theorem MailSound.notify (h : MailSound s) {n : NotificationRow} (hRow : row ∈ s.emailOutbox)
    (hUndelivered : row.state.undelivered = true)
    (hIncident : n.notice.incidentKey = some (mailIncident row.id))
    (hKey : ∃ stage, n.notice.dedupeKey = mailIncident row.id ++ ":" ++ stage) :
    MailSound { s with notifications := s.notifications ++ [n] } := by
  refine ⟨h.unique, h.agrees, ?_⟩
  rw [notices_append]
  intro notice hn hMail
  rcases List.mem_append.mp hn with hOld | hNew
  · exact h.notices notice hOld hMail
  · rw [List.mem_singleton.mp hNew]
    exact ⟨row, hRow, hUndelivered, hIncident, hKey⟩

/-- A finished send that was not accepted is reported with the write. -/
theorem finishEmailNotification_mail {jobId : UUID} {claimFence : Nat} {status : String}
    {vendorReceiptRef : Option String} {deliveryConfirmed : Bool} {now : Timestamp}
    {draws : NotificationDraws} (h : MailSound s)
    (hBody : finishEmailNotification jobId claimFence status vendorReceiptRef deliveryConfirmed
      now draws s = .ok (job, t)) :
    MailSound t ∧ (UndeliveredVisible s → UndeliveredVisible t) := by
  unfold finishEmailNotification at hBody
  cases hVerdict : EmailVerdict.ofText status with
  | none => simp [hVerdict] at hBody
  | some verdict =>
      simp only [hVerdict] at hBody
      obtain ⟨_, _, hRequire, hBody⟩ := bind_eq_ok.mp hBody
      obtain ⟨_, rfl⟩ := require_eq_ok.mp hRequire
      obtain ⟨found, _, hSelect, hBody⟩ := bind_eq_ok.mp hBody
      obtain ⟨rfl, _, row, hRow, _, hState, rfl⟩ := selectEmailJob_eq_ok hSelect
      have hAgrees := h.agrees row hRow
      have hActive : row.state.active = true := by rw [hState]; rfl
      have hReplaces : (row.document.settled verdict vendorReceiptRef deliveryConfirmed
          now).Replaces row := by
        refine ⟨hAgrees.id, hAgrees.scope, fun hActive => ?_⟩
        cases verdict <;> cases hActive
      have hSound := h.putEmail hRow hActive hReplaces
      rw [bind_of_ok (persistEmailJob_apply _ _)] at hBody
      by_cases hAccepted : verdict = .accepted
      · rw [if_pos hAccepted] at hBody
        cases hBody
        exact ⟨hSound, fun hVisible => hVisible.putEmail h hRow hReplaces.id (by rw [hAccepted]; rfl)⟩
      · rw [if_neg hAccepted] at hBody
        obtain ⟨draft, _, hDraft, hBody⟩ := bind_eq_ok.mp hBody
        obtain ⟨rfl, rfl, _⟩ := draftNotification_eq_ok hDraft
        obtain ⟨_, _, hInsert, hPure⟩ := bind_eq_ok.mp hBody
        cases hPure
        have hKey : (deliveryFailedDraft row.document verdict).dedupeKey =
            mailIncident row.id ++ ":" ++ verdict.stage := by rw [← hAgrees.id]; rfl
        have hFresh := h.no_duplicate hRow hActive row.document.scope verdict.stage
        rw [← hKey] at hFresh
        obtain ⟨n, hNotice, rfl⟩ := insertNotification_fresh (by exact hFresh) hInsert
        have hUndelivered : (row.document.settled verdict vendorReceiptRef deliveryConfirmed
            now).state.undelivered = true := by
          cases verdict
          · exact absurd rfl hAccepted
          · rfl
          · rfl
        have hIncident : (deliveryFailedDraft row.document verdict).incidentKey =
            some (mailIncident row.id) := by rw [← hAgrees.id]; rfl
        constructor
        · refine hSound.notify ((h.mem_putEmail hRow hReplaces.id).mpr (Or.inl rfl)) hUndelivered
            ?_ ⟨verdict.stage, ?_⟩
          · rw [hNotice]
            exact hIncident
          · rw [hNotice]
            exact hKey
        · intro hVisible row' hRow' hUndelivered'
          rcases (h.mem_putEmail hRow hReplaces.id).mp hRow' with rfl | ⟨hOld, _⟩
          · refine ⟨n, List.mem_append_right _ (List.mem_singleton.mpr rfl), ?_, ?_, ?_⟩
            · exact congrArg Notice.kind hNotice
            · exact (congrArg Notice.scope hNotice).trans hAgrees.scope
            · exact (congrArg Notice.incidentKey hNotice).trans hIncident
          · obtain ⟨n', hn', hReports⟩ := hVisible row' hOld hUndelivered'
            exact ⟨n', List.mem_append_left _ hn', hReports⟩

end Mail

section Claim

variable {s t : AuthorizationStore}

/-- The loop writes the settled job of each of its rows and nothing else. -/
theorem settleLapsed_spec (settle : EmailNotificationJob → EmailNotificationJob)
    (hSettle : ∀ job, (settle job).id = job.id ∧ (settle job).scope = job.scope ∧
      (job.valid = true → (settle job).valid = true))
    (rows : List EmailRow) (h : MailSound s) (hUnique : Table.KeysUnique EmailRow.id rows)
    (hRows : ∀ row ∈ rows, row ∈ s.emailOutbox ∧ row.state.active = true) :
    ∃ t, settleLapsed settle rows s = .ok ((), t) ∧ MailSound t ∧
      t.notifications = s.notifications ∧ ∀ row', row' ∈ t.emailOutbox ↔
        (∃ row ∈ rows, row' = row.persisted (settle row.document)) ∨
        (row' ∈ s.emailOutbox ∧ ∀ row ∈ rows, row'.id ≠ row.id) := by
  induction rows generalizing s with
  | nil => exact ⟨s, rfl, h, rfl, fun row' => by simp⟩
  | cons row rest ih =>
      obtain ⟨hRow, hActive⟩ := hRows row List.mem_cons_self
      have hAgrees := h.agrees row hRow
      obtain ⟨hId, hScope, hValid⟩ := hSettle row.document
      have hReplaces : (settle row.document).Replaces row :=
        ⟨hId.trans hAgrees.id, hScope.trans hAgrees.scope, fun _ => hValid (hAgrees.valid hActive)⟩
      obtain ⟨hHead, hRest⟩ := List.nodup_cons.mp hUnique
      have hApart : ∀ other ∈ rest, other.id ≠ row.id := fun other hOther hSame =>
        hHead (List.mem_map.mpr ⟨other, hOther, hSame⟩)
      have hMem := fun row' => @MailSound.mem_putEmail _ _ _ h hRow hReplaces.id row'
      obtain ⟨t, hRun, hSound, hFeed, hLast⟩ := ih (h.putEmail hRow hActive hReplaces) hRest
        fun other hOther => ⟨(hMem other).mpr (Or.inr
          ⟨(hRows other (List.mem_cons_of_mem _ hOther)).1, hApart other hOther⟩),
          (hRows other (List.mem_cons_of_mem _ hOther)).2⟩
      refine ⟨t, ?_, hSound, hFeed, fun row' => ?_⟩
      · unfold settleLapsed
        rw [bind_of_ok (readEmailJob_of_valid (hAgrees.valid hActive) s),
          bind_of_ok (persistEmailJob_apply _ _)]
        exact hRun
      · rw [hLast, hMem]
        constructor
        · rintro (⟨other, hOther, rfl⟩ | ⟨rfl | ⟨hOld, hNot⟩, hOthers⟩)
          · exact Or.inl ⟨other, List.mem_cons_of_mem _ hOther, rfl⟩
          · exact Or.inl ⟨row, List.mem_cons_self, rfl⟩
          · refine Or.inr ⟨hOld, fun other hOther => ?_⟩
            rcases List.mem_cons.mp hOther with rfl | hOther
            · exact hNot
            · exact hOthers other hOther
        · rintro (⟨other, hOther, rfl⟩ | ⟨hOld, hOthers⟩)
          · rcases List.mem_cons.mp hOther with rfl | hOther
            · exact Or.inr ⟨Or.inl rfl, fun later hLater hSame => hApart later hLater hSame.symm⟩
            · exact Or.inl ⟨other, hOther, rfl⟩
          · exact Or.inr ⟨Or.inr ⟨hOld, hOthers row List.mem_cons_self⟩,
              fun other hOther => hOthers other (List.mem_cons_of_mem _ hOther)⟩

theorem EmailNotificationJob.abandoned_valid (job : EmailNotificationJob) {now : Timestamp}
    (hValid : job.valid = true) : (job.abandoned now).valid = true := by
  unfold EmailNotificationJob.valid EmailNotificationJob.abandoned at *
  rw [Bool.and_eq_true] at hValid ⊢
  exact ⟨hValid.1, rfl⟩

/-- The rows a loop of the claim runs over. -/
theorem MailSound.lapsed_rows (h : MailSound s) (state : EmailOutboxState) (now : Timestamp)
    (hActive : state.active = true) :
    Table.KeysUnique EmailRow.id (s.emailOutbox.filter (EmailRow.lapsed state now)) ∧
      ∀ row ∈ s.emailOutbox.filter (EmailRow.lapsed state now),
        row ∈ s.emailOutbox ∧ row.state.active = true := by
  refine ⟨h.unique.sublist (List.filter_sublist.map _), ?_⟩
  intro row hRow
  obtain ⟨hMem, hLapsed⟩ := List.mem_filter.mp hRow
  simp only [EmailRow.lapsed, Bool.and_eq_true, beq_iff_eq] at hLapsed
  exact ⟨hMem, by rw [hLapsed.1, hActive]⟩

theorem EmailRow.lapsed_state {state : EmailOutboxState} {now : Timestamp} {row : EmailRow}
    (h : row.lapsed state now = true) : row.state = state := by
  simp only [EmailRow.lapsed, Bool.and_eq_true, beq_iff_eq] at h
  exact h.1

theorem claimEmailNotification_arguments {workerId : String} {now : Timestamp}
    {leaseSeconds : Nat} {claim : Option ClaimedEmailNotification}
    (h : claimEmailNotification workerId now leaseSeconds s = .ok (claim, t)) :
    textWithin 200 workerId = true ∧ 1 ≤ leaseSeconds ∧ leaseSeconds ≤ 300 := by
  unfold claimEmailNotification at h
  obtain ⟨_, _, hRequire, _⟩ := bind_eq_ok.mp h
  simpa [and_assoc] using (require_eq_ok.mp hRequire).1

/-- A claim turns exactly the lapsed sends into undelivered rows and tells the
feed of none. -/
theorem claimEmailNotification_mail {workerId : String} {leaseSeconds : Nat} (now : Timestamp)
    (h : MailSound s)
    (hArguments : textWithin 200 workerId = true ∧ 1 ≤ leaseSeconds ∧ leaseSeconds ≤ 300) :
    ∃ claim t, claimEmailNotification workerId now leaseSeconds s = .ok (claim, t) ∧
      MailSound t ∧ t.notifications = s.notifications ∧
      (∀ row ∈ t.emailOutbox, row.state.undelivered = true → row ∈ s.emailOutbox ∨
        ∃ sent ∈ s.emailOutbox, sent.lapsed .sending now = true) ∧
      ∀ sent ∈ s.emailOutbox, sent.lapsed .sending now = true →
        ∃ row ∈ t.emailOutbox, row.id = sent.id ∧ row.state = .unknown := by
  obtain ⟨hUnique, hRows⟩ := h.lapsed_rows .claimed now rfl
  obtain ⟨first, hFirst, hSound, hFeed, hMem⟩ := settleLapsed_spec
    (fun job => job.unclaimed now) (fun _ => ⟨rfl, rfl, fun hValid => hValid⟩)
    _ h hUnique hRows
  have hStays : ∀ sent ∈ s.emailOutbox, sent.lapsed .sending now = true →
      sent ∈ first.emailOutbox := by
    intro sent hSent hLapsed
    refine (hMem sent).mpr (Or.inr ⟨hSent, fun row hRow hSame => ?_⟩)
    obtain ⟨hOld, hClaimed⟩ := List.mem_filter.mp hRow
    have hState := EmailRow.lapsed_state hLapsed
    rw [h.unique.eq hSent hOld hSame, EmailRow.lapsed_state hClaimed] at hState
    cases hState
  have hWas : ∀ row ∈ first.emailOutbox, row.state ≠ .ready → row ∈ s.emailOutbox := by
    intro row hRow hState
    rcases (hMem row).mp hRow with ⟨_, _, rfl⟩ | ⟨hOld, _⟩
    · exact absurd rfl hState
    · exact hOld
  obtain ⟨hUnique', hRows'⟩ := hSound.lapsed_rows .sending now rfl
  obtain ⟨second, hSecond, hSound', hFeed', hMem'⟩ := settleLapsed_spec
    (fun job => job.abandoned now)
    (fun job => ⟨rfl, rfl, job.abandoned_valid⟩) _ hSound hUnique' hRows'
  have hUndelivered : ∀ row ∈ second.emailOutbox, row.state.undelivered = true →
      row ∈ s.emailOutbox ∨ ∃ sent ∈ s.emailOutbox, sent.lapsed .sending now = true := by
    intro row hRow hState
    rcases (hMem' row).mp hRow with ⟨sent, hSent, rfl⟩ | ⟨hOld, _⟩
    · obtain ⟨hSent, hLapsed⟩ := List.mem_filter.mp hSent
      refine Or.inr ⟨sent, hWas sent hSent ?_, hLapsed⟩
      rw [EmailRow.lapsed_state hLapsed]
      exact EmailOutboxState.noConfusion
    · refine Or.inl (hWas row hOld ?_)
      intro hReady
      rw [hReady] at hState
      cases hState
  have hLost : ∀ sent ∈ s.emailOutbox, sent.lapsed .sending now = true →
      ∃ row ∈ second.emailOutbox, row.id = sent.id ∧ row.state = .unknown := fun sent hSent hLapsed =>
    ⟨_, (hMem' _).mpr (Or.inl ⟨sent, List.mem_filter.mpr ⟨hStays sent hSent hLapsed, hLapsed⟩, rfl⟩),
      rfl, rfl⟩
  unfold claimEmailNotification
  rw [bind_of_ok (require_of_true (by simpa [and_assoc] using hArguments) _ s), fetch_bind,
    bind_of_ok hFirst, fetch_bind, bind_of_ok hSecond, fetch_bind]
  cases hNext : Table.firstBy EmailRow.sooner (second.emailOutbox.filter fun row =>
      row.state == .ready && decide (row.availableAt ≤ now)) with
  | none => exact ⟨none, second, rfl, hSound', hFeed'.trans hFeed, hUndelivered, hLost⟩
  | some row =>
      obtain ⟨hRow, hReady⟩ := List.mem_filter.mp (Table.mem_of_firstBy hNext)
      simp only [Bool.and_eq_true, beq_iff_eq] at hReady
      have hActive : row.state.active = true := by rw [hReady.1]; rfl
      have hAgrees := hSound'.agrees row hRow
      have hReplaces : EmailNotificationJob.Replaces { row.document with
          state := .claimed
          claimOwner := some workerId
          claimFence := row.document.claimFence + 1
          leaseExpiresAt := some (now + seconds leaseSeconds)
          updatedAt := now } row :=
        ⟨hAgrees.id, hAgrees.scope, fun _ => hAgrees.valid hActive⟩
      have hMem'' := fun row' => @MailSound.mem_putEmail _ _ _ hSound' hRow hReplaces.id row'
      simp only
      rw [bind_of_ok (readEmailJob_of_valid (hAgrees.valid hActive) second),
        bind_of_ok (persistEmailJob_apply _ _)]
      refine ⟨_, _, rfl, hSound'.putEmail hRow hActive hReplaces, hFeed'.trans hFeed, ?_, ?_⟩
      · intro row' hRow' hState
        rcases (hMem'' row').mp hRow' with rfl | ⟨hOld, _⟩
        · cases hState
        · exact hUndelivered row' hOld hState
      · intro sent hSent hLapsed
        obtain ⟨lost, hLostMem, hId, hState⟩ := hLost sent hSent hLapsed
        refine ⟨lost, (hMem'' lost).mpr (Or.inr ⟨hLostMem, fun hSame => ?_⟩), hId, hState⟩
        rw [hSound'.unique.eq hLostMem hRow hSame, hReady.1] at hState
        cases hState

end Claim

section Monitor

variable {s t : AuthorizationStore} {drafts : List IntegrationNotificationDraft}

theorem RenewalAlert.notAboutMail {connection : ProviderConnection}
    {current : AuthorizationHealthRecord} {draft : IntegrationNotificationDraft}
    (h : RenewalAlert connection current draft) :
    aboutMail draft.kind draft.dedupeKey = false := by
  have hKey : startsWith draft.dedupeKey "email-delivery:" = false :=
    startsWith_other h.startsWith_key (by decide) (by decide)
  rcases h.kind with hKind | hKind <;> simp [aboutMail, hKey, hKind]

/-- The monitor's own alerts keep the promise. -/
theorem authorizationNotifications_notAboutMail {claim : ClaimedAuthorizationMonitor}
    {previous : Option AuthorizationHealthRecord} {current : AuthorizationHealthRecord}
    {now : Timestamp}
    (h : authorizationNotifications claim previous current now s = .ok (drafts, t)) :
    ∀ draft ∈ drafts, aboutMail draft.kind draft.dedupeKey = false := by
  obtain ⟨_, ⟨_, rfl⟩ | ⟨_, hDrafts⟩⟩ := authorizationNotifications_eq_ok h
  · have hKey : startsWith (unavailableDraft claim.connection current).dedupeKey
        "email-delivery:" = false :=
      startsWith_other (unavailableDraft_startsWith_key _ _) (by decide) (by decide)
    intro draft hDraft
    rw [List.mem_singleton.mp hDraft, aboutMail, hKey]
    rfl
  · exact fun draft hDraft => (hDrafts draft hDraft).notAboutMail

end Monitor

section Runs

variable (sha256 : String → String) {s : AuthorizationStore}

theorem authorizationStep_mail {call : AuthorizationCall} (h : MailSound s)
    (hPromise : MailPromise s call) :
    MailSound (authorizationStep sha256 call s).2 ∧
      (¬ FindsLapsedSend ⟨s, call, (authorizationStep sha256 call s).1,
          (authorizationStep sha256 call s).2⟩ →
        UndeliveredVisible s → UndeliveredVisible (authorizationStep sha256 call s).2) := by
  unfold authorizationStep
  rcases commit_cases (call.body sha256) s with ⟨answer, t, hBody, hCommit⟩ | ⟨e, _, hCommit⟩
  · rw [hCommit]
    cases hSpares : call.sparesMail with
    | true =>
        have hFeeds := AuthorizationCall.body_feeds sha256 hPromise hSpares hBody
        exact ⟨h.feeds hFeeds, fun _ hVisible => hVisible.feeds hFeeds⟩
    | false =>
        cases call with
        | releaseEmail claim now retryDelaySeconds failureReasonCode =>
            obtain ⟨_, _, hMethod, hPure⟩ := bind_eq_ok.mp hBody
            cases hPure
            obtain ⟨hSound, hKept⟩ := releaseEmailClaim_mail h hPromise hMethod
            exact ⟨hSound, fun _ => hKept⟩
        | markSending jobId claimFence now =>
            obtain ⟨_, _, hMethod, hPure⟩ := bind_eq_ok.mp hBody
            cases hPure
            obtain ⟨hSound, hKept⟩ := markEmailSending_mail h hMethod
            exact ⟨hSound, fun _ => hKept⟩
        | finishEmail jobId claimFence status vendorReceiptRef deliveryConfirmed now draws =>
            obtain ⟨_, _, hMethod, hPure⟩ := bind_eq_ok.mp hBody
            cases hPure
            obtain ⟨hSound, hKept⟩ := finishEmailNotification_mail h hMethod
            exact ⟨hSound, fun _ => hKept⟩
        | releaseSend jobId claimFence now failureReasonCode retryDelaySeconds =>
            obtain ⟨_, _, hMethod, hPure⟩ := bind_eq_ok.mp hBody
            cases hPure
            obtain ⟨hSound, hKept⟩ := releaseEmailSendBeforeProvider_mail h hPromise hMethod
            exact ⟨hSound, fun _ => hKept⟩
        | claimEmail workerId now leaseSeconds =>
            obtain ⟨_, _, hMethod, hPure⟩ := bind_eq_ok.mp hBody
            cases hPure
            have hArguments := claimEmailNotification_arguments hMethod
            obtain ⟨claim, u, hClaim, hSound, hFeed, hUndelivered, _⟩ :=
              claimEmailNotification_mail now h hArguments
            rw [hClaim] at hMethod
            cases hMethod
            refine ⟨hSound, fun hNone hVisible => hVisible.of_rows hFeed fun row hRow hState => ?_⟩
            rcases hUndelivered row hRow hState with hOld | hLapsed
            · exact hOld
            · exact absurd ⟨workerId, now, leaseSeconds, rfl, hArguments, hLapsed⟩ hNone
        | _ => cases hSpares
  · rw [hCommit]
    exact ⟨h, fun _ hVisible => hVisible⟩

/-- The mail a claim gives up is missing from the feed. -/
theorem lapsed_send_hidden {e : AuthorizationEvent} (h : MailSound e.before)
    (hAfter : e.after = (authorizationStep sha256 e.input e.before).2)
    (hFinds : FindsLapsedSend e) : ¬ UndeliveredVisible e.after := by
  obtain ⟨workerId, now, leaseSeconds, hInput, hArguments, sent, hSent, hLapsed⟩ := hFinds
  obtain ⟨claim, t, hClaim, _, hFeed, _, hLost⟩ :=
    claimEmailNotification_mail now h hArguments
  have hStep : (authorizationStep sha256 e.input e.before).2 = t := by
    rw [hInput]
    exact congrArg Prod.snd (commit_of_ok (bind_of_ok hClaim))
  rw [hAfter, hStep]
  intro hVisible
  obtain ⟨row, hRow, hId, hState⟩ := hLost sent hSent hLapsed
  obtain ⟨n, hn, hKind, hScope, hIncident⟩ := hVisible row hRow (by rw [hState]; rfl)
  rw [hFeed] at hn
  rw [hId] at hIncident
  have hSending : sent.state.undelivered = false := by rw [EmailRow.lapsed_state hLapsed]; rfl
  exact h.unreported hSent hSending hn hKind hIncident

theorem run_mail (calls : List AuthorizationCall) (h : MailSound s)
    (hPromise : Admitted (authorizationStep sha256) MailPromise calls s) :
    MailSound (run (authorizationStep sha256) calls s) := by
  have hPreserves : Preserves (authorizationStep sha256) MailPromise MailSound :=
    fun _ _ hSound hCall => (authorizationStep_mail sha256 hSound hCall).1
  exact hPreserves.run h hPromise

/-- Without lapsed sends every undelivered mail stays in the feed. -/
theorem run_visible (calls : List AuthorizationCall) (h : MailSound s)
    (hVisible : UndeliveredVisible s)
    (hPromise : Admitted (authorizationStep sha256) MailPromise calls s)
    (hNone : ∀ e ∈ trace (authorizationStep sha256) calls s, ¬ FindsLapsedSend e) :
    UndeliveredVisible (run (authorizationStep sha256) calls s) := by
  induction calls generalizing s with
  | nil => exact hVisible
  | cons call rest ih =>
      obtain ⟨hSound, hKept⟩ := authorizationStep_mail sha256 h hPromise.1
      exact ih hSound (hKept (hNone _ List.mem_cons_self) hVisible) hPromise.2
        fun e he => hNone e (List.mem_cons_of_mem _ he)

end Runs

/-- In every run, every mail that ended UNKNOWN or REJECTED is in the feed in
every state reached if and only if no claim ever finds a lapsed send. -/
theorem undelivered_mail_visible_iff (sha256 : String → String) (calls : List AuthorizationCall)
    (hPromise : Admitted (authorizationStep sha256) MailPromise calls {}) :
    (∀ earlier later, calls = earlier ++ later →
      UndeliveredVisible (run (authorizationStep sha256) earlier {})) ↔
    ∀ e ∈ trace (authorizationStep sha256) calls {}, ¬ FindsLapsedSend e := by
  constructor
  · intro hVisible e he hFinds
    obtain ⟨before, after, hTrace⟩ := List.append_of_mem he
    obtain ⟨earlier, later, rfl, _, hLater⟩ := trace_eq_append hTrace
    cases later with
    | nil => cases hLater
    | cons call rest =>
        obtain ⟨rfl, _⟩ := List.cons.inj hLater
        have hSound := run_mail sha256 earlier MailSound.initial
          ((admitted_append earlier (call :: rest) _).mp hPromise).1
        have hNext := hVisible (earlier ++ [call]) rest (by simp)
        rw [run_append] at hNext
        exact lapsed_send_hidden sha256 hSound rfl hFinds hNext
  · rintro hNone earlier later rfl
    refine run_visible sha256 earlier MailSound.initial (by simp [UndeliveredVisible])
      ((admitted_append earlier later _).mp hPromise).1 fun e he => hNone e ?_
    rw [trace_append]
    exact List.mem_append_left _ he

section Sample

def mailedConnection : ProviderConnection where
  id := ⟨"3f6f0c1e-6f0b-4a53-8d6e-0c5a1b2c3d4e", by decide⟩
  scope := ⟨"organization", "workspace", "issuer", "member"⟩
  provider := .github

def mailedHealth : AuthorizationHealthRecord where
  id := ⟨"b0f7a2a4-2f0e-4f43-9a3b-5d0b1f2e3c4d", by decide⟩
  scope := mailedConnection.scope
  connectionId := mailedConnection.id
  loginState := .present
  authorizationState := .reauthorizationRequired
  checkedAt := .ofTimestamp 0
  generation := 1

theorem mailedJob_canonical : "7d0c1f5e-3a52-4c7e-9b1f-0a6b1c2d3e4f".length = 36 := by decide

def mailedJob : UUID := ⟨"7d0c1f5e-3a52-4c7e-9b1f-0a6b1c2d3e4f", mailedJob_canonical⟩

def mailedDraws : NotificationDraws :=
  ⟨⟨"c1d2e3f4-0a1b-4c2d-8e3f-4a5b6c7d8e9f", by decide⟩, mailedJob⟩

/-- One alert is mailed; the worker stops after marking the job SENDING. -/
def interruptedSend : List AuthorizationCall := [
  .createConnection mailedConnection,
  .claimChecks "monitor" 0 60 10,
  .completeCheck ⟨mailedConnection, "monitor", 1, seconds 60⟩ mailedHealth
    [requiredDraft mailedConnection mailedHealth] 1 3600 (some "member") fun _ => mailedDraws,
  .claimEmail "mailer" 2 60,
  .markSending mailedJob 1 3]

theorem undelivered_mail_visible_iff_sample :
    (∀ earlier later, interruptedSend ++ [.claimEmail "other" (seconds 61) 60] = earlier ++ later →
      UndeliveredVisible (run (authorizationStep fun _ => "digest") earlier {})) ↔
    ∀ e ∈ trace (authorizationStep fun _ => "digest")
      (interruptedSend ++ [.claimEmail "other" (seconds 61) 60]) {}, ¬ FindsLapsedSend e :=
  undelivered_mail_visible_iff (fun _ => "digest") _ (by decide +kernel)

/-- The claim that comes after the lease finds the job in SENDING: it ends
UNKNOWN and the feed says nothing. -/
theorem lapsed_send_is_not_reported :
    (run (authorizationStep fun _ => "digest")
      (interruptedSend ++ [.claimEmail "other" (seconds 61) 60]) {}).emailOutbox.map
        EmailRow.state = [.unknown] ∧
    ¬ UndeliveredVisible (run (authorizationStep fun _ => "digest")
      (interruptedSend ++ [.claimEmail "other" (seconds 61) 60]) {}) := by
  decide +kernel

end Sample

end CyreneExchange.Integrations
