import CyreneExchange.Integrations.Authorization.Frames

/-! What every call adds to the notification feed and to the health facts. -/
namespace CyreneExchange.Integrations

open Machine Transaction

/-- The notices a call may add to the feed. -/
def AuthorizationCall.mayNotify (sha256 : String → String) : AuthorizationCall → Notice → Prop
  | .completeCheck claim _ notifications .., n =>
      ∃ draft ∈ notifications, n = draft.notice claim.connection.scope
  | .completeRefresh _ observations .., n =>
      ∃ connection prior, ∃ observation ∈ observations,
        n = (changedResourceDraft sha256 connection prior observation).notice connection.scope
  | .finishEmail .., n =>
      ∃ job verdict, n = (deliveryFailedDraft job verdict).notice job.scope
  | _, _ => False

/-- The health facts a call may add. -/
def AuthorizationCall.mayObserve : AuthorizationCall → HealthRow → Prop
  | .completeCheck _ health .., row =>
      row.connectionId = health.connectionId ∧ row.scope = health.scope ∧ row.document = health
  | _, _ => False

/-- The feed grows by notices that `p` admits and the health facts by rows that
`q` admits; unlike a report, a call may also claim. -/
structure AuthorizationStore.Announces (p : Notice → Prop) (q : HealthRow → Prop)
    (s t : AuthorizationStore) : Prop where
  feed : Table.Grows p s.notices t.notices
  healths : Table.Grows q s.authorizationObservations t.authorizationObservations

section Announces

open AuthorizationStore (Announces)

variable {p : Notice → Prop} {q : HealthRow → Prop} {s t : AuthorizationStore}

instance : Std.Refl (Announces p q) := ⟨fun _ => ⟨refl_of _ _, refl_of _ _⟩⟩

instance : IsTrans AuthorizationStore (Announces p q) where
  trans _ _ _ h h' := ⟨trans_of _ h.feed h'.feed, trans_of _ h.healths h'.healths⟩

/-- A write to the connections or to the tables of the claims. -/
theorem AuthorizationStore.Announces.of_eq (hFeed : t.notifications = s.notifications)
    (hHealths : t.authorizationObservations = s.authorizationObservations) :
    s.Announces p q t :=
  ⟨.of_eq (congrArg (List.map NotificationRow.notice) hFeed), .of_eq hHealths⟩

theorem Respects.announces {α : Type} {body : AuthorizationTransaction α}
    (h : Respects (AuthorizationStore.Reports p q) body) : Respects (Announces p q) body :=
  h.mono fun _ _ hReports => ⟨hReports.feed, hReports.healths⟩

theorem insertProviderConnection_announces (connection : ProviderConnection) :
    Respects (Announces p q) (insertProviderConnection connection) := by
  unfold insertProviderConnection
  refine (Respects.fetch _).bind fun _ => (Respects.require _ _).bind fun _ => ?_
  exact Respects.store fun _ => .of_eq rfl rfl

theorem claimAuthorizationChecks_announces (workerId : String) (now : Timestamp)
    (leaseSeconds limit : Nat) : Respects (Announces p q)
      (claimAuthorizationChecks workerId now leaseSeconds limit) := by
  unfold claimAuthorizationChecks
  refine (Respects.require _ _).bind fun _ => (Respects.require _ _).bind fun _ => ?_
  refine (Respects.store fun _ => .of_eq rfl rfl).bind fun _ => (Respects.fetch _).bind fun _ => ?_
  exact (Respects.store fun _ => .of_eq rfl rfl).bind fun _ => Respects.pure _

theorem completeAuthorizationCheck_announces {claim : ClaimedAuthorizationMonitor}
    {health : AuthorizationHealthRecord} {notifications : List IntegrationNotificationDraft}
    (hDrafts : ∀ draft ∈ notifications, p (draft.notice claim.connection.scope))
    (hHealth : ∀ row : HealthRow, row.connectionId = health.connectionId →
      row.scope = health.scope → row.document = health → q row) (now : Timestamp)
    (intervalSeconds : Nat) (emailRecipientRef : Option String)
    (draw : Nat → NotificationDraws) : Respects (Announces p q)
      (completeAuthorizationCheck claim health notifications now intervalSeconds
        emailRecipientRef draw) := by
  unfold completeAuthorizationCheck
  refine (Respects.require _ _).bind fun _ => (Respects.require _ _).bind fun _ => ?_
  refine (Respects.fetch _).bind fun _ => (Respects.require _ _).bind fun _ => ?_
  refine (Respects.require _ _).bind fun _ => (Respects.require _ _).bind fun _ => ?_
  refine (Respects.announces (insertHealth_reports hHealth)).bind fun _ => ?_
  refine (Respects.announces (insertNotifications_reports hDrafts ..)).bind fun _ => ?_
  exact (Respects.store fun _ => .of_eq rfl rfl).bind fun _ => Respects.pure _

theorem releaseAuthorizationCheck_announces (claim : ClaimedAuthorizationMonitor)
    (now : Timestamp) (retryDelaySeconds : Nat) : Respects (Announces p q)
      (releaseAuthorizationCheck claim now retryDelaySeconds) := by
  unfold releaseAuthorizationCheck
  refine (Respects.require _ _).bind fun _ => (Respects.fetch _).bind fun _ => ?_
  exact (Respects.require _ _).bind fun _ => Respects.store fun _ => .of_eq rfl rfl

theorem enqueueCloudRefresh_announces (sha256 : String → String)
    (principal : IntegrationPrincipal) (connectionId : UUID) (idempotencyKey : String)
    (now moment : Timestamp) (draw : UUID) : Respects (Announces p q)
      (enqueueCloudRefresh sha256 principal connectionId idempotencyKey now moment draw) := by
  unfold enqueueCloudRefresh
  refine (requireOperation_reads _ _ _).bind fun _ => (Respects.require _ _).bind fun _ => ?_
  refine (Respects.fetch _).bind fun found => ?_
  cases found with
  | none => exact Respects.reject _
  | some connection =>
      refine (Respects.require _ _).bind fun _ => (Respects.require _ _).bind fun _ => ?_
      refine (Respects.fetch _).bind fun row => ?_
      cases row with
      | some row => exact (Respects.require _ _).bind fun _ => Respects.pure _
      | none =>
          refine (Respects.fetch _).bind fun _ => (Respects.require _ _).bind fun _ => ?_
          exact (Respects.store fun _ => .of_eq rfl rfl).bind fun _ => Respects.pure _

theorem claimCloudRefresh_announces (workerId : String) (now : Timestamp) (leaseSeconds : Nat) :
    Respects (Announces p q) (claimCloudRefresh workerId now leaseSeconds) := by
  unfold claimCloudRefresh persistRefresh
  refine (Respects.require _ _).bind fun _ => (Respects.fetch _).bind fun row => ?_
  cases row with
  | none => exact Respects.pure _
  | some row =>
      refine (Respects.store fun _ => .of_eq rfl rfl).bind fun _ => ?_
      exact (Respects.store fun _ => .of_eq rfl rfl).bind fun _ => Respects.pure _

theorem completeCloudRefresh_announces {sha256 : String → String}
    {observations : List CloudResourceRecord}
    (h : ∀ connection prior, ∀ observation ∈ observations,
      p ((changedResourceDraft sha256 connection prior observation).notice connection.scope))
    (claim : ClaimedCloudRefresh) (state : CloudRefreshState) (now : Timestamp)
    (result : Option JsonObject) (emailRecipientRef : Option String)
    (draw : Nat → NotificationDraws) : Respects (Announces p q)
      (completeCloudRefresh sha256 claim observations state now result emailRecipientRef
        draw) := by
  unfold completeCloudRefresh persistRefresh
  refine (Respects.require _ _).bind fun _ => (Respects.require _ _).bind fun _ => ?_
  refine (Respects.fetch _).bind fun s => (Respects.require _ _).bind fun _ => ?_
  split
  · exact Respects.reject _
  · next connection _ =>
    have hStored := storeObservations_reports (q := q) (fun observation hMem prior =>
      h connection prior observation hMem) emailRecipientRef now draw
    refine (Respects.announces hStored).bind fun _ => ?_
    refine (Respects.store fun _ => .of_eq rfl rfl).bind fun _ => ?_
    exact (Respects.store fun _ => .of_eq rfl rfl).bind fun _ => Respects.pure _

theorem releaseCloudRefreshClaim_announces (claim : ClaimedCloudRefresh) (now : Timestamp)
    (retryDelaySeconds : Nat) : Respects (Announces p q)
      (releaseCloudRefreshClaim claim now retryDelaySeconds) := by
  unfold releaseCloudRefreshClaim persistRefresh
  refine (Respects.require _ _).bind fun _ => (Respects.fetch _).bind fun _ => ?_
  refine (Respects.require _ _).bind fun _ => ?_
  refine (Respects.store fun _ => .of_eq rfl rfl).bind fun _ => ?_
  exact (Respects.store fun _ => .of_eq rfl rfl).bind fun _ => Respects.pure _

/-- Every call only adds, and adds what it may. -/
theorem AuthorizationCall.body_announces (sha256 : String → String) (call : AuthorizationCall) :
    Respects (Announces (call.mayNotify sha256) call.mayObserve) (call.body sha256) := by
  cases call with
  | createConnection connection =>
      exact (insertProviderConnection_announces connection).bind fun _ => Respects.pure _
  | claimChecks workerId now leaseSeconds limit =>
      exact (claimAuthorizationChecks_announces ..).bind fun _ => Respects.pure _
  | completeCheck claim health notifications now intervalSeconds emailRecipientRef draw =>
      refine Respects.bind (completeAuthorizationCheck_announces ?_ ?_ ..) fun _ => Respects.pure _
      · exact fun draft hDraft => ⟨draft, hDraft, rfl⟩
      · exact fun row hConnection hScope hDocument => ⟨hConnection, hScope, hDocument⟩
  | releaseCheck claim now retryDelaySeconds =>
      exact (releaseAuthorizationCheck_announces ..).bind fun _ => Respects.pure _
  | acknowledge =>
      exact (Respects.announces (acknowledgeNotification_reports ..)).bind fun _ => Respects.pure _
  | enqueueRefresh =>
      exact (enqueueCloudRefresh_announces ..).bind fun _ => Respects.pure _
  | claimRefresh => exact (claimCloudRefresh_announces ..).bind fun _ => Respects.pure _
  | completeRefresh claim observations state now result emailRecipientRef draw =>
      refine Respects.bind (completeCloudRefresh_announces ?_ ..) fun _ => Respects.pure _
      exact fun connection prior observation hMem => ⟨connection, prior, observation, hMem, rfl⟩
  | releaseRefresh => exact (releaseCloudRefreshClaim_announces ..).bind fun _ => Respects.pure _
  | claimEmail =>
      exact (Respects.announces (claimEmailNotification_reports ..)).bind fun _ => Respects.pure _
  | requestDelivery =>
      exact (Respects.announces (requestNotificationEmailDelivery_reports ..)).bind fun _ =>
        Respects.pure _
  | releaseEmail =>
      exact (Respects.announces (releaseEmailClaim_reports ..)).bind fun _ => Respects.pure _
  | markSending =>
      exact (Respects.announces (markEmailSending_reports ..)).bind fun _ => Respects.pure _
  | finishEmail =>
      refine Respects.bind (Respects.announces (finishEmailNotification_reports ?_ ..)) fun _ =>
        Respects.pure _
      exact fun job verdict => ⟨job, verdict, rfl⟩
  | releaseSend =>
      exact (Respects.announces (releaseEmailSendBeforeProvider_reports ..)).bind fun _ =>
        Respects.pure _

theorem step_announces (sha256 : String → String) (call : AuthorizationCall)
    (s : AuthorizationStore) :
    s.Announces (call.mayNotify sha256) call.mayObserve (authorizationStep sha256 call s).2 :=
  (call.body_announces sha256).commit s

end Announces

theorem insertHealth_eq_ok {s t : AuthorizationStore} {health : AuthorizationHealthRecord}
    {u : Unit} (h : insertHealth health s = .ok (u, t)) :
    ∃ row : HealthRow, row.connectionId = health.connectionId ∧ row.scope = health.scope ∧
      row.document = health ∧
      t = { s with authorizationObservations := s.authorizationObservations ++ [row] } := by
  unfold insertHealth at h
  cases hChecked : health.checkedAt.utc with
  | none =>
      simp only [hChecked] at h
      cases h
  | some checkedAt =>
      simp only [hChecked] at h
      obtain ⟨_, _, hRequire, h⟩ := bind_eq_ok.mp h
      obtain ⟨_, rfl⟩ := require_eq_ok.mp hRequire
      rw [fetch_bind] at h
      obtain ⟨_, _, hRequire, hStore⟩ := bind_eq_ok.mp h
      obtain ⟨_, rfl⟩ := require_eq_ok.mp hRequire
      cases hStore
      exact ⟨_, rfl, rfl, rfl, rfl⟩

section Insertions

variable {s t : AuthorizationStore}

/-- The feed has a notice under the key. -/
def AuthorizationStore.Announced (s : AuthorizationStore) (scope : ActorScope)
    (dedupeKey : String) : Prop :=
  ∃ n ∈ s.notices, n.scope = scope ∧ n.dedupeKey = dedupeKey

theorem any_isDuplicate {scope : ActorScope} {dedupeKey : String} :
    s.notifications.any (NotificationRow.isDuplicate scope dedupeKey) = true ↔
      s.Announced scope dedupeKey := by
  simp [AuthorizationStore.Announced, AuthorizationStore.notices, NotificationRow.isDuplicate,
    NotificationRow.notice]

theorem announced_of_same (h : t.notifications = s.notifications) (scope : ActorScope)
    (dedupeKey : String) : t.Announced scope dedupeKey ↔ s.Announced scope dedupeKey := by
  unfold AuthorizationStore.Announced AuthorizationStore.notices
  rw [h]

/-- A notification under a key of the feed is dropped; any other is stored. -/
theorem insertNotification_eq_ok {draft : IntegrationNotificationDraft} {scope : ActorScope}
    {emailRecipientRef : Option String} {now : Timestamp} {draws : NotificationDraws}
    {event : Option IntegrationNotification}
    (h : insertNotification draft scope emailRecipientRef now draws s = .ok (event, t)) :
    (s.Announced scope draft.dedupeKey ∧ t = s) ∨
      (¬ s.Announced scope draft.dedupeKey ∧ ∃ n : NotificationRow,
        n.notice = draft.notice scope ∧ n.connectionId = draft.connectionId ∧
        t.notifications = s.notifications ++ [n]) := by
  rw [← any_isDuplicate]
  unfold insertNotification at h
  rw [fetch_bind] at h
  split at h
  · next hDuplicate =>
    cases h
    exact Or.inl ⟨hDuplicate, rfl⟩
  · next hFresh =>
    obtain ⟨_, _, hRequire, h⟩ := bind_eq_ok.mp h
    obtain ⟨_, rfl⟩ := require_eq_ok.mp hRequire
    obtain ⟨_, _, hRequire, h⟩ := bind_eq_ok.mp h
    obtain ⟨_, rfl⟩ := require_eq_ok.mp hRequire
    rw [store_bind] at h
    refine Or.inr ⟨hFresh, (draft.event scope now draws.notificationId
      (nextSequence s.notifications)).row draft.dedupeKey, rfl, rfl, ?_⟩
    cases emailRecipientRef with
    | none =>
        cases h
        rfl
    | some recipientRef =>
        dsimp only at h
        split at h
        · cases h
          rfl
        · obtain ⟨_, _, hJob, hPure⟩ := bind_eq_ok.mp h
          obtain ⟨_, _, rfl⟩ := insertEmailJob_eq_ok hJob
          cases hPure
          rfl

end Insertions

section Keys

/-- Of the keys that `about` selects, the feed has those of `seen`. -/
def AuthorizationStore.KeysAnnounced (about : String → Bool) (seen : List (ActorScope × String))
    (s : AuthorizationStore) : Prop :=
  ∀ scope key, about key = true → (s.Announced scope key ↔ (scope, key) ∈ seen)

variable {about : String → Bool} {seen : List (ActorScope × String)} {s t : AuthorizationStore}

theorem AuthorizationStore.KeysAnnounced.initial (about : String → Bool) :
    AuthorizationStore.KeysAnnounced about [] {} := by
  intro scope key _
  simp [AuthorizationStore.Announced, AuthorizationStore.notices]

theorem AuthorizationStore.KeysAnnounced.of_same (h : s.KeysAnnounced about seen)
    (hSame : t.notifications = s.notifications) : t.KeysAnnounced about seen :=
  fun scope key hKey => (announced_of_same hSame scope key).trans (h scope key hKey)

theorem AuthorizationStore.KeysAnnounced.grows {p : Notice → Prop}
    (h : s.KeysAnnounced about seen) (hFeed : Table.Grows p s.notices t.notices)
    (hApart : ∀ n, p n → about n.dedupeKey = false) : t.KeysAnnounced about seen := by
  intro scope key hKey
  rw [← h scope key hKey]
  constructor
  · rintro ⟨n, hn, rfl, rfl⟩
    rcases hFeed.origin hn with hOld | hNew
    · exact ⟨n, hOld, rfl, rfl⟩
    · rw [hApart n hNew] at hKey
      cases hKey
  · rintro ⟨n, hn, hScope, hDedupe⟩
    exact ⟨n, hFeed.kept hn, hScope, hDedupe⟩

/-- A notification is stored exactly when its key was not seen; then it is. -/
theorem insertNotification_announces {draft : IntegrationNotificationDraft} {scope : ActorScope}
    {emailRecipientRef : Option String} {now : Timestamp} {draws : NotificationDraws}
    {event : Option IntegrationNotification} (hSeen : s.KeysAnnounced about seen)
    (hAbout : about draft.dedupeKey = true)
    (h : insertNotification draft scope emailRecipientRef now draws s = .ok (event, t)) :
    (((scope, draft.dedupeKey) ∈ seen ∧ t.notifications = s.notifications) ∨
      ((scope, draft.dedupeKey) ∉ seen ∧ ∃ n : NotificationRow,
        n.notice = draft.notice scope ∧ n.connectionId = draft.connectionId ∧
        t.notifications = s.notifications ++ [n])) ∧
    t.KeysAnnounced about (seen ++ [(scope, draft.dedupeKey)]) := by
  rw [← hSeen scope draft.dedupeKey hAbout]
  rcases insertNotification_eq_ok h with ⟨hOld, rfl⟩ | ⟨hNew, n, hNotice, hConnection, hStored⟩
  · refine ⟨Or.inl ⟨hOld, rfl⟩, fun other key hKey => ?_⟩
    rw [hSeen other key hKey, List.mem_append, List.mem_singleton]
    constructor
    · exact Or.inl
    · rintro (hMem | hSame)
      · exact hMem
      · rw [hSame]
        exact (hSeen scope draft.dedupeKey hAbout).mp hOld
  · refine ⟨Or.inr ⟨hNew, n, hNotice, hConnection, hStored⟩, fun other key hKey => ?_⟩
    have hNotices : t.notices = s.notices ++ [draft.notice scope] := by
      unfold AuthorizationStore.notices
      rw [hStored, List.map_append, List.map_singleton, hNotice]
    rw [List.mem_append, ← hSeen other key hKey, List.mem_singleton, Prod.mk.injEq]
    unfold AuthorizationStore.Announced
    rw [hNotices]
    simp only [List.mem_append, List.mem_singleton, or_and_right, exists_or, exists_eq_left]
    rw [@eq_comm _ other, @eq_comm _ key]
    rfl

end Keys

section Alerts

/-- The alerts of the monitor about an authorization that must be or is about
to be renewed. -/
inductive RenewalAlert (connection : ProviderConnection) (current : AuthorizationHealthRecord) :
    IntegrationNotificationDraft → Prop
  | required : RenewalAlert connection current (requiredDraft connection current)
  | requiredReminder (bucket : Int) :
      RenewalAlert connection current (requiredReminderDraft connection current bucket)
  | expiring (expiresAt : Datetime) (stage : String) :
      RenewalAlert connection current (expiryDraft connection current expiresAt stage)
  | expiringReminder (expiresAt : Datetime) (stage : String) (bucket : Int) :
      RenewalAlert connection current (expiryReminderDraft connection current expiresAt stage bucket)

/-- The check finds the connection unavailable, and the one before did not. -/
def startsOutage (previous : Option AuthorizationHealthRecord)
    (current : AuthorizationHealthRecord) : Bool :=
  !current.invalidated && current.unavailable &&
    !previous.any AuthorizationHealthRecord.unavailable

/-- The alerts of a check: the outage it starts, or renewals. -/
def MonitorDrafts (connection : ProviderConnection) (previous : Option AuthorizationHealthRecord)
    (current : AuthorizationHealthRecord) (drafts : List IntegrationNotificationDraft) : Prop :=
  (startsOutage previous current = true ∧ drafts = [unavailableDraft connection current]) ∨
    (startsOutage previous current = false ∧
      ∀ draft ∈ drafts, RenewalAlert connection current draft)

variable {s t : AuthorizationStore} {drafts : List IntegrationNotificationDraft}

theorem latestNotificationForMonitor_eq_ok {claim : ClaimedAuthorizationMonitor}
    {incidentKey : String} {stagePrefix : Option String}
    {latest : Option IntegrationNotification}
    (h : latestNotificationForMonitor claim incidentKey stagePrefix s = .ok (latest, t)) :
    t = s := by
  have hReads : Keeps id (latestNotificationForMonitor claim incidentKey stagePrefix) := by
    unfold latestNotificationForMonitor
    grind
  exact hReads h

theorem incidentNotifications_eq_ok {latest : Option IntegrationNotification} {now : Timestamp}
    {first : IntegrationNotificationDraft} {reminder : Int → IntegrationNotificationDraft}
    (h : incidentNotifications latest now first reminder s = .ok (drafts, t)) :
    t = s ∧ ∀ draft ∈ drafts, draft = first ∨ ∃ bucket, draft = reminder bucket := by
  unfold incidentNotifications at h
  split at h
  · obtain ⟨draft, _, hDraft, hPure⟩ := bind_eq_ok.mp h
    obtain ⟨rfl, rfl, _⟩ := draftNotification_eq_ok hDraft
    cases hPure
    exact ⟨rfl, by simp⟩
  · split at h
    · obtain ⟨draft, _, hDraft, hPure⟩ := bind_eq_ok.mp h
      obtain ⟨rfl, rfl, _⟩ := draftNotification_eq_ok hDraft
      cases hPure
      exact ⟨rfl, by simp⟩
    · cases h
      exact ⟨rfl, by simp⟩

/-- The monitor only reads. -/
theorem authorizationNotifications_eq_ok {claim : ClaimedAuthorizationMonitor}
    {previous : Option AuthorizationHealthRecord} {current : AuthorizationHealthRecord}
    {now : Timestamp}
    (h : authorizationNotifications claim previous current now s = .ok (drafts, t)) :
    t = s ∧ MonitorDrafts claim.connection previous current drafts := by
  unfold authorizationNotifications at h
  simp only at h
  split at h
  · next hInvalidated =>
    obtain ⟨latest, _, hLatest, hIncident⟩ := bind_eq_ok.mp h
    obtain rfl := latestNotificationForMonitor_eq_ok hLatest
    obtain ⟨rfl, hDrafts⟩ := incidentNotifications_eq_ok hIncident
    refine ⟨rfl, Or.inr ⟨by simp [startsOutage, hInvalidated], fun draft hDraft => ?_⟩⟩
    rcases hDrafts draft hDraft with rfl | ⟨bucket, rfl⟩
    · exact .required
    · exact .requiredReminder bucket
  · next hInvalidated =>
    split at h
    · next hUnavailable =>
      split at h
      · next hPrior =>
        cases h
        exact ⟨rfl, Or.inr ⟨by simp [startsOutage, hPrior], by simp⟩⟩
      · next hPrior =>
        obtain ⟨draft, _, hDraft, hPure⟩ := bind_eq_ok.mp h
        obtain ⟨rfl, rfl, _⟩ := draftNotification_eq_ok hDraft
        cases hPure
        refine ⟨rfl, Or.inl ⟨?_, rfl⟩⟩
        simp [startsOutage, hInvalidated, hUnavailable, hPrior]
    · next hAvailable =>
      have hNone : startsOutage previous current = false := by simp [startsOutage, hAvailable]
      cases hExpiry : current.expiresAt with
      | none =>
          simp only [hExpiry] at h
          cases h
          exact ⟨rfl, Or.inr ⟨hNone, by simp⟩⟩
      | some expiresAt =>
          simp only [hExpiry] at h
          cases hRemaining : expiresAt.since now with
          | none =>
              simp only [hRemaining] at h
              cases h
          | some remaining =>
              simp only [hRemaining] at h
              split at h
              · cases h
                exact ⟨rfl, Or.inr ⟨hNone, by simp⟩⟩
              · obtain ⟨latest, _, hLatest, hIncident⟩ := bind_eq_ok.mp h
                obtain rfl := latestNotificationForMonitor_eq_ok hLatest
                obtain ⟨rfl, hDrafts⟩ := incidentNotifications_eq_ok hIncident
                refine ⟨rfl, Or.inr ⟨hNone, fun draft hDraft => ?_⟩⟩
                rcases hDrafts draft hDraft with rfl | ⟨bucket, rfl⟩
                · exact .expiring expiresAt _
                · exact .expiringReminder expiresAt _ bucket

theorem startsWith_append {text lead : String} (h : startsWith text lead = true) (rest : String) :
    startsWith (text ++ rest) lead = true := by
  unfold startsWith at h ⊢
  rw [List.isPrefixOf_iff_prefix] at h ⊢
  rw [String.toList_append]
  exact h.trans (List.prefix_append _ _)

/-- A text has only one of two leads that disagree. -/
theorem startsWith_other {text lead other : String} (h : startsWith text lead = true)
    (hLead : startsWith lead other = false) (hOther : startsWith other lead = false) :
    startsWith text other = false := by
  unfold startsWith at *
  rw [List.isPrefixOf_iff_prefix] at h
  rw [Bool.eq_false_iff, ne_eq, List.isPrefixOf_iff_prefix] at *
  intro hBoth
  exact (List.prefix_or_prefix_of_prefix h hBoth).elim hOther hLead

theorem RenewalAlert.startsWith_key {connection : ProviderConnection}
    {current : AuthorizationHealthRecord} {draft : IntegrationNotificationDraft}
    (h : RenewalAlert connection current draft) :
    startsWith draft.dedupeKey "authorization" = true := by
  have hIncident : startsWith (authorizationIncident connection current) "authorization" = true :=
    startsWith_append (startsWith_append (startsWith_append (by decide) _) _) _
  have hExpiry : startsWith (expiryIncident connection current) "authorization" = true :=
    startsWith_append (startsWith_append (startsWith_append (by decide) _) _) _
  cases h with
  | required => exact startsWith_append hIncident _
  | requiredReminder bucket => exact startsWith_append (startsWith_append hIncident _) _
  | expiring expiresAt stage =>
      exact startsWith_append (startsWith_append hExpiry _) _
  | expiringReminder expiresAt stage bucket =>
      exact startsWith_append (startsWith_append (startsWith_append
        (startsWith_append hExpiry _) _) _) _

theorem RenewalAlert.kind {connection : ProviderConnection} {current : AuthorizationHealthRecord}
    {draft : IntegrationNotificationDraft} (h : RenewalAlert connection current draft) :
    draft.kind = .authorizationRequired ∨ draft.kind = .authorizationExpiring := by
  cases h with
  | required => exact Or.inl rfl
  | requiredReminder bucket => exact Or.inl rfl
  | expiring expiresAt stage => exact Or.inr rfl
  | expiringReminder expiresAt stage bucket => exact Or.inr rfl

theorem unavailableDraft_startsWith_key (connection : ProviderConnection)
    (current : AuthorizationHealthRecord) :
    startsWith (unavailableDraft connection current).dedupeKey "connection-unavailable:" = true :=
  startsWith_append (startsWith_append (startsWith_append (by decide) _) _) _

end Alerts

end CyreneExchange.Integrations
