import CyreneExchange.General.Cursor
import CyreneExchange.Integrations.Authorization.Frames
import CyreneExchange.Integrations.Authorization.Calls

/-! The notification feed as its clients read it, in pages behind a cursor. Whatever
is written, the feed only grows, and each notification stands above the ones that
were committed before it. -/
namespace CyreneExchange.Integrations

open Transaction

section Requests

/-- The highest sequence a feed request may continue from. -/
def highestCursor : Int := 9223372036854775000

/-- The documents of the selected rows, each read back. -/
def readNotifications : List NotificationRow →
    AuthorizationTransaction (List IntegrationNotification)
  | [] => pure []
  | row :: rest => do
      let event ← readNotification row.document
      let events ← readNotifications rest
      pure (event :: events)

/-- `WHERE` scope `AND sequence>? ORDER BY sequence LIMIT ?`. -/
def selectNotifications (scope : ActorScope) (afterSequence limit : Int)
    (rows : List NotificationRow) : List NotificationRow :=
  (Table.orderBy NotificationRow.sequence (rows.filter fun row =>
    row.scope == scope && decide (afterSequence < row.sequence))).take limit.toNat

/-- `list_notifications`. -/
def listNotifications (principal : IntegrationPrincipal) (afterSequence limit : Int)
    (authorizationOperationId : String) (now : Timestamp) :
    AuthorizationTransaction (List IntegrationNotification) := do
  requireOperation principal authorizationOperationId now
  require (decide (0 ≤ afterSequence ∧ afterSequence ≤ highestCursor))
    (.validation "notification sequence is out of range")
  require (decide (1 ≤ limit ∧ limit ≤ 200)) (.validation "notification page size is out of range")
  let rows ← fetch fun s => selectNotifications principal.scope afterSequence limit s.notifications
  readNotifications rows

/-- An event as the routes show it: without its internal actor scope. -/
structure NotificationResponse where
  id : UUID
  sequence : Nat
  connectionId : Option UUID
  kind : IntegrationNotificationKind
  severity : NotificationSeverity
  title : String
  description : String
  createdAt : Timestamp
  actionRef : Option String
  acknowledgedAt : Option Timestamp
deriving DecidableEq, Repr

/-- `_notification_response`. -/
def notificationResponse (event : IntegrationNotification) : NotificationResponse where
  id := event.id
  sequence := event.sequence
  connectionId := event.connectionId
  kind := event.kind
  severity := event.severity
  title := event.title
  description := event.description
  createdAt := event.createdAt
  actionRef := event.actionRef
  acknowledgedAt := event.acknowledgedAt

/-- What a feed route answers instead of events: the HTTP layer's 422, a 403 or 400
of the route, or whatever the store raises. -/
inductive FeedRefusal where
  | query
  | executionBindingMismatch
  | permissionDenied
  | requestInvalid (title detail : String)
  | store (error : AuthorizationError)

/-- The answer of a method that only reads. -/
def readStore {α : Type} (body : AuthorizationTransaction α) (refusal : AuthorizationError → FeedRefusal)
    (s : AuthorizationStore) : Except FeedRefusal α :=
  match body s with
  | .ok (a, _) => .ok a
  | .error e => .error (refusal e)

/-- `require(actor, "integrationListNotifications")` of the routes. -/
def requireFeed (principal : IntegrationPrincipal) (now : Timestamp) (s : AuthorizationStore) :
    Except FeedRefusal Unit :=
  readStore (requireOperation principal "integrationListNotifications" now)
    (fun _ => .permissionDenied) s

structure NotificationFeed where
  notifications : List NotificationResponse
  nextSequence : Int

/-- `GET /api/v1/integrations/notifications`. -/
def listNotificationsRoute (principal : IntegrationPrincipal) (after limit : Int)
    (now moment : Timestamp) (s : AuthorizationStore) : Except FeedRefusal NotificationFeed :=
  if 0 ≤ after ∧ 1 ≤ limit ∧ limit ≤ 200 then do
    requireFeed principal now s
    let events ← readStore (listNotifications principal after limit "integrationListNotifications"
      moment) .store s
    .ok {
      notifications := events.map notificationResponse
      nextSequence := (events.getLast?.map fun event => (event.sequence : Int)).getD after }
  else .error .query

/-- One `notification` event of the stream. -/
structure NotificationFrame where
  id : Nat
  data : NotificationResponse

/-- The cursor of a stream: `Last-Event-ID`, as `int` reads it, or `after`. -/
def streamCursor (after : Int) (lastEventId : Option (Option Int)) : Except FeedRefusal Int :=
  match lastEventId with
  | none => .ok after
  | some none => .error (.requestInvalid "Last-Event-ID is invalid"
      "Last-Event-ID must be a non-negative notification sequence.")
  | some (some cursor) =>
      if cursor < 0 ∨ (after ≠ 0 ∧ after ≠ cursor) then
        .error (.requestInvalid "Notification cursor is ambiguous"
          "Use either after or Last-Event-ID, or provide matching values.")
      else .ok cursor

/-- `GET /api/v1/integrations/notifications/events`. -/
def streamNotificationsRoute (principal : IntegrationPrincipal) (executionCredential : Bool)
    (after : Int) (lastEventId : Option (Option Int)) (now moment : Timestamp)
    (s : AuthorizationStore) : Except FeedRefusal (List NotificationFrame) :=
  if after < 0 then .error .query
  else if executionCredential then .error .executionBindingMismatch
  else do
    requireFeed principal now s
    let cursor ← streamCursor after lastEventId
    let events ← readStore (listNotifications principal cursor 100 "integrationListNotifications"
      moment) .store s
    .ok (events.map fun event => ⟨event.sequence, notificationResponse event⟩)

end Requests

section Feed

/-- The event, whether it was acknowledged or not. -/
def IntegrationNotification.unread (event : IntegrationNotification) : IntegrationNotification :=
  { event with acknowledgedAt := none }

/-- Every notification that was committed, oldest first. -/
def AuthorizationStore.feed (s : AuthorizationStore) : List IntegrationNotification :=
  s.notifications.map fun n => n.document.unread

/-- The columns of a row agree with its document, which can be read back. -/
structure NotificationRow.Recorded (n : NotificationRow) : Prop where
  sequence : n.document.sequence = n.sequence
  scope : n.document.scope = n.scope
  valid : n.document.valid = true

/-- Identifiers are unique and sequences rise in the order of the commits. -/
structure FeedSound (s : AuthorizationStore) : Prop where
  recorded : ∀ n ∈ s.notifications, n.Recorded
  unique : Table.KeysUnique NotificationRow.id s.notifications
  ascending : Cursor.Ascending NotificationRow.sequence s.notifications

theorem FeedSound.initial : FeedSound {} :=
  ⟨by simp, List.nodup_nil, List.Pairwise.nil⟩

/-- A sound feed stays sound, and only grows. -/
def AuthorizationStore.Extends (s t : AuthorizationStore) : Prop :=
  FeedSound s → FeedSound t ∧ ∃ added, t.feed = s.feed ++ added

open AuthorizationStore (Extends)

variable {s t : AuthorizationStore}

instance : Std.Refl Extends := ⟨fun s hSound => ⟨hSound, [], (List.append_nil s.feed).symm⟩⟩

instance : IsTrans AuthorizationStore Extends where
  trans s t u h h' := by
    intro hSound
    obtain ⟨hMiddle, added, hAdded⟩ := h hSound
    obtain ⟨hLast, added', hAdded'⟩ := h' hMiddle
    exact ⟨hLast, added ++ added', by rw [hAdded', hAdded, List.append_assoc]⟩

/-- A write to any other table. -/
@[grind ←]
theorem AuthorizationStore.Extends.of_eq (h : t.notifications = s.notifications) :
    s.Extends t := by
  rintro ⟨hRecorded, hUnique, hAscending⟩
  refine ⟨⟨h ▸ hRecorded, h ▸ hUnique, h ▸ hAscending⟩, [], ?_⟩
  rw [List.append_nil, AuthorizationStore.feed, AuthorizationStore.feed, h]

theorem lt_nextSequence {rows : List NotificationRow} {n : NotificationRow} (hn : n ∈ rows) :
    n.sequence < nextSequence rows := by
  have hFold : ∀ (rows : List NotificationRow) (start : Nat), start ≤ rows.foldl
      (fun highest row => max highest row.sequence) start := by
    intro rows
    induction rows with
    | nil => exact fun start => Nat.le_refl start
    | cons row rest ih =>
        intro start
        exact Nat.le_trans (Nat.le_max_left _ _) (ih _)
  have hMax : ∀ (rows : List NotificationRow) (start : Nat), n ∈ rows → n.sequence ≤ rows.foldl
      (fun highest row => max highest row.sequence) start := by
    intro rows
    induction rows with
    | nil => intro start hn; cases hn
    | cons row rest ih =>
        intro start hn
        rcases List.mem_cons.mp hn with rfl | hRest
        · exact Nat.le_trans (Nat.le_max_right _ _) (hFold rest _)
        · exact ih _ hRest
  exact Nat.lt_succ_of_le (hMax rows 0 hn)

/-- A new notification stands above every one before it. -/
theorem AuthorizationStore.Extends.insert {event : IntegrationNotification} {dedupeKey : String}
    (hSequence : event.sequence = nextSequence s.notifications) (hValid : event.valid = true)
    (hFresh : ∀ n ∈ s.notifications, n.id ≠ event.id)
    (hStored : t.notifications = s.notifications ++ [event.row dedupeKey]) : s.Extends t := by
  rintro ⟨hRecorded, hUnique, hAscending⟩
  refine ⟨⟨?_, ?_, ?_⟩, [event.unread], ?_⟩
  · rw [hStored]
    intro n hn
    rcases List.mem_append.mp hn with hOld | hNew
    · exact hRecorded n hOld
    · rw [List.mem_singleton.mp hNew]
      exact ⟨rfl, rfl, hValid⟩
  · rw [hStored]
    exact hUnique.append_singleton hFresh
  · rw [hStored]
    refine List.pairwise_append.mpr ⟨hAscending, List.pairwise_singleton _ _, ?_⟩
    intro n hn last hLast
    rw [List.mem_singleton.mp hLast]
    change n.sequence < event.sequence
    rw [hSequence]
    exact lt_nextSequence hn
  · rw [AuthorizationStore.feed, hStored, List.map_append]
    rfl

/-- Acknowledging a notification rewrites one document, and of it only the time. -/
theorem AuthorizationStore.Extends.acknowledge {row : NotificationRow}
    {event : IntegrationNotification} (hRow : row ∈ s.notifications)
    (hSame : event.unread = row.document.unread)
    (hStored : t.notifications = Table.updateWhere (fun other => other.id == row.id)
      (fun other => { other with document := event }) s.notifications) : s.Extends t := by
  rintro ⟨hRecorded, hUnique, hAscending⟩
  have hOnly : ∀ other ∈ s.notifications, (other.id == row.id) = true → other = row :=
    fun other hOther hId => hUnique.eq hOther hRow (by simpa using hId)
  have hSequence : event.sequence = row.document.sequence := by
    have := congrArg IntegrationNotification.sequence hSame
    exact this
  have hScope : event.scope = row.document.scope := by
    have := congrArg IntegrationNotification.scope hSame
    exact this
  have hValid : event.valid = row.document.valid := by
    have := congrArg IntegrationNotification.valid hSame
    exact this
  refine ⟨⟨?_, ?_, ?_⟩, [], ?_⟩
  · rw [hStored]
    intro n hn
    obtain ⟨other, hOther, ⟨hId, rfl⟩ | ⟨-, rfl⟩⟩ := Table.mem_updateWhere.mp hn
    · obtain ⟨hRowSequence, hRowScope, hRowValid⟩ := hRecorded row hRow
      rw [hOnly other hOther hId]
      exact ⟨hSequence.trans hRowSequence, hScope.trans hRowScope, hValid.trans hRowValid⟩
    · exact hRecorded n hOther
  · rw [hStored]
    exact hUnique.updateWhere fun _ _ _ => rfl
  · rw [hStored]
    apply List.pairwise_map.mp
    have hPlaces : (Table.updateWhere (fun other : NotificationRow => other.id == row.id)
        (fun other => { other with document := event }) s.notifications).map
          NotificationRow.sequence = s.notifications.map NotificationRow.sequence :=
      Table.map_updateWhere fun _ _ _ => rfl
    rw [hPlaces]
    exact List.pairwise_map.mpr hAscending
  · rw [AuthorizationStore.feed, hStored, List.append_nil]
    refine Table.map_updateWhere fun other hOther hId => ?_
    rw [hOnly other hOther hId]
    exact hSame

end Feed

section Frames

open AuthorizationStore (Extends)

@[grind ←]
theorem insertEmailJob_extends (job : EmailNotificationJob) :
    Respects Extends (insertEmailJob job) := by
  unfold insertEmailJob
  grind

/-- What a stored notification leaves in the feed. -/
theorem insertNotification_stores {draft : IntegrationNotificationDraft} {scope : ActorScope}
    {emailRecipientRef : Option String} {now : Timestamp} {draws : NotificationDraws}
    {s t : AuthorizationStore} {answer : Option IntegrationNotification}
    (h : insertNotification draft scope emailRecipientRef now draws s = .ok (answer, t)) :
    t = s ∨
      ((s.notifications.any fun row => row.id == draws.notificationId) = false ∧
        (draft.event scope now draws.notificationId (nextSequence s.notifications)).valid = true ∧
        t.notifications = s.notifications ++ [(draft.event scope now draws.notificationId
          (nextSequence s.notifications)).row draft.dedupeKey]) := by
  unfold insertNotification at h
  rw [fetch_bind] at h
  split at h
  · cases h
    exact .inl rfl
  · obtain ⟨_, _, hRequire, h⟩ := bind_eq_ok.mp h
    obtain ⟨hFresh, rfl⟩ := require_eq_ok.mp hRequire
    obtain ⟨_, _, hRequire, h⟩ := bind_eq_ok.mp h
    obtain ⟨hValid, rfl⟩ := require_eq_ok.mp hRequire
    rw [store_bind] at h
    refine .inr ⟨(Bool.not_eq_true' _).mp hFresh, hValid, ?_⟩
    cases emailRecipientRef with
    | none =>
        cases h
        rfl
    | some recipientRef =>
        dsimp only at h
        split at h
        · cases h
          rfl
        · obtain ⟨_, _, hJob, hPure⟩ := bind_eq_ok.mp h
          obtain ⟨-, -, rfl⟩ := insertEmailJob_eq_ok hJob
          cases hPure
          rfl

@[grind ←]
theorem insertNotification_extends (draft : IntegrationNotificationDraft) (scope : ActorScope)
    (emailRecipientRef : Option String) (now : Timestamp) (draws : NotificationDraws) :
    Respects Extends (insertNotification draft scope emailRecipientRef now draws) := by
  intro s t answer h
  rcases insertNotification_stores h with rfl | ⟨hFresh, hValid, hStored⟩
  · exact refl_of _ _
  · refine .insert rfl hValid ?_ hStored
    intro n hn
    change n.id ≠ draws.notificationId
    simpa using List.any_eq_false.mp hFresh n hn

theorem insertNotifications_extends (scope : ActorScope) (emailRecipientRef : Option String)
    (now : Timestamp) (draw : Nat → NotificationDraws)
    (drafts : List IntegrationNotificationDraft) :
    Respects Extends (insertNotifications scope emailRecipientRef now draw drafts) := by
  induction drafts with
  | nil => exact Respects.pure _
  | cons draft rest ih =>
      exact (insertNotification_extends ..).bind fun _ => ih.bind fun _ => Respects.pure _

theorem readNotification_eq_ok {s t : AuthorizationStore} {event event' : IntegrationNotification}
    (h : readNotification event s = .ok (event', t)) : event' = event ∧ t = s := by
  unfold readNotification at h
  obtain ⟨_, _, hRequire, hPure⟩ := bind_eq_ok.mp h
  obtain ⟨-, rfl⟩ := require_eq_ok.mp hRequire
  cases hPure
  exact ⟨rfl, rfl⟩

theorem acknowledgeNotification_extends (sha256 : String → String)
    (principal : IntegrationPrincipal) (notificationId : UUID) (idempotencyKey : String)
    (now moment : Timestamp) : Respects Extends
      (acknowledgeNotification sha256 principal notificationId idempotencyKey now moment) := by
  unfold acknowledgeNotification
  refine (requireOperation_reads _ _ _).bind fun _ => (Respects.require _ _).bind fun _ => ?_
  refine (idempotencyLookup_reads _ _ _ _).bind fun previous => ?_
  cases previous with
  | some record => exact readNotification_reads _
  | none =>
      intro s t event h
      dsimp only at h
      rw [fetch_bind] at h
      cases hFound : s.notifications.find? (fun row =>
          row.id == notificationId && row.scope == principal.scope) with
      | none =>
          rw [hFound] at h
          cases h
      | some row =>
          rw [hFound] at h
          obtain ⟨document, s', hRead, hRest⟩ := bind_eq_ok.mp h
          obtain ⟨rfl, rfl⟩ := readNotification_eq_ok hRead
          rw [store_bind] at hRest
          cases hRest
          have hRow := List.mem_of_find?_eq_some hFound
          have hId : row.id = notificationId := by
            have hBoth := List.find?_some hFound
            simp only [Bool.and_eq_true, beq_iff_eq] at hBoth
            exact hBoth.1
          subst hId
          by_cases hUnread : row.document.acknowledgedAt.isNone = true
          · have hSame : ({ row.document with acknowledgedAt := some moment }
                : IntegrationNotification).unread = row.document.unread := rfl
            refine .acknowledge hRow hSame ?_
            simp only [hUnread, if_true]
          · exact .of_eq (if_neg hUnread)

theorem insertDrafted_extends (draft : IntegrationNotificationDraft) (scope : ActorScope)
    (emailRecipientRef : Option String) (now : Timestamp) (draws : NotificationDraws) :
    Respects Extends (do
      let drafted ← draftNotification draft
      insertNotification drafted scope emailRecipientRef now draws) :=
  (draftNotification_reads draft).bind fun _ => insertNotification_extends ..

@[grind ←]
theorem storeObservation_extends (sha256 : String → String) (connection : ProviderConnection)
    (emailRecipientRef : Option String) (now : Timestamp) (draws : NotificationDraws)
    (observation : CloudResourceRecord) : Respects Extends
      (storeObservation sha256 connection emailRecipientRef now draws observation) := by
  have hInsert : Respects Extends (insertObservation observation) := by
    unfold insertObservation
    grind
  unfold storeObservation
  refine (Respects.require _ _).bind fun _ => (Respects.fetch _).bind fun prior => ?_
  refine (Respects.require _ _).bind fun _ => hInsert.bind fun _ => ?_
  cases prior with
  | none => exact Respects.pure _
  | some row =>
      dsimp only
      split
      · exact Respects.pure _
      · exact insertDrafted_extends ..

theorem storeObservations_extends (sha256 : String → String) (connection : ProviderConnection)
    (emailRecipientRef : Option String) (now : Timestamp) (draw : Nat → NotificationDraws)
    (observations : List CloudResourceRecord) : Respects Extends
      (storeObservations sha256 connection emailRecipientRef now draw observations) := by
  induction observations with
  | nil => exact Respects.pure _
  | cons observation rest ih =>
      exact (storeObservation_extends ..).bind fun _ => ih.bind fun _ => Respects.pure _

theorem completeAuthorizationCheck_extends (claim : ClaimedAuthorizationMonitor)
    (health : AuthorizationHealthRecord) (notifications : List IntegrationNotificationDraft)
    (now : Timestamp) (intervalSeconds : Nat) (emailRecipientRef : Option String)
    (draw : Nat → NotificationDraws) : Respects Extends
      (completeAuthorizationCheck claim health notifications now intervalSeconds
        emailRecipientRef draw) := by
  have hHealth : Respects Extends (insertHealth health) := by
    unfold insertHealth
    grind
  have hInsert := insertNotifications_extends claim.connection.scope emailRecipientRef now draw
    notifications
  unfold completeAuthorizationCheck
  refine (Respects.require _ _).bind fun _ => (Respects.require _ _).bind fun _ => ?_
  refine (Respects.fetch _).bind fun _ => (Respects.require _ _).bind fun _ => ?_
  refine (Respects.require _ _).bind fun _ => (Respects.require _ _).bind fun _ => ?_
  refine hHealth.bind fun _ => hInsert.bind fun _ => ?_
  exact (Respects.store fun _ => .of_eq rfl).bind fun _ => Respects.pure _

theorem completeCloudRefresh_extends (sha256 : String → String) (claim : ClaimedCloudRefresh)
    (observations : List CloudResourceRecord) (state : CloudRefreshState) (now : Timestamp)
    (result : Option JsonObject) (emailRecipientRef : Option String)
    (draw : Nat → NotificationDraws) : Respects Extends (completeCloudRefresh sha256 claim
      observations state now result emailRecipientRef draw) := by
  unfold completeCloudRefresh persistRefresh
  refine (Respects.require _ _).bind fun _ => (Respects.require _ _).bind fun _ => ?_
  refine (Respects.fetch _).bind fun s => (Respects.require _ _).bind fun _ => ?_
  split
  · exact Respects.reject _
  · refine (storeObservations_extends sha256 _ _ _ _ _).bind fun _ => ?_
    refine (Respects.store fun _ => .of_eq rfl).bind fun _ => ?_
    exact (Respects.store fun _ => .of_eq rfl).bind fun _ => Respects.pure _

@[grind ←]
theorem persistEmailJob_extends (job : EmailNotificationJob) :
    Respects Extends (persistEmailJob job) := by
  unfold persistEmailJob
  grind

theorem settleLapsed_extends (settle : EmailNotificationJob → EmailNotificationJob)
    (rows : List EmailRow) : Respects Extends (settleLapsed settle rows) := by
  induction rows with
  | nil =>
      unfold settleLapsed
      grind
  | cons row rest ih =>
      unfold settleLapsed
      grind

@[grind ←]
theorem selectEmailJob_extends (id : UUID) (state : EmailOutboxState) (claimFence : Nat)
    (guard : EmailRow → Bool) (stale : String) :
    Respects Extends (selectEmailJob id state claimFence guard stale) := by
  unfold selectEmailJob
  grind

theorem requestNotificationEmailDelivery_extends (sha256 : String → String)
    (principal : IntegrationPrincipal) (notificationId : UUID)
    (recipientRef idempotencyKey : String) (now moment : Timestamp) (draw : UUID) :
    Respects Extends (requestNotificationEmailDelivery sha256 principal notificationId
      recipientRef idempotencyKey now moment draw) := by
  unfold requestNotificationEmailDelivery
  refine (requireOperation_reads _ _ _).bind fun _ => (Respects.require _ _).bind fun _ => ?_
  refine (idempotencyLookup_reads _ _ _ _).bind fun replay => ?_
  cases replay with
  | some record => grind
  | none =>
      refine (Respects.fetch _).bind fun found => ?_
      cases found with
      | none => grind
      | some row =>
          refine (readNotification_reads _).bind fun _ => (Respects.require _ _).bind fun _ => ?_
          refine (Respects.fetch _).bind fun existing => ?_
          cases existing with
          | none => grind
          | some row => grind

theorem finishEmailNotification_extends (jobId : UUID) (claimFence : Nat) (status : String)
    (vendorReceiptRef : Option String) (deliveryConfirmed : Bool) (now : Timestamp)
    (draws : NotificationDraws) : Respects Extends (finishEmailNotification jobId claimFence
      status vendorReceiptRef deliveryConfirmed now draws) := by
  unfold finishEmailNotification
  cases EmailVerdict.ofText status with
  | none => exact Respects.reject _
  | some verdict =>
      refine (Respects.require _ _).bind fun _ => (selectEmailJob_extends ..).bind fun job => ?_
      refine (persistEmailJob_extends _).bind fun _ => ?_
      split
      · exact Respects.pure _
      · exact (draftNotification_reads _).bind fun _ =>
          (insertNotification_extends ..).bind fun _ => Respects.pure _

/-- The feed only grows, whatever is called. -/
theorem AuthorizationCall.body_extends (sha256 : String → String) (call : AuthorizationCall) :
    Respects Extends (call.body sha256) := by
  cases call with
  | createConnection connection =>
      refine Respects.bind ?_ fun _ => Respects.pure _
      unfold insertProviderConnection
      grind
  | claimChecks workerId now leaseSeconds limit =>
      refine Respects.bind ?_ fun _ => Respects.pure _
      unfold claimAuthorizationChecks
      grind
  | completeCheck claim health notifications now intervalSeconds emailRecipientRef draw =>
      exact (completeAuthorizationCheck_extends ..).bind fun _ => Respects.pure _
  | releaseCheck claim now retryDelaySeconds =>
      refine Respects.bind ?_ fun _ => Respects.pure _
      unfold releaseAuthorizationCheck
      grind
  | acknowledge principal notificationId idempotencyKey now moment =>
      exact (acknowledgeNotification_extends ..).bind fun _ => Respects.pure _
  | enqueueRefresh principal connectionId idempotencyKey now moment draw =>
      refine Respects.bind ?_ fun _ => Respects.pure _
      unfold enqueueCloudRefresh
      refine (requireOperation_reads _ _ _).bind fun _ => (Respects.require _ _).bind fun _ => ?_
      refine (Respects.fetch _).bind fun found => ?_
      cases found with
      | none => exact Respects.reject _
      | some connection =>
          refine (Respects.require _ _).bind fun _ => (Respects.require _ _).bind fun _ => ?_
          refine (Respects.fetch _).bind fun row => ?_
          cases row with
          | none => grind
          | some row => grind
  | claimRefresh workerId now leaseSeconds =>
      refine Respects.bind ?_ fun _ => Respects.pure _
      unfold claimCloudRefresh persistRefresh
      refine (Respects.require _ _).bind fun _ => (Respects.fetch _).bind fun row => ?_
      cases row with
      | none => exact Respects.pure _
      | some row =>
          refine (Respects.store fun _ => .of_eq rfl).bind fun _ => ?_
          exact (Respects.store fun _ => .of_eq rfl).bind fun _ => Respects.pure _
  | completeRefresh claim observations state now result emailRecipientRef draw =>
      exact (completeCloudRefresh_extends ..).bind fun _ => Respects.pure _
  | releaseRefresh claim now retryDelaySeconds =>
      refine Respects.bind ?_ fun _ => Respects.pure _
      unfold releaseCloudRefreshClaim persistRefresh
      grind
  | claimEmail workerId now leaseSeconds =>
      refine Respects.bind ?_ fun _ => Respects.pure _
      unfold claimEmailNotification
      refine (Respects.require _ _).bind fun _ => (Respects.fetch _).bind fun claims => ?_
      refine (settleLapsed_extends _ claims).bind fun _ => (Respects.fetch _).bind fun sends => ?_
      refine (settleLapsed_extends _ sends).bind fun _ => ?_
      grind
  | requestDelivery principal notificationId recipientRef idempotencyKey now moment draw =>
      exact (requestNotificationEmailDelivery_extends ..).bind fun _ => Respects.pure _
  | releaseEmail claim now retryDelaySeconds failureReasonCode =>
      refine Respects.bind ?_ fun _ => Respects.pure _
      unfold releaseEmailClaim
      grind
  | markSending jobId claimFence now =>
      refine Respects.bind ?_ fun _ => Respects.pure _
      unfold markEmailSending
      grind
  | finishEmail jobId claimFence status vendorReceiptRef deliveryConfirmed now draws =>
      exact (finishEmailNotification_extends ..).bind fun _ => Respects.pure _
  | releaseSend jobId claimFence now failureReasonCode retryDelaySeconds =>
      refine Respects.bind ?_ fun _ => Respects.pure _
      unfold releaseEmailSendBeforeProvider
      grind

end Frames

end CyreneExchange.Integrations
