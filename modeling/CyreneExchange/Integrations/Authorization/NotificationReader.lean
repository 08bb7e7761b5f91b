import CyreneExchange.General.Fallible
import CyreneExchange.Integrations.Authorization.NotificationFeed
import CyreneExchange.Integrations.Authorization.StoredTimes

/-! A client that follows the feed from the start: it asks for a page behind its
cursor, keeps what it is given and continues from the cursor it was handed. Between
its requests anyone may write. -/
namespace CyreneExchange.Integrations

open CyreneExchange.General Machine Transaction

/-- A client of the feed, with everything it was given so far. -/
structure NotificationReader where
  store : AuthorizationStore := {}
  cursor : Nat := 0
  received : List NotificationResponse := []

/-- The grant a request comes with, and the clock as the route and then the store
read it. -/
structure FeedAccess where
  allowedOperationIds : List String
  expiresAt : Option Timestamp
  now : Timestamp
  moment : Timestamp

def FeedAccess.principal (access : FeedAccess) (actor : ActorScope) : IntegrationPrincipal where
  issuer := actor.actorIssuer
  subject := actor.actorSubject
  organizationId := actor.organizationId
  workspaceId := actor.workspaceId
  allowedOperationIds := access.allowedOperationIds
  expiresAt := access.expiresAt

/-- The grant names the operation and has not expired when it is checked. -/
def FeedAccess.granted (access : FeedAccess) : Bool :=
  access.allowedOperationIds.contains "integrationListNotifications" &&
    match access.expiresAt with
    | some expiry => decide (access.now < expiry) && decide (access.moment < expiry)
    | none => true

/-- How a stream is told the cursor. -/
inductive StreamParameter where
  | after | lastEventId | both

def StreamParameter.afterValue (cursor : Nat) : StreamParameter → Int
  | .after | .both => cursor
  | .lastEventId => 0

def StreamParameter.lastEventIdValue (cursor : Nat) : StreamParameter → Option (Option Int)
  | .after => none
  | .lastEventId | .both => some (some cursor)

/-- What happens next: some transaction stores a notification, a call writes, or the
client asks for a page. -/
inductive ReaderInput where
  | insert (draft : IntegrationNotificationDraft) (scope : ActorScope)
      (emailRecipientRef : Option String) (now : Timestamp) (draws : NotificationDraws)
  | write (call : AuthorizationCall)
  | list (access : FeedAccess) (limit : Int)
  | stream (access : FeedAccess) (parameter : StreamParameter)

inductive ReaderOutput where
  | written
  | page (notifications : List NotificationResponse)
  | refused (refusal : FeedRefusal)

/-- The client keeps a page and the cursor that came with it. -/
def NotificationReader.keep (r : NotificationReader) (notifications : List NotificationResponse)
    (cursor : Nat) : NotificationReader :=
  { r with cursor := cursor, received := r.received ++ notifications }

/-- One step of a client of this actor. -/
def performReader (sha256 : String → String) (actor : ActorScope) :
    ReaderInput → NotificationReader → ReaderOutput × NotificationReader
  | .insert draft scope emailRecipientRef now draws, r => (.written, { r with
      store := (commit (insertNotification draft scope emailRecipientRef now draws) r.store).2 })
  | .write call, r => (.written, { r with store := (authorizationStep sha256 call r.store).2 })
  | .list access limit, r =>
      match listNotificationsRoute (access.principal actor) r.cursor limit access.now access.moment
          r.store with
      | .ok feed =>
          (.page feed.notifications, r.keep feed.notifications feed.nextSequence.toNat)
      | .error e => (.refused e, r)
  | .stream access parameter, r =>
      match streamNotificationsRoute (access.principal actor) false (parameter.afterValue r.cursor)
          (parameter.lastEventIdValue r.cursor) access.now access.moment r.store with
      | .ok frames => (.page (frames.map NotificationFrame.data),
          r.keep (frames.map NotificationFrame.data)
            ((frames.getLast?.map NotificationFrame.id).getD r.cursor))
      | .error e => (.refused e, r)

abbrev ReaderEvent := Machine.Event NotificationReader ReaderInput ReaderOutput

section Requirement

/-- The notifications of an actor, in the order they were committed. -/
def AuthorizationStore.own (s : AuthorizationStore) (actor : ActorScope) :
    List IntegrationNotification :=
  s.feed.filter fun event => event.scope == actor

/-- The response, whether its event was acknowledged or not. -/
def NotificationResponse.unread (response : NotificationResponse) : NotificationResponse :=
  { response with acknowledgedAt := none }

/-- How many notifications a request asks for. -/
def ReaderInput.pageSize : ReaderInput → Option Int
  | .list _ limit => some limit
  | .stream .. => some 100
  | _ => none

/-- The grant of a request. -/
def ReaderInput.access : ReaderInput → Option FeedAccess
  | .list access _ | .stream access _ => some access
  | _ => none

/-- A request within its grant and the bounds of the feed. -/
structure ReaderInput.InBounds (input : ReaderInput) (r : NotificationReader) : Prop where
  granted : ∀ access ∈ input.access, access.granted = true
  sized : ∀ size ∈ input.pageSize, 1 ≤ size ∧ size ≤ 200
  reachable : (r.cursor : Int) ≤ highestCursor

/-- What the client of an actor is owed in a run. -/
structure ReadsEverything (actor : ActorScope) (events : List ReaderEvent)
    (final : NotificationReader) : Prop where
  /-- It has received its own notifications up to its cursor, and nothing else. -/
  exact : final.received.map NotificationResponse.unread =
    (Cursor.upTo IntegrationNotification.sequence (final.store.own actor) final.cursor).map
      notificationResponse
  /-- In increasing order, so none of them twice. -/
  increasing : (final.received.map NotificationResponse.sequence).Pairwise (· < ·)
  /-- A page adds the next notifications, as many as were asked for and are there. -/
  page : ∀ e ∈ events, ∀ notifications size, e.output = .page notifications →
    e.input.pageSize = some size →
    e.after.received = e.before.received ++ notifications ∧ notifications.length =
      min size.toNat (Cursor.ahead IntegrationNotification.sequence (e.before.store.own actor)
        e.before.cursor).length
  /-- A page that is not full leaves out nothing that was committed before. -/
  complete : ∀ e ∈ events, ∀ notifications size, e.output = .page notifications →
    e.input.pageSize = some size → notifications.length < size.toNat →
    e.after.received.map NotificationResponse.unread =
      (e.before.store.own actor).map notificationResponse
  /-- A granted request is given its page, as long as no sequence number of the feed has
  passed the highest cursor. -/
  answered : ∀ e ∈ events, ∀ size, e.input.pageSize = some size → 1 ≤ size ∧ size ≤ 200 →
    (∀ access ∈ e.input.access, access.granted = true) →
    (∀ event ∈ e.before.store.feed, (event.sequence : Int) ≤ highestCursor) →
      ∃ notifications, e.output = .page notifications
  /-- A refused request was out of bounds, and changes nothing. -/
  refused : ∀ e ∈ events, ∀ refusal, e.output = .refused refusal →
    e.after = e.before ∧ ¬ e.input.InBounds e.before

end Requirement

section Selection

variable {s t : AuthorizationStore} {actor : ActorScope} {cursor : Nat}

theorem FeedSound.feed_ascending (hSound : FeedSound s) :
    Cursor.Ascending IntegrationNotification.sequence s.feed := by
  refine List.pairwise_map.mpr (List.Pairwise.imp_of_mem ?_ hSound.ascending)
  intro a b ha hb hBefore
  change a.document.sequence < b.document.sequence
  rw [(hSound.recorded a ha).sequence, (hSound.recorded b hb).sequence]
  exact hBefore

theorem FeedSound.own_ascending (hSound : FeedSound s) (actor : ActorScope) :
    Cursor.Ascending IntegrationNotification.sequence (s.own actor) :=
  hSound.feed_ascending.sublist List.filter_sublist

theorem own_append {added : List IntegrationNotification} (h : t.feed = s.feed ++ added) :
    t.own actor = s.own actor ++ added.filter fun event => event.scope == actor := by
  rw [AuthorizationStore.own, AuthorizationStore.own, h, List.filter_append]

/-- The query of the feed, on a sound one: the next own notifications. -/
theorem selectNotifications_map (actor : ActorScope) (cursor : Nat) (hSound : FeedSound s)
    (limit : Int) :
    (selectNotifications actor cursor limit s.notifications).map
        (fun row => row.document.unread) =
      Cursor.page IntegrationNotification.sequence (s.own actor) cursor limit.toNat := by
  have hAscending : Cursor.Ascending NotificationRow.sequence (s.notifications.filter fun row =>
      row.scope == actor && decide ((cursor : Int) < row.sequence)) :=
    hSound.ascending.sublist List.filter_sublist
  rw [selectNotifications, Cursor.orderBy_of_ascending hAscending, List.map_take, Cursor.page,
    Cursor.ahead, AuthorizationStore.own, AuthorizationStore.feed, List.filter_filter,
    List.filter_map]
  congr 2
  apply List.filter_congr
  intro row hRow
  obtain ⟨hSequence, hScope, -⟩ := hSound.recorded row hRow
  change (row.scope == actor && decide ((cursor : Int) < row.sequence)) =
    (decide (cursor < row.document.sequence) && row.document.scope == actor)
  rw [hSequence, hScope, Bool.and_comm, Bool.eq_iff_iff]
  simp

theorem readNotifications_of_valid {rows : List NotificationRow}
    (h : ∀ row ∈ rows, row.document.valid = true) (s : AuthorizationStore) :
    readNotifications rows s = .ok (rows.map NotificationRow.document, s) := by
  induction rows with
  | nil => rfl
  | cons row rest ih =>
      have hRow : readNotification row.document s = .ok (row.document, s) := by
        unfold readNotification
        rw [bind_of_ok (require_of_true (h row List.mem_cons_self) _ s)]
        rfl
      have hRest := ih fun other hOther => h other (List.mem_cons_of_mem _ hOther)
      rw [readNotifications, bind_of_ok hRow, bind_of_ok hRest]
      rfl

theorem mem_selectNotifications {limit : Int} {row : NotificationRow}
    (h : row ∈ selectNotifications actor cursor limit s.notifications) : row ∈ s.notifications :=
  List.mem_of_mem_filter (Table.mem_orderBy.mp (List.mem_of_mem_take h))

theorem requireOperation_ok_iff {principal : IntegrationPrincipal} {operationId : String}
    {now : Timestamp} : (∃ answer, requireOperation principal operationId now s = .ok answer) ↔
      (principal.allowedOperationIds.contains operationId = true ∧
        ∀ expiry, principal.expiresAt = some expiry → now < expiry) := by
  unfold requireOperation
  cases principal.expiresAt with
  | none => cases principal.allowedOperationIds.contains operationId <;> simp [require, bind_apply]
  | some expiry =>
      by_cases hExpiry : now < expiry <;>
        cases principal.allowedOperationIds.contains operationId <;>
          simp [require, bind_apply, hExpiry]

/-- A page of the store, on a sound feed: it is refused only out of bounds. -/
theorem listNotifications_iff (hSound : FeedSound s) {principal : IntegrationPrincipal}
    {limit : Int} {operationId : String} {now : Timestamp} {events : List IntegrationNotification} :
    (∃ t, listNotifications principal cursor limit operationId now s = .ok (events, t)) ↔
      (∃ answer, requireOperation principal operationId now s = .ok answer) ∧
        (cursor : Int) ≤ highestCursor ∧ (1 ≤ limit ∧ limit ≤ 200) ∧
        events = (selectNotifications principal.scope cursor limit s.notifications).map
          NotificationRow.document := by
  have hRead := readNotifications_of_valid (fun row hRow =>
    (hSound.recorded row (mem_selectNotifications (hRow : row ∈ selectNotifications
      principal.scope cursor limit s.notifications))).valid) s
  constructor
  · rintro ⟨t, h⟩
    obtain ⟨_, s', hGranted, hBounds⟩ := bind_eq_ok.mp h
    obtain rfl : s' = s := requireOperation_reads (R := fun a b => b = a) _ _ _ hGranted
    obtain ⟨_, _, hRequire, hSized⟩ := bind_eq_ok.mp hBounds
    obtain ⟨hCursor, rfl⟩ := require_eq_ok.mp hRequire
    obtain ⟨_, _, hRequire, hRest⟩ := bind_eq_ok.mp hSized
    obtain ⟨hLimit, rfl⟩ := require_eq_ok.mp hRequire
    rw [fetch_bind, hRead] at hRest
    cases hRest
    exact ⟨⟨_, hGranted⟩, (of_decide_eq_true hCursor).2, of_decide_eq_true hLimit, rfl⟩
  · rintro ⟨⟨⟨_, s'⟩, hGranted⟩, hCursor, hLimit, rfl⟩
    obtain rfl : s' = s := requireOperation_reads (R := fun a b => b = a) _ _ _ hGranted
    refine ⟨s', ?_⟩
    unfold listNotifications
    rw [bind_of_ok hGranted, bind_of_ok (require_of_true (decide_eq_true ⟨by omega, hCursor⟩) _ _),
      bind_of_ok (require_of_true (decide_eq_true hLimit) _ _), fetch_bind]
    exact hRead

end Selection

section Answers

variable {s : AuthorizationStore} {actor : ActorScope} {access : FeedAccess}
  {r r' : NotificationReader} {sha256 : String → String} {input : ReaderInput}
  {notifications : List NotificationResponse} {size : Int}

theorem granted_iff (s : AuthorizationStore) (actor : ActorScope) : access.granted = true ↔
    (∃ answer, requireOperation (access.principal actor) "integrationListNotifications" access.now
      s = .ok answer) ∧
    ∃ answer, requireOperation (access.principal actor) "integrationListNotifications"
      access.moment s = .ok answer := by
  rw [requireOperation_ok_iff, requireOperation_ok_iff]
  unfold FeedAccess.granted FeedAccess.principal
  cases access.expiresAt with
  | none => simp
  | some expiry =>
      simp only [Bool.and_eq_true, decide_eq_true_eq, Option.some.injEq, forall_eq']
      constructor
      · rintro ⟨hNamed, hNow, hMoment⟩
        exact ⟨⟨hNamed, hNow⟩, hNamed, hMoment⟩
      · rintro ⟨⟨hNamed, hNow⟩, -, hMoment⟩
        exact ⟨hNamed, hNow, hMoment⟩

theorem readStore_eq_ok {α : Type} {body : AuthorizationTransaction α}
    {refusal : AuthorizationError → FeedRefusal} {a : α} :
    readStore body refusal s = .ok a ↔ ∃ t, body s = .ok (a, t) := by
  unfold readStore
  cases body s with
  | error e => simp
  | ok answer => simp [Prod.ext_iff]

/-- The page a client stands before. -/
def NotificationReader.ahead (r : NotificationReader) (actor : ActorScope) (size : Int) :
    List IntegrationNotification :=
  Cursor.page IntegrationNotification.sequence (r.store.own actor) r.cursor size.toNat

/-- The client was given that page, and its cursor. -/
structure NotificationReader.Advances (actor : ActorScope) (size : Int) (r r' : NotificationReader)
    (notifications : List NotificationResponse) : Prop where
  next : r' = r.keep notifications
    (Cursor.next IntegrationNotification.sequence (r.ahead actor size) r.cursor)
  shown : notifications.map NotificationResponse.unread =
    (r.ahead actor size).map notificationResponse

/-- The documents a page is made of, and the page they make. -/
theorem advances_of_selected (hSound : FeedSound r.store) {cursor : Nat}
    (hCursor : cursor = (((selectNotifications actor r.cursor size r.store.notifications).map
      NotificationRow.document).getLast?.map IntegrationNotification.sequence).getD r.cursor) :
    r.Advances actor size (r.keep (((selectNotifications actor r.cursor size
      r.store.notifications).map NotificationRow.document).map notificationResponse) cursor)
      (((selectNotifications actor r.cursor size r.store.notifications).map
        NotificationRow.document).map notificationResponse) := by
  have hPage := selectNotifications_map actor r.cursor hSound size
  constructor
  · rw [NotificationReader.ahead, ← hPage, hCursor, Cursor.next, List.getLast?_map,
      List.getLast?_map, Option.map_map, Option.map_map]
    rfl
  · rw [NotificationReader.ahead, ← hPage, List.map_map, List.map_map, List.map_map]
    rfl

/-- The documents of the next page. -/
def NotificationReader.selected (r : NotificationReader) (actor : ActorScope) (size : Int) :
    List IntegrationNotification :=
  (selectNotifications actor r.cursor size r.store.notifications).map NotificationRow.document

/-- When the store is asked, what comes back is the next page. -/
theorem askStore_eq_ok (hSound : FeedSound r.store) {events : List IntegrationNotification} :
    (requireFeed (access.principal actor) access.now r.store = .ok () ∧
      readStore (listNotifications (access.principal actor) r.cursor size
        "integrationListNotifications" access.moment) .store r.store = .ok events) ↔
      access.granted = true ∧ (1 ≤ size ∧ size ≤ 200) ∧ (r.cursor : Int) ≤ highestCursor ∧
        events = r.selected actor size := by
  rw [requireFeed, readStore_eq_ok, readStore_eq_ok, listNotifications_iff hSound,
    granted_iff r.store actor]
  constructor
  · rintro ⟨⟨t, hNow⟩, hMoment, hCursor, hSize, hEvents⟩
    exact ⟨⟨⟨_, hNow⟩, hMoment⟩, hSize, hCursor, hEvents⟩
  · rintro ⟨⟨⟨⟨_, t⟩, hNow⟩, hMoment⟩, hSize, hCursor, hEvents⟩
    exact ⟨⟨t, hNow⟩, hMoment, hCursor, hSize, hEvents⟩

theorem listRoute_eq_ok (actor : ActorScope) (hSound : FeedSound r.store) {feed : NotificationFeed} :
    listNotificationsRoute (access.principal actor) r.cursor size access.now access.moment
        r.store = .ok feed ↔
      (access.granted = true ∧ (1 ≤ size ∧ size ≤ 200) ∧ (r.cursor : Int) ≤ highestCursor) ∧
        feed = ⟨(r.selected actor size).map notificationResponse,
          ((r.selected actor size).getLast?.map fun event => (event.sequence : Int)).getD
            r.cursor⟩ := by
  unfold listNotificationsRoute
  constructor
  · intro h
    split at h
    · obtain ⟨_, hRequire, hRest⟩ := except_bind_eq_ok.mp h
      obtain ⟨events, hRead, hFeed⟩ := except_bind_eq_ok.mp hRest
      obtain ⟨hGranted, hSize, hCursor, rfl⟩ := (askStore_eq_ok hSound).mp ⟨hRequire, hRead⟩
      exact ⟨⟨hGranted, hSize, hCursor⟩, (Except.ok.inj hFeed).symm⟩
    · cases h
  · rintro ⟨⟨hGranted, hSize, hCursor⟩, rfl⟩
    obtain ⟨hRequire, hRead⟩ := (askStore_eq_ok hSound).mpr ⟨hGranted, hSize, hCursor, rfl⟩
    rw [if_pos ⟨Int.natCast_nonneg _, hSize⟩, hRequire, except_ok_bind, hRead, except_ok_bind]

theorem streamCursor_eq (parameter : StreamParameter) (cursor : Nat) :
    streamCursor (parameter.afterValue cursor) (parameter.lastEventIdValue cursor) =
      .ok (cursor : Int) := by
  cases parameter <;>
    simp [streamCursor, StreamParameter.afterValue, StreamParameter.lastEventIdValue]

theorem streamRoute_eq_ok (actor : ActorScope) (parameter : StreamParameter)
    (hSound : FeedSound r.store) {frames : List NotificationFrame} :
    streamNotificationsRoute (access.principal actor) false (parameter.afterValue r.cursor)
        (parameter.lastEventIdValue r.cursor) access.now access.moment r.store = .ok frames ↔
      (access.granted = true ∧ (r.cursor : Int) ≤ highestCursor) ∧
        frames = (r.selected actor 100).map fun event =>
          ⟨event.sequence, notificationResponse event⟩ := by
  have hAfter : ¬ parameter.afterValue r.cursor < 0 := by
    cases parameter <;> simp [StreamParameter.afterValue]
  have hSize : (1 : Int) ≤ 100 ∧ (100 : Int) ≤ 200 := by decide
  unfold streamNotificationsRoute
  rw [if_neg hAfter, if_neg Bool.false_ne_true, streamCursor_eq]
  constructor
  · intro h
    obtain ⟨_, hRequire, hRest⟩ := except_bind_eq_ok.mp h
    rw [except_ok_bind] at hRest
    obtain ⟨events, hRead, hFrames⟩ := except_bind_eq_ok.mp hRest
    obtain ⟨hGranted, -, hCursor, rfl⟩ := (askStore_eq_ok hSound).mp ⟨hRequire, hRead⟩
    exact ⟨⟨hGranted, hCursor⟩, (Except.ok.inj hFrames).symm⟩
  · rintro ⟨⟨hGranted, hCursor⟩, rfl⟩
    obtain ⟨hRequire, hRead⟩ := (askStore_eq_ok hSound).mpr ⟨hGranted, hSize, hCursor, rfl⟩
    rw [hRequire, except_ok_bind, except_ok_bind, hRead, except_ok_bind]

/-- A request in bounds is given its page; any other one is refused and changes nothing. -/
theorem request_cases (sha256 : String → String) (actor : ActorScope) (hSound : FeedSound r.store)
    (hSize : input.pageSize = some size) :
    (input.InBounds r ∧ ∃ notifications r',
      performReader sha256 actor input r = (.page notifications, r') ∧
        r.Advances actor size r' notifications) ∨
    (¬ input.InBounds r ∧ ∃ refusal, performReader sha256 actor input r = (.refused refusal, r)) := by
  cases input with
  | insert draft scope emailRecipientRef now draws => cases hSize
  | write call => cases hSize
  | list access limit =>
      obtain rfl := Option.some.inj hSize
      rw [performReader]
      cases hRoute : listNotificationsRoute (access.principal actor) r.cursor limit access.now
          access.moment r.store with
      | ok feed =>
          obtain ⟨⟨hGranted, hLimit, hCursor⟩, rfl⟩ := (listRoute_eq_ok actor hSound).mp hRoute
          refine .inl ⟨⟨?_, ?_, hCursor⟩, _, _, rfl, advances_of_selected hSound ?_⟩
          · intro other hOther
            obtain rfl := Option.some.inj hOther
            exact hGranted
          · intro other hOther
            obtain rfl := Option.some.inj hOther
            exact hLimit
          · rw [NotificationReader.selected]
            cases ((selectNotifications actor r.cursor limit r.store.notifications).map
              NotificationRow.document).getLast? <;> rfl
      | error refusal =>
          refine .inr ⟨fun hBounds => ?_, refusal, rfl⟩
          have hAnswered := (listRoute_eq_ok actor hSound).mpr ⟨⟨hBounds.granted access rfl,
            hBounds.sized limit rfl, hBounds.reachable⟩, rfl⟩
          rw [hRoute] at hAnswered
          cases hAnswered
  | stream access parameter =>
      obtain rfl := Option.some.inj hSize
      rw [performReader]
      cases hRoute : streamNotificationsRoute (access.principal actor) false
          (parameter.afterValue r.cursor) (parameter.lastEventIdValue r.cursor) access.now
          access.moment r.store with
      | ok frames =>
          obtain ⟨⟨hGranted, hCursor⟩, rfl⟩ := (streamRoute_eq_ok actor parameter hSound).mp hRoute
          have hData : ((r.selected actor 100).map fun event => (⟨event.sequence,
              notificationResponse event⟩ : NotificationFrame)).map NotificationFrame.data =
              (r.selected actor 100).map notificationResponse := by
            rw [List.map_map]
            rfl
          have hCursor' : ((((r.selected actor 100).map fun event => (⟨event.sequence,
              notificationResponse event⟩ : NotificationFrame)).getLast?).map
                NotificationFrame.id).getD r.cursor = (((selectNotifications actor r.cursor 100
                  r.store.notifications).map NotificationRow.document).getLast?.map
                    IntegrationNotification.sequence).getD r.cursor := by
            rw [List.getLast?_map, Option.map_map, NotificationReader.selected]
            rfl
          have hAdvances := advances_of_selected hSound hCursor'
          refine .inl ⟨⟨?_, ?_, hCursor⟩, _, _, rfl, ?_⟩
          · intro other hOther
            obtain rfl := Option.some.inj hOther
            exact hGranted
          · intro other hOther
            obtain rfl := Option.some.inj hOther
            decide
          · rw [hData]
            exact hAdvances
      | error refusal =>
          refine .inr ⟨fun hBounds => ?_, refusal, rfl⟩
          have hAnswered := (streamRoute_eq_ok actor parameter hSound).mpr
            ⟨⟨hBounds.granted access rfl, hBounds.reachable⟩, rfl⟩
          rw [hRoute] at hAnswered
          cases hAnswered

end Answers

section Following

variable {actor : ActorScope} {r r' : NotificationReader} {sha256 : String → String}
  {input : ReaderInput} {notifications : List NotificationResponse} {size : Int}
  {s t : AuthorizationStore}

/-- What holds of the client of an actor and of the store, at any time. -/
structure ReadThrough (actor : ActorScope) (r : NotificationReader) : Prop where
  sound : FeedSound r.store
  /-- The cursor is the start, or the sequence of a committed notification. -/
  reached : r.cursor = 0 ∨ ∃ event ∈ r.store.feed, event.sequence = r.cursor
  exact : r.received.map NotificationResponse.unread =
    (Cursor.upTo IntegrationNotification.sequence (r.store.own actor) r.cursor).map
      notificationResponse

theorem ReadThrough.initial (actor : ActorScope) : ReadThrough actor {} :=
  ⟨FeedSound.initial, .inl rfl, rfl⟩

/-- Whatever is committed later stands above the cursor. -/
theorem ReadThrough.grow (h : ReadThrough actor r) (hExtends : r.store.Extends t) :
    ReadThrough actor { r with store := t } := by
  obtain ⟨hSound, added, hAdded⟩ := hExtends h.sound
  have hAbove : ∀ event ∈ added, r.cursor < event.sequence := by
    intro event hEvent
    have hAscending := hSound.feed_ascending
    rw [hAdded] at hAscending
    rcases h.reached with hStart | ⟨last, hLast, hCursor⟩
    · have hMem : event ∈ t.feed := by
        rw [hAdded]
        exact List.mem_append_right _ hEvent
      obtain ⟨n, hn, rfl⟩ := List.mem_map.mp hMem
      have hValid := (hSound.recorded n hn).valid
      simp only [IntegrationNotification.valid, Bool.and_eq_true, decide_eq_true_eq] at hValid
      change r.cursor < n.document.sequence
      omega
    · rw [← hCursor]
      exact (List.pairwise_append.mp hAscending).2.2 last hLast event hEvent
  refine ⟨hSound, h.reached.imp_right ?_, ?_⟩
  · rintro ⟨last, hLast, hCursor⟩
    refine ⟨last, ?_, hCursor⟩
    rw [hAdded]
    exact List.mem_append_left _ hLast
  · change r.received.map NotificationResponse.unread =
      (Cursor.upTo IntegrationNotification.sequence (t.own actor) r.cursor).map
        notificationResponse
    rw [own_append hAdded, Cursor.upTo_grow fun event hEvent =>
      hAbove event (List.mem_of_mem_filter hEvent)]
    exact h.exact

/-- A page carries the client on to the next cursor. -/
theorem ReadThrough.advance (h : ReadThrough actor r)
    (hAdvances : r.Advances actor size r' notifications) : ReadThrough actor r' := by
  obtain ⟨rfl, hShown⟩ := hAdvances
  refine ⟨h.sound, ?_, ?_⟩
  · cases hLast : (r.ahead actor size).getLast? with
    | none =>
        have hSame : Cursor.next IntegrationNotification.sequence (r.ahead actor size) r.cursor =
            r.cursor := by
          rw [Cursor.next, hLast]
          rfl
        rw [hSame]
        exact h.reached
    | some last =>
        have hNext : Cursor.next IntegrationNotification.sequence (r.ahead actor size) r.cursor =
            last.sequence := by
          rw [Cursor.next, hLast]
          rfl
        have hAhead : last ∈ r.store.own actor :=
          (Cursor.mem_ahead.mp (List.mem_of_mem_take (List.mem_of_getLast? hLast))).1
        exact .inr ⟨last, List.mem_of_mem_filter hAhead, hNext.symm⟩
  · have hPage := Cursor.upTo_append_page size.toNat r.cursor (h.sound.own_ascending actor)
    change (r.received ++ notifications).map NotificationResponse.unread = _
    rw [List.map_append, hShown, h.exact, ← List.map_append]
    exact congrArg (List.map notificationResponse) hPage

theorem performReader_extends (sha256 : String → String) (actor : ActorScope)
    (r : NotificationReader) (hSize : input.pageSize = none) :
    ∃ t, r.store.Extends t ∧
      performReader sha256 actor input r = (.written, { r with store := t }) := by
  cases input with
  | insert draft scope emailRecipientRef now draws =>
      exact ⟨_, (insertNotification_extends ..).commit r.store, rfl⟩
  | write call => exact ⟨_, (call.body_extends sha256).commit r.store, rfl⟩
  | list access limit => cases hSize
  | stream access parameter => cases hSize

/-- One step keeps the client up to its cursor. -/
theorem readThrough_step (h : ReadThrough actor r) :
    ReadThrough actor (performReader sha256 actor input r).2 := by
  cases hSize : input.pageSize with
  | none =>
      obtain ⟨t, hExtends, hStep⟩ := performReader_extends sha256 actor r hSize
      rw [hStep]
      exact h.grow hExtends
  | some size =>
      rcases request_cases sha256 actor h.sound hSize with
        ⟨-, notifications, r', hStep, hAdvances⟩ | ⟨-, refusal, hStep⟩
      · rw [hStep]
        exact h.advance hAdvances
      · rw [hStep]
        exact h

theorem readThrough_preserved (sha256 : String → String) (actor : ActorScope) :
    Machine.Preserves (performReader sha256 actor) (fun _ _ => True) (ReadThrough actor) :=
  fun _ _ h _ => readThrough_step h

theorem ReadThrough.increasing (h : ReadThrough actor r) :
    (r.received.map NotificationResponse.sequence).Pairwise (· < ·) := by
  have hSequences : r.received.map NotificationResponse.sequence =
      (Cursor.upTo IntegrationNotification.sequence (r.store.own actor) r.cursor).map
        IntegrationNotification.sequence := by
    have hShown := congrArg (List.map NotificationResponse.sequence) h.exact
    rw [List.map_map, List.map_map] at hShown
    exact hShown
  rw [hSequences]
  exact List.pairwise_map.mpr ((h.sound.own_ascending actor).sublist List.filter_sublist)

/-- The cursor is within bounds while the sequence numbers are. -/
theorem ReadThrough.within (h : ReadThrough actor r)
    (hFeed : ∀ event ∈ r.store.feed, (event.sequence : Int) ≤ highestCursor) :
    (r.cursor : Int) ≤ highestCursor := by
  rcases h.reached with hStart | ⟨event, hEvent, hCursor⟩
  · rw [hStart]
    decide
  · rw [← hCursor]
    exact hFeed event hEvent

/-- A client that follows the feed from the start, in any run. -/
theorem reads_everything (sha256 : String → String) (actor : ActorScope)
    (inputs : List ReaderInput) :
    ReadsEverything actor (trace (performReader sha256 actor) inputs {})
      (run (performReader sha256 actor) inputs {}) := by
  have hInitial : ReadThrough actor {} := .initial actor
  have hAdmitted : Admitted (performReader sha256 actor) (fun _ _ => True) inputs {} :=
    admitted_of_forall (fun _ _ => trivial) inputs _
  have hFinal := (readThrough_preserved sha256 actor).run hInitial hAdmitted
  have hEvents := (readThrough_preserved sha256 actor).trace hInitial hAdmitted
  have hPage : ∀ e ∈ trace (performReader sha256 actor) inputs {}, ∀ notifications size,
      e.output = .page notifications → e.input.pageSize = some size →
      e.before.Advances actor size e.after notifications := by
    intro e he notifications size hOutput hSize
    obtain ⟨hBefore, -, hAnswer, hAfter⟩ := hEvents e he
    rcases request_cases sha256 actor hBefore.sound hSize with
      ⟨-, shown, r', hStep, hAdvances⟩ | ⟨-, refusal, hStep⟩
    · rw [hStep] at hAnswer hAfter
      rw [hOutput] at hAnswer
      obtain rfl := ReaderOutput.page.inj hAnswer
      rw [hAfter]
      exact hAdvances
    · rw [hStep, hOutput] at hAnswer
      cases hAnswer
  have hLength : ∀ {r r' : NotificationReader} {notifications : List NotificationResponse}
      {size : Int}, r.Advances actor size r' notifications →
      notifications.length = (r.ahead actor size).length := by
    intro r r' notifications size hAdvances
    have hShown := congrArg List.length hAdvances.shown
    rwa [List.length_map, List.length_map] at hShown
  refine ⟨hFinal.exact, hFinal.increasing, ?_, ?_, ?_, ?_⟩
  · intro e he notifications size hOutput hSize
    have hAdvances := hPage e he notifications size hOutput hSize
    refine ⟨?_, ?_⟩
    · rw [hAdvances.next]
      rfl
    · rw [hLength hAdvances]
      exact Cursor.length_page
  · intro e he notifications size hOutput hSize hShort
    obtain ⟨hBefore, -⟩ := hEvents e he
    have hAdvances := hPage e he notifications size hOutput hSize
    have hAfter := (hBefore.advance hAdvances).exact
    rw [hLength hAdvances] at hShort
    have hWhole := Cursor.upTo_of_short (hBefore.sound.own_ascending actor) hShort
    rw [hAfter, hAdvances.next]
    exact congrArg (List.map notificationResponse) hWhole
  · intro e he size hSize hSized hGranted hFeed
    obtain ⟨hBefore, -, hAnswer, -⟩ := hEvents e he
    have hBounds : e.input.InBounds e.before := by
      refine ⟨hGranted, ?_, hBefore.within hFeed⟩
      intro other hOther
      obtain rfl := Option.some.inj (hSize.symm.trans hOther)
      exact hSized
    rcases request_cases sha256 actor hBefore.sound hSize with
      ⟨-, notifications, r', hStep, -⟩ | ⟨hOutside, -⟩
    · rw [hStep] at hAnswer
      exact ⟨notifications, hAnswer⟩
    · exact absurd hBounds hOutside
  · intro e he refusal hOutput
    obtain ⟨hBefore, -, hAnswer, hAfter⟩ := hEvents e he
    rw [hOutput] at hAnswer
    cases hSize : e.input.pageSize with
    | none =>
        obtain ⟨t, -, hStep⟩ := performReader_extends sha256 actor e.before hSize
        rw [hStep] at hAnswer
        cases hAnswer
    | some size =>
        rcases request_cases sha256 actor hBefore.sound hSize with
          ⟨-, notifications, r', hStep, -⟩ | ⟨hOutside, refusal', hStep⟩
        · rw [hStep] at hAnswer
          cases hAnswer
        · rw [hStep] at hAfter
          exact ⟨hAfter, hOutside⟩

end Following

section Sample

def ownActor : ActorScope := ⟨"organization", "workspace", "issuer", "ada"⟩

def otherActor : ActorScope := ⟨"organization", "workspace", "issuer", "grace"⟩

theorem feedId_canonical (digit : Char) :
    ("00000000-0000-4000-8000-00000000000" ++ String.singleton digit).length = 36 := by
  rw [String.length_append, String.length_singleton]
  rfl

def feedId (digit : Char) : UUID where
  text := "00000000-0000-4000-8000-00000000000" ++ String.singleton digit
  canonical := feedId_canonical digit

/-- Some transaction stores a notification of this actor. -/
def storeFor (scope : ActorScope) (digit : Char) : ReaderInput :=
  .insert { kind := .deliveryFailed, severity := .warning, title := "title"
            dedupeKey := String.singleton digit } scope none 0 ⟨feedId digit, feedId digit⟩

def openAccess : FeedAccess where
  allowedOperationIds := ["integrationListNotifications"]
  expiresAt := none
  now := 0
  moment := 0

/-- A page of one, and a stream that goes on behind it. -/
def sampleFollowing : List ReaderInput := [
  storeFor ownActor '1', storeFor otherActor '2', storeFor ownActor '3', .list openAccess 1,
  storeFor ownActor '4', .stream openAccess .after]

example : (run (performReader id ownActor) sampleFollowing {}).received.map
    NotificationResponse.sequence = [1, 3, 4] := by decide +kernel

end Sample

end CyreneExchange.Integrations
