import CyreneExchange.General.Deduplicated
import CyreneExchange.Integrations.Authorization.Exclusive
import CyreneExchange.Integrations.Authorization.Feed
import CyreneExchange.Integrations.Canonical

/-! Alerts about changed cloud resources. A change is found against the newest
stored observation, but its alert is deduplicated by the two fingerprints alone. -/
namespace CyreneExchange.Integrations

open Machine Transaction Deduplicated

/-- One turn of the loop of a committed completion. -/
structure ObservedResource where
  before : AuthorizationStore
  connection : ProviderConnection
  observation : CloudResourceRecord
  after : AuthorizationStore

/-- The turns of `storeObservations` from a store. -/
def observationTurns (sha256 : String → String) (connection : ProviderConnection)
    (emailRecipientRef : Option String) (now : Timestamp) (draw : Nat → NotificationDraws) :
    List CloudResourceRecord → AuthorizationStore → List ObservedResource
  | [], _ => []
  | observation :: rest, s =>
      match storeObservation sha256 connection emailRecipientRef now (draw rest.length)
          observation s with
      | .error _ => []
      | .ok (_, t) => ⟨s, connection, observation, t⟩ ::
          observationTurns sha256 connection emailRecipientRef now draw rest t

/-- The observations that a committed refresh stored, in order. -/
def observedResources (sha256 : String → String) (e : AuthorizationEvent) :
    List ObservedResource :=
  match e.input, e.output with
  | .completeRefresh claim observations _ now _ emailRecipientRef draw, .ok _ =>
      match findConnection claim.operation.connectionId claim.operation.scope
          e.before.connections with
      | none => []
      | some connection => observationTurns sha256 connection emailRecipientRef now draw
          observations e.before
  | _, _ => []

/-- A resource of an owner's connection went from one fingerprint to another. -/
structure ResourceChange where
  scope : ActorScope
  connectionId : UUID
  externalRef : String
  prior : String
  current : String
deriving DecidableEq, Repr

/-- The change that a turn finds against the preceding observation. -/
def ObservedResource.change (turn : ObservedResource) : Option ResourceChange :=
  match priorObservation turn.connection.id turn.observation.externalRef
      turn.before.cloudObservations with
  | none => none
  | some row =>
      if cloudFingerprint row.document = cloudFingerprint turn.observation then none
      else some ⟨turn.connection.scope, turn.connection.id, turn.observation.externalRef,
        cloudFingerprint row.document, cloudFingerprint turn.observation⟩

/-- The alerts about changed resources that a turn added to the feed. -/
def ObservedResource.alerts (turn : ObservedResource) : List NotificationRow :=
  (turn.after.notifications.drop turn.before.notifications.length).filter fun row =>
    row.kind == .cloudResourceChanged

/-- A turn with a change stores one alert, any other turn none. -/
def ObservedResource.Notified (turn : ObservedResource) : Prop :=
  turn.alerts.length = if turn.change.isSome then 1 else 0

instance ObservedResource.decidableNotified (turn : ObservedResource) : Decidable turn.Notified :=
  inferInstanceAs (Decidable (_ = _))

/-- Every change that the committed refreshes of a run found, oldest first. -/
def resourceChanges (sha256 : String → String) (calls : List AuthorizationCall) :
    List ResourceChange :=
  ((trace (authorizationStep sha256) calls {}).flatMap (observedResources sha256)).filterMap
    ObservedResource.change

/-- The key under which an alert about the change is stored. -/
def ResourceChange.dedupeKey (sha256 : String → String) (change : ResourceChange) : String :=
  "cloud-change:" ++ change.connectionId.text ++ ":" ++ sha256 change.externalRef ++ ":" ++
    sha256 change.prior ++ ":" ++ sha256 change.current

/-- A key that only alerts about changes have. -/
def aboutChange (dedupeKey : String) : Bool := startsWith dedupeKey "cloud-change:"

/-- The alerts given to a completed check are not about changed resources. -/
def ChangePromise (_ : AuthorizationStore) : AuthorizationCall → Prop
  | .completeCheck _ _ notifications .. =>
      ∀ draft ∈ notifications, aboutChange draft.dedupeKey = false
  | _ => True

instance (s : AuthorizationStore) : DecidablePred (ChangePromise s)
  | .completeCheck _ _ notifications .. => inferInstanceAs (Decidable
      (∀ draft ∈ notifications, aboutChange draft.dedupeKey = false))
  | .createConnection .. | .claimChecks .. | .releaseCheck .. | .acknowledge ..
  | .enqueueRefresh .. | .claimRefresh .. | .completeRefresh .. | .releaseRefresh ..
  | .claimEmail .. | .requestDelivery .. | .releaseEmail .. | .markSending .. | .finishEmail ..
  | .releaseSend .. => isTrue trivial

/-- The texts whose digests the keys of the changes hold. -/
def changedTexts (changes : List ResourceChange) : List String :=
  changes.flatMap fun change => [change.externalRef, change.prior, change.current]

section Keys

variable {sha256 : String → String}

theorem ResourceChange.aboutChange (change : ResourceChange) :
    aboutChange (change.dedupeKey sha256) = true := by
  unfold Integrations.aboutChange startsWith ResourceChange.dedupeKey
  simp only [String.append_assoc, String.toList_append]
  exact List.isPrefixOf_iff_prefix.mpr (List.prefix_append _ _)

/-- The parts of a key have fixed widths, so it determines their digests. -/
theorem ResourceChange.eq_of_dedupeKey (hLength : ∀ text, (sha256 text).length = 64)
    {a b : ResourceChange} (h : a.dedupeKey sha256 = b.dedupeKey sha256) :
    a.connectionId = b.connectionId ∧ sha256 a.externalRef = sha256 b.externalRef ∧
      sha256 a.prior = sha256 b.prior ∧ sha256 a.current = sha256 b.current := by
  have hDigests : ∀ x y, (sha256 x).length = (sha256 y).length := fun x y =>
    (hLength x).trans (hLength y).symm
  unfold ResourceChange.dedupeKey at h
  simp only [String.append_assoc] at h
  obtain ⟨hConnection, h⟩ := UUID.text_append_inj (append_cancel_left h)
  obtain ⟨hRef, h⟩ := append_inj_of_length (append_cancel_left h) (hDigests _ _)
  obtain ⟨hPrior, h⟩ := append_inj_of_length (append_cancel_left h) (hDigests _ _)
  exact ⟨hConnection, hRef, hPrior, append_cancel_left h⟩

/-- Where no digests collide, changes of one owner with one key are one change. -/
theorem ResourceChange.key_injOn (hLength : ∀ text, (sha256 text).length = 64)
    {changes : List ResourceChange} (hFree : CollisionFree sha256 (changedTexts changes))
    {a b : ResourceChange} (ha : a ∈ changes) (hb : b ∈ changes)
    (h : (a.scope, a.dedupeKey sha256) = (b.scope, b.dedupeKey sha256)) : a = b := by
  obtain ⟨hScope, hKey⟩ := Prod.mk.inj h
  obtain ⟨hConnection, hRef, hPrior, hCurrent⟩ := eq_of_dedupeKey hLength hKey
  have hText : ∀ change ∈ changes, ∀ text ∈ [change.externalRef, change.prior, change.current],
      text ∈ changedTexts changes := fun change hMem text hText =>
    List.mem_flatMap.mpr ⟨change, hMem, hText⟩
  obtain ⟨scope, connectionId, externalRef, prior, current⟩ := a
  obtain ⟨scope', connectionId', externalRef', prior', current'⟩ := b
  obtain rfl := hFree _ (hText _ ha _ (by simp)) _ (hText _ hb _ (by simp)) hRef
  obtain rfl := hFree _ (hText _ ha prior (by simp)) _ (hText _ hb prior' (by simp)) hPrior
  obtain rfl := hFree _ (hText _ ha current (by simp)) _ (hText _ hb current' (by simp)) hCurrent
  cases hScope
  cases hConnection
  rfl

end Keys

section Turns

variable {sha256 : String → String} {s t : AuthorizationStore} {connection : ProviderConnection}
  {emailRecipientRef : Option String} {now : Timestamp}

theorem insertObservation_eq_ok {observation : CloudResourceRecord} {u : Unit}
    (h : insertObservation observation s = .ok (u, t)) : t.notifications = s.notifications := by
  unfold insertObservation at h
  cases hCollected : observation.collectedAt.utc with
  | none =>
      simp only [hCollected] at h
      cases h
  | some collectedAt =>
      simp only [hCollected] at h
      rw [fetch_bind] at h
      obtain ⟨_, _, hRequire, hStore⟩ := bind_eq_ok.mp h
      obtain ⟨_, rfl⟩ := require_eq_ok.mp hRequire
      cases hStore
      rfl

/-- A turn without a change adds nothing to the feed; a turn with one gives its
alert to the feed as it was. -/
theorem storeObservation_eq_ok {observation : CloudResourceRecord} {draws : NotificationDraws}
    {event : Option IntegrationNotification}
    (h : storeObservation sha256 connection emailRecipientRef now draws observation s =
      .ok (event, t)) :
    (ObservedResource.change ⟨s, connection, observation, t⟩ = none ∧
      t.notifications = s.notifications) ∨
    ∃ change draft u, ObservedResource.change ⟨s, connection, observation, t⟩ = some change ∧
      draft.kind = .cloudResourceChanged ∧ change.scope = connection.scope ∧
      draft.dedupeKey = change.dedupeKey sha256 ∧ u.notifications = s.notifications ∧
      insertNotification draft connection.scope emailRecipientRef now draws u =
        .ok (event, t) := by
  unfold storeObservation at h
  obtain ⟨_, _, hScope, h⟩ := bind_eq_ok.mp h
  obtain ⟨_, rfl⟩ := require_eq_ok.mp hScope
  rw [fetch_bind] at h
  obtain ⟨_, _, hValid, h⟩ := bind_eq_ok.mp h
  obtain ⟨_, rfl⟩ := require_eq_ok.mp hValid
  obtain ⟨_, u, hInsert, h⟩ := bind_eq_ok.mp h
  have hFeed := insertObservation_eq_ok hInsert
  unfold ObservedResource.change
  cases hPrior : priorObservation connection.id observation.externalRef s.cloudObservations with
  | none =>
      simp only [hPrior] at h
      cases h
      exact Or.inl ⟨rfl, hFeed⟩
  | some row =>
      simp only [hPrior] at h
      split at h
      · next hSame =>
        cases h
        exact Or.inl ⟨if_pos hSame, hFeed⟩
      · next hChanged =>
        obtain ⟨drafted, _, hDraft, hNotify⟩ := bind_eq_ok.mp h
        obtain ⟨rfl, rfl, _⟩ := draftNotification_eq_ok hDraft
        exact Or.inr ⟨_, _, _, if_neg hChanged, rfl, rfl, rfl, hFeed, hNotify⟩

/-- The key that a turn announces, with its owner. -/
def ObservedResource.key (sha256 : String → String) (turn : ObservedResource) :
    Option (ActorScope × String) :=
  turn.change.map fun change => (change.scope, change.dedupeKey sha256)

theorem observation_announced {seen : List (ActorScope × String)}
    {observation : CloudResourceRecord} {draws : NotificationDraws}
    {event : Option IntegrationNotification} (hSeen : s.KeysAnnounced aboutChange seen)
    (h : storeObservation sha256 connection emailRecipientRef now draws observation s =
      .ok (event, t)) :
    let turn : ObservedResource := ⟨s, connection, observation, t⟩
    (turn.Notified ↔ ∀ k ∈ turn.key sha256, k ∉ seen) ∧
      t.KeysAnnounced aboutChange (seen ++ (turn.key sha256).toList) := by
  intro turn
  have hQuiet : t.notifications = s.notifications → turn.alerts = [] := by
    intro hSame
    simp [turn, ObservedResource.alerts, hSame]
  rcases storeObservation_eq_ok h with ⟨hNone, hSame⟩ |
    ⟨change, draft, u, hChange, hKind, hScope, hDedupe, hFeed, hNotify⟩
  · have hKey : turn.key sha256 = none := by rw [ObservedResource.key, hNone]; rfl
    have hNotified : turn.Notified := by
      rw [ObservedResource.Notified, hQuiet hSame, hNone]
      rfl
    rw [hKey, Option.toList_none, List.append_nil]
    exact ⟨by simp [hNotified], hSeen.of_same hSame⟩
  · have hKey : turn.key sha256 = some (connection.scope, draft.dedupeKey) := by
      rw [ObservedResource.key, hChange, hDedupe, ← hScope]
      rfl
    have hAbout : aboutChange draft.dedupeKey = true := hDedupe ▸ change.aboutChange
    have hNotified : turn.Notified ↔ turn.alerts.length = 1 := by
      rw [ObservedResource.Notified, hChange]
      rfl
    obtain ⟨hStored, hNext⟩ := insertNotification_announces (hSeen.of_same hFeed) hAbout hNotify
    rw [hKey, Option.toList_some, hNotified]
    refine ⟨?_, hNext⟩
    simp only [Option.mem_def, Option.some.injEq, forall_eq']
    rw [hFeed] at hStored
    rcases hStored with ⟨hOld, hSame⟩ | ⟨hNew, n, hNotice, _, hAdded⟩
    · simp [hQuiet hSame, hOld]
    · have hAlert : n.kind = .cloudResourceChanged := (congrArg Notice.kind hNotice).trans hKind
      simp [turn, ObservedResource.alerts, hAdded, hAlert, hNew]

/-- Of the changes that one loop finds, those with a fresh key are announced. -/
theorem turns_announced {draw : Nat → NotificationDraws} {seen : List (ActorScope × String)}
    {observations : List CloudResourceRecord} {saved : List IntegrationNotification}
    (hSeen : s.KeysAnnounced aboutChange seen)
    (h : storeObservations sha256 connection emailRecipientRef now draw observations s =
      .ok (saved, t)) :
    let turns := observationTurns sha256 connection emailRecipientRef now draw observations s
    FirstOnly (ObservedResource.key sha256) ObservedResource.Notified seen turns ∧
      t.KeysAnnounced aboutChange (seen ++ turns.filterMap (ObservedResource.key sha256)) := by
  induction observations generalizing s seen saved with
  | nil =>
      cases h
      exact ⟨trivial, by simpa [observationTurns] using hSeen⟩
  | cons observation rest ih =>
      obtain ⟨event, u, hTurn, h⟩ := bind_eq_ok.mp h
      obtain ⟨later, _, hRest, hPure⟩ := bind_eq_ok.mp h
      cases hPure
      obtain ⟨hNotified, hNext⟩ := observation_announced hSeen hTurn
      obtain ⟨hFirst, hEnd⟩ := ih hNext hRest
      simp only [observationTurns, hTurn]
      refine ⟨⟨hNotified, hFirst⟩, ?_⟩
      rw [List.append_assoc] at hEnd
      rw [List.filterMap_cons]
      cases hKey : ObservedResource.key sha256 ⟨s, connection, observation, u⟩ <;>
        simpa [hKey] using hEnd

end Turns

section Steps

variable {sha256 : String → String} {s t : AuthorizationStore}
  {seen : List (ActorScope × String)}

/-- Only a completed refresh writes a key about a change. -/
theorem mayNotify_notAboutChange {call : AuthorizationCall} (hPromise : ChangePromise s call)
    (hOther : ∀ claim observations state now result emailRecipientRef draw, call ≠
      .completeRefresh claim observations state now result emailRecipientRef draw)
    {n : Notice} (h : call.mayNotify sha256 n) : aboutChange n.dedupeKey = false := by
  cases call with
  | completeCheck claim health notifications now intervalSeconds emailRecipientRef draw =>
      obtain ⟨draft, hDraft, rfl⟩ := h
      exact hPromise draft hDraft
  | completeRefresh claim observations state now result emailRecipientRef draw =>
      exact absurd rfl (hOther claim observations state now result emailRecipientRef draw)
  | finishEmail jobId claimFence status vendorReceiptRef deliveryConfirmed now draws =>
      obtain ⟨job, verdict, rfl⟩ := h
      simp [aboutChange, startsWith, List.isPrefixOf_cons_cons, deliveryFailedDraft,
        IntegrationNotificationDraft.notice]
  | _ => cases h

/-- What one call tells about changes. -/
theorem step_changes {call : AuthorizationCall} (hSeen : s.KeysAnnounced aboutChange seen)
    (hPromise : ChangePromise s call) :
    let turns := observedResources sha256 ⟨s, call, (authorizationStep sha256 call s).1,
      (authorizationStep sha256 call s).2⟩
    FirstOnly (ObservedResource.key sha256) ObservedResource.Notified seen turns ∧
      (authorizationStep sha256 call s).2.KeysAnnounced aboutChange
        (seen ++ turns.filterMap (ObservedResource.key sha256)) := by
  unfold authorizationStep
  rcases commit_cases (call.body sha256) s with ⟨answer, t, hBody, hCommit⟩ | ⟨e, _, hCommit⟩
  · rw [hCommit]
    cases call with
    | completeRefresh claim observations state now result emailRecipientRef draw =>
        obtain ⟨completed, _, hMethod, hPure⟩ := bind_eq_ok.mp hBody
        cases hPure
        obtain ⟨_, _, _, _, connection, saved, u, hFound, hStored, hFeed⟩ :=
          completeRefresh_eq_ok hMethod
        obtain ⟨hFirst, hEnd⟩ := turns_announced hSeen hStored
        simp only [observedResources, hFound]
        exact ⟨hFirst, hEnd.of_same hFeed⟩
    | _ =>
        refine ⟨trivial, ?_⟩
        simp only [observedResources, List.filterMap_nil, List.append_nil]
        refine hSeen.grows (AuthorizationCall.body_announces sha256 _ hBody).feed fun n hn => ?_
        exact mayNotify_notAboutChange hPromise (fun _ _ _ _ _ _ _ => by simp) hn
  · rw [hCommit]
    have hNone : observedResources sha256 ⟨s, call, .error e, s⟩ = [] := by
      cases call <;> rfl
    simp only [hNone]
    exact ⟨trivial, by simpa using hSeen⟩

/-- The monitor's own alerts keep the promise. -/
theorem authorizationNotifications_notAboutChange {claim : ClaimedAuthorizationMonitor}
    {previous : Option AuthorizationHealthRecord} {current : AuthorizationHealthRecord}
    {now : Timestamp} {drafts : List IntegrationNotificationDraft}
    (h : authorizationNotifications claim previous current now s = .ok (drafts, t)) :
    ∀ draft ∈ drafts, aboutChange draft.dedupeKey = false := by
  obtain ⟨_, ⟨_, rfl⟩ | ⟨_, hDrafts⟩⟩ := authorizationNotifications_eq_ok h
  · intro draft hDraft
    rw [List.mem_singleton.mp hDraft]
    exact startsWith_other (unavailableDraft_startsWith_key _ _) (by decide) (by decide)
  · exact fun draft hDraft =>
      startsWith_other (hDrafts draft hDraft).startsWith_key (by decide) (by decide)

end Steps

section Sample

def podConnection : ProviderConnection where
  id := ⟨"9a1b2c3d-4e5f-4a6b-8c7d-0e1f2a3b4c5d", by decide⟩
  scope := ⟨"organization", "workspace", "issuer", "member"⟩
  provider := .runpod
  bindingRef := some "binding"
  targetRef := some "target"

def podPrincipal : IntegrationPrincipal where
  issuer := "issuer"
  subject := "member"
  organizationId := "organization"
  workspaceId := "workspace"
  allowedOperationIds := ["integrationRefreshConnectionResources"]

/-- An identifier of the run: `kind` and the number of the refresh. -/
def podId (kind : Nat) (n : Fin 8) : UUID :=
  ⟨padded 8 kind ++ "-0000-4000-8000-" ++ padded 12 n, by
    unfold padded
    rw [String.length_append, String.length_append, String.length_ofList, String.length_ofList]
    simp⟩

def podObserved (status : CloudResourceState) (n : Fin 8) : CloudResourceRecord where
  id := podId 1 n
  scope := podConnection.scope
  connectionId := podConnection.id
  provider := "runpod"
  source := "runpod"
  externalRef := "pod-1"
  kind := "pod"
  displayName := "pod"
  status := status
  collectedAt := .ofTimestamp (seconds (60 * n))

/-- Digests of the texts of the run. -/
def podDigest (text : String) : String :=
  String.ofList (List.replicate 64 (
    if text = "pod-1" then 'a'
    else if text = cloudFingerprint (podObserved .running 0) then 'b'
    else if text = cloudFingerprint (podObserved .stopped 0) then 'c'
    else 'd'))

/-- One refresh, from its request to its completion. -/
def podRefresh (status : CloudResourceState) (n : Fin 8) : List AuthorizationCall :=
  let now := seconds (60 * n)
  let key := "refresh-" ++ toString n.val
  [ .enqueueRefresh podPrincipal podConnection.id key now now (podId 0 n),
    .claimRefresh "worker" now 60,
    .completeRefresh
      ⟨⟨podId 0 n, podConnection.scope, podConnection.id, key,
        podDigest (refreshRequestText podConnection), .running, none, now, now⟩,
        "worker", 1, now + seconds 60⟩
      [podObserved status n] .succeeded now none none fun _ => ⟨podId 2 n, podId 3 n⟩ ]

def podRefreshes (statuses : List CloudResourceState) : List AuthorizationCall :=
  .createConnection podConnection ::
    (statuses.zipIdx.flatMap fun (status, n) => podRefresh status (Fin.ofNat 8 n))

theorem podDigest_length (text : String) : (podDigest text).length = 64 := by
  unfold podDigest
  rw [String.length_ofList, List.length_replicate]

def podChange (prior current : CloudResourceState) : ResourceChange :=
  ⟨podConnection.scope, podConnection.id, "pod-1", cloudFingerprint (podObserved prior 0),
    cloudFingerprint (podObserved current 0)⟩

/-- The row a refresh stores for what it observed. -/
def podSeen (status : CloudResourceState) (n : Fin 8) : CloudObservationRow where
  id := podId 1 n
  scope := podConnection.scope
  connectionId := podConnection.id
  externalRef := "pod-1"
  collectedAt := seconds (60 * n)
  document := podObserved status n

/-- A store with the first `n` refreshes, all settled. -/
structure PodStore (n : Nat) (seen : List CloudObservationRow) (alerts : List NotificationRow)
    (s : AuthorizationStore) : Prop where
  connections : s.connections = [podConnection]
  operations : ∀ row ∈ s.cloudRefreshOperations, ∃ m : Fin 8, m.val < n ∧ row.id = podId 0 m ∧
    row.idempotencyKey = "refresh-" ++ toString m.val
  outbox : ∀ row ∈ s.cloudRefreshOutbox, row.state = .succeeded ∧
    ∃ m : Fin 8, m.val < n ∧ row.operationId = podId 0 m
  seen : s.cloudObservations = seen
  alerts : s.notifications = alerts

theorem podId_ne : ∀ m n : Fin 8, m.val < n.val → podId 0 m ≠ podId 0 n := by
  decide +kernel

/-- Refresh `n` as it is requested. -/
def podQueued (n : Fin 8) : CloudRefreshOperation :=
  ⟨podId 0 n, podConnection.scope, podConnection.id, "refresh-" ++ toString n.val,
    podDigest (refreshRequestText podConnection), .queued, none, seconds (60 * n),
    seconds (60 * n)⟩

def podRow (n : Fin 8) : CloudRefreshRow :=
  ⟨podId 0 n, podConnection.scope, podConnection.id, "refresh-" ++ toString n.val,
    podDigest (refreshRequestText podConnection), .queued, seconds (60 * n), seconds (60 * n),
    podQueued n⟩

def podJob (n : Fin 8) : CloudOutboxRow where
  operationId := podId 0 n
  state := .queued
  availableAt := seconds (60 * n)
  document := podQueued n

/-- Its job once a worker has claimed it. -/
def podClaimed (n : Fin 8) : CloudOutboxRow := { podJob n with
  state := .running
  attempts := 1
  claimOwner := some "worker"
  claimFence := 1
  leaseExpiresAt := some (seconds (60 * n) + seconds 60)
  document := { podQueued n with state := .running } }

/-- A store in which one more refresh is open. -/
abbrev podOpened (s : AuthorizationStore) (operations : List CloudRefreshRow)
    (job : CloudOutboxRow) : AuthorizationStore := { s with
  cloudRefreshOperations := operations
  cloudRefreshOutbox := s.cloudRefreshOutbox ++ [job] }

/-- The claim under which refresh `n` runs. -/
def podClaim (n : Fin 8) : ClaimedCloudRefresh :=
  ⟨{ podQueued n with state := .running }, "worker", 1, seconds (60 * n) + seconds 60⟩

section Refreshes

variable {n : Fin 8} {seen : List CloudObservationRow} {alerts : List NotificationRow}
  {s t : AuthorizationStore}

theorem PodStore.enqueue (h : PodStore n seen alerts s) :
    (authorizationStep podDigest (.enqueueRefresh podPrincipal podConnection.id
      ("refresh-" ++ toString n.val) (seconds (60 * n)) (seconds (60 * n)) (podId 0 n)) s).2 =
    podOpened s (s.cloudRefreshOperations ++ [podRow n]) (podJob n) := by
  have hFind : (s.cloudRefreshOperations.find? fun row =>
      row.scope == podPrincipal.scope && row.connectionId == podConnection.id &&
        row.idempotencyKey == "refresh-" ++ toString n.val) = none := by
    rw [List.find?_eq_none]
    intro row hRow
    obtain ⟨m, hm, _, hKey⟩ := h.operations row hRow
    simpa [hKey] using fun _ _ => Nat.ne_of_lt hm
  have hOperations : (s.cloudRefreshOperations.any fun row => row.id == podId 0 n) = false := by
    rw [List.any_eq_false]
    intro row hRow
    obtain ⟨m, hm, hId, _⟩ := h.operations row hRow
    simp [hId, podId_ne m n hm]
  have hOutbox : (s.cloudRefreshOutbox.any fun row => row.operationId == podId 0 n) = false := by
    rw [List.any_eq_false]
    intro row hRow
    obtain ⟨_, m, hm, hId⟩ := h.outbox row hRow
    simp [hId, podId_ne m n hm]
  have hKey : textWithin 200 ("refresh-" ++ toString n.val) = true := by
    have hAll : ∀ m : Fin 8, textWithin 200 ("refresh-" ++ toString m.val) = true := by
      decide +kernel
    exact hAll n
  have hConnection : (s.connections.find? fun connection =>
      connection.id == podConnection.id && connection.scope == podPrincipal.scope) =
        some podConnection := by
    rw [h.connections]
    rfl
  have hBody : enqueueCloudRefresh podDigest podPrincipal podConnection.id
      ("refresh-" ++ toString n.val) (seconds (60 * n)) (seconds (60 * n)) (podId 0 n) s =
      .ok (podQueued n, podOpened s (s.cloudRefreshOperations ++ [podRow n]) (podJob n)) := by
    have hGranted : requireOperation podPrincipal "integrationRefreshConnectionResources"
        (seconds (60 * n)) s = .ok ((), s) := rfl
    unfold enqueueCloudRefresh
    rw [bind_of_ok hGranted, bind_of_ok (require_of_true hKey _ _), fetch_bind]
    simp only [hConnection]
    have hCloud : podConnection.provider.isCloud = true := rfl
    have hBound : (truthy podConnection.bindingRef && truthy podConnection.targetRef) = true := rfl
    rw [bind_of_ok (require_of_true hCloud _ _), bind_of_ok (require_of_true hBound _ _),
      fetch_bind]
    simp only [hFind]
    have hFresh : (!(s.cloudRefreshOperations.any fun row => row.id == podId 0 n) &&
        !(s.cloudRefreshOutbox.any fun row => row.operationId == podId 0 n)) = true := by
      rw [hOperations, hOutbox]
      rfl
    exact bind_of_ok (require_of_true hFresh _ _)
  exact congrArg Prod.snd (commit_of_ok (bind_of_ok hBody))

theorem PodStore.claim (h : PodStore n seen alerts s) : ∃ operations : List CloudRefreshRow,
    (∀ row ∈ operations, ∃ m : Fin 8, m.val < n.val + 1 ∧ row.id = podId 0 m ∧
      row.idempotencyKey = "refresh-" ++ toString m.val) ∧
    (authorizationStep podDigest (.claimRefresh "worker" (seconds (60 * n)) 60)
      (podOpened s (s.cloudRefreshOperations ++ [podRow n]) (podJob n))).2 =
    podOpened s operations (podClaimed n) := by
  have hFilter : (s.cloudRefreshOutbox ++ [podJob n]).filter
      (CloudOutboxRow.claimable (seconds (60 * n))) = [podJob n] := by
    rw [List.filter_append, List.filter_eq_nil_iff.mpr, List.nil_append]
    · simp [CloudOutboxRow.claimable, podJob, leaseOver]
    · intro row hRow
      simp [CloudOutboxRow.claimable, (h.outbox row hRow).1]
  have hUpdate : ∀ f : CloudOutboxRow → CloudOutboxRow,
      Table.updateWhere (fun other => other.operationId == podId 0 n) f
        (s.cloudRefreshOutbox ++ [podJob n]) = s.cloudRefreshOutbox ++ [f (podJob n)] := by
    intro f
    rw [Table.updateWhere_append, Table.updateWhere_of_none]
    · simp [Table.updateWhere, podJob]
    · intro row hRow
      obtain ⟨_, m, hm, hId⟩ := h.outbox row hRow
      simp [hId, podId_ne m n hm]
  let operations := Table.updateWhere (fun row => row.id == podId 0 n) (fun row => { row with
      state := .running
      updatedAt := seconds (60 * n)
      document := { podQueued n with state := .running } })
    (s.cloudRefreshOperations ++ [podRow n])
  refine ⟨operations, ?_, ?_⟩
  · intro row hRow
    obtain ⟨before, hBefore, hSame⟩ := Table.mem_updateWhere.mp hRow
    have hKept : row.id = before.id ∧ row.idempotencyKey = before.idempotencyKey := by
      rcases hSame with ⟨_, rfl⟩ | ⟨_, rfl⟩ <;> exact ⟨rfl, rfl⟩
    rw [hKept.1, hKept.2]
    rcases List.mem_append.mp hBefore with hOld | hNew
    · obtain ⟨m, hm, hFacts⟩ := h.operations before hOld
      exact ⟨m, Nat.lt_succ_of_lt hm, hFacts⟩
    · rw [List.mem_singleton.mp hNew]
      exact ⟨n, Nat.lt_succ_self _, rfl, rfl⟩
  · have hBody : claimCloudRefresh "worker" (seconds (60 * n)) 60
        (podOpened s (s.cloudRefreshOperations ++ [podRow n]) (podJob n)) =
        .ok (some (podClaim n), podOpened s operations (podClaimed n)) := by
      unfold claimCloudRefresh
      have hWorker : (textWithin 200 "worker" && decide (1 ≤ 60) && decide (60 ≤ 300)) = true := rfl
      rw [bind_of_ok (require_of_true hWorker _ _), fetch_bind]
      simp only [hFilter]
      have hFirst : Table.firstBy CloudOutboxRow.sooner [podJob n] = some (podJob n) := rfl
      simp only [hFirst]
      rw [store_bind]
      have hJob : (podJob n).operationId = podId 0 n := rfl
      rw [hJob]
      simp only [hUpdate]
      rfl
    exact congrArg Prod.snd (commit_of_ok (bind_of_ok hBody))

/-- The completion of refresh `n` under its claim. -/
def podCompletion (status : CloudResourceState) (n : Fin 8) : AuthorizationCall :=
  .completeRefresh (podClaim n) [podObserved status n] .succeeded (seconds (60 * n)) none none
    fun _ => ⟨podId 2 n, podId 3 n⟩

/-- A completion does to the feed what its one observation does. -/
theorem PodStore.complete {status : CloudResourceState} {event : Option IntegrationNotification}
    {seen' : List CloudObservationRow} {alerts' : List NotificationRow}
    {operations : List CloudRefreshRow} (h : PodStore n seen alerts s)
    (hOperations : ∀ row ∈ operations, ∃ m : Fin 8, m.val < n.val + 1 ∧ row.id = podId 0 m ∧
      row.idempotencyKey = "refresh-" ++ toString m.val)
    (hStored : storeObservation podDigest podConnection none (seconds (60 * n))
      ⟨podId 2 n, podId 3 n⟩ (podObserved status n) (podOpened s operations (podClaimed n)) =
        .ok (event, { podOpened s operations (podClaimed n) with
          cloudObservations := seen'
          notifications := alerts' })) :
    ∃ answer t, authorizationStep podDigest (podCompletion status n)
        (podOpened s operations (podClaimed n)) = (.ok answer, t) ∧
      PodStore (n + 1) seen' alerts' t := by
  have hLoop : storeObservations podDigest podConnection none (seconds (60 * n))
      (fun _ => ⟨podId 2 n, podId 3 n⟩) [podObserved status n]
      (podOpened s operations (podClaimed n)) =
      .ok (event.toList ++ [], { podOpened s operations (podClaimed n) with
        cloudObservations := seen'
        notifications := alerts' }) := bind_of_ok hStored
  have hHeld : ((s.cloudRefreshOutbox ++ [podClaimed n]).any fun row =>
      row.operationId == podId 0 n && holdsLease "worker" 1 (seconds (60 * n)) row.claimOwner
        row.claimFence row.leaseExpiresAt) = true := by
    rw [List.any_append]
    simp [podClaimed, podJob, holdsLease, seconds]
  have hConnection : findConnection podConnection.id podConnection.scope s.connections =
      some podConnection := by
    rw [h.connections]
    rfl
  have hBody : ∃ operation, completeCloudRefresh podDigest (podClaim n) [podObserved status n]
      .succeeded (seconds (60 * n)) none none (fun _ => ⟨podId 2 n, podId 3 n⟩)
      (podOpened s operations (podClaimed n)) = .ok ((operation, event.toList ++ []), { s with
        cloudRefreshOperations := Table.updateWhere (fun row => row.id == podId 0 n)
          (fun row => { row with
            state := .succeeded
            updatedAt := seconds (60 * n)
            document := operation }) operations
        cloudRefreshOutbox := Table.updateWhere (CloudOutboxRow.isClaim (podClaim n))
          (fun row => { row with
            state := .succeeded
            claimOwner := none
            leaseExpiresAt := none
            document := operation }) (s.cloudRefreshOutbox ++ [podClaimed n])
        cloudObservations := seen'
        notifications := alerts' }) := by
    refine ⟨{ podQueued n with state := .succeeded }, ?_⟩
    unfold completeCloudRefresh
    have hState : (CloudRefreshState.succeeded == .succeeded ||
        CloudRefreshState.succeeded == .failed || CloudRefreshState.succeeded == .unknown) = true :=
      rfl
    have hEmpty : (CloudRefreshState.succeeded == .succeeded ||
        [podObserved status n].isEmpty) = true := rfl
    rw [bind_of_ok (require_of_true hState _ _), bind_of_ok (require_of_true hEmpty _ _),
      fetch_bind]
    refine (bind_of_ok (require_of_true hHeld _ _)).trans ?_
    have hFound : findConnection (podClaim n).operation.connectionId
        (podClaim n).operation.scope s.connections = some podConnection := hConnection
    simp only [id, hFound]
    exact bind_of_ok hLoop
  obtain ⟨operation, hBody⟩ := hBody
  refine ⟨_, _, commit_of_ok (bind_of_ok hBody), ⟨h.connections, ?_, ?_, rfl, rfl⟩⟩
  · intro row hRow
    obtain ⟨before, hBefore, hSame⟩ := Table.mem_updateWhere.mp hRow
    have hKept : row.id = before.id ∧ row.idempotencyKey = before.idempotencyKey := by
      rcases hSame with ⟨_, rfl⟩ | ⟨_, rfl⟩ <;> exact ⟨rfl, rfl⟩
    rw [hKept.1, hKept.2]
    exact hOperations before hBefore
  · intro row hRow
    obtain ⟨before, hBefore, hSame⟩ := Table.mem_updateWhere.mp hRow
    rcases List.mem_append.mp hBefore with hOld | hNew
    · obtain ⟨hState, m, hm, hId⟩ := h.outbox before hOld
      rcases hSame with ⟨_, rfl⟩ | ⟨_, rfl⟩
      · exact ⟨rfl, m, Nat.lt_succ_of_lt hm, hId⟩
      · exact ⟨hState, m, Nat.lt_succ_of_lt hm, hId⟩
    · rw [List.mem_singleton.mp hNew] at hSame
      rcases hSame with ⟨_, rfl⟩ | ⟨hOther, _⟩
      · exact ⟨rfl, n, Nat.lt_succ_self _, rfl⟩
      · simp [CloudOutboxRow.isClaim, podClaim, podClaimed, podJob, podQueued] at hOther

/-- One refresh of the run, from its request to its completion. -/
theorem PodStore.refresh (status : CloudResourceState) {seen' : List CloudObservationRow}
    {alerts' : List NotificationRow} (h : PodStore n seen alerts s)
    (hStored : ∀ u : AuthorizationStore, u.cloudObservations = seen → u.notifications = alerts →
      ∃ event, storeObservation podDigest podConnection none (seconds (60 * n))
        ⟨podId 2 n, podId 3 n⟩ (podObserved status n) u = .ok (event, { u with
          cloudObservations := seen'
          notifications := alerts' })) :
    ∃ u v, u.cloudObservations = seen ∧ u.notifications = alerts ∧ v.notifications = alerts' ∧
      (trace (authorizationStep podDigest) (podRefresh status n) s).flatMap
        (observedResources podDigest) = [⟨u, podConnection, podObserved status n, v⟩] ∧
      PodStore (n + 1) seen' alerts'
        (run (authorizationStep podDigest) (podRefresh status n) s) := by
  obtain ⟨operations, hOperations, hClaim⟩ := h.claim
  obtain ⟨event, hStored⟩ := hStored (podOpened s operations (podClaimed n)) h.seen h.alerts
  obtain ⟨answer, t, hStep, hNext⟩ := h.complete hOperations hStored
  have hCalls : podRefresh status n = [.enqueueRefresh podPrincipal podConnection.id
      ("refresh-" ++ toString n.val) (seconds (60 * n)) (seconds (60 * n)) (podId 0 n),
      .claimRefresh "worker" (seconds (60 * n)) 60, podCompletion status n] := rfl
  have hFound : findConnection (podClaim n).operation.connectionId (podClaim n).operation.scope
      s.connections = some podConnection := by
    rw [h.connections]
    rfl
  refine ⟨podOpened s operations (podClaimed n), { podOpened s operations (podClaimed n) with
    cloudObservations := seen'
    notifications := alerts' }, h.seen, h.alerts, rfl, ?_, ?_⟩
  rotate_left
  · simp only [hCalls, run, h.enqueue, hClaim, hStep]
    exact hNext
  · simp only [hCalls, trace, h.enqueue, hClaim, hStep, List.flatMap_cons, List.flatMap_nil,
      List.append_nil]
    simp only [observedResources, podCompletion, hFound, observationTurns, hStored]
    rfl

end Refreshes

/-- The alert about a pod that went from one status to another. -/
def podDraft (prior current : CloudResourceState) (m n : Fin 8) : IntegrationNotificationDraft :=
  changedResourceDraft podDigest podConnection (podObserved prior m) (podObserved current n)

def podAlert (prior current : CloudResourceState) (m n : Fin 8) (sequence : Nat) :
    NotificationRow :=
  ((podDraft prior current m n).event podConnection.scope (seconds (60 * n)) (podId 2 n)
    sequence).row (podDraft prior current m n).dedupeKey

/-- The draft fits its model, since every digest has 64 characters. -/
theorem podDraft_valid {prior current : CloudResourceState} {m n : Fin 8}
    (hPrior : prior.text.length = 7) (hCurrent : current.text.length = 7) :
    (podDraft prior current m n).valid = true := by
  have hTitle : textWithin 200 (podDraft prior current m n).title = true := by
    show textWithin 200 (clip 200 ("Cloud resource changed: " ++ "pod")) = true
    decide +kernel
  have hDescription : (podDraft prior current m n).description.length = 48 := by
    simp only [podDraft, changedResourceDraft, podObserved, String.length_append, hPrior, hCurrent]
    rfl
  have hAction : atMost 300 (podDraft prior current m n).actionRef = true := by
    simp only [podDraft, changedResourceDraft, atMost, String.length_append,
      podConnection.id.canonical]
    rfl
  have hKey : (podDraft prior current m n).dedupeKey.length = 244 := by
    simp only [podDraft, changedResourceDraft, String.length_append, podDigest_length,
      podConnection.id.canonical]
    rfl
  have hIncident : atMost 500 (podDraft prior current m n).incidentKey = true := by
    simp only [podDraft, changedResourceDraft, podObserved, atMost, String.length_append,
      podConnection.id.canonical]
    rfl
  have hStage : atMost 80 (podDraft prior current m n).stage = true := by
    simp only [podDraft, changedResourceDraft, atMost, clip, String.length_ofList,
      List.length_take]
    exact decide_eq_true ((Nat.min_le_left _ _).trans (by decide))
  unfold IntegrationNotificationDraft.valid textWithin at *
  rw [hKey, hTitle, hDescription, hAction, hIncident, hStage]
  rfl

theorem podEvent_valid {prior current : CloudResourceState} {m n : Fin 8} (sequence : Nat)
    (hDraft : (podDraft prior current m n).valid = true) (hSequence : 1 ≤ sequence) :
    ((podDraft prior current m n).event podConnection.scope (seconds (60 * n)) (podId 2 n)
      sequence).valid = true := by
  unfold IntegrationNotificationDraft.valid at hDraft
  unfold IntegrationNotification.valid IntegrationNotificationDraft.event
  simp_all

theorem pod_fingerprints_ne : cloudFingerprint (podObserved .running 0) ≠
    cloudFingerprint (podObserved .stopped 0) := by
  decide +kernel

/-- The fingerprint of a pod does not depend on when it was observed. -/
theorem cloudFingerprint_pod (status : CloudResourceState) (n : Fin 8) :
    cloudFingerprint (podObserved status n) = cloudFingerprint (podObserved status 0) := by
  unfold cloudFingerprint podObserved
  rfl

section Turns

variable {n : Fin 8} {seen : List CloudObservationRow} {u : AuthorizationStore}
  {status prior : CloudResourceState}

theorem podObserved_utc (status : CloudResourceState) (n : Fin 8) :
    (podObserved status n).collectedAt.utc = some (seconds (60 * n)) := by
  have hRange : ∀ n : Fin 8, earliestMoment ≤ seconds (60 * n) ∧
      seconds (60 * n) ≤ latestMoment := by
    decide
  unfold Datetime.utc podObserved Datetime.ofTimestamp
  simp only [Int.sub_zero]
  rw [if_pos (hRange n)]

theorem podObserved_valid (status : CloudResourceState) (n : Fin 8) :
    (podObserved status n).valid = true := by
  show (textWithin 80 "runpod" && textWithin 120 "runpod" && textWithin 500 "pod-1" &&
    textWithin 120 "pod" && textWithin 300 "pod" && true && true) = true
  decide +kernel

theorem storeObservation_pod_first (hSeen : u.cloudObservations = [])
    (hAlerts : u.notifications = []) :
    storeObservation podDigest podConnection none (seconds (60 * n)) ⟨podId 2 n, podId 3 n⟩
      (podObserved status n) u = .ok (none, { u with
        cloudObservations := [podSeen status n]
        notifications := [] }) := by
  apply storeObservation_of_first rfl
  · rw [hSeen]
    rfl
  · rw [← hAlerts]
    have hInsert := insertObservation_of_fresh (s := u) (podObserved_utc status n) (by rw [hSeen]; rfl)
    rw [hSeen] at hInsert
    exact hInsert

/-- The pod changed, and its alert is new to the feed or not. -/
theorem storeObservation_pod_changed {m : Fin 8} {alerts : List NotificationRow}
    (hSeen : u.cloudObservations = seen) (hAlerts : u.notifications = alerts)
    (hPrior : priorObservation podConnection.id "pod-1" seen = some (podSeen prior m))
    (hFresh : (seen.any fun row => row.id == podId 1 n || (row.connectionId == podConnection.id &&
      row.externalRef == "pod-1" && row.collectedAt == seconds (60 * n))) = false)
    (hId : (alerts.any fun row => row.id == podId 2 n) = false)
    (hChanged : cloudFingerprint (podObserved prior 0) ≠ cloudFingerprint (podObserved status 0))
    (hPriorText : prior.text.length = 7) (hStatusText : status.text.length = 7) :
    ∃ event, storeObservation podDigest podConnection none (seconds (60 * n))
      ⟨podId 2 n, podId 3 n⟩ (podObserved status n) u = .ok (event, { u with
        cloudObservations := seen ++ [podSeen status n]
        notifications := if alerts.any (NotificationRow.isDuplicate podConnection.scope
            (podDraft prior status m n).dedupeKey) then alerts
          else alerts ++ [podAlert prior status m n (nextSequence alerts)] }) := by
  have hInsert := insertObservation_of_fresh (s := u) (podObserved_utc status n)
    (by rw [hSeen]; exact hFresh)
  rw [hSeen] at hInsert
  have hDraft := podDraft_valid (m := m) (n := n) hPriorText hStatusText
  have hChange : cloudFingerprint (podSeen prior m).document ≠
      cloudFingerprint (podObserved status n) := by
    show cloudFingerprint (podObserved prior m) ≠ cloudFingerprint (podObserved status n)
    rw [cloudFingerprint_pod prior m, cloudFingerprint_pod status n]
    exact hChanged
  have hStored : ∀ {event w}, insertNotification (podDraft prior status m n) podConnection.scope
      none (seconds (60 * n)) ⟨podId 2 n, podId 3 n⟩ { u with
        cloudObservations := seen ++ [podSeen status n] } = .ok (event, w) →
      storeObservation podDigest podConnection none (seconds (60 * n)) ⟨podId 2 n, podId 3 n⟩
        (podObserved status n) u = .ok (event, w) := by
    intro event w hNotify
    have hSame : podDraft prior status m n = changedResourceDraft podDigest podConnection
        (podSeen prior m).document (podObserved status n) := rfl
    rw [hSame] at hNotify hDraft
    have hBelongs : (podObserved status n).belongsTo podConnection = true := rfl
    have hRow : priorObservation podConnection.id (podObserved status n).externalRef
        u.cloudObservations = some (podSeen prior m) := by
      rw [hSeen]
      exact hPrior
    exact storeObservation_of_changed hBelongs hRow (podObserved_valid prior m) hInsert hChange
      hDraft hNotify
  subst hAlerts
  cases hOld : u.notifications.any (NotificationRow.isDuplicate podConnection.scope
      (podDraft prior status m n).dedupeKey) with
  | true => exact ⟨none, hStored (insertNotification_of_duplicate _ hOld)⟩
  | false =>
      have hEvent := podEvent_valid (nextSequence u.notifications) hDraft (Nat.le_add_left _ _)
      obtain ⟨event, hNotify⟩ := insertNotification_of_new ⟨podId 2 n, podId 3 n⟩
        (s := { u with cloudObservations := seen ++ [podSeen status n] }) hOld hId hEvent
      exact ⟨event, hStored hNotify⟩

end Turns

theorem podStore_start : PodStore (0 : Fin 8) [] []
    (authorizationStep podDigest (.createConnection podConnection) {}).2 where
  connections := rfl
  operations := fun _ h => nomatch h
  outbox := fun _ h => nomatch h
  seen := rfl
  alerts := rfl

theorem pod_collisionFree : CollisionFree podDigest (changedTexts
    [podChange .running .stopped, podChange .stopped .running]) := by
  unfold CollisionFree
  decide +kernel

theorem podDraft_dedupeKey (prior current : CloudResourceState) (m n : Fin 8) :
    (podDraft prior current m n).dedupeKey = (podChange prior current).dedupeKey podDigest := by
  unfold podDraft changedResourceDraft
  show _ ++ podDigest (cloudFingerprint (podObserved prior m)) ++ _ ++
    podDigest (cloudFingerprint (podObserved current n)) = _
  rw [cloudFingerprint_pod prior m, cloudFingerprint_pod current n]
  rfl

theorem podAlert_duplicate {prior current prior' current' : CloudResourceState} {m n m' n' : Fin 8}
    {sequence : Nat} : NotificationRow.isDuplicate podConnection.scope
      (podDraft prior current m n).dedupeKey (podAlert prior' current' m' n' sequence) =
    ((podChange prior' current').dedupeKey podDigest ==
      (podChange prior current).dedupeKey podDigest) := by
  unfold NotificationRow.isDuplicate
  rw [podDraft_dedupeKey]
  show (podConnection.scope == podConnection.scope && (podDraft prior' current' m' n').dedupeKey ==
    _) = _
  rw [podDraft_dedupeKey, beq_self_eq_true, Bool.true_and]

/-- The two changes of the run have different keys. -/
theorem podChange_dedupeKey_ne : ((podChange .running .stopped).dedupeKey podDigest ==
    (podChange .stopped .running).dedupeKey podDigest) = false := by
  rw [beq_eq_false_iff_ne]
  intro hKey
  obtain ⟨_, _, hPrior, _⟩ := ResourceChange.eq_of_dedupeKey podDigest_length hKey
  have hSame := pod_collisionFree (podChange .running .stopped).prior
    (by simp [changedTexts]) (podChange .stopped .running).prior (by simp [changedTexts]) hPrior
  exact pod_fingerprints_ne hSame

/-- What the turn of a changed pod finds and stores. -/
theorem pod_change (prior : CloudResourceState) {status : CloudResourceState} {m n : Fin 8}
    {seen : List CloudObservationRow} {u v : AuthorizationStore} (hSeen : u.cloudObservations = seen)
    (hPrior : priorObservation podConnection.id "pod-1" seen = some (podSeen prior m))
    (hChanged : cloudFingerprint (podObserved prior 0) ≠ cloudFingerprint (podObserved status 0)) :
    (ObservedResource.mk u podConnection (podObserved status n) v).change =
      some (podChange prior status) := by
  unfold ObservedResource.change
  have hRow : priorObservation podConnection.id (podObserved status n).externalRef
      u.cloudObservations = some (podSeen prior m) := by
    rw [hSeen]
    exact hPrior
  simp only [hRow]
  rw [if_neg]
  · have hDocument : (podSeen prior m).document = podObserved prior m := rfl
    rw [hDocument, cloudFingerprint_pod prior m, cloudFingerprint_pod status n]
    rfl
  · show cloudFingerprint (podObserved prior m) ≠ cloudFingerprint (podObserved status n)
    rw [cloudFingerprint_pod prior m, cloudFingerprint_pod status n]
    exact hChanged

/-- The alerts of a turn are what it added to the feed. -/
theorem pod_alerts (observation : CloudResourceRecord) {alerts : List NotificationRow}
    (added : List NotificationRow) {u v : AuthorizationStore} (hAlerts : u.notifications = alerts)
    (hAfter : v.notifications = alerts ++ added)
    (hKind : ∀ row ∈ added, (row.kind == .cloudResourceChanged) = true) :
    (ObservedResource.mk u podConnection observation v).alerts.length = added.length := by
  unfold ObservedResource.alerts
  rw [hAlerts, hAfter, List.drop_left, List.filter_eq_self.mpr hKind]

/-- Stopped, started and stopped again: the second stop stores no alert. -/
theorem pod_turns : ((trace (authorizationStep podDigest)
      (podRefreshes [.running, .stopped, .running, .stopped]) {}).flatMap
        (observedResources podDigest)).map (fun turn => (turn.change, turn.alerts.length)) =
    [(none, 0), (some (podChange .running .stopped), 1), (some (podChange .stopped .running), 1),
      (some (podChange .running .stopped), 0)] := by
  have hNe := pod_fingerprints_ne
  have hKind : ∀ {prior current m n sequence}, ∀ row ∈ [podAlert prior current m n sequence],
      (row.kind == .cloudResourceChanged) = true := by
    intro prior current m n sequence row hRow
    rw [List.mem_singleton.mp hRow]
    rfl
  obtain ⟨u0, v0, hSeen0, hAlerts0, hAfter0, hTurn0, h1⟩ :=
    podStore_start.refresh .running
      fun u hSeen hAlerts => ⟨none, storeObservation_pod_first hSeen hAlerts⟩
  obtain ⟨u1, v1, hSeen1, hAlerts1, hAfter1, hTurn1, h2⟩ :=
    PodStore.refresh (n := 1) .stopped h1 fun u hSeen hAlerts =>
      storeObservation_pod_changed (m := 0) hSeen hAlerts rfl rfl rfl hNe rfl rfl
  simp only [List.any_nil, Bool.false_eq_true, if_false] at hAfter1 h2
  rw [List.nil_append] at h2
  obtain ⟨u2, v2, hSeen2, hAlerts2, hAfter2, hTurn2, h3⟩ :=
    PodStore.refresh (n := 2) .running h2 fun u hSeen hAlerts =>
      storeObservation_pod_changed (m := 1) hSeen hAlerts rfl rfl rfl hNe.symm rfl rfl
  -- the change back has a key of its own
  have hSecond : [podAlert .running .stopped 0 1 (nextSequence [])].any
      (NotificationRow.isDuplicate podConnection.scope
        (podDraft .stopped .running 1 2).dedupeKey) = false := by
    rw [List.any_cons, List.any_nil, podAlert_duplicate, podChange_dedupeKey_ne,
      Bool.or_false]
  simp only [hSecond, Bool.false_eq_true, if_false] at hAfter2 h3
  rw [List.singleton_append, List.singleton_append] at h3
  obtain ⟨u3, v3, hSeen3, hAlerts3, hAfter3, hTurn3, -⟩ :=
    PodStore.refresh (n := 3) .stopped h3 fun u hSeen hAlerts =>
      storeObservation_pod_changed (m := 2) hSeen hAlerts rfl rfl rfl hNe rfl rfl
  -- the second stop has the key of the first
  simp only [List.any_cons, podAlert_duplicate, beq_self_eq_true, Bool.true_or, if_true] at hAfter3
  have hFirst : (ObservedResource.mk u0 podConnection (podObserved .running 0) v0).change =
      none := by
    unfold ObservedResource.change
    simp only [hSeen0]
    rfl
  have hCalls : podRefreshes [.running, .stopped, .running, .stopped] =
      [.createConnection podConnection] ++ (podRefresh .running 0 ++ (podRefresh .stopped 1 ++
        (podRefresh .running 2 ++ podRefresh .stopped 3))) := rfl
  have hCreated : (trace (authorizationStep podDigest) [.createConnection podConnection] {}).flatMap
      (observedResources podDigest) = [] := rfl
  rw [hCalls, trace_append [AuthorizationCall.createConnection podConnection],
    trace_append (podRefresh .running 0), trace_append (podRefresh .stopped 1),
    trace_append (podRefresh .running 2)]
  simp only [List.flatMap_append, hCreated, run, hTurn0, hTurn1, hTurn2, hTurn3, List.nil_append,
    List.singleton_append, List.map_cons, List.map_nil]
  have hChange1 := pod_change .running (m := 0) (n := 1) (v := v1) hSeen1 rfl hNe
  have hChange2 := pod_change .stopped (m := 1) (n := 2) (v := v2) hSeen2 rfl hNe.symm
  have hChange3 := pod_change .running (m := 2) (n := 3) (v := v3) hSeen3 rfl hNe
  have hLength0 := pod_alerts (podObserved .running 0) [] hAlerts0 hAfter0
    (List.forall_mem_nil _)
  have hLength1 := pod_alerts (podObserved .stopped 1) _ hAlerts1 hAfter1 hKind
  have hLength2 := pod_alerts (podObserved .running 2) _ hAlerts2 hAfter2 hKind
  have hLength3 := pod_alerts (podObserved .stopped 3) [] hAlerts3
    (hAfter3.trans (List.append_nil _).symm) (List.forall_mem_nil _)
  simp only [hFirst, hChange1, hChange2, hChange3, hLength0, hLength1, hLength2, hLength3,
    List.length_nil, List.length_singleton]

end Sample

end CyreneExchange.Integrations
