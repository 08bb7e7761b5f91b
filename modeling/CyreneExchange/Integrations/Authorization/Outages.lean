import CyreneExchange.General.Deduplicated
import CyreneExchange.Integrations.Authorization.Checks
import CyreneExchange.Integrations.Authorization.Exclusive
import CyreneExchange.Integrations.Authorization.Feed

/-! Alerts about connections that became unavailable. A worker compares with
the fact it read under its claim, and the alert is deduplicated by connection
and generation alone. -/
namespace CyreneExchange.Integrations

open Machine Transaction Lease Deduplicated

abbrev CheckEvent := Event CheckSystem CheckInput Unit

/-- A check as it was committed. -/
structure CompletedCheck where
  before : AuthorizationStore
  connection : ProviderConnection
  observation : AuthorizationHealthRecord
  after : AuthorizationStore

/-- The check that a step completed, if any. -/
def completedChecks (e : CheckEvent) : List CompletedCheck :=
  match e.input with
  | .advance index m =>
      match e.before.flights[index]? with
      | none => []
      | some flight =>
          match flight.stage with
          | .completing claim _ observation drafts =>
              match completeAuthorizationCheck claim observation drafts flight.now
                  flight.monitorIntervalSeconds m.emailRecipientRef m.draws e.before.store with
              | .ok (_, t) => [⟨e.before.store, claim.connection, observation, t⟩]
              | .error _ => []
          | _ => []
  | _ => []

/-- The newest stored fact about a connection. -/
def AuthorizationStore.newestHealth (s : AuthorizationStore) (connection : ProviderConnection) :
    Option AuthorizationHealthRecord :=
  (latestHealth connection s.authorizationObservations).map HealthRow.document

/-- An owner's connection became unavailable in a generation. -/
structure Outage where
  scope : ActorScope
  connectionId : UUID
  generation : Nat
deriving DecidableEq, Repr

/-- The outage that a check starts: its observation is UNAVAILABLE and the
newest fact before it, if any, was not. -/
def CompletedCheck.outage (check : CompletedCheck) : Option Outage :=
  if startsOutage (check.before.newestHealth check.connection) check.observation then
    some ⟨check.connection.scope, check.connection.id, check.observation.generation⟩
  else none

/-- The CONNECTION_UNAVAILABLE notifications that a check stored. -/
def CompletedCheck.alerts (check : CompletedCheck) : List NotificationRow :=
  (check.after.notifications.drop check.before.notifications.length).filter fun row =>
    row.kind == .connectionUnavailable && row.connectionId == some check.connection.id

/-- A check that starts an outage stores a notification about it. -/
def CompletedCheck.Notified (check : CompletedCheck) : Prop :=
  check.outage.isSome = true → check.alerts ≠ []

instance CompletedCheck.decidableNotified (check : CompletedCheck) : Decidable check.Notified :=
  inferInstanceAs (Decidable (_ → _))

/-- Every check that a run completes, oldest first. -/
def checksOf (sha256 : String → String) (inputs : List CheckInput) : List CompletedCheck :=
  (trace (Flights.step (checkRules sha256)) inputs ⟨{}, []⟩).flatMap completedChecks

/-- The key under which an outage is stored. -/
def Outage.dedupeKey (outage : Outage) : String :=
  "connection-unavailable:" ++ outage.connectionId.text ++ ":" ++ toString outage.generation

/-- A key that only alerts about outages have. -/
def aboutOutage (dedupeKey : String) : Bool := startsWith dedupeKey "connection-unavailable:"

theorem Outage.key_injective :
    Function.Injective fun outage : Outage => (outage.scope, outage.dedupeKey) := by
  rintro ⟨scope, connectionId, generation⟩ ⟨scope', connectionId', generation'⟩ h
  obtain ⟨hScope, hKey⟩ := Prod.mk.inj h
  unfold Outage.dedupeKey at hKey
  simp only [String.append_assoc] at hKey
  obtain ⟨hConnection, hRest⟩ := UUID.text_append_inj (append_cancel_left hKey)
  have hDigits : Nat.toDigits 10 generation = Nat.toDigits 10 generation' := by
    simpa [Nat.repr] using congrArg String.toList (append_cancel_left hRest)
  have hGeneration : generation = generation' := by
    have hValue := congrArg (Nat.ofDigitChars 10 · 0) hDigits
    simpa only [Nat.ofDigitChars_ten_toDigits] using hValue
  cases hScope
  cases hConnection
  cases hGeneration
  rfl

section Claims

/-- What any step does to the monitor: every claim moves by the rules of its
lease, and facts about a connection change only as its claim ends. -/
structure AuthorizationStore.Monitored (s t : AuthorizationStore) : Prop where
  moves : ∀ connectionId, ∃ grant,
    Move (monitorTenure connectionId s) grant (monitorTenure connectionId t)
  facts : ∀ connection : ProviderConnection, (monitorTenure connection.id t).owner = none ∨
    t.newestHealth connection = s.newestHealth connection

/-- What a worker knows under its claim: while it is in force, `previous` is
the newest fact. -/
structure ClaimedAuthorizationMonitor.Knows (claim : ClaimedAuthorizationMonitor)
    (previous : Option AuthorizationHealthRecord) (s : AuthorizationStore) : Prop where
  fence : claim.claimFence ≤ (monitorTenure claim.connection.id s).fence
  current : (monitorTenure claim.connection.id s).owner = some claim.workerId →
    (monitorTenure claim.connection.id s).fence = claim.claimFence →
    previous = s.newestHealth claim.connection

variable {s t : AuthorizationStore} {claim : ClaimedAuthorizationMonitor}
  {previous : Option AuthorizationHealthRecord}

theorem AuthorizationStore.Monitored.fence_le (h : s.Monitored t) (connectionId : UUID) :
    (monitorTenure connectionId s).fence ≤ (monitorTenure connectionId t).fence :=
  (h.moves connectionId).choose_spec.fence_le

/-- A claim that is not new and in force after a step was in force before. -/
theorem AuthorizationStore.Monitored.held (h : s.Monitored t) {connectionId : UUID}
    {workerId : String} {fence : Nat} (hOld : fence ≤ (monitorTenure connectionId s).fence)
    (hOwner : (monitorTenure connectionId t).owner = some workerId)
    (hFence : (monitorTenure connectionId t).fence = fence) :
    monitorTenure connectionId t = monitorTenure connectionId s := by
  obtain ⟨grant, hMove⟩ := h.moves connectionId
  generalize monitorTenure connectionId t = held at hMove hOwner hFence
  cases hMove with
  | keep => rfl
  | grant hFree =>
      simp only at hFence
      omega
  | vacate => cases hOwner

theorem ClaimedAuthorizationMonitor.Knows.stable (h : claim.Knows previous s)
    (hStep : s.Monitored t) : claim.Knows previous t where
  fence := h.fence.trans (hStep.fence_le _)
  current hOwner hFence := by
    have hSame := hStep.held h.fence hOwner hFence
    rcases hStep.facts claim.connection with hFree | hFacts
    · rw [hFree] at hOwner
      cases hOwner
    · rw [hSame] at hOwner hFence
      rw [hFacts]
      exact h.current hOwner hFence

theorem AuthorizationStore.Monitored.refl (s : AuthorizationStore) : s.Monitored s :=
  ⟨fun _ => ⟨none, .keep⟩, fun _ => Or.inr rfl⟩

/-- A call that adds no facts. -/
theorem monitored_of_call (sha256 : String → String) (call : AuthorizationCall)
    (hInv : ClaimInv s) (hQuiet : ∀ row, ¬ call.mayObserve row) :
    s.Monitored (authorizationStep sha256 call s).2 where
  moves connectionId := ⟨_, (step_moves sha256 call hInv).monitor connectionId⟩
  facts connection := by
    right
    obtain ⟨added, hGrown, hAdded⟩ := (step_announces sha256 call s).healths
    have hNone : added = [] := List.eq_nil_iff_forall_not_mem.mpr fun row hRow =>
      hQuiet row (hAdded row hRow)
    unfold AuthorizationStore.newestHealth
    rw [hGrown, hNone, List.append_nil]

variable {health : AuthorizationHealthRecord} {drafts : List IntegrationNotificationDraft}
  {now : Timestamp} {intervalSeconds : Nat} {emailRecipientRef : Option String}
  {draw : Nat → NotificationDraws} {events : List IntegrationNotification}

/-- A completed check ends its claim. -/
theorem monitorTenure_of_complete (hInv : ClaimInv s)
    (h : completeAuthorizationCheck claim health drafts now intervalSeconds emailRecipientRef
      draw s = .ok (events, t)) : (monitorTenure claim.connection.id t).owner = none := by
  obtain ⟨⟨row, hRow, hId, hOwner, hFence, _⟩, _, _, _, _, _, _, _, rfl⟩ := completeCheck_eq_ok h
  have hClaim : row.isClaim claim = true := by
    simp only [MonitorRow.isClaim, Bool.and_eq_true, beq_iff_eq]
    exact ⟨⟨hId, hOwner⟩, hFence⟩
  unfold monitorTenure
  rw [← hId]
  refine (congrArg Tenure.owner (tenureOf_updated hInv.monitors hRow hClaim ?_)).trans rfl
  exact fun _ _ _ => rfl

/-- A completed check leaves the facts about other connections alone. -/
theorem newestHealth_of_complete {connection : ProviderConnection}
    (hOther : connection.id ≠ claim.connection.id)
    (h : completeAuthorizationCheck claim health drafts now intervalSeconds emailRecipientRef
      draw s = .ok (events, t)) : t.newestHealth connection = s.newestHealth connection := by
  have hGrown := (completeAuthorizationCheck_announces (p := fun _ => True)
    (q := fun row => row.connectionId = health.connectionId) (fun _ _ => trivial)
    (fun _ hConnection _ _ => hConnection) now intervalSeconds emailRecipientRef draw h).healths
  obtain ⟨_, ⟨hConnection, _⟩, _⟩ := completeCheck_eq_ok h
  unfold AuthorizationStore.newestHealth latestHealth
  rw [hGrown.filter_eq]
  intro row hRow
  have hApart : row.connectionId ≠ connection.id := by
    rw [hRow, hConnection]
    exact hOther.symm
  simp [hApart]

theorem monitored_of_complete (hInv : ClaimInv s)
    (h : completeAuthorizationCheck claim health drafts now intervalSeconds emailRecipientRef
      draw s = .ok (events, t)) : ClaimInv t ∧ s.Monitored t := by
  have hBody : AuthorizationCall.body id (.completeCheck claim health drafts now intervalSeconds
      emailRecipientRef draw) s = .ok (.saved events, t) := bind_eq_ok.mpr ⟨_, _, h, rfl⟩
  have hMoves := call_moves hInv hBody
  have hNext : ClaimInv t := hMoves.inv
  refine ⟨hNext, fun connectionId => ⟨_, hMoves.monitor connectionId⟩, fun connection => ?_⟩
  by_cases hOther : connection.id = claim.connection.id
  · rw [hOther]
    exact Or.inl (monitorTenure_of_complete hInv h)
  · exact Or.inr (newestHealth_of_complete hOther h)

end Claims

section Completions

variable {s t : AuthorizationStore} {claim : ClaimedAuthorizationMonitor}
  {previous : Option AuthorizationHealthRecord} {health : AuthorizationHealthRecord}
  {drafts : List IntegrationNotificationDraft} {now : Timestamp} {intervalSeconds : Nat}
  {emailRecipientRef : Option String} {draw : Nat → NotificationDraws}
  {events : List IntegrationNotification} {seen : List (ActorScope × String)}

/-- The key that a check announces, with its owner. -/
def CompletedCheck.key (check : CompletedCheck) : Option (ActorScope × String) :=
  check.outage.map fun outage => (outage.scope, outage.dedupeKey)

/-- A check that compared with the newest fact stores the outage it starts
exactly when its key is new. -/
theorem completion_announced (hSeen : s.KeysAnnounced aboutOutage seen)
    (hKnown : previous = s.newestHealth claim.connection)
    (hDrafts : MonitorDrafts claim.connection previous health drafts)
    (h : completeAuthorizationCheck claim health drafts now intervalSeconds emailRecipientRef
      draw s = .ok (events, t)) :
    let check : CompletedCheck := ⟨s, claim.connection, health, t⟩
    (check.Notified ↔ ∀ k ∈ check.key, k ∉ seen) ∧
      t.KeysAnnounced aboutOutage (seen ++ check.key.toList) := by
  intro check
  obtain ⟨_, _, u, v, saved, hHealth, hSaved, _, hEnd⟩ := completeCheck_eq_ok h
  have hStart : u.notifications = s.notifications := by
    obtain ⟨row, _, _, _, rfl⟩ := insertHealth_eq_ok hHealth
    rfl
  have hFeed : t.notifications = v.notifications := by rw [hEnd]
  have hOutage : check.outage = if startsOutage previous health then
      some ⟨claim.connection.scope, claim.connection.id, health.generation⟩ else none := by
    rw [hKnown]
    rfl
  rcases hDrafts with ⟨hStarts, rfl⟩ | ⟨hQuiet, hRenewals⟩
  · obtain ⟨event, w, hInsert, hRest⟩ := bind_eq_ok.mp hSaved
    cases hRest
    rw [hStarts, if_pos rfl] at hOutage
    have hKey : check.key =
        some (claim.connection.scope, (unavailableDraft claim.connection health).dedupeKey) := by
      rw [CompletedCheck.key, hOutage]
      rfl
    obtain ⟨hStored, hNext⟩ := insertNotification_announces (hSeen.of_same hStart)
      (unavailableDraft_startsWith_key claim.connection health) hInsert
    rw [hKey, Option.toList_some]
    refine ⟨?_, hNext.of_same hFeed⟩
    simp only [CompletedCheck.Notified, hOutage, Option.mem_def, Option.some.injEq, forall_eq',
      Option.isSome_some, forall_true_left]
    rw [hStart] at hStored
    rcases hStored with ⟨hOld, hSame⟩ | ⟨hNew, n, hNotice, hConnection, hAdded⟩
    · have hNone : check.alerts = [] := by
        simp [check, CompletedCheck.alerts, hFeed, hSame]
      simp [hNone, hOld]
    · have hKind : n.kind = .connectionUnavailable := congrArg Notice.kind hNotice
      have hAlert : check.alerts = [n] := by
        simp [check, CompletedCheck.alerts, hFeed, hAdded, hKind, hConnection, unavailableDraft]
      simp [hAlert, hNew]
  · have hNone : check.outage = none := by rw [hOutage, hQuiet]; rfl
    have hKey : check.key = none := by rw [CompletedCheck.key, hNone]; rfl
    rw [hKey, Option.toList_none, List.append_nil]
    refine ⟨by simp [CompletedCheck.Notified, hNone], ?_⟩
    have hGrown := (insertNotifications_reports (q := fun _ => True)
      (p := fun n => ∃ draft ∈ drafts, n = draft.notice claim.connection.scope)
      (fun draft hDraft => ⟨draft, hDraft, rfl⟩) emailRecipientRef now draw hSaved).feed
    refine ((hSeen.of_same hStart).grows (t := v) hGrown ?_).of_same hFeed
    rintro _ ⟨draft, hDraft, rfl⟩
    exact startsWith_other (hRenewals draft hDraft).startsWith_key (by decide) (by decide)

end Completions

section Cycles

/-- What a cycle has claimed is its own until the fence moves, what it has read
is current until then, and what it has drafted follows from that. -/
def CheckFlight.Informed (s : AuthorizationStore) (flight : CheckFlight) : Prop :=
  match flight.stage with
  | .starting | .returned _ | .raised _ => True
  | .reading claim => claim.claimFence ≤ (monitorTenure claim.connection.id s).fence
  | .observing claim previous | .drafting claim previous _ => claim.Knows previous s
  | .completing claim previous observation drafts =>
      claim.Knows previous s ∧ MonitorDrafts claim.connection previous observation drafts

variable {s t : AuthorizationStore} {flight : CheckFlight} {m : CheckMoment}

theorem CheckFlight.Informed.stable (h : flight.Informed s) (hStep : s.Monitored t) :
    flight.Informed t := by
  unfold CheckFlight.Informed at *
  cases hStage : flight.stage with
  | starting | returned _ | raised _ => trivial
  | reading claim =>
      simp only [hStage] at h
      exact h.trans (hStep.fence_le _)
  | observing claim previous =>
      simp only [hStage] at h
      exact h.stable hStep
  | drafting claim previous observation =>
      simp only [hStage] at h
      exact h.stable hStep
  | completing claim previous observation drafts =>
      simp only [hStage] at h
      exact ⟨h.1.stable hStep, h.2⟩

/-- A claim just handed out is under the current fence. -/
theorem claimFence_of_claimed {workerId : String} {now : Timestamp} {leaseSeconds limit : Nat}
    {claim : ClaimedAuthorizationMonitor} {rest : List ClaimedAuthorizationMonitor}
    (hInv : ClaimInv s) (h : claimAuthorizationChecks workerId now leaseSeconds limit s =
      .ok (claim :: rest, t)) :
    claim.claimFence ≤ (monitorTenure claim.connection.id t).fence := by
  have hMove : Move (monitorTenure claim.connection.id s)
      (batchGrant claim.connection.id now (claim :: rest)) (monitorTenure claim.connection.id t) :=
    monitor_move_of_claim hInv h
  have hGrant : batchGrant claim.connection.id now (claim :: rest) =
      some ⟨claim.workerId, claim.claimFence, now⟩ := by
    simp [batchGrant]
  rw [hGrant] at hMove
  generalize monitorTenure claim.connection.id t = held at hMove
  generalize hFence : claim.claimFence = fence at hMove ⊢
  cases hMove with
  | grant hFree => exact Nat.le_refl _

theorem latestAuthorizationHealthForMonitor_eq_ok {claim : ClaimedAuthorizationMonitor}
    {previous : Option AuthorizationHealthRecord}
    (h : latestAuthorizationHealthForMonitor claim s = .ok (previous, t)) :
    previous = s.newestHealth claim.connection ∧ t = s := by
  unfold latestAuthorizationHealthForMonitor latestAuthorizationHealthForConnection at h
  rw [fetch_bind] at h
  unfold AuthorizationStore.newestHealth
  cases hLatest : latestHealth claim.connection s.authorizationObservations with
  | none =>
      simp only [hLatest] at h
      cases h
      exact ⟨rfl, rfl⟩
  | some row =>
      simp only [hLatest] at h
      obtain ⟨_, _, hRead, hPure⟩ := bind_eq_ok.mp h
      unfold readHealth at hRead
      obtain ⟨_, _, hRequire, hDocument⟩ := bind_eq_ok.mp hRead
      obtain ⟨_, rfl⟩ := require_eq_ok.mp hRequire
      cases hDocument
      cases hPure
      exact ⟨rfl, rfl⟩

/-- A cycle that gives its claim back. -/
theorem release_informed (hInv : ClaimInv s) (claim : ClaimedAuthorizationMonitor) :
    ClaimInv (flight.release claim s).2 ∧ s.Monitored (flight.release claim s).2 ∧
      (flight.release claim s).1.Informed (flight.release claim s).2 := by
  have hStore : (flight.release claim s).2 =
      (authorizationStep id (.releaseCheck claim flight.now 1) s).2 := by
    unfold CheckFlight.release authorizationStep AuthorizationCall.body
    rw [commit_answer]
    split
    · next hCommit => rw [hCommit]
    · next hCommit => rw [hCommit]
  rw [hStore]
  refine ⟨(step_moves id _ hInv).inv, monitored_of_call id _ hInv fun _ => id, ?_⟩
  unfold CheckFlight.release
  split <;> trivial

/-- One step of a cycle keeps the claims in order and the cycle informed. -/
theorem move_informed (hInv : ClaimInv s) (h : flight.Informed s) :
    ClaimInv (flight.move m s).2 ∧ s.Monitored (flight.move m s).2 ∧
      (flight.move m s).1.Informed (flight.move m s).2 := by
  have hStay : ∀ {next : CheckFlight}, next.Informed s →
      ClaimInv s ∧ s.Monitored s ∧ next.Informed s :=
    fun hNext => ⟨hInv, .refl s, hNext⟩
  unfold CheckFlight.Informed at h
  unfold CheckFlight.move
  cases hStage : flight.stage with
  | returned completed => exact hStay (by rw [CheckFlight.Informed, hStage]; trivial)
  | raised error => exact hStay (by rw [CheckFlight.Informed, hStage]; trivial)
  | starting =>
      dsimp only
      split
      · exact hStay trivial
      · rcases commit_cases (claimAuthorizationChecks flight.workerId flight.now 60 1) s with
          ⟨claims, t, hBody, hCommit⟩ | ⟨e, _, hCommit⟩
        · have hCall : AuthorizationCall.body id (.claimChecks flight.workerId flight.now 60 1) s =
              .ok (.checks claims, t) := bind_eq_ok.mpr ⟨_, _, hBody, rfl⟩
          have hStep : (authorizationStep id (.claimChecks flight.workerId flight.now 60 1) s).2 =
              t := congrArg Prod.snd (commit_of_ok hCall)
          have hMoves := call_moves hInv hCall
          have hMonitored := monitored_of_call id (.claimChecks flight.workerId flight.now 60 1)
            hInv fun _ => id
          rw [hStep] at hMonitored
          rw [hCommit]
          cases claims with
          | nil => exact ⟨hMoves.inv, hMonitored, trivial⟩
          | cons claim rest =>
              exact ⟨hMoves.inv, hMonitored, claimFence_of_claimed hInv hBody⟩
        · rw [hCommit]
          exact hStay trivial
  | reading claim =>
      simp only [hStage] at h
      dsimp only
      split
      · exact release_informed hInv claim
      · rcases commit_cases (latestAuthorizationHealthForMonitor claim) s with
          ⟨previous, t, hBody, hCommit⟩ | ⟨e, _, hCommit⟩
        · rw [hCommit]
          obtain ⟨hPrevious, rfl⟩ := latestAuthorizationHealthForMonitor_eq_ok hBody
          exact hStay ⟨h, fun _ _ => hPrevious⟩
        · rw [hCommit]
          exact hStay trivial
  | observing claim previous =>
      simp only [hStage] at h
      dsimp only
      split
      · exact release_informed hInv claim
      · exact hStay h
  | drafting claim previous observation =>
      simp only [hStage] at h
      dsimp only
      rcases commit_cases (authorizationNotifications claim previous observation flight.now) s with
        ⟨drafts, t, hBody, hCommit⟩ | ⟨e, _, hCommit⟩
      · rw [hCommit]
        obtain ⟨rfl, hDrafts⟩ := authorizationNotifications_eq_ok hBody
        exact hStay ⟨h, hDrafts⟩
      · rw [hCommit]
        exact hStay trivial
  | completing claim previous observation drafts =>
      dsimp only
      rcases commit_cases (completeAuthorizationCheck claim observation drafts flight.now
        flight.monitorIntervalSeconds m.emailRecipientRef m.draws) s with
        ⟨events, t, hBody, hCommit⟩ | ⟨e, _, hCommit⟩
      · rw [hCommit]
        obtain ⟨hNext, hMonitored⟩ := monitored_of_complete hInv hBody
        exact ⟨hNext, hMonitored, trivial⟩
      · rw [hCommit]
        exact hStay trivial

/-- The terms of rely and guarantee between the workers. -/
theorem checkContract (sha256 : String → String) :
    Flights.Contract (checkRules sha256) CheckPromise ClaimInv
      (fun s flight => flight.Informed s) AuthorizationStore.Monitored where
  refl := .refl
  arrives _ _ _ _ := trivial
  moves _ _ _ _ hInv _ hInformed _ := move_informed hInv hInformed
  operates system call hInv hPromise := by
    refine ⟨(step_moves sha256 call hInv).inv, monitored_of_call sha256 call hInv ?_⟩
    cases call with
    | completeCheck => exact absurd hPromise id
    | _ => exact fun _ => id
  stable _ _ _ _ hStep hInformed := hInformed.stable hStep

end Cycles

section Steps

variable {sha256 : String → String} {s t : AuthorizationStore} {flight : CheckFlight}
  {m : CheckMoment} {seen : List (ActorScope × String)}

/-- Only a completed check writes a key about an outage. -/
theorem mayNotify_notAboutOutage {system : CheckSystem} {call : AuthorizationCall}
    (hPromise : CheckPromise system (.operate call)) {n : Notice}
    (h : call.mayNotify sha256 n) : aboutOutage n.dedupeKey = false := by
  cases call with
  | completeCheck => exact absurd hPromise id
  | completeRefresh claim observations state now result emailRecipientRef draw =>
      obtain ⟨connection, prior, observation, _, rfl⟩ := h
      have hLead : startsWith (changedResourceDraft sha256 connection prior observation).dedupeKey
          "cloud-change:" = true := by
        unfold changedResourceDraft
        simp only [String.append_assoc]
        exact startsWith_append (by decide) _
      exact startsWith_other hLead (by decide) (by decide)
  | finishEmail jobId claimFence status vendorReceiptRef deliveryConfirmed now draws =>
      obtain ⟨job, verdict, rfl⟩ := h
      have hLead : startsWith (deliveryFailedDraft job verdict).dedupeKey "email-delivery:" =
          true := by
        unfold deliveryFailedDraft
        simp only [String.append_assoc]
        exact startsWith_append (by decide) _
      exact startsWith_other hLead (by decide) (by decide)
  | _ => cases h

/-- A step that completes no check leaves the feed alone. -/
theorem move_quiet (hStage : ∀ claim previous observation drafts,
    flight.stage ≠ .completing claim previous observation drafts) :
    s.Announces (fun _ => False) (fun _ => False) (flight.move m s).2 := by
  have hRelease : ∀ claim, s.Announces (fun _ => False) (fun _ => False)
      (flight.release claim s).2 := by
    intro claim
    have hQuiet := (releaseAuthorizationCheck_announces (p := fun _ => False)
      (q := fun _ => False) claim flight.now 1).commit s
    unfold CheckFlight.release
    split
    · next hCommit => rwa [hCommit] at hQuiet
    · next hCommit => rwa [hCommit] at hQuiet
  unfold CheckFlight.move
  cases hAt : flight.stage with
  | completing claim previous observation drafts => exact absurd hAt (hStage _ _ _ _)
  | returned completed => exact refl_of _ s
  | raised error => exact refl_of _ s
  | starting =>
      dsimp only
      split
      · exact refl_of _ s
      · have hQuiet := (claimAuthorizationChecks_announces (p := fun _ => False)
          (q := fun _ => False) flight.workerId flight.now 60 1).commit s
        split
        · next hCommit => rwa [hCommit] at hQuiet
        · next hCommit => rwa [hCommit] at hQuiet
        · next hCommit => rwa [hCommit] at hQuiet
  | reading claim =>
      dsimp only
      split
      · exact hRelease claim
      · rcases commit_cases (latestAuthorizationHealthForMonitor claim) s with
          ⟨previous, t, hBody, hCommit⟩ | ⟨e, _, hCommit⟩
        · rw [hCommit]
          obtain ⟨_, rfl⟩ := latestAuthorizationHealthForMonitor_eq_ok hBody
          exact refl_of _ t
        · rw [hCommit]
          exact refl_of _ s
  | observing claim previous =>
      dsimp only
      split
      · exact hRelease claim
      · exact refl_of _ s
  | drafting claim previous observation =>
      dsimp only
      rcases commit_cases (authorizationNotifications claim previous observation flight.now) s with
        ⟨drafts, t, hBody, hCommit⟩ | ⟨e, _, hCommit⟩
      · rw [hCommit]
        obtain ⟨rfl, _⟩ := authorizationNotifications_eq_ok hBody
        exact refl_of _ t
      · rw [hCommit]
        exact refl_of _ s

/-- The workers are informed, and the feed has the outages seen. -/
structure OutagesKnown (seen : List (ActorScope × String)) (system : CheckSystem) : Prop where
  sound : Flights.Sound ClaimInv (fun s flight => flight.Informed s) system
  keys : system.store.KeysAnnounced aboutOutage seen

/-- What one step tells about outages. -/
theorem step_outages {system : CheckSystem} {input : CheckInput}
    (hKnown : OutagesKnown seen system) (hPromise : CheckPromise system input) :
    let e : CheckEvent := ⟨system, input, (Flights.step (checkRules sha256) input system).1,
      (Flights.step (checkRules sha256) input system).2⟩
    FirstOnly CompletedCheck.key CompletedCheck.Notified seen (completedChecks e) ∧
      OutagesKnown (seen ++ (completedChecks e).filterMap CompletedCheck.key) e.after := by
  intro e
  obtain ⟨hSound, hSeen⟩ := hKnown
  have hSoundNext : Flights.Sound ClaimInv (fun s flight => CheckFlight.Informed s flight)
      e.after := (checkContract sha256).preserves system input hSound hPromise
  have hQuiet : completedChecks e = [] → e.after.store.KeysAnnounced aboutOutage seen →
      FirstOnly CompletedCheck.key CompletedCheck.Notified seen (completedChecks e) ∧
      OutagesKnown (seen ++ (completedChecks e).filterMap CompletedCheck.key) e.after := by
    intro hNone hKept
    rw [hNone]
    exact ⟨trivial, hSoundNext, by simpa using hKept⟩
  cases input with
  | arrive arrival => exact hQuiet rfl hSeen
  | operate call =>
      refine hQuiet rfl (hSeen.grows (step_announces sha256 call system.store).feed ?_)
      exact fun n hn => mayNotify_notAboutOutage hPromise hn
  | advance index m =>
      cases hFlight : system.flights[index]? with
      | none =>
          have hAfter : e.after = system := Flights.step_advance_none hFlight
          refine hQuiet ?_ (hAfter ▸ hSeen)
          simp [completedChecks, e, hFlight]
      | some flight =>
          have hAfter : e.after.store = (flight.move m system.store).2 :=
            congrArg Flights.System.store (Flights.step_advance hFlight)
          have hInformed := hSound.2 flight (List.mem_of_getElem? hFlight)
          unfold CheckFlight.Informed at hInformed
          cases hStage : flight.stage with
          | completing claim previous observation drafts =>
              simp only [hStage] at hInformed
              rw [CheckFlight.move, hStage] at hAfter
              dsimp only at hAfter
              rcases commit_cases (completeAuthorizationCheck claim observation drafts flight.now
                flight.monitorIntervalSeconds m.emailRecipientRef m.draws) system.store with
                ⟨events, t, hBody, hCommit⟩ | ⟨error, hBody, hCommit⟩
              · rw [hCommit] at hAfter
                have hCompleted : completedChecks e =
                    [⟨system.store, claim.connection, observation, t⟩] := by
                  simp [completedChecks, e, hFlight, hStage, hBody]
                obtain ⟨⟨row, hRow, hId, hOwner, hFence, _⟩, _⟩ := completeCheck_eq_ok hBody
                have hTenure : tenureOf MonitorRow.connectionId MonitorRow.tenure
                    system.store.monitorState row.connectionId = row.tenure :=
                  tenureOf_eq_of_mem hSound.1.monitors hRow
                rw [hId] at hTenure
                have hKnown := hInformed.1.current ((congrArg Tenure.owner hTenure).trans hOwner)
                  ((congrArg Tenure.fence hTenure).trans hFence)
                obtain ⟨hNotified, hNext⟩ := completion_announced hSeen hKnown hInformed.2 hBody
                rw [hCompleted]
                refine ⟨⟨hNotified, trivial⟩, hSoundNext, ?_⟩
                rw [hAfter, List.filterMap_cons, List.filterMap_nil]
                cases hKey : CompletedCheck.key ⟨system.store, claim.connection, observation, t⟩ <;>
                  simpa [hKey] using hNext
              · rw [hCommit] at hAfter
                refine hQuiet ?_ (hAfter ▸ hSeen)
                simp [completedChecks, e, hFlight, hStage, hBody]
          | _ =>
              have hQuiet' : system.store.Announces (fun _ => False) (fun _ => False)
                  (flight.move m system.store).2 := move_quiet (by rw [hStage]; simp)
              have hStill := hQuiet'.feed
              rw [← hAfter] at hStill
              refine hQuiet ?_ (hSeen.grows hStill fun _ h => h.elim)
              simp [completedChecks, e, hFlight, hStage]

end Steps

/-- In every run of any number of workers, every check that starts an outage
stores a notification about it if and only if no connection has two outages in
one generation. -/
theorem outages_notified_iff (sha256 : String → String) (inputs : List CheckInput)
    (hPromise : Admitted (Flights.step (checkRules sha256)) CheckPromise inputs ⟨{}, []⟩) :
    (∀ check ∈ checksOf sha256 inputs, check.Notified) ↔
      ((checksOf sha256 inputs).filterMap CompletedCheck.outage).Nodup := by
  have hStart : Flights.Sound ClaimInv (fun s flight => CheckFlight.Informed s flight)
      (⟨{}, []⟩ : CheckSystem) := ⟨⟨List.nodup_nil, List.nodup_nil, by simp⟩, by simp⟩
  unfold checksOf
  rw [run_records_iff OutagesKnown (fun _ _ _ hKnown hInput => step_outages hKnown hInput)
    ⟨hStart, .initial aboutOutage⟩ hPromise]
  have hKeys : ∀ checks : List CompletedCheck, checks.filterMap CompletedCheck.key =
      (checks.filterMap CompletedCheck.outage).map fun outage =>
        (outage.scope, outage.dedupeKey) := by
    intro checks
    unfold CompletedCheck.key
    rw [List.map_filterMap]
  rw [hKeys]
  exact List.nodup_map_iff Outage.key_injective

section Sample

def repoConnection : ProviderConnection where
  id := ⟨"5e6f7a8b-9c0d-4e1f-8a2b-3c4d5e6f7a8b", by decide⟩
  scope := ⟨"organization", "workspace", "issuer", "member"⟩
  provider := .github

def repoPrincipal : IntegrationPrincipal where
  issuer := "issuer"
  subject := "member"
  organizationId := "organization"
  workspaceId := "workspace"
  allowedOperationIds := [monitorOperation]

/-- An identifier of the run: `kind` and the number of the check. -/
def repoId (kind n : Nat) : UUID :=
  ⟨padded 8 kind ++ "-0000-4000-8000-" ++ padded 12 n, by
    unfold padded
    rw [String.length_append, String.length_append, String.length_ofList, String.length_ofList]
    simp⟩

/-- The provider finds the login present. -/
def repoPresent (n : Nat) : HealthAnswer :=
  .observed {
    id := repoId 0 n
    scope := repoConnection.scope
    connectionId := repoConnection.id
    loginState := .present
    authorizationState := .valid
    checkedAt := .ofTimestamp (seconds (900 * n))
    generation := 0 }

/-- The cycle number `n` of a worker, in which the provider answers so. -/
def repoCycle (n : Nat) (answer : HealthAnswer) : List CheckInput :=
  let m : CheckMoment := {
    principal := some repoPrincipal
    answer := answer
    draw := repoId 0 n
    draws := fun _ => ⟨repoId 1 n, repoId 2 n⟩ }
  .arrive ⟨"monitor", seconds (900 * n), 900, .starting⟩ :: List.replicate 5 (.advance n m)

def repoCycles (answers : List HealthAnswer) : List CheckInput :=
  .operate (.createConnection repoConnection) ::
    answers.zipIdx.flatMap fun (answer, n) => repoCycle n answer

/-- Lost, found and lost again in one generation: the second outage stores no
notification. -/
theorem repo_checks : (checksOf id (repoCycles
      [repoPresent 0, .failed, repoPresent 2, .failed])).map
        (fun check => (check.outage, check.alerts.length)) =
    [(none, 0), (some ⟨repoConnection.scope, repoConnection.id, 0⟩, 1), (none, 0),
      (some ⟨repoConnection.scope, repoConnection.id, 0⟩, 0)] := by
  decide +kernel

theorem repeated_outage_is_not_notified :
    ¬ ∀ check ∈ checksOf id (repoCycles [repoPresent 0, .failed, repoPresent 2, .failed]),
      check.Notified := by
  intro hAll
  have hLast : (some ⟨repoConnection.scope, repoConnection.id, 0⟩, 0) ∈ (checksOf id (repoCycles
      [repoPresent 0, .failed, repoPresent 2, .failed])).map
        (fun check => (check.outage, check.alerts.length)) := by
    rw [repo_checks]
    simp
  obtain ⟨check, hCheck, hEq⟩ := List.mem_map.mp hLast
  obtain ⟨hOutage, hAlerts⟩ := Prod.mk.inj hEq
  exact hAll check hCheck (by rw [hOutage]; rfl) (List.eq_nil_of_length_eq_zero hAlerts)

theorem outages_notified_iff_sample :
    (∀ check ∈ checksOf id (repoCycles [repoPresent 0, .failed, repoPresent 2, .failed]),
        check.Notified) ↔
      ((checksOf id (repoCycles [repoPresent 0, .failed, repoPresent 2, .failed])).filterMap
        CompletedCheck.outage).Nodup := by
  refine outages_notified_iff id _ (admitted_of_mem ?_ _)
  simp [repoCycles, repoCycle, CheckPromise]

end Sample

end CyreneExchange.Integrations
