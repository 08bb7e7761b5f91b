import CyreneExchange.Integrations.Authorization.RenewalFinality

/-! Get-renewal requests after a start with an unknown outcome. The provider is
asked while the stored reason says so, and a failed lookup writes another
reason. -/
namespace CyreneExchange.Integrations

open Machine Transaction

/-- One get-renewal request and the events it meets: the read, the provider
call, the write of the answer and the write after a failure. -/
structure LookupRequest where
  actor : IntegrationPrincipal
  services : RenewalServices
  sessionId : UUID
  read : RenewalEvent
  poll : RenewalEvent
  write : RenewalEvent
  fallback : RenewalEvent

def LookupRequest.request (lookup : LookupRequest) : RenewalRequest where
  actor := lookup.actor
  authorizationCloud := some lookup.services
  route := .getRenewalSession lookup.sessionId

def LookupRequest.events (lookup : LookupRequest) : List RenewalEvent :=
  [lookup.read, lookup.poll, lookup.write, lookup.fallback]

/-- The stage and the store that a request reaches through the given events. -/
def RenewalRequest.follow (sha256 : String → String) (request : RenewalRequest) :
    List RenewalEvent → RenewalStage × AuthorizationStore → RenewalStage × AuthorizationStore
  | [], reached => reached
  | event :: rest, (stage, s) =>
      request.follow sha256 rest (RenewalFlight.advance sha256 ⟨request, stage⟩ event s)

/-- The store a request leaves. -/
def LookupRequest.after (sha256 : String → String) (lookup : LookupRequest)
    (s : AuthorizationStore) : AuthorizationStore :=
  (lookup.request.follow sha256 lookup.events (lookup.request.arrives, s)).2

/-- The next step is `renewal_status_by_request_id`. -/
def RenewalStage.asksByRequestId : RenewalStage → Bool
  | .polling session => session.providerSessionRef.isNone
  | _ => false

/-- The request performs the lookup. -/
def LookupRequest.Asks (sha256 : String → String) (lookup : LookupRequest)
    (s : AuthorizationStore) : Prop :=
  (lookup.request.follow sha256 [lookup.read] (lookup.request.arrives, s)).1.asksByRequestId = true

/-- A session of that authorization. -/
def ProviderRenewalSession.For (reply : ProviderRenewalSession) (authorizationRef : String) :
    Prop :=
  reply.authorizationRef = authorizationRef ∧ reply.sessionRef ≠ ""

/-- The provider call ends without a session of that authorization. -/
def ProviderRenewalAnswer.Misses (answer : ProviderRenewalAnswer) (authorizationRef : String) :
    Prop :=
  ∀ reply, answer = .answered reply → ¬ reply.For authorizationRef

/-- A get-renewal request of the session that passes every check before the
lookup, from a provider that can look up a request id. -/
structure LookupRequest.Concerns (lookup : LookupRequest) (scope : ActorScope)
    (sessionRef : String) : Prop where
  scope : lookup.actor.scope = scope
  session : lookup.sessionId.text = sessionRef
  supported : lookup.services.supportsRequestIdStatusLookup = true
  granted : "accountGetRenewalSession" ∈ lookup.actor.allowedOperationIds
  unexpired : ∀ event ∈ lookup.events, ∀ expiry, lookup.actor.expiresAt = some expiry →
    event.now < expiry
  checked : lookup.read.checks = none

/-- VERIFYING, no provider session, and a start nobody knows the outcome of. -/
structure RenewalSessionRecord.StartUnknown (session : RenewalSessionRecord) : Prop where
  state : session.state = .verifying
  provider : session.providerSessionRef = none
  reason : session.reasonCode = some "provider_start_outcome_unknown"

/-- The request performs the lookup, and a valid answer is what the stored
session says afterwards. -/
def LookupRequest.Resumes (sha256 : String → String) (lookup : LookupRequest)
    (row : RenewalRow) (s : AuthorizationStore) : Prop :=
  lookup.Asks sha256 s ∧
    ∀ reply, lookup.poll.answer = .answered reply → reply.For row.authorizationRef →
      ∃ row' ∈ (lookup.after sha256 s).renewalSessions,
        row'.isSession row.scope row.authorizationRef row.sessionRef = true ∧
          row'.state = reply.facts.state ∧ row'.document.state = reply.facts.state ∧
          row'.document.providerSessionRef = some reply.sessionRef

/-- What a session says about its row; one without a provider session can be
read back. -/
def RenewalRow.Kept (row : RenewalRow) : Prop :=
  row.document.authorizationRef = row.authorizationRef ∧
    (row.document.providerSessionRef = none → row.document.valid = true)

def RenewalsKept (s : AuthorizationStore) : Prop :=
  ∀ row ∈ s.renewalSessions, row.Kept

section Kept

variable {sha256 : String → String} {s t u : AuthorizationStore} {call : RenewalCall}
  {session : RenewalSessionRecord}

/-- A body that rewrites the session it selected. -/
theorem kept_rewrites {scope : ActorScope} {authorizationRef sessionRef missing : String}
    {current updated : RenewalSessionRecord} {state : Option RenewalState}
    (hKept : RenewalsKept s)
    (hSelect : selectRenewal scope authorizationRef sessionRef missing s = .ok (current, u))
    (h : (do
      persistRenewal scope authorizationRef sessionRef state updated
      pure updated : AuthorizationTransaction RenewalSessionRecord) u = .ok (session, t))
    (hSame : updated.authorizationRef = current.authorizationRef)
    (hValid : updated.providerSessionRef = none → current.valid = true → updated.valid = true) :
    RenewalsKept t := by
  obtain ⟨row, hRow, hSession, hReadable, rfl, rfl⟩ := selectRenewal_eq_ok hSelect
  obtain ⟨_, _, hPersist, hPure⟩ := bind_eq_ok.mp h
  cases hPersist
  cases hPure
  intro row' hRow'
  obtain ⟨x, hx, ⟨hSelected, rfl⟩ | ⟨_, rfl⟩⟩ := Table.mem_updateWhere.mp hRow'
  · have hRef : row.authorizationRef = x.authorizationRef :=
      (isSession_iff.mp hSession).2.1.trans (isSession_iff.mp hSelected).2.1.symm
    refine ⟨?_, fun hNone => hValid hNone hReadable⟩
    calc session.authorizationRef = row.document.authorizationRef := hSame
      _ = row.authorizationRef := (hKept row hRow).1
      _ = x.authorizationRef := hRef
  · exact hKept row' hx

theorem beginSession_keeps {principal : IntegrationPrincipal}
    {authorizationRef idempotencyKey : String} {now moment : Timestamp} {draw : UUID}
    {answer : RenewalSessionRecord × Bool} (hKept : RenewalsKept s)
    (h : beginRenewalSession sha256 principal authorizationRef idempotencyKey now moment draw s =
      .ok (answer, t)) : RenewalsKept t := by
  obtain ⟨_, _, ⟨_, _, _, _, rfl⟩ | hCreated⟩ := begin_eq_ok h
  · exact hKept
  · unfold RenewalsKept
    rw [hCreated.sessions]
    intro row hRow
    rcases List.mem_append.mp hRow with hOld | hNew
    · exact hKept row hOld
    · rw [List.mem_singleton.mp hNew]
      exact ⟨rfl, fun _ => hCreated.valid⟩

theorem completeStart_keeps {principal : IntegrationPrincipal}
    {authorizationRef sessionRef providerSessionRef : String} {facts : ProviderRenewalFacts}
    {now : Timestamp} (hKept : RenewalsKept s)
    (h : completeRenewalSessionStart principal authorizationRef sessionRef providerSessionRef facts
      now s = .ok (session, t)) : RenewalsKept t := by
  unfold completeRenewalSessionStart at h
  obtain ⟨_, _, hGrant, hBody⟩ := bind_eq_ok.mp h
  obtain rfl := requireOperation_eq_ok hGrant
  obtain ⟨_, _, hRequireRef, hNext⟩ := bind_eq_ok.mp hBody
  obtain ⟨_, rfl⟩ := require_eq_ok.mp hRequireRef
  obtain ⟨current, _, hSelect, hRest⟩ := bind_eq_ok.mp hNext
  obtain ⟨_, _, hRequireSame, hUpdate⟩ := bind_eq_ok.mp hRest
  obtain ⟨_, rfl⟩ := require_eq_ok.mp hRequireSame
  refine kept_rewrites hKept hSelect hUpdate rfl ?_
  intro hNone
  cases hNone

theorem markUnknown_keeps {principal : IntegrationPrincipal}
    {authorizationRef sessionRef reasonCode : String} {now : Timestamp} (hKept : RenewalsKept s)
    (h : markRenewalStartUnknown principal authorizationRef sessionRef reasonCode now s =
      .ok (session, t)) : RenewalsKept t := by
  unfold markRenewalStartUnknown at h
  obtain ⟨_, _, hGrant, hBody⟩ := bind_eq_ok.mp h
  obtain rfl := requireOperation_eq_ok hGrant
  obtain ⟨_, _, hRequireReason, hNext⟩ := bind_eq_ok.mp hBody
  obtain ⟨hReason, rfl⟩ := require_eq_ok.mp hRequireReason
  obtain ⟨current, _, hSelect, hRest⟩ := bind_eq_ok.mp hNext
  split at hRest
  · cases hRest
    obtain ⟨_, _, _, _, _, rfl⟩ := selectRenewal_eq_ok hSelect
    exact hKept
  · exact kept_rewrites hKept hSelect hRest rfl
      fun _ hValid => RenewalSessionRecord.valid_reason hValid (atMost_of_textWithin hReason)

theorem failStart_keeps {principal : IntegrationPrincipal}
    {authorizationRef sessionRef : String} {now : Timestamp} (hKept : RenewalsKept s)
    (h : failRenewalSessionStart principal authorizationRef sessionRef now s = .ok (session, t)) :
    RenewalsKept t := by
  unfold failRenewalSessionStart at h
  obtain ⟨_, _, hGrant, hBody⟩ := bind_eq_ok.mp h
  obtain rfl := requireOperation_eq_ok hGrant
  obtain ⟨current, _, hSelect, hNext⟩ := bind_eq_ok.mp hBody
  obtain ⟨_, _, _, _, _, rfl⟩ := selectRenewal_eq_ok hSelect
  split at hNext
  · cases hNext
    exact hKept
  · split at hNext
    · cases hNext
      exact hKept
    · exact kept_rewrites hKept hSelect hNext rfl
        fun _ hValid => RenewalSessionRecord.valid_rejected hValid

theorem updateStatus_keeps {principal : IntegrationPrincipal}
    {authorizationRef sessionRef : String} {facts : ProviderRenewalFacts}
    {providerSessionRef reasonCode : Option String} {now : Timestamp} (hKept : RenewalsKept s)
    (h : updateRenewalSessionStatus principal authorizationRef sessionRef facts providerSessionRef
      reasonCode now s = .ok (session, t)) : RenewalsKept t := by
  unfold updateRenewalSessionStatus at h
  obtain ⟨_, _, hGrant, hBody⟩ := bind_eq_ok.mp h
  obtain rfl := requireOperation_eq_ok hGrant
  obtain ⟨current, _, hSelect, hNext⟩ := bind_eq_ok.mp hBody
  obtain ⟨_, _, hRequireKnown, hRest⟩ := bind_eq_ok.mp hNext
  obtain ⟨hKnown, rfl⟩ := require_eq_ok.mp hRequireKnown
  obtain ⟨_, _, hRequireSame, hUpdate⟩ := bind_eq_ok.mp hRest
  obtain ⟨_, rfl⟩ := require_eq_ok.mp hRequireSame
  refine kept_rewrites hKept hSelect hUpdate rfl ?_
  -- the call leaves the reference it was given or the one already there
  intro hNone
  exfalso
  simp only [RenewalSessionRecord.report] at hNone
  cases hTruthy : truthy providerSessionRef with
  | true =>
      rw [hTruthy, if_pos rfl] at hNone
      rw [hNone] at hTruthy
      cases hTruthy
  | false =>
      rw [hTruthy, if_neg Bool.false_ne_true] at hNone
      rw [hTruthy, hNone] at hKnown
      cases hKnown

theorem markStatusUnavailable_keeps {principal : IntegrationPrincipal}
    {authorizationRef sessionRef reasonCode : String} {now : Timestamp} (hKept : RenewalsKept s)
    (h : markRenewalStatusUnavailable principal authorizationRef sessionRef reasonCode now s =
      .ok (session, t)) : RenewalsKept t := by
  unfold markRenewalStatusUnavailable at h
  obtain ⟨_, _, hGrant, hBody⟩ := bind_eq_ok.mp h
  obtain rfl := requireOperation_eq_ok hGrant
  obtain ⟨_, _, hRequireReason, hNext⟩ := bind_eq_ok.mp hBody
  obtain ⟨hReason, rfl⟩ := require_eq_ok.mp hRequireReason
  obtain ⟨current, _, hSelect, hRest⟩ := bind_eq_ok.mp hNext
  exact kept_rewrites hKept hSelect hRest rfl
    fun _ hValid => RenewalSessionRecord.valid_reason hValid (atMost_of_textWithin hReason)

theorem renewalsKept_step (hKept : RenewalsKept s) :
    RenewalsKept (renewalStep sha256 call s).2 := by
  rcases commit_cases (call.body sha256) s with ⟨answer, t, hBody, hCommit⟩ | ⟨e, _, hCommit⟩
  · rw [renewalStep, hCommit]
    cases call with
    | beginSession principal authorizationRef idempotencyKey now moment draw =>
        exact beginSession_keeps hKept hBody
    | completeStart principal authorizationRef sessionRef providerSessionRef facts now =>
        obtain ⟨_, _, hMethod, hPure⟩ := bind_eq_ok.mp hBody
        cases hPure
        exact completeStart_keeps hKept hMethod
    | markUnknown principal authorizationRef sessionRef reasonCode now =>
        obtain ⟨_, _, hMethod, hPure⟩ := bind_eq_ok.mp hBody
        cases hPure
        exact markUnknown_keeps hKept hMethod
    | failStart principal authorizationRef sessionRef now =>
        obtain ⟨_, _, hMethod, hPure⟩ := bind_eq_ok.mp hBody
        cases hPure
        exact failStart_keeps hKept hMethod
    | updateStatus principal authorizationRef sessionRef facts providerSessionRef reasonCode now =>
        obtain ⟨_, _, hMethod, hPure⟩ := bind_eq_ok.mp hBody
        cases hPure
        exact updateStatus_keeps hKept hMethod
    | markStatusUnavailable principal authorizationRef sessionRef reasonCode now =>
        obtain ⟨_, _, hMethod, hPure⟩ := bind_eq_ok.mp hBody
        cases hPure
        exact markStatusUnavailable_keeps hKept hMethod
  · rw [renewalStep, hCommit]
    exact hKept

end Kept

/-- What every run of renewal calls keeps. -/
structure RenewalsSound (s : AuthorizationStore) : Prop where
  sessions : RenewalInv s
  table : RenewalTableInv s
  kept : RenewalsKept s

section Lookup

variable {sha256 : String → String} {s : AuthorizationStore} {row : RenewalRow}
  {lookup : LookupRequest} {scope : ActorScope} {sessionRef : String}

theorem renewalsSound_preserved :
    Preserves (renewalStep sha256) RenewalCall.DrawsFresh RenewalsSound :=
  fun _ _ hSound hFresh =>
    ⟨(renewalStep_sound hSound.sessions hFresh).1, renewalStep_table hSound.table,
      renewalsKept_step hSound.kept⟩

theorem renewalsSound_empty : RenewalsSound {} :=
  ⟨renewalInv_empty, renewalTableInv_empty, by simp [RenewalsKept]⟩

theorem LookupRequest.Concerns.operation (hLookup : lookup.Concerns scope sessionRef)
    {event : RenewalEvent} (hEvent : event ∈ lookup.events) :
    requireOperation lookup.actor "accountGetRenewalSession" event.now s = .ok ((), s) := by
  unfold requireOperation
  refine (bind_of_ok (require_of_true ?_ _ s)).trans ?_
  · cases hExpiry : lookup.actor.expiresAt with
    | none => rfl
    | some expiry => exact decide_eq_true (hLookup.unexpired event hEvent expiry hExpiry)
  · exact require_of_true (List.contains_iff_mem.mpr hLookup.granted) _ s

theorem RenewalTableInv.selectRenewal (hInv : RenewalTableInv s) (hRow : row ∈ s.renewalSessions)
    (hValid : row.document.valid = true) (missing : String) :
    selectRenewal row.scope row.authorizationRef row.sessionRef missing s =
      .ok (row.document, s) := by
  have hSelf : row.isSession row.scope row.authorizationRef row.sessionRef = true :=
    isSession_iff.mpr ⟨rfl, rfl, rfl⟩
  have hFind : s.renewalSessions.find?
      (RenewalRow.isSession row.scope row.authorizationRef row.sessionRef) = some row := by
    cases hFound : s.renewalSessions.find?
        (RenewalRow.isSession row.scope row.authorizationRef row.sessionRef) with
    | none => exact absurd hSelf (List.find?_eq_none.mp hFound row hRow)
    | some other =>
        rw [hInv.selects_one hRow (List.mem_of_find?_eq_some hFound) hSelf
          (List.find?_some hFound)]
  unfold Integrations.selectRenewal
  rw [fetch_bind, hFind]
  exact readRenewal_of_valid hValid

theorem RenewalInv.getRenewalSessionById (hInv : RenewalInv s) (hRow : row ∈ s.renewalSessions)
    (hValid : row.document.valid = true) (hLookup : lookup.Concerns row.scope row.sessionRef) :
    getRenewalSessionById lookup.actor lookup.sessionId.text lookup.read.now s =
      .ok (row.document, s) := by
  have hOnly : s.renewalSessions.filter (fun other =>
      other.sessionRef == lookup.sessionId.text && other.scope == lookup.actor.scope) = [row] := by
    refine hInv.refsUnique.filter_eq_singleton hRow ?_ ?_
    · simp [hLookup.session, hLookup.scope]
    · intro other _ hSelected
      simp only [Bool.and_eq_true, beq_iff_eq] at hSelected
      exact hSelected.1.trans hLookup.session
  unfold Integrations.getRenewalSessionById
  rw [bind_of_ok (hLookup.operation List.mem_cons_self), fetch_bind, hOnly]
  exact readRenewal_of_valid hValid

theorem RenewalRequest.follow_done (request : RenewalRequest) (events : List RenewalEvent)
    (outcome : Except RenewalFailure RenewalSessionRecord) :
    request.follow sha256 events (.done outcome, s) = (.done outcome, s) := by
  induction events with
  | nil => rfl
  | cons event rest ih => exact ih

/-- The read asks the provider next or answers with what is stored. -/
theorem LookupRequest.read_stage (hInv : RenewalInv s) (hRow : row ∈ s.renewalSessions)
    (hValid : row.document.valid = true) (hLookup : lookup.Concerns row.scope row.sessionRef) :
    lookup.request.follow sha256 [lookup.read] (lookup.request.arrives, s) =
      (if polls (some lookup.services) row.document then .polling row.document
        else .done (.ok row.document), s) := by
  have hRead := hInv.getRenewalSessionById hRow hValid hLookup
  simp only [LookupRequest.request, RenewalRequest.arrives, RenewalRequest.follow,
    RenewalFlight.advance, RenewalStage.call, RenewalStage.proceeds, commit_of_ok hRead,
    hLookup.checked]
  rfl

theorem polls_of_startUnknown {services : RenewalServices} {session : RenewalSessionRecord}
    (hUnknown : session.StartUnknown)
    (hSupported : services.supportsRequestIdStatusLookup = true) :
    polls (some services) session = true := by
  simp [polls, canLookupUnknownStart, hUnknown.state, hUnknown.reason, hSupported]

/-- Without a provider session only one reason leads to a lookup. -/
theorem polls_eq_false {services : RenewalServices} {session : RenewalSessionRecord}
    (hProvider : session.providerSessionRef = none)
    (hReason : session.reasonCode ≠ some "provider_start_outcome_unknown") :
    polls (some services) session = false := by
  simp [polls, canLookupUnknownStart, hProvider, hReason]

/-- The stored session after a failed lookup. -/
def RenewalRow.missed (row : RenewalRow) : RenewalRow := { row with
  document := { row.document with reasonCode := some "provider_status_lookup_unavailable" } }

theorem polled_of_misses {session : RenewalSessionRecord} {answer : ProviderRenewalAnswer}
    (h : answer.Misses session.authorizationRef) : polled session answer = .unavailable session := by
  cases answer with
  | answered reply =>
      refine if_pos ?_
      by_cases hRef : reply.authorizationRef = session.authorizationRef
      · right
        left
        by_contra hSession
        exact h reply rfl ⟨hRef, hSession⟩
      · exact Or.inl hRef
  | permissionError => rfl
  | productError status retryable => rfl
  | failed => rfl

/-- The session a valid answer leaves. -/
def RenewalRow.resumed (row : RenewalRow) (reply : ProviderRenewalSession) : RenewalRow :=
  { row with
    state := reply.facts.state
    document := row.document.report reply.facts (some reply.sessionRef) none }

theorem mem_persistRenewal (hRow : row ∈ s.renewalSessions) (state : Option RenewalState)
    (document : RenewalSessionRecord) :
    ∃ t, persistRenewal row.scope row.authorizationRef row.sessionRef state document s =
        .ok ((), t) ∧
      { row with state := state.getD row.state, document := document } ∈ t.renewalSessions :=
  ⟨_, rfl, Table.mem_updateWhere_of_pos hRow (isSession_iff.mpr ⟨rfl, rfl, rfl⟩)⟩

theorem LookupRequest.Concerns.missed (hInv : RenewalTableInv s)
    (hRow : row ∈ s.renewalSessions) (hValid : row.document.valid = true)
    (hLookup : lookup.Concerns row.scope row.sessionRef) :
    ∃ t, renewalStep sha256 (.markStatusUnavailable lookup.actor row.authorizationRef
        row.sessionRef "provider_status_lookup_unavailable" lookup.write.now) s =
          (.ok (row.missed.document, false), t) ∧ row.missed ∈ t.renewalSessions := by
  obtain ⟨t, hPersist, hMem⟩ := mem_persistRenewal hRow none row.missed.document
  refine ⟨t, commit_of_ok ?_, hMem⟩
  refine (bind_of_ok (a := row.missed.document) (t := t) ?_).trans rfl
  unfold markRenewalStatusUnavailable
  rw [bind_of_ok (hLookup.operation (by simp [LookupRequest.events])),
    bind_of_ok (require_of_true (by decide +kernel) _ s), hLookup.scope,
    bind_of_ok (hInv.selectRenewal hRow hValid _)]
  exact (bind_of_ok hPersist).trans rfl

theorem LookupRequest.Concerns.resumed (hInv : RenewalTableInv s)
    (hRow : row ∈ s.renewalSessions) (hValid : row.document.valid = true)
    (hLookup : lookup.Concerns row.scope row.sessionRef)
    (hProvider : row.document.providerSessionRef = none) {reply : ProviderRenewalSession}
    (hReply : reply.sessionRef ≠ "") :
    ∃ t, renewalStep sha256 (.updateStatus lookup.actor row.authorizationRef row.sessionRef
        reply.facts (some reply.sessionRef) none lookup.write.now) s =
          (.ok ((row.resumed reply).document, false), t) ∧
      row.resumed reply ∈ t.renewalSessions := by
  have hTruthy : truthy (some reply.sessionRef) = true := by simp [truthy, hReply]
  obtain ⟨t, hPersist, hMem⟩ := mem_persistRenewal hRow (some reply.facts.state)
    (row.resumed reply).document
  refine ⟨t, commit_of_ok ?_, hMem⟩
  refine (bind_of_ok (a := (row.resumed reply).document) (t := t) ?_).trans rfl
  unfold updateRenewalSessionStatus
  rw [bind_of_ok (hLookup.operation (by simp [LookupRequest.events])), hLookup.scope,
    bind_of_ok (hInv.selectRenewal hRow hValid _),
    bind_of_ok (require_of_true (by rw [hTruthy, Bool.or_true]) _ s),
    bind_of_ok (require_of_true (by rw [hProvider]; rfl) _ s), if_pos hTruthy]
  exact (bind_of_ok hPersist).trans rfl

theorem RenewalFlight.advance_of_call {flight : RenewalFlight} {event : RenewalEvent}
    {call : RenewalCall} (h : flight.stage.call flight.request.actor event = some call) :
    flight.advance sha256 event s =
      (flight.stage.answered flight.request (renewalStep sha256 call s).1,
        (renewalStep sha256 call s).2) := by
  unfold RenewalFlight.advance
  rw [h]

/-- A failed lookup leaves the session with another reason. -/
theorem LookupRequest.after_of_misses (hSound : RenewalsSound s)
    (hRow : row ∈ s.renewalSessions) (hUnknown : row.document.StartUnknown)
    (hLookup : lookup.Concerns row.scope row.sessionRef)
    (hMisses : lookup.poll.answer.Misses row.authorizationRef) :
    RenewalsSound (lookup.after sha256 s) ∧
      row.missed ∈ (lookup.after sha256 s).renewalSessions := by
  obtain ⟨hNamed, hReadable⟩ := hSound.kept row hRow
  have hValid := hReadable hUnknown.provider
  generalize hCall : RenewalCall.markStatusUnavailable lookup.actor row.authorizationRef
    row.sessionRef "provider_status_lookup_unavailable" lookup.write.now = call
  have hFresh : call.DrawsFresh s := hCall ▸ trivial
  have hNext : RenewalStage.call lookup.actor lookup.write (.unavailable row.document) =
      some call := by
    simp only [RenewalStage.call, hUnknown.provider, hNamed, hSound.sessions.named row hRow, hCall]
  obtain ⟨t, hStep, hMem⟩ : ∃ t, renewalStep sha256 call s = (.ok (row.missed.document, false), t) ∧
      row.missed ∈ t.renewalSessions := hCall ▸ hLookup.missed hSound.table hRow hValid
  have hAfter : lookup.after sha256 s = t := by
    calc lookup.after sha256 s
      _ = (lookup.request.follow sha256 [lookup.poll, lookup.write, lookup.fallback]
            (lookup.request.follow sha256 [lookup.read] (lookup.request.arrives, s))).2 := rfl
      _ = (lookup.request.follow sha256 [lookup.write, lookup.fallback]
            (polled row.document lookup.poll.answer, s)).2 := by
          rw [LookupRequest.read_stage hSound.sessions hRow hValid hLookup,
            if_pos (polls_of_startUnknown hUnknown hLookup.supported)]
          rfl
      _ = (lookup.request.follow sha256 [lookup.fallback]
            (.done (.ok row.missed.document), t)).2 := by
          rw [polled_of_misses (hNamed ▸ hMisses), RenewalRequest.follow,
            RenewalFlight.advance_of_call hNext, hStep]
          rfl
      _ = t := by rw [RenewalRequest.follow_done]
  have hSound' : RenewalsSound (renewalStep sha256 call s).2 :=
    renewalsSound_preserved s call hSound hFresh
  rw [hStep] at hSound'
  rw [hAfter]
  exact ⟨hSound', hMem⟩

theorem polled_of_reply {session : RenewalSessionRecord} {reply : ProviderRenewalSession}
    (hReply : reply.For session.authorizationRef) (hProvider : session.providerSessionRef = none) :
    polled session (.answered reply) = .updating session reply := by
  refine if_neg ?_
  rintro (hOther | hEmpty | hConflict)
  · exact hOther hReply.1
  · exact hReply.2 hEmpty
  · rw [hProvider] at hConflict
    cases hConflict

/-- The first lookup after an unknown start is performed, and its answer stored. -/
theorem LookupRequest.resumes_of_startUnknown (hSound : RenewalsSound s)
    (hRow : row ∈ s.renewalSessions) (hUnknown : row.document.StartUnknown)
    (hLookup : lookup.Concerns row.scope row.sessionRef) : lookup.Resumes sha256 row s := by
  obtain ⟨hNamed, hReadable⟩ := hSound.kept row hRow
  have hValid := hReadable hUnknown.provider
  have hRead : lookup.request.follow sha256 [lookup.read] (lookup.request.arrives, s) =
      (.polling row.document, s) := by
    rw [LookupRequest.read_stage hSound.sessions hRow hValid hLookup,
      if_pos (polls_of_startUnknown hUnknown hLookup.supported)]
  refine ⟨?_, ?_⟩
  · unfold LookupRequest.Asks
    rw [hRead]
    exact Option.isNone_iff_eq_none.mpr hUnknown.provider
  · intro reply hAnswer hReply
    generalize hCall : RenewalCall.updateStatus lookup.actor row.authorizationRef row.sessionRef
      reply.facts (some reply.sessionRef) none lookup.write.now = call
    have hNext : RenewalStage.call lookup.actor lookup.write (.updating row.document reply) =
        some call := by
      simp only [RenewalStage.call, hNamed, hSound.sessions.named row hRow, hCall]
    obtain ⟨t, hStep, hMem⟩ : ∃ t,
        renewalStep sha256 call s = (.ok ((row.resumed reply).document, false), t) ∧
          row.resumed reply ∈ t.renewalSessions :=
      hCall ▸ hLookup.resumed hSound.table hRow hValid hUnknown.provider hReply.2
    have hAfter : lookup.after sha256 s = t := by
      calc lookup.after sha256 s
        _ = (lookup.request.follow sha256 [lookup.poll, lookup.write, lookup.fallback]
              (lookup.request.follow sha256 [lookup.read] (lookup.request.arrives, s))).2 := rfl
        _ = (lookup.request.follow sha256 [lookup.write, lookup.fallback]
              (polled row.document lookup.poll.answer, s)).2 := by
            rw [hRead]
            rfl
        _ = (lookup.request.follow sha256 [lookup.fallback]
              (.done (.ok (row.resumed reply).document), t)).2 := by
            rw [hAnswer, polled_of_reply (hNamed ▸ hReply) hUnknown.provider,
              RenewalRequest.follow, RenewalFlight.advance_of_call hNext, hStep]
            rfl
        _ = t := by rw [RenewalRequest.follow_done]
    rw [hAfter]
    exact ⟨row.resumed reply, hMem, isSession_iff.mpr ⟨rfl, rfl, rfl⟩, rfl, rfl, rfl⟩

/-- A session whose reason is another one is answered as it is stored. -/
theorem LookupRequest.stranded (hSound : RenewalsSound s) (hRow : row ∈ s.renewalSessions)
    (hProvider : row.document.providerSessionRef = none)
    (hReason : row.document.reasonCode ≠ some "provider_start_outcome_unknown")
    (hLookup : lookup.Concerns row.scope row.sessionRef) :
    ¬ lookup.Asks sha256 s ∧ lookup.after sha256 s = s := by
  have hRead : lookup.request.follow sha256 [lookup.read] (lookup.request.arrives, s) =
      (.done (.ok row.document), s) := by
    rw [LookupRequest.read_stage hSound.sessions hRow ((hSound.kept row hRow).2 hProvider) hLookup,
      polls_eq_false hProvider hReason, if_neg Bool.false_ne_true]
  refine ⟨?_, ?_⟩
  · unfold LookupRequest.Asks
    rw [hRead]
    exact Bool.false_ne_true
  · calc lookup.after sha256 s
      _ = (lookup.request.follow sha256 [lookup.poll, lookup.write, lookup.fallback]
            (lookup.request.follow sha256 [lookup.read] (lookup.request.arrives, s))).2 := rfl
      _ = s := by rw [hRead, RenewalRequest.follow_done]

/-- A run of requests leaves a stranded session as it is. -/
theorem stranded_run (hSound : RenewalsSound s) (hRow : row ∈ s.renewalSessions)
    (hProvider : row.document.providerSessionRef = none)
    (hReason : row.document.reasonCode ≠ some "provider_start_outcome_unknown")
    {lookups : List LookupRequest}
    (hLookups : ∀ lookup ∈ lookups, lookup.Concerns row.scope row.sessionRef) :
    lookups.foldl (fun s lookup => lookup.after sha256 s) s = s := by
  induction lookups with
  | nil => rfl
  | cons lookup rest ih =>
      rw [List.foldl_cons,
        (LookupRequest.stranded hSound hRow hProvider hReason (hLookups lookup
          List.mem_cons_self)).2]
      exact ih fun other hOther => hLookups other (List.mem_cons_of_mem lookup hOther)

end Lookup

/-- In every reachable store, whatever number of failed lookups a session with
an unknown start has seen, the next request performs the lookup and stores a
valid answer exactly if there was none of them. -/
theorem lookup_resumes_iff (sha256 : String → String) (calls : List RenewalCall)
    (row : RenewalRow) (failed : List LookupRequest) (next : LookupRequest)
    (hFresh : Admitted (renewalStep sha256) RenewalCall.DrawsFresh calls {})
    (hRow : row ∈ (run (renewalStep sha256) calls {}).renewalSessions)
    (hUnknown : row.document.StartUnknown)
    (hFailed : ∀ lookup ∈ failed, lookup.Concerns row.scope row.sessionRef ∧
      lookup.poll.answer.Misses row.authorizationRef)
    (hNext : next.Concerns row.scope row.sessionRef) :
    next.Resumes sha256 row (failed.foldl (fun s lookup => lookup.after sha256 s)
      (run (renewalStep sha256) calls {})) ↔ failed = [] := by
  have hSound := renewalsSound_preserved.run renewalsSound_empty hFresh
  generalize run (renewalStep sha256) calls {} = s at hRow hSound ⊢
  cases failed with
  | nil => exact iff_of_true (LookupRequest.resumes_of_startUnknown hSound hRow hUnknown hNext) rfl
  | cons first rest =>
      refine iff_of_false ?_ (List.cons_ne_nil first rest)
      obtain ⟨hFirst, hMisses⟩ := hFailed first List.mem_cons_self
      obtain ⟨hSound', hMissed⟩ : RenewalsSound (first.after sha256 s) ∧
          row.missed ∈ (first.after sha256 s).renewalSessions :=
        LookupRequest.after_of_misses hSound hRow hUnknown hFirst hMisses
      have hReason : row.missed.document.reasonCode ≠ some "provider_start_outcome_unknown" := by
        simp [RenewalRow.missed]
      have hRest : ∀ lookup ∈ rest, lookup.Concerns row.missed.scope row.missed.sessionRef :=
        fun lookup hLookup => (hFailed lookup (List.mem_cons_of_mem first hLookup)).1
      rw [List.foldl_cons, stranded_run hSound' hMissed hUnknown.provider hReason hRest]
      exact fun hResumes =>
        (LookupRequest.stranded hSound' hMissed hUnknown.provider hReason hNext).1 hResumes.1

section Sample

/-- A start whose outcome is unknown. -/
def unknownStart : List RenewalCall :=
  [.beginSession renewalRequester "wecom-main" "key-1" 0 0 renewalDraw,
    .markUnknown renewalRequester "wecom-main" renewalDraw.text "provider_start_outcome_unknown" 1]

def unknownStartRow : RenewalRow where
  scope := renewalRequester.scope
  authorizationRef := "wecom-main"
  sessionRef := renewalDraw.text
  state := .verifying
  createdAt := 0
  document := { pendingRenewal renewalRequester "wecom-main" renewalDraw.text 0 with
    reasonCode := some "provider_start_outcome_unknown" }

def renewalLookup (answer : ProviderRenewalAnswer) : LookupRequest where
  actor := renewalRequester
  services := renewalServices
  sessionId := renewalDraw
  read := renewalEvent answer
  poll := renewalEvent answer
  write := renewalEvent answer
  fallback := renewalEvent answer

theorem renewalLookup_concerns (answer : ProviderRenewalAnswer) :
    (renewalLookup answer).Concerns unknownStartRow.scope unknownStartRow.sessionRef where
  scope := rfl
  session := rfl
  supported := rfl
  granted := List.mem_cons_of_mem _ List.mem_cons_self
  unexpired := by
    intro event _ expiry hExpiry
    cases hExpiry
  checked := rfl

theorem renewalLookup_misses : ProviderRenewalAnswer.failed.Misses "wecom-main" := by
  intro reply hReply
  cases hReply

theorem lookup_resumes_iff_sample :
    (renewalLookup (renewalReply .waitingUser)).Resumes renewalDigest unknownStartRow
      ([renewalLookup .failed].foldl (fun s lookup => lookup.after renewalDigest s)
        (run (renewalStep renewalDigest) unknownStart {})) ↔ [renewalLookup .failed] = [] := by
  refine lookup_resumes_iff renewalDigest unknownStart unknownStartRow [renewalLookup .failed]
    (renewalLookup (renewalReply .waitingUser)) (by decide +kernel) (by decide +kernel)
    ⟨rfl, rfl, rfl⟩ ?_ (renewalLookup_concerns _)
  intro lookup hLookup
  rw [List.mem_singleton.mp hLookup]
  exact ⟨renewalLookup_concerns .failed, renewalLookup_misses⟩

/-- After one failed lookup the provider, which could now answer, is never
asked again. -/
theorem failed_lookup_strands_session :
    ¬ ∀ (sha256 : String → String) (calls : List RenewalCall) (row : RenewalRow)
      (failed : List LookupRequest) (next : LookupRequest),
      Admitted (renewalStep sha256) RenewalCall.DrawsFresh calls {} →
      row ∈ (run (renewalStep sha256) calls {}).renewalSessions →
      row.document.StartUnknown →
      (∀ lookup ∈ failed, lookup.Concerns row.scope row.sessionRef ∧
        lookup.poll.answer.Misses row.authorizationRef) →
      next.Concerns row.scope row.sessionRef →
      next.Resumes sha256 row (failed.foldl (fun s lookup => lookup.after sha256 s)
        (run (renewalStep sha256) calls {})) := by
  intro h
  have hResumes := h renewalDigest unknownStart unknownStartRow [renewalLookup .failed]
    (renewalLookup (renewalReply .waitingUser)) (by decide +kernel) (by decide +kernel)
    ⟨rfl, rfl, rfl⟩
    (fun lookup hLookup => by
      rw [List.mem_singleton.mp hLookup]
      exact ⟨renewalLookup_concerns .failed, renewalLookup_misses⟩)
    (renewalLookup_concerns _)
  have hAsks := hResumes.1
  revert hAsks
  unfold LookupRequest.Asks
  decide +kernel

end Sample

end CyreneExchange.Integrations
