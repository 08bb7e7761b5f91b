import CyreneExchange.Integrations.Authorization.Renewals

/-! Renewal sessions under any order of calls. A committed call reads, creates
a session, or rewrites one session in both tables; the tables list the same
sessions in the same order. -/
namespace CyreneExchange.Integrations

open Machine Transaction

/-- The bounds the record model puts on reported facts. -/
def ProviderRenewalFacts.valid (facts : ProviderRenewalFacts) : Bool :=
  atMost 2000 facts.authorizationUrl &&
    (match facts.userCode with
      | none => true
      | some code => userCodeShaped code) &&
    atMost 300 facts.qrAttachmentRef && decide (0 ≤ facts.generation)

/-- A new session gets a reference no session has. -/
def RenewalCall.DrawsFresh (s : AuthorizationStore) : RenewalCall → Prop
  | .beginSession _ _ _ _ _ draw => ∀ row ∈ s.renewalSessions, row.sessionRef ≠ draw.text
  | _ => True

/-- What a report writes into an existing session is admitted by its model. -/
def RenewalCall.Fits (s : AuthorizationStore) : RenewalCall → Prop
  | .completeStart principal authorizationRef sessionRef _ facts _ =>
      ∀ row ∈ s.renewalSessions,
        row.isSession principal.scope authorizationRef sessionRef = true → facts.valid = true
  | .updateStatus principal authorizationRef sessionRef facts providerSessionRef reasonCode _ =>
      ∀ row ∈ s.renewalSessions,
        row.isSession principal.scope authorizationRef sessionRef = true →
          facts.valid = true ∧ atMost 300 providerSessionRef = true ∧
            atMost 200 reasonCode = true
  | _ => True

instance (s : AuthorizationStore) : DecidablePred (RenewalCall.DrawsFresh s)
  | .beginSession _ _ _ _ _ draw =>
      inferInstanceAs (Decidable (∀ row ∈ s.renewalSessions, row.sessionRef ≠ draw.text))
  | .completeStart .. | .markUnknown .. | .failStart .. | .updateStatus ..
  | .markStatusUnavailable .. => isTrue trivial

instance (s : AuthorizationStore) : DecidablePred (RenewalCall.Fits s)
  | .completeStart principal authorizationRef sessionRef _ facts _ =>
      inferInstanceAs (Decidable (∀ row ∈ s.renewalSessions,
        row.isSession principal.scope authorizationRef sessionRef = true → facts.valid = true))
  | .updateStatus principal authorizationRef sessionRef facts providerSessionRef reasonCode _ =>
      inferInstanceAs (Decidable (∀ row ∈ s.renewalSessions,
        row.isSession principal.scope authorizationRef sessionRef = true →
          facts.valid = true ∧ atMost 300 providerSessionRef = true ∧
            atMost 200 reasonCode = true))
  | .beginSession .. | .markUnknown .. | .failStart .. | .markStatusUnavailable .. =>
      isTrue trivial

/-- A document that keeps the identity and the provider reference it had. -/
structure RenewalSessionRecord.Succeeds (session session' : RenewalSessionRecord) : Prop where
  sessionRef : session'.sessionRef = session.sessionRef
  provider : ∀ reference, session.providerSessionRef = some reference →
    session'.providerSessionRef = some reference

/-- A start that created a session. -/
structure RenewalCreated (sha256 : String → String) (principal : IntegrationPrincipal)
    (authorizationRef idempotencyKey : String) (moment : Timestamp) (draw : UUID)
    (s : AuthorizationStore) (answer : RenewalSessionRecord × Bool) (t : AuthorizationStore) :
    Prop where
  valid : (pendingRenewal principal authorizationRef draw.text moment).valid = true
  unused : s.renewalRecords.find? (IdempotencyRecord.isKeyed principal.scope idempotencyKey) = none
  answered : answer = (pendingRenewal principal authorizationRef draw.text moment, true)
  sessions : t.renewalSessions = s.renewalSessions ++ [{
    scope := principal.scope
    authorizationRef := authorizationRef
    sessionRef := draw.text
    state := .verifying
    createdAt := moment
    document := pendingRenewal principal authorizationRef draw.text moment }]
  records : t.renewalRecords = s.renewalRecords ++ [{
    scope := principal.scope
    idempotencyKey := idempotencyKey
    requestHash := sha256 (renewalRequestText authorizationRef)
    resourceId := draw.text
    document := pendingRenewal principal authorizationRef draw.text moment }]

/-- What a committed call does to the sessions. -/
inductive RenewalWrite (sha256 : String → String) (call : RenewalCall) (s : AuthorizationStore) :
    RenewalSessionRecord × Bool → AuthorizationStore → Prop where
  | reads {answer : RenewalSessionRecord × Bool} : RenewalWrite sha256 call s answer s
  | creates {principal : IntegrationPrincipal} {authorizationRef idempotencyKey : String}
      {now moment : Timestamp} {draw : UUID} {answer : RenewalSessionRecord × Bool}
      {t : AuthorizationStore}
      (hCall : call = .beginSession principal authorizationRef idempotencyKey now moment draw)
      (hCreated : RenewalCreated sha256 principal authorizationRef idempotencyKey moment draw s
        answer t) : RenewalWrite sha256 call s answer t
  | rewrites {scope : ActorScope} {authorizationRef sessionRef : String} {row : RenewalRow}
      {state : Option RenewalState} {session : RenewalSessionRecord} {t : AuthorizationStore}
      (hRow : row ∈ s.renewalSessions)
      (hSession : row.isSession scope authorizationRef sessionRef = true)
      (hSucceeds : row.document.Succeeds session)
      (hValid : call.Fits s → row.document.valid = true → session.valid = true)
      (hPersist : persistRenewal scope authorizationRef sessionRef state session s =
        .ok ((), t)) :
      RenewalWrite sha256 call s (session, false) t

theorem atMost_of_textWithin {n : Nat} {text : String} (h : textWithin n text = true) :
    atMost n (some text) = true := by
  simp only [textWithin, Bool.and_eq_true] at h
  exact h.2

theorem RenewalSessionRecord.valid_report {session : RenewalSessionRecord}
    {facts : ProviderRenewalFacts} {providerSessionRef reasonCode : Option String}
    (hSession : session.valid = true) (hFacts : facts.valid = true)
    (hProvider : atMost 300 providerSessionRef = true) (hReason : atMost 200 reasonCode = true) :
    (session.report facts providerSessionRef reasonCode).valid = true := by
  simp only [RenewalSessionRecord.valid, ProviderRenewalFacts.valid, Bool.and_eq_true] at *
  obtain ⟨⟨⟨⟨⟨⟨⟨hRef, hAuthorization⟩, _⟩, _⟩, _⟩, _⟩, _⟩, _⟩ := hSession
  obtain ⟨⟨⟨hUrl, hCode⟩, hQr⟩, hGeneration⟩ := hFacts
  exact ⟨⟨⟨⟨⟨⟨⟨hRef, hAuthorization⟩, hProvider⟩, hUrl⟩, hCode⟩, hQr⟩, hGeneration⟩, hReason⟩

/-- A new reason code leaves the rest of the document as valid as it was. -/
theorem RenewalSessionRecord.valid_reason {session : RenewalSessionRecord} {reasonCode : String}
    (hSession : session.valid = true) (hReason : atMost 200 (some reasonCode) = true) :
    ({ session with reasonCode := some reasonCode } : RenewalSessionRecord).valid = true := by
  simp only [RenewalSessionRecord.valid, Bool.and_eq_true] at *
  exact ⟨hSession.1, hReason⟩

theorem RenewalSessionRecord.valid_rejected {session : RenewalSessionRecord}
    (hSession : session.valid = true) : session.rejected.valid = true := by
  simp only [RenewalSessionRecord.valid, Bool.and_eq_true] at *
  obtain ⟨⟨⟨⟨⟨⟨⟨hRef, hAuthorization⟩, hProvider⟩, _⟩, _⟩, _⟩, hGeneration⟩, _⟩ := hSession
  exact ⟨⟨⟨⟨⟨⟨⟨hRef, hAuthorization⟩, hProvider⟩, rfl⟩, rfl⟩, rfl⟩, hGeneration⟩, rfl⟩

section Writes

variable {sha256 : String → String} {s t : AuthorizationStore} {call : RenewalCall}
  {answer : RenewalSessionRecord × Bool} {session : RenewalSessionRecord}

theorem readRenewal_eq_ok {document : RenewalSessionRecord}
    (h : readRenewal document s = .ok (session, t)) :
    document.valid = true ∧ session = document ∧ t = s := by
  unfold readRenewal at h
  obtain ⟨_, _, hRequire, hPure⟩ := bind_eq_ok.mp h
  obtain ⟨hValid, rfl⟩ := require_eq_ok.mp hRequire
  cases hPure
  exact ⟨hValid, rfl, rfl⟩

theorem readRenewal_of_valid {document : RenewalSessionRecord} (h : document.valid = true) :
    readRenewal document s = .ok (document, s) :=
  bind_of_ok (require_of_true h _ s)

theorem selectRenewal_eq_ok {scope : ActorScope} {authorizationRef sessionRef missing : String}
    (h : selectRenewal scope authorizationRef sessionRef missing s = .ok (session, t)) :
    ∃ row ∈ s.renewalSessions, row.isSession scope authorizationRef sessionRef = true ∧
      row.document.valid = true ∧ session = row.document ∧ t = s := by
  unfold selectRenewal at h
  rw [fetch_bind] at h
  cases hFind : s.renewalSessions.find?
      (RenewalRow.isSession scope authorizationRef sessionRef) with
  | none =>
      rw [hFind] at h
      cases h
  | some row =>
      rw [hFind] at h
      obtain ⟨hValid, rfl, rfl⟩ := readRenewal_eq_ok h
      exact ⟨row, List.mem_of_find?_eq_some hFind, List.find?_some hFind, hValid, rfl, rfl⟩

/-- An answered start either replays a record or creates a session. -/
theorem begin_eq_ok {principal : IntegrationPrincipal} {authorizationRef idempotencyKey : String}
    {now moment : Timestamp} {draw : UUID}
    (h : beginRenewalSession sha256 principal authorizationRef idempotencyKey now moment draw s =
      .ok (answer, t)) :
    textWithin 300 authorizationRef = true ∧ textWithin 200 idempotencyKey = true ∧
      ((∃ record, s.renewalRecords.find?
            (IdempotencyRecord.isKeyed principal.scope idempotencyKey) = some record ∧
          record.requestHash = sha256 (renewalRequestText authorizationRef) ∧
          answer = (record.document, false) ∧ t = s) ∨
        RenewalCreated sha256 principal authorizationRef idempotencyKey moment draw s
          answer t) := by
  unfold beginRenewalSession at h
  obtain ⟨_, _, hGrant, hBody⟩ := bind_eq_ok.mp h
  obtain rfl := requireOperation_eq_ok hGrant
  obtain ⟨_, _, hRequireRef, hBody⟩ := bind_eq_ok.mp hBody
  obtain ⟨hRef, rfl⟩ := require_eq_ok.mp hRequireRef
  obtain ⟨_, _, hRequireKey, hBody⟩ := bind_eq_ok.mp hBody
  obtain ⟨hKey, rfl⟩ := require_eq_ok.mp hRequireKey
  obtain ⟨previous, _, hLookup, hBody⟩ := bind_eq_ok.mp hBody
  obtain ⟨hFind, hHash, rfl⟩ := idempotencyLookup_eq_ok hLookup
  refine ⟨hRef, hKey, ?_⟩
  cases previous with
  | some record =>
      left
      obtain ⟨_, _, hRead, hPure⟩ := bind_eq_ok.mp hBody
      obtain ⟨_, rfl, rfl⟩ := readRenewal_eq_ok hRead
      cases hPure
      exact ⟨record, hFind.symm, hHash record rfl, rfl, rfl⟩
  | none =>
      right
      obtain ⟨_, _, hRequireValid, hBody⟩ := bind_eq_ok.mp hBody
      obtain ⟨hValid, rfl⟩ := require_eq_ok.mp hRequireValid
      rw [fetch_bind] at hBody
      obtain ⟨_, _, hRequireNew, hBody⟩ := bind_eq_ok.mp hBody
      obtain ⟨_, rfl⟩ := require_eq_ok.mp hRequireNew
      rw [store_bind] at hBody
      cases hBody
      exact ⟨hValid, hFind.symm, rfl, rfl, rfl⟩

/-- A body that ends by rewriting the session it selected. -/
theorem rewrites_of_persist {scope : ActorScope} {authorizationRef sessionRef : String}
    {row : RenewalRow} {state : Option RenewalState} {updated : RenewalSessionRecord}
    (h : (do
      persistRenewal scope authorizationRef sessionRef state updated
      pure updated : AuthorizationTransaction RenewalSessionRecord) s = .ok (session, t))
    (hRow : row ∈ s.renewalSessions)
    (hSession : row.isSession scope authorizationRef sessionRef = true)
    (hSucceeds : row.document.Succeeds updated)
    (hValid : call.Fits s → row.document.valid = true → updated.valid = true) :
    RenewalWrite sha256 call s (session, false) t := by
  obtain ⟨_, _, hPersist, hPure⟩ := bind_eq_ok.mp h
  cases hPure
  exact .rewrites hRow hSession hSucceeds hValid hPersist

theorem conflictsWith_eq_false {stored : Option String} {value : String}
    (h : conflictsWith stored value = false) : stored = none ∨ stored = some value := by
  cases stored with
  | none => exact Or.inl rfl
  | some text =>
      right
      simpa [conflictsWith] using h

theorem completeStart_writes {principal : IntegrationPrincipal}
    {authorizationRef sessionRef providerSessionRef : String} {facts : ProviderRenewalFacts}
    {now : Timestamp}
    (h : completeRenewalSessionStart principal authorizationRef sessionRef providerSessionRef facts
      now s = .ok (session, t)) :
    RenewalWrite sha256
      (.completeStart principal authorizationRef sessionRef providerSessionRef facts now) s
      (session, false) t := by
  unfold completeRenewalSessionStart at h
  obtain ⟨_, _, hGrant, hBody⟩ := bind_eq_ok.mp h
  obtain rfl := requireOperation_eq_ok hGrant
  obtain ⟨_, _, hRequireRef, hNext⟩ := bind_eq_ok.mp hBody
  obtain ⟨hRef, rfl⟩ := require_eq_ok.mp hRequireRef
  obtain ⟨current, _, hSelect, hRest⟩ := bind_eq_ok.mp hNext
  obtain ⟨row, hRow, hSession, _, rfl, rfl⟩ := selectRenewal_eq_ok hSelect
  obtain ⟨_, _, hRequireSame, hUpdate⟩ := bind_eq_ok.mp hRest
  obtain ⟨hSame, rfl⟩ := require_eq_ok.mp hRequireSame
  refine rewrites_of_persist hUpdate hRow hSession ⟨rfl, ?_⟩ ?_
  · intro reference hReference
    rcases conflictsWith_eq_false (by simpa using hSame) with hNone | hSome
    · rw [hNone] at hReference
      cases hReference
    · rw [hReference] at hSome
      exact hSome.symm
  · intro hFits hValid
    have hFacts := hFits row hRow hSession
    exact RenewalSessionRecord.valid_report hValid hFacts (atMost_of_textWithin hRef) rfl

theorem markUnknown_writes {principal : IntegrationPrincipal}
    {authorizationRef sessionRef reasonCode : String} {now : Timestamp}
    (h : markRenewalStartUnknown principal authorizationRef sessionRef reasonCode now s =
      .ok (session, t)) :
    RenewalWrite sha256 (.markUnknown principal authorizationRef sessionRef reasonCode now) s
      (session, false) t := by
  unfold markRenewalStartUnknown at h
  obtain ⟨_, _, hGrant, hBody⟩ := bind_eq_ok.mp h
  obtain rfl := requireOperation_eq_ok hGrant
  obtain ⟨_, _, hRequireReason, hNext⟩ := bind_eq_ok.mp hBody
  obtain ⟨hReason, rfl⟩ := require_eq_ok.mp hRequireReason
  obtain ⟨current, _, hSelect, hRest⟩ := bind_eq_ok.mp hNext
  obtain ⟨row, hRow, hSession, _, rfl, rfl⟩ := selectRenewal_eq_ok hSelect
  split at hRest
  · cases hRest
    exact .reads
  · exact rewrites_of_persist hRest hRow hSession ⟨rfl, fun _ hReference => hReference⟩
      (fun _ hValid => RenewalSessionRecord.valid_reason hValid (atMost_of_textWithin hReason))

theorem failStart_writes {principal : IntegrationPrincipal}
    {authorizationRef sessionRef : String} {now : Timestamp}
    (h : failRenewalSessionStart principal authorizationRef sessionRef now s = .ok (session, t)) :
    RenewalWrite sha256 (.failStart principal authorizationRef sessionRef now) s
      (session, false) t := by
  unfold failRenewalSessionStart at h
  obtain ⟨_, _, hGrant, hBody⟩ := bind_eq_ok.mp h
  obtain rfl := requireOperation_eq_ok hGrant
  obtain ⟨current, _, hSelect, hNext⟩ := bind_eq_ok.mp hBody
  obtain ⟨row, hRow, hSession, _, rfl, rfl⟩ := selectRenewal_eq_ok hSelect
  split at hNext
  · cases hNext
    exact .reads
  · split at hNext
    · cases hNext
      exact .reads
    · exact rewrites_of_persist hNext hRow hSession ⟨rfl, fun _ hReference => hReference⟩
        (fun _ hValid => RenewalSessionRecord.valid_rejected hValid)

theorem updateStatus_writes {principal : IntegrationPrincipal}
    {authorizationRef sessionRef : String} {facts : ProviderRenewalFacts}
    {providerSessionRef reasonCode : Option String} {now : Timestamp}
    (h : updateRenewalSessionStatus principal authorizationRef sessionRef facts providerSessionRef
      reasonCode now s = .ok (session, t)) :
    RenewalWrite sha256
      (.updateStatus principal authorizationRef sessionRef facts providerSessionRef reasonCode now)
      s (session, false) t := by
  unfold updateRenewalSessionStatus at h
  obtain ⟨_, _, hGrant, hBody⟩ := bind_eq_ok.mp h
  obtain rfl := requireOperation_eq_ok hGrant
  obtain ⟨current, _, hSelect, hNext⟩ := bind_eq_ok.mp hBody
  obtain ⟨row, hRow, hSession, _, rfl, rfl⟩ := selectRenewal_eq_ok hSelect
  obtain ⟨_, _, hRequireKnown, hRest⟩ := bind_eq_ok.mp hNext
  obtain ⟨_, rfl⟩ := require_eq_ok.mp hRequireKnown
  obtain ⟨_, _, hRequireSame, hUpdate⟩ := bind_eq_ok.mp hRest
  obtain ⟨hSame, rfl⟩ := require_eq_ok.mp hRequireSame
  refine rewrites_of_persist hUpdate hRow hSession ⟨rfl, ?_⟩ ?_
  · intro reference hReference
    simp only [RenewalSessionRecord.report]
    split
    · cases providerSessionRef with
      | none => rename_i hTruthy; cases hTruthy
      | some reported =>
          rcases conflictsWith_eq_false (by simpa using hSame) with hNone | hSome
          · rw [hNone] at hReference
            cases hReference
          · rw [← hReference, hSome]
    · exact hReference
  · intro hFits hValid
    obtain ⟨hFacts, hProvider, hReason⟩ := hFits row hRow hSession
    refine RenewalSessionRecord.valid_report hValid hFacts ?_ hReason
    split
    · exact hProvider
    · simp only [RenewalSessionRecord.valid, Bool.and_eq_true] at hValid
      exact hValid.1.1.1.1.1.2

theorem markStatusUnavailable_writes {principal : IntegrationPrincipal}
    {authorizationRef sessionRef reasonCode : String} {now : Timestamp}
    (h : markRenewalStatusUnavailable principal authorizationRef sessionRef reasonCode now s =
      .ok (session, t)) :
    RenewalWrite sha256
      (.markStatusUnavailable principal authorizationRef sessionRef reasonCode now) s
      (session, false) t := by
  unfold markRenewalStatusUnavailable at h
  obtain ⟨_, _, hGrant, hBody⟩ := bind_eq_ok.mp h
  obtain rfl := requireOperation_eq_ok hGrant
  obtain ⟨_, _, hRequireReason, hNext⟩ := bind_eq_ok.mp hBody
  obtain ⟨hReason, rfl⟩ := require_eq_ok.mp hRequireReason
  obtain ⟨current, _, hSelect, hRest⟩ := bind_eq_ok.mp hNext
  obtain ⟨row, hRow, hSession, _, rfl, rfl⟩ := selectRenewal_eq_ok hSelect
  exact rewrites_of_persist hRest hRow hSession ⟨rfl, fun _ hReference => hReference⟩
    (fun _ hValid => RenewalSessionRecord.valid_reason hValid (atMost_of_textWithin hReason))

/-- The one description of a committed call the run lemmas rest on. -/
theorem renewalCall_writes (h : call.body sha256 s = .ok (answer, t)) :
    RenewalWrite sha256 call s answer t := by
  cases call with
  | beginSession principal authorizationRef idempotencyKey now moment draw =>
      obtain ⟨_, _, ⟨_, _, _, _, rfl⟩ | hCreated⟩ := begin_eq_ok h
      · exact .reads
      · exact .creates rfl hCreated
  | completeStart principal authorizationRef sessionRef providerSessionRef facts now =>
      obtain ⟨_, _, hBody, hPure⟩ := bind_eq_ok.mp h
      cases hPure
      exact completeStart_writes hBody
  | markUnknown principal authorizationRef sessionRef reasonCode now =>
      obtain ⟨_, _, hBody, hPure⟩ := bind_eq_ok.mp h
      cases hPure
      exact markUnknown_writes hBody
  | failStart principal authorizationRef sessionRef now =>
      obtain ⟨_, _, hBody, hPure⟩ := bind_eq_ok.mp h
      cases hPure
      exact failStart_writes hBody
  | updateStatus principal authorizationRef sessionRef facts providerSessionRef reasonCode now =>
      obtain ⟨_, _, hBody, hPure⟩ := bind_eq_ok.mp h
      cases hPure
      exact updateStatus_writes hBody
  | markStatusUnavailable principal authorizationRef sessionRef reasonCode now =>
      obtain ⟨_, _, hBody, hPure⟩ := bind_eq_ok.mp h
      cases hPure
      exact markStatusUnavailable_writes hBody

end Writes

/-- What both tables say about a session. -/
def RenewalRow.entry (row : RenewalRow) : ActorScope × String × RenewalSessionRecord :=
  (row.scope, row.sessionRef, row.document)

def IdempotencyRecord.entry {Document : Type} (record : IdempotencyRecord Document) :
    ActorScope × String × Document :=
  (record.scope, record.resourceId, record.document)

def IdempotencyRecord.address {Document : Type} (record : IdempotencyRecord Document) :
    ActorScope × String :=
  (record.scope, record.idempotencyKey)

structure RenewalInv (s : AuthorizationStore) : Prop where
  refsUnique : Table.KeysUnique RenewalRow.sessionRef s.renewalSessions
  addressesUnique : Table.KeysUnique IdempotencyRecord.address s.renewalRecords
  mirrored : s.renewalRecords.map IdempotencyRecord.entry =
    s.renewalSessions.map RenewalRow.entry
  named : ∀ row ∈ s.renewalSessions, row.document.sessionRef = row.sessionRef

/-- Every stored session can be read back. -/
def RenewalsReadable (s : AuthorizationStore) : Prop :=
  ∀ row ∈ s.renewalSessions, row.document.valid = true

/-- Later states keep every session, its references and every record. -/
structure RenewalsContinue (s t : AuthorizationStore) : Prop where
  sessions : ∀ row ∈ s.renewalSessions, ∃ row' ∈ t.renewalSessions,
    row'.isSession row.scope row.authorizationRef row.sessionRef = true ∧
      row.document.Succeeds row'.document
  records : ∀ record ∈ s.renewalRecords, ∃ record' ∈ t.renewalRecords,
    record'.address = record.address ∧ record'.requestHash = record.requestHash ∧
      record'.resourceId = record.resourceId

section Runs

variable {sha256 : String → String} {s t u : AuthorizationStore} {call : RenewalCall}
  {answer : RenewalSessionRecord × Bool}

theorem RenewalSessionRecord.Succeeds.refl (session : RenewalSessionRecord) :
    session.Succeeds session :=
  ⟨rfl, fun _ h => h⟩

theorem isSession_iff {row : RenewalRow} {scope : ActorScope}
    {authorizationRef sessionRef : String} :
    row.isSession scope authorizationRef sessionRef = true ↔
      row.scope = scope ∧ row.authorizationRef = authorizationRef ∧
        row.sessionRef = sessionRef := by
  simp [RenewalRow.isSession, and_assoc]

theorem isKeyed_iff {Document : Type} {record : IdempotencyRecord Document} {scope : ActorScope}
    {key : String} : record.isKeyed scope key = true ↔ record.address = (scope, key) := by
  simp [IdempotencyRecord.isKeyed, IdempotencyRecord.address]

theorem RenewalsContinue.refl (s : AuthorizationStore) : RenewalsContinue s s where
  sessions row hRow := ⟨row, hRow, isSession_iff.mpr ⟨rfl, rfl, rfl⟩, .refl row.document⟩
  records record hRecord := ⟨record, hRecord, rfl, rfl, rfl⟩

theorem RenewalsContinue.trans (h : RenewalsContinue s t) (h' : RenewalsContinue t u) :
    RenewalsContinue s u where
  sessions row hRow := by
    obtain ⟨row', hRow', hSame, hSucceeds⟩ := h.sessions row hRow
    obtain ⟨row'', hRow'', hSame', hSucceeds'⟩ := h'.sessions row' hRow'
    obtain ⟨hScope, hAuthorization, hRef⟩ := isSession_iff.mp hSame
    rw [hScope, hAuthorization, hRef] at hSame'
    refine ⟨row'', hRow'', hSame', hSucceeds'.sessionRef.trans hSucceeds.sessionRef, ?_⟩
    intro reference hReference
    exact hSucceeds'.provider reference (hSucceeds.provider reference hReference)
  records record hRecord := by
    obtain ⟨record', hRecord', hAddress, hHash, hResource⟩ := h.records record hRecord
    obtain ⟨record'', hRecord'', hAddress', hHash', hResource'⟩ := h'.records record' hRecord'
    exact ⟨record'', hRecord'', hAddress'.trans hAddress, hHash'.trans hHash,
      hResource'.trans hResource⟩

theorem renewalInv_empty : RenewalInv {} where
  refsUnique := List.nodup_nil
  addressesUnique := List.nodup_nil
  mirrored := rfl
  named := by simp

theorem renewalInv_created {principal : IntegrationPrincipal}
    {authorizationRef idempotencyKey : String} {moment : Timestamp} {draw : UUID}
    (hInv : RenewalInv s) (hFresh : ∀ row ∈ s.renewalSessions, row.sessionRef ≠ draw.text)
    (h : RenewalCreated sha256 principal authorizationRef idempotencyKey moment draw s answer t) :
    RenewalInv t := by
  constructor
  · rw [h.sessions]
    exact hInv.refsUnique.append_singleton hFresh
  · rw [h.records]
    refine hInv.addressesUnique.append_singleton ?_
    intro record hRecord hAddress
    exact absurd (isKeyed_iff.mpr hAddress) (List.find?_eq_none.mp h.unused record hRecord)
  · rw [h.sessions, h.records, List.map_append, List.map_append, hInv.mirrored]
    rfl
  · rw [h.sessions]
    intro row hRow
    rcases List.mem_append.mp hRow with hRow | hRow
    · exact hInv.named row hRow
    · rw [List.mem_singleton.mp hRow]
      rfl

theorem renewals_readable_created {principal : IntegrationPrincipal}
    {authorizationRef idempotencyKey : String} {moment : Timestamp} {draw : UUID}
    (hReadable : RenewalsReadable s)
    (h : RenewalCreated sha256 principal authorizationRef idempotencyKey moment draw s answer t) :
    RenewalsReadable t := by
  unfold RenewalsReadable
  rw [h.sessions]
  intro row hRow
  rcases List.mem_append.mp hRow with hRow | hRow
  · exact hReadable row hRow
  · rw [List.mem_singleton.mp hRow]
    exact h.valid

theorem renewals_continue_created {principal : IntegrationPrincipal}
    {authorizationRef idempotencyKey : String} {moment : Timestamp} {draw : UUID}
    (h : RenewalCreated sha256 principal authorizationRef idempotencyKey moment draw s answer t) :
    RenewalsContinue s t where
  sessions row hRow := by
    refine ⟨row, ?_, isSession_iff.mpr ⟨rfl, rfl, rfl⟩, .refl row.document⟩
    rw [h.sessions]
    exact List.mem_append_left _ hRow
  records record hRecord := by
    refine ⟨record, ?_, rfl, rfl, rfl⟩
    rw [h.records]
    exact List.mem_append_left _ hRecord

/-- References are unique, so the two statements rewrite the same session. -/
theorem renewalInv_rewritten {scope : ActorScope} {authorizationRef sessionRef : String}
    {row : RenewalRow} {state : Option RenewalState} {session : RenewalSessionRecord}
    (hInv : RenewalInv s) (hRow : row ∈ s.renewalSessions)
    (hSession : row.isSession scope authorizationRef sessionRef = true)
    (hSucceeds : row.document.Succeeds session)
    (h : persistRenewal scope authorizationRef sessionRef state session s = .ok ((), t)) :
    RenewalInv t := by
  obtain ⟨_, _, hRef⟩ := isSession_iff.mp hSession
  have hOnly : ∀ row' ∈ s.renewalSessions,
      row'.isSession scope authorizationRef sessionRef = true → row' = row := by
    intro row' hRow' hSession'
    exact hInv.refsUnique.eq hRow' hRow ((isSession_iff.mp hSession').2.2.trans hRef.symm)
  have hSame : ∀ row' ∈ s.renewalSessions,
      (row'.entry.1 == scope && row'.entry.2.1 == sessionRef) =
        row'.isSession scope authorizationRef sessionRef := by
    intro row' hRow'
    rw [Bool.eq_iff_iff]
    simp only [RenewalRow.entry, Bool.and_eq_true, beq_iff_eq]
    constructor
    · rintro ⟨_, hRef'⟩
      rw [hInv.refsUnique.eq hRow' hRow (hRef'.trans hRef.symm)]
      exact hSession
    · intro hSession'
      obtain ⟨hScope', _, hRef'⟩ := isSession_iff.mp hSession'
      exact ⟨hScope', hRef'⟩
  cases h
  constructor
  · exact hInv.refsUnique.updateWhere fun _ _ _ => rfl
  · exact hInv.addressesUnique.updateWhere fun _ _ _ => rfl
  · have hRecords : (Table.updateWhere (IdempotencyRecord.isAbout scope sessionRef)
        (fun record => { record with document := session }) s.renewalRecords).map
          IdempotencyRecord.entry =
        Table.updateWhere (fun entry => entry.1 == scope && entry.2.1 == sessionRef)
          (fun entry => (entry.1, entry.2.1, session))
          (s.renewalRecords.map IdempotencyRecord.entry) :=
      Table.project_updateWhere (fun _ _ => rfl) (fun _ _ _ => rfl)
    have hSessions : (Table.updateWhere (RenewalRow.isSession scope authorizationRef sessionRef)
        (fun row => { row with state := state.getD row.state, document := session })
        s.renewalSessions).map RenewalRow.entry =
        Table.updateWhere (fun entry => entry.1 == scope && entry.2.1 == sessionRef)
          (fun entry => (entry.1, entry.2.1, session)) (s.renewalSessions.map RenewalRow.entry) :=
      Table.project_updateWhere hSame (fun _ _ _ => rfl)
    rw [hInv.mirrored] at hRecords
    exact hRecords.trans hSessions.symm
  · intro row' hRow'
    obtain ⟨old, hOld, ⟨hSelected, rfl⟩ | ⟨_, rfl⟩⟩ := Table.mem_updateWhere.mp hRow'
    · rw [hOnly old hOld hSelected]
      exact hSucceeds.sessionRef.trans (hInv.named row hRow)
    · exact hInv.named _ hOld

theorem renewals_readable_rewritten {scope : ActorScope} {authorizationRef sessionRef : String}
    {state : Option RenewalState} {session : RenewalSessionRecord}
    (hReadable : RenewalsReadable s) (hValid : session.valid = true)
    (h : persistRenewal scope authorizationRef sessionRef state session s = .ok ((), t)) :
    RenewalsReadable t := by
  cases h
  intro row hRow
  obtain ⟨old, hOld, ⟨_, rfl⟩ | ⟨_, rfl⟩⟩ := Table.mem_updateWhere.mp hRow
  · exact hValid
  · exact hReadable _ hOld

theorem renewals_continue_rewritten {scope : ActorScope} {authorizationRef sessionRef : String}
    {row : RenewalRow} {state : Option RenewalState} {session : RenewalSessionRecord}
    (hInv : RenewalInv s) (hRow : row ∈ s.renewalSessions)
    (hSession : row.isSession scope authorizationRef sessionRef = true)
    (hSucceeds : row.document.Succeeds session)
    (h : persistRenewal scope authorizationRef sessionRef state session s = .ok ((), t)) :
    RenewalsContinue s t := by
  obtain ⟨_, _, hRef⟩ := isSession_iff.mp hSession
  cases h
  constructor
  · intro row' hRow'
    cases hSelected : row'.isSession scope authorizationRef sessionRef with
    | false =>
        exact ⟨row', Table.mem_updateWhere_of_neg hRow' hSelected,
          isSession_iff.mpr ⟨rfl, rfl, rfl⟩, .refl _⟩
    | true =>
        refine ⟨_, Table.mem_updateWhere_of_pos hRow' hSelected,
          isSession_iff.mpr ⟨rfl, rfl, rfl⟩, ?_⟩
        rw [hInv.refsUnique.eq hRow' hRow ((isSession_iff.mp hSelected).2.2.trans hRef.symm)]
        exact hSucceeds
  · intro record hRecord
    cases hSelected : record.isAbout scope sessionRef with
    | false => exact ⟨record, Table.mem_updateWhere_of_neg hRecord hSelected, rfl, rfl, rfl⟩
    | true => exact ⟨_, Table.mem_updateWhere_of_pos hRecord hSelected, rfl, rfl, rfl⟩

/-- One call keeps the invariant and every session. -/
theorem renewalStep_sound (hInv : RenewalInv s) (hFresh : call.DrawsFresh s) :
    RenewalInv (renewalStep sha256 call s).2 ∧
      RenewalsContinue s (renewalStep sha256 call s).2 := by
  rcases commit_cases (call.body sha256) s with ⟨answer, t, hBody, hCommit⟩ | ⟨e, _, hCommit⟩
  · rw [renewalStep, hCommit]
    cases renewalCall_writes hBody with
    | reads => exact ⟨hInv, .refl s⟩
    | creates hCall hCreated =>
        rw [hCall] at hFresh
        exact ⟨renewalInv_created hInv hFresh hCreated, renewals_continue_created hCreated⟩
    | rewrites hRow hSession hSucceeds _ hPersist =>
        exact ⟨renewalInv_rewritten hInv hRow hSession hSucceeds hPersist,
          renewals_continue_rewritten hInv hRow hSession hSucceeds hPersist⟩
  · rw [renewalStep, hCommit]
    exact ⟨hInv, .refl s⟩

theorem renewals_preserved :
    Preserves (renewalStep sha256) RenewalCall.DrawsFresh RenewalInv :=
  fun _ _ hInv hFresh => (renewalStep_sound hInv hFresh).1

/-- A call whose report fits leaves nothing unreadable behind. -/
theorem renewals_readable_preserved :
    Preserves (renewalStep sha256) RenewalCall.Fits RenewalsReadable := by
  intro s call hReadable hFits
  rcases commit_cases (call.body sha256) s with ⟨answer, t, hBody, hCommit⟩ | ⟨e, _, hCommit⟩
  · rw [renewalStep, hCommit]
    cases renewalCall_writes hBody with
    | reads => exact hReadable
    | creates _ hCreated => exact renewals_readable_created hReadable hCreated
    | rewrites hRow _ _ hValid hPersist =>
        exact renewals_readable_rewritten hReadable (hValid hFits (hReadable _ hRow)) hPersist
  · rw [renewalStep, hCommit]
    exact hReadable

theorem RenewalInv.row_of_record (hInv : RenewalInv s)
    {record : IdempotencyRecord RenewalSessionRecord} (hRecord : record ∈ s.renewalRecords) :
    ∃ row ∈ s.renewalSessions, row.scope = record.scope ∧ row.sessionRef = record.resourceId ∧
      row.document = record.document := by
  have hEntry : record.entry ∈ s.renewalSessions.map RenewalRow.entry := by
    rw [← hInv.mirrored]
    exact List.mem_map_of_mem hRecord
  obtain ⟨row, hRow, hEntry⟩ := List.mem_map.mp hEntry
  obtain ⟨hScope, hRefDocument⟩ := Prod.mk.inj hEntry
  obtain ⟨hRef, hDocument⟩ := Prod.mk.inj hRefDocument
  exact ⟨row, hRow, hScope, hRef, hDocument⟩

/-- An answered start is on record. -/
theorem begin_recorded {principal : IntegrationPrincipal}
    {authorizationRef idempotencyKey : String} {now moment : Timestamp} {draw : UUID}
    (hInv : RenewalInv s)
    (h : beginRenewalSession sha256 principal authorizationRef idempotencyKey now moment draw s =
      .ok (answer, t)) :
    ∃ record ∈ t.renewalRecords, record.address = (principal.scope, idempotencyKey) ∧
      record.requestHash = sha256 (renewalRequestText authorizationRef) ∧
      record.resourceId = answer.1.sessionRef := by
  obtain ⟨_, _, ⟨record, hFind, hHash, rfl, rfl⟩ | hCreated⟩ := begin_eq_ok h
  · have hRecord := List.mem_of_find?_eq_some hFind
    refine ⟨record, hRecord, isKeyed_iff.mp (List.find?_some hFind), hHash, ?_⟩
    obtain ⟨row, hRow, _, hRef, hDocument⟩ := hInv.row_of_record hRecord
    rw [← hRef, ← hDocument]
    exact (hInv.named row hRow).symm
  · refine ⟨_, by rw [hCreated.records]; exact List.mem_append_right _ List.mem_cons_self, rfl,
      rfl, ?_⟩
    rw [hCreated.answered]
    rfl

/-- A recorded start is replayed with the document its session has now. -/
theorem begin_replays {principal : IntegrationPrincipal}
    {authorizationRef idempotencyKey : String} {now moment : Timestamp} {draw : UUID}
    {record : IdempotencyRecord RenewalSessionRecord} (hInv : RenewalInv s)
    (hGrant : requireOperation principal "accountBeginRenewalSession" now s = .ok ((), s))
    (hRef : textWithin 300 authorizationRef = true) (hKey : textWithin 200 idempotencyKey = true)
    (hRecord : record ∈ s.renewalRecords)
    (hAddress : record.address = (principal.scope, idempotencyKey))
    (hHash : record.requestHash = sha256 (renewalRequestText authorizationRef))
    (hValid : record.document.valid = true) :
    beginRenewalSession sha256 principal authorizationRef idempotencyKey now moment draw s =
      .ok ((record.document, false), s) := by
  have hFind : s.renewalRecords.find?
      (IdempotencyRecord.isKeyed principal.scope idempotencyKey) = some record := by
    have hKeyed : IdempotencyRecord.isKeyed principal.scope idempotencyKey =
        fun r : IdempotencyRecord RenewalSessionRecord =>
          decide (r.address = (principal.scope, idempotencyKey)) := by
      funext r
      rw [Bool.eq_iff_iff, isKeyed_iff, decide_eq_true_iff]
    rw [hKeyed]
    exact (hInv.addressesUnique.find_eq_some _).mpr ⟨hRecord, hAddress⟩
  have hLookup : idempotencyLookup AuthorizationStore.renewalRecords principal.scope
      idempotencyKey (sha256 (renewalRequestText authorizationRef)) s = .ok (some record, s) := by
    unfold idempotencyLookup
    rw [fetch_bind, hFind]
    exact bind_of_ok (require_of_true (by simpa using hHash) _ s)
  unfold beginRenewalSession
  rw [bind_of_ok hGrant, bind_of_ok (require_of_true hRef _ s),
    bind_of_ok (require_of_true hKey _ s), bind_of_ok hLookup]
  exact bind_of_ok (readRenewal_of_valid hValid)

end Runs

/-- Every session has one idempotency record, and its document is the row's. -/
def RenewalsMirrored (s : AuthorizationStore) : Prop :=
  ∀ row ∈ s.renewalSessions,
    (s.renewalRecords.filter (IdempotencyRecord.isAbout row.scope row.sessionRef)).map
      IdempotencyRecord.document = [row.document]

/-- A provider reference a session has in `s` it still has in `t`. -/
def ProviderRefsKept (s t : AuthorizationStore) : Prop :=
  ∀ row ∈ s.renewalSessions, ∀ reference, row.document.providerSessionRef = some reference →
    ∃ row' ∈ t.renewalSessions,
      row'.isSession row.scope row.authorizationRef row.sessionRef = true ∧
        row'.document.providerSessionRef = some reference

/-- A start that was answered is answered again, without a write, with the
document its session has now. -/
def ReplaysCurrent (sha256 : String → String) (s : AuthorizationStore) :
    Event AuthorizationStore RenewalCall (Except AuthorizationError (RenewalSessionRecord × Bool)) →
      Prop
  | ⟨_, .beginSession principal authorizationRef idempotencyKey _ _ _, .ok (session, _), _⟩ =>
      ∃ row ∈ s.renewalSessions, row.scope = principal.scope ∧
        row.sessionRef = session.sessionRef ∧
        ∀ (again : IntegrationPrincipal) (now moment : Timestamp) (draw : UUID),
          again.scope = principal.scope →
          requireOperation again "accountBeginRenewalSession" now s = .ok ((), s) →
          renewalStep sha256
            (.beginSession again authorizationRef idempotencyKey now moment draw) s =
              (.ok (row.document, false), s)
  | _ => True

section Claim

variable {sha256 : String → String} {s t : AuthorizationStore}

/-- In tables with the same entries and unique references every row has one
record. -/
theorem RenewalInv.renewalsMirrored (hInv : RenewalInv s) : RenewalsMirrored s := by
  intro row hRow
  let about := fun entry : ActorScope × String × RenewalSessionRecord =>
    entry.1 == row.scope && entry.2.1 == row.sessionRef
  have hSelf : about row.entry = true := by simp [about, RenewalRow.entry]
  have hOne : s.renewalSessions.filter (about ∘ RenewalRow.entry) = [row] := by
    refine hInv.refsUnique.filter_eq_singleton hRow hSelf ?_
    intro row' _ hSelected
    have hPair : row'.scope = row.scope ∧ row'.sessionRef = row.sessionRef := by
      simpa [about, RenewalRow.entry] using hSelected
    exact hPair.2
  have hEntries : (s.renewalRecords.filter (about ∘ IdempotencyRecord.entry)).map
      IdempotencyRecord.entry = [row.entry] := by
    rw [← List.filter_map, hInv.mirrored, List.filter_map, hOne]
    rfl
  calc (s.renewalRecords.filter (IdempotencyRecord.isAbout row.scope row.sessionRef)).map
        IdempotencyRecord.document
      = ((s.renewalRecords.filter (about ∘ IdempotencyRecord.entry)).map
          IdempotencyRecord.entry).map fun entry => entry.2.2 := by rw [List.map_map]; rfl
    _ = [row.document] := by rw [hEntries]; rfl

theorem RenewalsContinue.providerRefsKept (h : RenewalsContinue s t) : ProviderRefsKept s t := by
  intro row hRow reference hReference
  obtain ⟨row', hRow', hSame, hSucceeds⟩ := h.sessions row hRow
  exact ⟨row', hRow', hSame, hSucceeds.provider reference hReference⟩

/-- An answered start is replayed from every later readable state. -/
theorem replaysCurrent_of_continues {call : RenewalCall} (hInv : RenewalInv s)
    (hFresh : call.DrawsFresh s) (hInvLater : RenewalInv t) (hReadable : RenewalsReadable t)
    (hLater : RenewalsContinue (renewalStep sha256 call s).2 t) :
    ReplaysCurrent sha256 t
      ⟨s, call, (renewalStep sha256 call s).1, (renewalStep sha256 call s).2⟩ := by
  cases call with
  | beginSession principal authorizationRef idempotencyKey now moment draw =>
      cases hAnswer : (renewalStep sha256
          (.beginSession principal authorizationRef idempotencyKey now moment draw) s).1 with
      | error e => trivial
      | ok answer =>
          have hBody := commit_eq_ok hAnswer
          obtain ⟨hRef, hKey, _⟩ := begin_eq_ok hBody
          obtain ⟨record, hRecord, hAddress, hHash, hResource⟩ := begin_recorded hInv hBody
          obtain ⟨record', hRecord', hAddress', hHash', hResource'⟩ :=
            hLater.records record hRecord
          obtain ⟨row, hRow, hScope, hSession, hDocument⟩ := hInvLater.row_of_record hRecord'
          have hScope' : record'.scope = principal.scope :=
            congrArg Prod.fst (hAddress'.trans hAddress)
          refine ⟨row, hRow, hScope.trans hScope', ?_, ?_⟩
          · exact hSession.trans (hResource'.trans hResource)
          · intro again now' moment' draw' hSame hGrant
            have hReplay : beginRenewalSession sha256 again authorizationRef idempotencyKey now'
                moment' draw' t = .ok ((record'.document, false), t) :=
              begin_replays hInvLater hGrant hRef hKey hRecord' (hSame ▸ hAddress'.trans hAddress)
                (hHash'.trans hHash) (hDocument ▸ hReadable row hRow)
            rw [hDocument]
            exact commit_of_ok hReplay
  | _ => trivial

/-- Renewal sessions under any order of calls. The two tables always hold the
same documents and a provider reference is never replaced; while every report
fits the record's model, an answered start is answered again with the current
document. -/
theorem renewal_sessions_stay_in_step (sha256 : String → String) (calls later : List RenewalCall)
    (hFresh : Admitted (renewalStep sha256) RenewalCall.DrawsFresh (calls ++ later) {}) :
    RenewalsMirrored (run (renewalStep sha256) calls {}) ∧
      ProviderRefsKept (run (renewalStep sha256) calls {})
        (run (renewalStep sha256) (calls ++ later) {}) ∧
      (Admitted (renewalStep sha256) RenewalCall.Fits calls {} →
        ∀ e ∈ trace (renewalStep sha256) calls {},
          ReplaysCurrent sha256 (run (renewalStep sha256) calls {}) e) := by
  obtain ⟨hBefore, hAfter⟩ := (admitted_append calls later _).mp hFresh
  have hInv := renewals_preserved.run renewalInv_empty hBefore
  refine ⟨hInv.renewalsMirrored, ?_, ?_⟩
  · rw [run_append]
    exact (run_related renewals_preserved RenewalsContinue.refl (fun _ _ _ => .trans)
      (fun _ _ hInv hFresh => (renewalStep_sound hInv hFresh).2) hInv hAfter).providerRefsKept
  · intro hFits e he
    have hReadable := renewals_readable_preserved.run
      (fun _ hRow => absurd hRow List.not_mem_nil) hFits
    have hLater := trace_related_run renewals_preserved RenewalsContinue.refl
      (fun _ _ _ => .trans) (fun _ _ hInv hFresh => (renewalStep_sound hInv hFresh).2)
      renewalInv_empty hBefore e he
    obtain ⟨hStart, hDraw, hOut, hEnd⟩ := renewals_preserved.trace renewalInv_empty hBefore e he
    rw [hEnd] at hLater
    have hReplays := replaysCurrent_of_continues hStart hDraw hInv hReadable hLater
    rw [← hOut, ← hEnd] at hReplays
    exact hReplays

end Claim

section Sample

def renewalRequester : IntegrationPrincipal where
  issuer := "issuer"
  subject := "member"
  organizationId := "organization"
  workspaceId := "workspace"
  allowedOperationIds := ["accountBeginRenewalSession", "accountGetRenewalSession"]

/-- The digest of the only request text of the sample. -/
def renewalDigest (_ : String) : String :=
  "d6b1fa2cf1fcf2949ce0b429612ccbfac4886c0ea5a8846a0013d837b0308b39"

def renewalDraw : UUID where
  text := "7d0c1f5e-3a52-4c7e-9b1f-0a6b1c2d3e4f"
  canonical := by decide

/-- A start, the provider's reply to it with the user code `userCode`, and a
status report. -/
def renewalCalls (userCode : String) : List RenewalCall :=
  [.beginSession renewalRequester "wecom-main" "key-1" 0 0 renewalDraw,
    .completeStart renewalRequester "wecom-main" renewalDraw.text "provider-1"
      { state := .waitingUser, userCode := some userCode, generation := 1 } 1,
    .updateStatus renewalRequester "wecom-main" renewalDraw.text
      { state := .waitingUser, userCode := some userCode, generation := 1 }
      (some "provider-1") none 2]

theorem renewal_sessions_stay_in_step_sample :
    RenewalsMirrored (run (renewalStep renewalDigest) (renewalCalls "ABCD-1234") {}) ∧
      ∀ e ∈ trace (renewalStep renewalDigest) (renewalCalls "ABCD-1234") {},
        ReplaysCurrent renewalDigest
          (run (renewalStep renewalDigest) (renewalCalls "ABCD-1234") {}) e :=
  have h := renewal_sessions_stay_in_step renewalDigest (renewalCalls "ABCD-1234")
    [.failStart renewalRequester "wecom-main" renewalDraw.text 3] (by decide +kernel)
  ⟨h.1, h.2.2 (by decide +kernel)⟩

/-- A user code without its dash is stored, and the start it belongs to is
then refused instead of replayed. -/
theorem misshapen_user_code_stops_replays :
    let s := run (renewalStep renewalDigest) (renewalCalls "ABCD1234") {}
    s.renewalSessions.length = 1 ∧
      (renewalStep renewalDigest
        (.beginSession renewalRequester "wecom-main" "key-1" 3 3 renewalDraw) s).1 =
          .error .documentInvalid := by
  decide +kernel

end Sample

end CyreneExchange.Integrations
