import CyreneExchange.Integrations.Authorization.RenewalRequests
import CyreneExchange.Integrations.Authorization.RenewalRuns

/-! Whether a finished renewal stays finished. The routes poll and restart
only unfinished sessions, but the provider is called between that check and
the write, and the write does not repeat it. So it depends on the order of the
requests: a session stays finished when no request writes back what another
has finished since. -/
namespace CyreneExchange.Integrations

open Machine Transaction

def RenewalState.finished : RenewalState → Bool
  | .succeeded | .failed | .expired | .cancelled => true
  | .waitingUser | .verifying => false

/-- Every finished session of `s` is in `t` in the same state, in its column
and in its document. -/
def FinishedStays (s t : AuthorizationStore) : Prop :=
  ∀ row ∈ s.renewalSessions, row.document.state.finished = true →
    ∃ row' ∈ t.renewalSessions,
      row'.isSession row.scope row.authorizationRef row.sessionRef = true ∧
        row'.state = row.state ∧ row'.document.state = row.document.state

/-- The session a call is about; a start draws its own. -/
def RenewalCall.sessionRef : RenewalCall → Option String
  | .completeStart _ _ sessionRef _ _ _ | .markUnknown _ _ sessionRef _ _
  | .failStart _ _ sessionRef _ | .updateStatus _ _ sessionRef _ _ _ _
  | .markStatusUnavailable _ _ sessionRef _ _ => some sessionRef
  | .beginSession .. => none

/-- The session in which a call stores a final outcome. -/
def RenewalCall.finishes : RenewalCall → Option String
  | .completeStart _ _ sessionRef _ facts _ | .updateStatus _ _ sessionRef facts _ _ _ =>
      if facts.state.finished then some sessionRef else none
  | .failStart _ _ sessionRef _ => some sessionRef
  | .beginSession .. | .markUnknown .. | .markStatusUnavailable .. => none

/-- The session a request has read and not yet written back. -/
def RenewalStage.session : RenewalStage → Option RenewalSessionRecord
  | .starting _ session | .completing _ session _ | .failing _ session _ | .doubting _ session _
  | .polling session | .updating session _ | .unavailable session => some session
  | .beginning .. | .rereading .. | .reading .. | .done .. => none

/-- The reference of that session, by the position of the request. -/
def RenewalSystem.held (system : RenewalSystem) (index : Nat) : Option String :=
  system.flights[index]?.bind fun flight =>
    flight.stage.session.map RenewalSessionRecord.sessionRef

/-- The store call of a step, with the position of its request. -/
def RenewalSystem.writes (system : RenewalSystem) : RenewalInput → Option (Nat × RenewalCall)
  | .arrive _ => none
  | .advance index event =>
      match system.flights[index]? with
      | none => none
      | some flight => (flight.stage.call flight.request.actor event).map fun call => (index, call)

abbrev RenewalTurn := Event RenewalSystem RenewalInput Unit

/-- The step finishes a session that the request at `index` has read and not
yet written back. -/
def RenewalTurn.overtakes (e : RenewalTurn) (index : Nat) : Bool :=
  match e.before.writes e.input with
  | none => false
  | some (other, call) =>
      other != index && call.finishes.isSome && e.before.held index == call.finishes

/-- The later step does not write back what the earlier one finished. -/
def RenewalTurn.Spares (e f : RenewalTurn) : Prop :=
  match f.before.writes f.input with
  | none => True
  | some (index, _) => e.overtakes index = false

instance (e f : RenewalTurn) : Decidable (e.Spares f) := by
  unfold RenewalTurn.Spares
  split
  · exact isTrue trivial
  · infer_instance

/-- No request writes back a session that another has finished since it read it. -/
def NoneOvertaken (sha256 : String → String) (inputs : List RenewalInput) : Prop :=
  (trace (renewalSystemStep sha256) inputs {}).Pairwise RenewalTurn.Spares

instance (sha256 : String → String) (inputs : List RenewalInput) :
    Decidable (NoneOvertaken sha256 inputs) :=
  inferInstanceAs (Decidable (List.Pairwise _ _))

/-- A new session gets a reference no session has. -/
def RenewalSystem.DrawsFresh (system : RenewalSystem) (input : RenewalInput) : Prop :=
  match system.writes input with
  | none => True
  | some (_, call) => call.DrawsFresh system.store

instance (system : RenewalSystem) : DecidablePred system.DrawsFresh := fun input => by
  unfold RenewalSystem.DrawsFresh
  split
  · exact isTrue trivial
  · infer_instance

/-- The primary key of `renewal_sessions`. -/
def RenewalRow.primaryKey (row : RenewalRow) : ActorScope × String × String :=
  (row.scope, row.authorizationRef, row.sessionRef)

structure RenewalTableInv (s : AuthorizationStore) : Prop where
  keysUnique : Table.KeysUnique RenewalRow.primaryKey s.renewalSessions
  inStep : ∀ row ∈ s.renewalSessions, row.state = row.document.state

/-- The reason for which a session is started again whatever its state. -/
def RenewalSessionRecord.unbound (session : RenewalSessionRecord) : Prop :=
  session.reasonCode = some "provider_binding_unavailable"

/-- The routes report no status under that reason. -/
def RenewalCall.Routed : RenewalCall → Prop
  | .updateStatus _ _ _ _ _ reasonCode _ => reasonCode ≠ some "provider_binding_unavailable"
  | _ => True

/-- A document the call puts in the place of another is finished only if that
one was or the call finishes it, and keeps its state under that reason. -/
structure RenewalCall.Puts (call : RenewalCall) (session session' : RenewalSessionRecord) :
    Prop where
  about : call.sessionRef.isSome = true
  finishes : session'.state.finished = true →
    session.state.finished = true ∨ call.finishes = call.sessionRef
  unbound : call.Routed → session'.unbound → session'.state = session.state

/-- What a committed call does to the states of the sessions. -/
inductive RenewalStateWrite (call : RenewalCall) (s : AuthorizationStore) :
    AuthorizationStore → Prop where
  | reads : RenewalStateWrite call s s
  | creates {row : RenewalRow} {t : AuthorizationStore}
      (hNew : ∀ row' ∈ s.renewalSessions, row'.primaryKey ≠ row.primaryKey)
      (hColumn : row.state = row.document.state)
      (hState : row.document.state = .verifying)
      (hSessions : t.renewalSessions = s.renewalSessions ++ [row]) : RenewalStateWrite call s t
  | rewrites {scope : ActorScope} {authorizationRef sessionRef : String} {row : RenewalRow}
      {state : Option RenewalState} {session : RenewalSessionRecord} {t : AuthorizationStore}
      (hRow : row ∈ s.renewalSessions)
      (hSession : row.isSession scope authorizationRef sessionRef = true)
      (hAbout : call.sessionRef = some sessionRef)
      (hColumn : state.getD row.document.state = session.state)
      (hPuts : call.Puts row.document session)
      (hPersist : persistRenewal scope authorizationRef sessionRef state session s =
        .ok ((), t)) : RenewalStateWrite call s t

section Writes

variable {sha256 : String → String} {s t : AuthorizationStore} {call : RenewalCall}
  {session : RenewalSessionRecord}

theorem primaryKey_eq_iff {row row' : RenewalRow} :
    row'.primaryKey = row.primaryKey ↔
      row'.isSession row.scope row.authorizationRef row.sessionRef = true := by
  rw [isSession_iff]
  simp [RenewalRow.primaryKey]

theorem state_rewrites {scope : ActorScope} {authorizationRef sessionRef : String}
    {row : RenewalRow} {state : Option RenewalState} {updated : RenewalSessionRecord}
    (h : (do
      persistRenewal scope authorizationRef sessionRef state updated
      pure updated : AuthorizationTransaction RenewalSessionRecord) s = .ok (session, t))
    (hRow : row ∈ s.renewalSessions)
    (hSession : row.isSession scope authorizationRef sessionRef = true)
    (hAbout : call.sessionRef = some sessionRef)
    (hColumn : state.getD row.document.state = updated.state)
    (hPuts : call.Puts row.document updated) : RenewalStateWrite call s t := by
  obtain ⟨_, _, hPersist, hPure⟩ := bind_eq_ok.mp h
  cases hPure
  exact .rewrites hRow hSession hAbout hColumn hPuts hPersist

theorem beginSession_writes_state {principal : IntegrationPrincipal}
    {authorizationRef idempotencyKey : String} {now moment : Timestamp} {draw : UUID}
    {answer : RenewalSessionRecord × Bool}
    (h : beginRenewalSession sha256 principal authorizationRef idempotencyKey now moment draw s =
      .ok (answer, t)) : RenewalStateWrite call s t := by
  unfold beginRenewalSession at h
  obtain ⟨_, _, hGrant, hBody⟩ := bind_eq_ok.mp h
  obtain rfl := requireOperation_eq_ok hGrant
  obtain ⟨_, _, hRequireRef, hBody⟩ := bind_eq_ok.mp hBody
  obtain ⟨_, rfl⟩ := require_eq_ok.mp hRequireRef
  obtain ⟨_, _, hRequireKey, hBody⟩ := bind_eq_ok.mp hBody
  obtain ⟨_, rfl⟩ := require_eq_ok.mp hRequireKey
  obtain ⟨previous, _, hLookup, hBody⟩ := bind_eq_ok.mp hBody
  obtain ⟨_, _, rfl⟩ := idempotencyLookup_eq_ok hLookup
  cases previous with
  | some record =>
      obtain ⟨_, _, hRead, hPure⟩ := bind_eq_ok.mp hBody
      obtain ⟨_, _, rfl⟩ := readRenewal_eq_ok hRead
      cases hPure
      exact .reads
  | none =>
      obtain ⟨_, _, hRequireValid, hBody⟩ := bind_eq_ok.mp hBody
      obtain ⟨_, rfl⟩ := require_eq_ok.mp hRequireValid
      rw [fetch_bind] at hBody
      obtain ⟨_, _, hRequireNew, hBody⟩ := bind_eq_ok.mp hBody
      obtain ⟨hNew, rfl⟩ := require_eq_ok.mp hRequireNew
      rw [store_bind] at hBody
      cases hBody
      refine .creates ?_ rfl rfl rfl
      intro row hRow hKey
      simp only [Bool.not_eq_true', List.any_eq_false, id_eq] at hNew
      exact hNew row hRow (primaryKey_eq_iff.mp hKey)

theorem completeStart_writes_state {principal : IntegrationPrincipal}
    {authorizationRef sessionRef providerSessionRef : String} {facts : ProviderRenewalFacts}
    {now : Timestamp}
    (h : completeRenewalSessionStart principal authorizationRef sessionRef providerSessionRef facts
      now s = .ok (session, t)) :
    RenewalStateWrite
      (.completeStart principal authorizationRef sessionRef providerSessionRef facts now) s t := by
  unfold completeRenewalSessionStart at h
  obtain ⟨_, _, hGrant, hBody⟩ := bind_eq_ok.mp h
  obtain rfl := requireOperation_eq_ok hGrant
  obtain ⟨_, _, hRequireRef, hNext⟩ := bind_eq_ok.mp hBody
  obtain ⟨_, rfl⟩ := require_eq_ok.mp hRequireRef
  obtain ⟨current, _, hSelect, hRest⟩ := bind_eq_ok.mp hNext
  obtain ⟨row, hRow, hSession, _, rfl, rfl⟩ := selectRenewal_eq_ok hSelect
  obtain ⟨_, _, hRequireSame, hUpdate⟩ := bind_eq_ok.mp hRest
  obtain ⟨_, rfl⟩ := require_eq_ok.mp hRequireSame
  refine state_rewrites hUpdate hRow hSession rfl rfl ⟨rfl, ?_, ?_⟩
  · intro hFinished
    exact Or.inr (if_pos hFinished)
  · intro _ hUnbound
    cases hUnbound

theorem markUnknown_writes_state {principal : IntegrationPrincipal}
    {authorizationRef sessionRef reasonCode : String} {now : Timestamp}
    (h : markRenewalStartUnknown principal authorizationRef sessionRef reasonCode now s =
      .ok (session, t)) :
    RenewalStateWrite (.markUnknown principal authorizationRef sessionRef reasonCode now) s t := by
  unfold markRenewalStartUnknown at h
  obtain ⟨_, _, hGrant, hBody⟩ := bind_eq_ok.mp h
  obtain rfl := requireOperation_eq_ok hGrant
  obtain ⟨_, _, hRequireReason, hNext⟩ := bind_eq_ok.mp hBody
  obtain ⟨_, rfl⟩ := require_eq_ok.mp hRequireReason
  obtain ⟨current, _, hSelect, hRest⟩ := bind_eq_ok.mp hNext
  obtain ⟨row, hRow, hSession, _, rfl, rfl⟩ := selectRenewal_eq_ok hSelect
  split at hRest
  · cases hRest
    exact .reads
  · exact state_rewrites hRest hRow hSession rfl rfl ⟨rfl, Or.inl, fun _ _ => rfl⟩

theorem failStart_writes_state {principal : IntegrationPrincipal}
    {authorizationRef sessionRef : String} {now : Timestamp}
    (h : failRenewalSessionStart principal authorizationRef sessionRef now s = .ok (session, t)) :
    RenewalStateWrite (.failStart principal authorizationRef sessionRef now) s t := by
  unfold failRenewalSessionStart at h
  obtain ⟨_, _, hGrant, hBody⟩ := bind_eq_ok.mp h
  obtain rfl := requireOperation_eq_ok hGrant
  obtain ⟨current, _, hSelect, hNext⟩ := bind_eq_ok.mp hBody
  obtain ⟨row, hRow, hSession, _, rfl, rfl⟩ := selectRenewal_eq_ok hSelect
  split at hNext
  · cases hNext
    exact .reads
  · split at hNext
    · cases hNext
      exact .reads
    · refine state_rewrites hNext hRow hSession rfl rfl ⟨rfl, fun _ => Or.inr rfl, ?_⟩
      intro _ hUnbound
      exact absurd (Option.some.inj hUnbound) (by decide)

theorem updateStatus_writes_state {principal : IntegrationPrincipal}
    {authorizationRef sessionRef : String} {facts : ProviderRenewalFacts}
    {providerSessionRef reasonCode : Option String} {now : Timestamp}
    (h : updateRenewalSessionStatus principal authorizationRef sessionRef facts providerSessionRef
      reasonCode now s = .ok (session, t)) :
    RenewalStateWrite
      (.updateStatus principal authorizationRef sessionRef facts providerSessionRef reasonCode now)
      s t := by
  unfold updateRenewalSessionStatus at h
  obtain ⟨_, _, hGrant, hBody⟩ := bind_eq_ok.mp h
  obtain rfl := requireOperation_eq_ok hGrant
  obtain ⟨current, _, hSelect, hNext⟩ := bind_eq_ok.mp hBody
  obtain ⟨row, hRow, hSession, _, rfl, rfl⟩ := selectRenewal_eq_ok hSelect
  obtain ⟨_, _, hRequireKnown, hRest⟩ := bind_eq_ok.mp hNext
  obtain ⟨_, rfl⟩ := require_eq_ok.mp hRequireKnown
  obtain ⟨_, _, hRequireSame, hUpdate⟩ := bind_eq_ok.mp hRest
  obtain ⟨_, rfl⟩ := require_eq_ok.mp hRequireSame
  refine state_rewrites hUpdate hRow hSession rfl rfl ⟨rfl, ?_, ?_⟩
  · intro hFinished
    exact Or.inr (if_pos hFinished)
  · intro hRouted hUnbound
    exact absurd hUnbound hRouted

theorem markStatusUnavailable_writes_state {principal : IntegrationPrincipal}
    {authorizationRef sessionRef reasonCode : String} {now : Timestamp}
    (h : markRenewalStatusUnavailable principal authorizationRef sessionRef reasonCode now s =
      .ok (session, t)) :
    RenewalStateWrite
      (.markStatusUnavailable principal authorizationRef sessionRef reasonCode now) s t := by
  unfold markRenewalStatusUnavailable at h
  obtain ⟨_, _, hGrant, hBody⟩ := bind_eq_ok.mp h
  obtain rfl := requireOperation_eq_ok hGrant
  obtain ⟨_, _, hRequireReason, hNext⟩ := bind_eq_ok.mp hBody
  obtain ⟨_, rfl⟩ := require_eq_ok.mp hRequireReason
  obtain ⟨current, _, hSelect, hRest⟩ := bind_eq_ok.mp hNext
  obtain ⟨row, hRow, hSession, _, rfl, rfl⟩ := selectRenewal_eq_ok hSelect
  exact state_rewrites hRest hRow hSession rfl rfl ⟨rfl, Or.inl, fun _ _ => rfl⟩

theorem renewalCall_writes_state {answer : RenewalSessionRecord × Bool}
    (h : call.body sha256 s = .ok (answer, t)) : RenewalStateWrite call s t := by
  cases call with
  | beginSession principal authorizationRef idempotencyKey now moment draw =>
      exact beginSession_writes_state h
  | completeStart principal authorizationRef sessionRef providerSessionRef facts now =>
      obtain ⟨_, _, hBody, hPure⟩ := bind_eq_ok.mp h
      cases hPure
      exact completeStart_writes_state hBody
  | markUnknown principal authorizationRef sessionRef reasonCode now =>
      obtain ⟨_, _, hBody, hPure⟩ := bind_eq_ok.mp h
      cases hPure
      exact markUnknown_writes_state hBody
  | failStart principal authorizationRef sessionRef now =>
      obtain ⟨_, _, hBody, hPure⟩ := bind_eq_ok.mp h
      cases hPure
      exact failStart_writes_state hBody
  | updateStatus principal authorizationRef sessionRef facts providerSessionRef reasonCode now =>
      obtain ⟨_, _, hBody, hPure⟩ := bind_eq_ok.mp h
      cases hPure
      exact updateStatus_writes_state hBody
  | markStatusUnavailable principal authorizationRef sessionRef reasonCode now =>
      obtain ⟨_, _, hBody, hPure⟩ := bind_eq_ok.mp h
      cases hPure
      exact markStatusUnavailable_writes_state hBody

end Writes

section Runs

variable {sha256 : String → String} {s t u : AuthorizationStore} {call : RenewalCall}

theorem FinishedStays.refl (s : AuthorizationStore) : FinishedStays s s :=
  fun row hRow _ => ⟨row, hRow, isSession_iff.mpr ⟨rfl, rfl, rfl⟩, rfl, rfl⟩

theorem FinishedStays.trans (h : FinishedStays s t) (h' : FinishedStays t u) :
    FinishedStays s u := by
  intro row hRow hFinished
  obtain ⟨row', hRow', hSame, hColumn, hState⟩ := h row hRow hFinished
  obtain ⟨row'', hRow'', hSame', hColumn', hState'⟩ := h' row' hRow' (hState ▸ hFinished)
  obtain ⟨hScope, hAuthorization, hRef⟩ := isSession_iff.mp hSame
  rw [hScope, hAuthorization, hRef] at hSame'
  exact ⟨row'', hRow'', hSame', hColumn'.trans hColumn, hState'.trans hState⟩

theorem renewalTableInv_empty : RenewalTableInv {} where
  keysUnique := List.nodup_nil
  inStep := by simp

/-- The rows one UPDATE of a session selects. -/
theorem RenewalTableInv.selects_one (hInv : RenewalTableInv s) {scope : ActorScope}
    {authorizationRef sessionRef : String} {row row' : RenewalRow}
    (hRow : row ∈ s.renewalSessions) (hRow' : row' ∈ s.renewalSessions)
    (hSession : row.isSession scope authorizationRef sessionRef = true)
    (hSession' : row'.isSession scope authorizationRef sessionRef = true) : row' = row := by
  obtain ⟨rfl, rfl, rfl⟩ := isSession_iff.mp hSession
  exact hInv.keysUnique.eq hRow' hRow (primaryKey_eq_iff.mpr hSession')

theorem renewalTableInv_writes (hInv : RenewalTableInv s) (h : RenewalStateWrite call s t) :
    RenewalTableInv t := by
  cases h with
  | reads => exact hInv
  | creates hNew hColumn _ hSessions =>
      constructor
      · rw [hSessions]
        exact hInv.keysUnique.append_singleton hNew
      · rw [hSessions]
        intro row hRow
        rcases List.mem_append.mp hRow with hRow | hRow
        · exact hInv.inStep row hRow
        · rw [List.mem_singleton.mp hRow]
          exact hColumn
  | rewrites hRow hSession _ hColumn _ hPersist =>
      cases hPersist
      constructor
      · exact hInv.keysUnique.updateWhere fun _ _ _ => rfl
      · intro row' hRow'
        obtain ⟨x, hx, ⟨hSelected, rfl⟩ | ⟨_, rfl⟩⟩ := Table.mem_updateWhere.mp hRow'
        · obtain rfl := hInv.selects_one hRow hx hSession hSelected
          rw [← hInv.inStep x hx] at hColumn
          exact hColumn
        · exact hInv.inStep row' hx

/-- The table keeps its key and both copies of every state. -/
theorem renewalStep_table (hInv : RenewalTableInv s) :
    RenewalTableInv (renewalStep sha256 call s).2 := by
  rcases commit_cases (call.body sha256) s with ⟨answer, t, hBody, hCommit⟩ | ⟨e, _, hCommit⟩
  · rw [renewalStep, hCommit]
    exact renewalTableInv_writes hInv (renewalCall_writes_state hBody)
  · rw [renewalStep, hCommit]
    exact hInv

/-- The session is not finished, wherever it is stored. -/
def AuthorizationStore.Unfinished (s : AuthorizationStore) (sessionRef : String) : Prop :=
  ∀ row ∈ s.renewalSessions, row.sessionRef = sessionRef → row.document.state.finished = false

/-- A session that is started again whatever its state is not finished. -/
def AuthorizationStore.Restartable (s : AuthorizationStore) : Prop :=
  ∀ row ∈ s.renewalSessions, row.document.unbound → row.document.state.finished = false

/-- What a call does to the states of a store in which its session is not
finished. -/
structure KeepsFinished (call : RenewalCall) (s t : AuthorizationStore) : Prop where
  stays : FinishedStays s t
  restartable : t.Restartable
  unfinished : ∀ sessionRef, s.Unfinished sessionRef →
    call.finishes = some sessionRef ∨ t.Unfinished sessionRef

theorem keepsFinished_refl (hRestartable : s.Restartable) : KeepsFinished call s s :=
  ⟨.refl s, hRestartable, fun _ => Or.inr⟩

/-- A new session waits for the provider. -/
theorem keepsFinished_created {row : RenewalRow} (hRestartable : s.Restartable)
    (hState : row.document.state = .verifying)
    (hSessions : t.renewalSessions = s.renewalSessions ++ [row]) : KeepsFinished call s t := by
  have hNew : row.document.state.finished = false := by rw [hState]; rfl
  refine ⟨?_, ?_, ?_⟩
  · intro old hOld _
    refine ⟨old, ?_, isSession_iff.mpr ⟨rfl, rfl, rfl⟩, rfl, rfl⟩
    rw [hSessions]
    exact List.mem_append_left _ hOld
  · intro row' hRow' hUnbound
    rw [hSessions] at hRow'
    rcases List.mem_append.mp hRow' with hOld | hAdded
    · exact hRestartable row' hOld hUnbound
    · rw [List.mem_singleton.mp hAdded]
      exact hNew
  · intro sessionRef hUnfinished
    refine Or.inr ?_
    intro row' hRow' hRef
    rw [hSessions] at hRow'
    rcases List.mem_append.mp hRow' with hOld | hAdded
    · exact hUnfinished row' hOld hRef
    · rw [List.mem_singleton.mp hAdded]
      exact hNew

/-- A rewritten session was not finished, and no other one changes. -/
theorem keepsFinished_rewritten {scope : ActorScope} {authorizationRef sessionRef : String}
    {row : RenewalRow} {state : Option RenewalState} {session : RenewalSessionRecord}
    (hInv : RenewalTableInv s) (hRestartable : s.Restartable) (hRouted : call.Routed)
    (hOpen : s.Unfinished sessionRef) (hRow : row ∈ s.renewalSessions)
    (hSession : row.isSession scope authorizationRef sessionRef = true)
    (hAbout : call.sessionRef = some sessionRef) (hPuts : call.Puts row.document session)
    (hPersist : persistRenewal scope authorizationRef sessionRef state session s = .ok ((), t)) :
    KeepsFinished call s t := by
  obtain ⟨_, _, hRowRef⟩ := isSession_iff.mp hSession
  have hUnfinished := hOpen row hRow hRowRef
  cases hPersist
  refine ⟨?_, ?_, ?_⟩
  · intro row' hRow' hFinished
    refine ⟨row', Table.mem_updateWhere_of_neg hRow' ?_, isSession_iff.mpr ⟨rfl, rfl, rfl⟩,
      rfl, rfl⟩
    rw [Bool.eq_false_iff]
    intro hSelected
    rw [hInv.selects_one hRow hRow' hSession hSelected, hUnfinished] at hFinished
    cases hFinished
  · intro row' hRow' hUnbound
    obtain ⟨old, hOld, ⟨hSelected, rfl⟩ | ⟨_, rfl⟩⟩ := Table.mem_updateWhere.mp hRow'
    · show session.state.finished = false
      rw [hPuts.unbound hRouted hUnbound]
      exact hUnfinished
    · exact hRestartable _ hOld hUnbound
  · intro other hOther
    by_cases hFinishes : call.finishes = some other
    · exact Or.inl hFinishes
    · refine Or.inr ?_
      intro row' hRow' hRef
      obtain ⟨old, hOld, ⟨hSelected, rfl⟩ | ⟨_, rfl⟩⟩ := Table.mem_updateWhere.mp hRow'
      · rw [Bool.eq_false_iff]
        intro hFinished
        rcases hPuts.finishes hFinished with hWas | hStored
        · rw [hUnfinished] at hWas
          cases hWas
        · apply hFinishes
          rw [hStored, hAbout, ← hRef, (isSession_iff.mp hSelected).2.2]
      · exact hOther _ hOld hRef

/-- The step lemma: a call the routes make, about a session that is not
finished, leaves every finished one alone. -/
theorem renewalStep_keepsFinished (sha256 : String → String) (hInv : RenewalTableInv s)
    (hRestartable : s.Restartable) (hRouted : call.Routed)
    (hOpen : ∀ sessionRef, call.sessionRef = some sessionRef → s.Unfinished sessionRef) :
    KeepsFinished call s (renewalStep sha256 call s).2 := by
  rcases commit_cases (call.body sha256) s with ⟨answer, t, hBody, hCommit⟩ | ⟨e, _, hCommit⟩
  · rw [renewalStep, hCommit]
    cases renewalCall_writes_state hBody with
    | reads => exact keepsFinished_refl hRestartable
    | creates _ _ hState hSessions => exact keepsFinished_created hRestartable hState hSessions
    | rewrites hRow hSession hAbout _ hPuts hPersist =>
        exact keepsFinished_rewritten hInv hRestartable hRouted (hOpen _ hAbout) hRow hSession
          hAbout hPuts hPersist
  · rw [renewalStep, hCommit]
    exact keepsFinished_refl hRestartable

end Runs

section Requests

variable {sha256 : String → String} {s t : AuthorizationStore} {request : RenewalRequest}
  {stage : RenewalStage} {event : RenewalEvent} {call : RenewalCall}
  {session : RenewalSessionRecord}

/-- A stage writes back the session it holds; a start holds none. -/
theorem RenewalStage.call_about (h : stage.call request.actor event = some call) :
    call.sessionRef = stage.session.map RenewalSessionRecord.sessionRef ∧ call.Routed := by
  cases stage with
  | beginning authorizationId idempotencyKey =>
      simp only [RenewalStage.call] at h
      split at h
      · cases h
      · cases h
        exact ⟨rfl, trivial⟩
  | unavailable session =>
      simp only [RenewalStage.call] at h
      split at h
      · cases h
        exact ⟨rfl, trivial⟩
      · cases h
        exact ⟨rfl, fun hReason => absurd (Option.some.inj hReason) (by decide)⟩
  | updating session reply =>
      cases h
      exact ⟨rfl, fun hReason => nomatch hReason⟩
  | completing authorizationId session reply | failing authorizationId session failure
  | doubting authorizationId session reasonCode =>
      cases h
      exact ⟨rfl, trivial⟩
  | starting | rereading | reading | polling | done => cases h

theorem begun_session {cloud : Option RenewalServices} {authorizationId : String} {created : Bool}
    {held : RenewalSessionRecord}
    (h : (begun cloud authorizationId session created).session = some held) :
    held = session ∧ shouldStart cloud session created = true := by
  unfold begun at h
  split at h
  · rename_i hStart
    refine ⟨?_, hStart⟩
    split at h <;> exact (Option.some.inj h).symm
  · cases h

/-- A session that is started again is under verification or unbound. -/
theorem unfinished_of_shouldStart {cloud : Option RenewalServices}
    (h : shouldStart cloud session false = true) :
    session.unbound ∨ session.state.finished = false := by
  simp only [shouldStart, Bool.false_or, Bool.not_false, Bool.true_and, Bool.or_eq_true,
    Bool.and_eq_true, beq_iff_eq] at h
  rcases h with hUnbound | ⟨⟨hState, _⟩, _⟩
  · exact Or.inl hUnbound
  · rw [hState]
    exact Or.inr rfl

theorem RenewalInv.unfinished_of_row (hInv : RenewalInv s) {row : RenewalRow}
    (hRow : row ∈ s.renewalSessions) (hState : row.document.state.finished = false) :
    s.Unfinished row.document.sessionRef := by
  intro row' hRow' hRef
  rw [hInv.refsUnique.eq hRow' hRow (hRef.trans (hInv.named row hRow))]
  exact hState

/-- The session a begin request goes on to start is not finished. -/
theorem unfinished_of_begun {principal : IntegrationPrincipal}
    {authorizationRef idempotencyKey : String} {now moment : Timestamp} {draw : UUID}
    {created : Bool} {cloud : Option RenewalServices} (hInv : RenewalInv s)
    (hRestartable : s.Restartable)
    (hFresh : ∀ row ∈ s.renewalSessions, row.sessionRef ≠ draw.text)
    (hStart : shouldStart cloud session created = true)
    (h : beginRenewalSession sha256 principal authorizationRef idempotencyKey now moment draw s =
      .ok ((session, created), t)) : t.Unfinished session.sessionRef := by
  obtain ⟨_, _, ⟨record, hFind, _, hAnswer, rfl⟩ | hCreated⟩ := begin_eq_ok h
  · obtain ⟨rfl, rfl⟩ := Prod.mk.inj hAnswer
    obtain ⟨row, hRow, _, _, hDocument⟩ :=
      hInv.row_of_record (List.mem_of_find?_eq_some hFind)
    rw [← hDocument] at hStart ⊢
    apply hInv.unfinished_of_row hRow
    rcases unfinished_of_shouldStart hStart with hUnbound | hState
    · exact hRestartable row hRow hUnbound
    · exact hState
  · obtain ⟨rfl, _⟩ := Prod.mk.inj hCreated.answered
    intro row hRow hRef
    rw [hCreated.sessions] at hRow
    rcases List.mem_append.mp hRow with hOld | hNew
    · exact absurd hRef (hFresh row hOld)
    · rw [List.mem_singleton.mp hNew]
      rfl

theorem getRenewalSessionById_eq_ok {principal : IntegrationPrincipal} {sessionRef : String}
    {now : Timestamp}
    (h : getRenewalSessionById principal sessionRef now s = .ok (session, t)) :
    ∃ row ∈ s.renewalSessions, session = row.document := by
  unfold getRenewalSessionById at h
  obtain ⟨_, s, hGrant, hBody⟩ := bind_eq_ok.mp h
  obtain rfl := requireOperation_eq_ok hGrant
  rw [fetch_bind] at hBody
  cases hRows : s.renewalSessions.filter
      (fun row => row.sessionRef == sessionRef && row.scope == principal.scope) with
  | nil =>
      rw [hRows] at hBody
      cases hBody
  | cons row rest =>
      have hRow : row ∈ s.renewalSessions :=
        (List.mem_filter.mp (by rw [hRows]; exact List.mem_cons_self)).1
      rw [hRows] at hBody
      cases rest with
      | nil =>
          obtain ⟨_, rfl, _⟩ := readRenewal_eq_ok hBody
          exact ⟨row, hRow, rfl⟩
      | cons other rest => cases hBody

/-- Only unfinished sessions are polled. -/
theorem unfinished_of_polls {cloud : Option RenewalServices} (h : polls cloud session = true) :
    session.state.finished = false := by
  simp only [polls, Bool.and_eq_true, List.contains_iff_mem] at h
  rcases List.mem_cons.mp h.1.2 with hState | hState
  · rw [hState]
    rfl
  · rw [List.mem_singleton.mp hState]
    rfl

theorem startFailed_session {authorizationId : String} {status : Nat} {retryable : Bool}
    {failure : RenewalFailure} :
    (startFailed authorizationId session status retryable failure).session = some session := by
  unfold startFailed
  split <;> rfl

theorem started_session {authorizationId : String} {answer : ProviderRenewalAnswer} :
    (started authorizationId session answer).session = some session := by
  cases answer with
  | answered reply =>
      simp only [started]
      split <;> rfl
  | permissionError => rfl
  | productError status retryable => exact startFailed_session
  | failed => rfl

theorem completionFailed_session {authorizationId : String} {error : AuthorizationError} :
    (completionFailed authorizationId session error).session = some session := by
  unfold completionFailed
  split
  · exact startFailed_session
  · rfl

theorem polled_session {answer : ProviderRenewalAnswer} :
    (polled session answer).session = some session := by
  cases answer with
  | answered reply =>
      simp only [polled]
      split <;> rfl
  | permissionError | productError | failed => rfl

/-- A step without a call holds on to its session or has read an unfinished one. -/
theorem proceeds_session (hInv : RenewalInv s)
    (h : (stage.proceeds request event s).session = some session) :
    stage.session = some session ∨ s.Unfinished session.sessionRef := by
  cases stage with
  | beginning authorizationId idempotencyKey =>
      simp only [RenewalStage.proceeds] at h
      split at h <;> cases h
  | starting authorizationId held =>
      rw [RenewalStage.proceeds, started_session] at h
      exact Or.inl h
  | polling held =>
      rw [RenewalStage.proceeds, polled_session] at h
      exact Or.inl h
  | rereading authorizationId sessionRef =>
      simp only [RenewalStage.proceeds] at h
      split at h <;> cases h
  | reading sessionId =>
      simp only [RenewalStage.proceeds] at h
      split at h
      · cases h
      · cases h
      · rename_i hRead _
        split at h
        · rename_i hPolls
          cases h
          obtain ⟨row, hRow, rfl⟩ := getRenewalSessionById_eq_ok (commit_eq_ok hRead)
          exact Or.inr (hInv.unfinished_of_row hRow (unfinished_of_polls hPolls))
        · cases h
  | completing | failing | doubting | updating | unavailable | done => exact Or.inl h

/-- After its call a request has given its session back, unless the store has
refused the call; a start may have read one to start. -/
theorem answered_session (hInv : RenewalInv s) (hRestartable : s.Restartable)
    (hFresh : call.DrawsFresh s) (hCall : stage.call request.actor event = some call)
    (h : (stage.answered request (renewalStep sha256 call s).1).session = some session) :
    (stage.session = some session ∧ (renewalStep sha256 call s).2 = s) ∨
      (renewalStep sha256 call s).2.Unfinished session.sessionRef := by
  rcases commit_cases (call.body sha256) s with ⟨⟨answer, created⟩, t, hBody, hCommit⟩ |
    ⟨e, _, hCommit⟩
  · rw [renewalStep, hCommit] at h ⊢
    cases stage with
    | beginning authorizationId idempotencyKey =>
        simp only [RenewalStage.call] at hCall
        split at hCall
        · cases hCall
        · cases hCall
          obtain ⟨rfl, hStart⟩ := begun_session h
          exact Or.inr (unfinished_of_begun hInv hRestartable hFresh hStart hBody)
    | completing | failing | doubting | updating | unavailable => cases h
    | starting | rereading | reading | polling | done => cases hCall
  · rw [renewalStep, hCommit] at h ⊢
    cases stage with
    | completing authorizationId held reply =>
        rw [RenewalStage.answered, completionFailed_session] at h
        exact Or.inl ⟨h, rfl⟩
    | updating held reply => exact Or.inl ⟨h, rfl⟩
    | beginning | failing | doubting | unavailable => cases h
    | starting | rereading | reading | polling | done => cases hCall

end Requests

section Systems

variable {sha256 : String → String} {past : List RenewalTurn} {system : RenewalSystem}
  {input : RenewalInput}

/-- What the steps so far and the system agree on: a session that a request
holds is not finished, or one of the steps has overtaken the request. -/
structure RenewalPast (past : List RenewalTurn) (system : RenewalSystem) : Prop where
  sessions : RenewalInv system.store
  table : RenewalTableInv system.store
  restartable : system.store.Restartable
  held : ∀ index sessionRef, system.held index = some sessionRef →
    system.store.Unfinished sessionRef ∨ ∃ e ∈ past, RenewalTurn.overtakes e index = true

theorem renewalPast_empty : RenewalPast [] {} where
  sessions := renewalInv_empty
  table := renewalTableInv_empty
  restartable := fun _ hRow => nomatch hRow
  held := fun _ _ hHeld => nomatch hHeld

theorem arrives_session (request : RenewalRequest) : request.arrives.session = none := by
  unfold RenewalRequest.arrives
  cases request.route <;> rfl

theorem held_arrive (request : RenewalRequest) (index : Nat) :
    RenewalSystem.held { system with flights := system.flights ++ [⟨request, request.arrives⟩] }
      index = system.held index := by
  unfold RenewalSystem.held
  rw [List.getElem?_append]
  split
  · rfl
  · rename_i hPast
    rw [List.getElem?_eq_none (Nat.le_of_not_lt hPast), List.getElem?_singleton]
    split
    · rw [Option.bind_some, arrives_session]
      rfl
    · rfl

theorem held_of_flight {index : Nat} {flight : RenewalFlight}
    (hFlight : system.flights[index]? = some flight) :
    system.held index = flight.stage.session.map RenewalSessionRecord.sessionRef := by
  rw [RenewalSystem.held, hFlight, Option.bind_some]

/-- After a step of one request the others hold what they held. -/
theorem held_advance {index : Nat} {flight : RenewalFlight} {stage : RenewalStage}
    {t : AuthorizationStore} (hFlight : system.flights[index]? = some flight) (other : Nat) :
    RenewalSystem.held
        ⟨t, system.flights.set index { flight with stage := stage }⟩ other =
      if index = other then stage.session.map RenewalSessionRecord.sessionRef
      else system.held other := by
  unfold RenewalSystem.held
  rw [List.getElem?_set]
  split
  · rw [if_pos (List.getElem?_eq_some_iff.mp hFlight).1]
    rfl
  · rfl

theorem RenewalPast.keep_held (h : RenewalPast past system) {e : RenewalTurn} {index : Nat}
    {sessionRef : String} (hHeld : system.held index = some sessionRef) :
    system.store.Unfinished sessionRef ∨
      ∃ e' ∈ past ++ [e], RenewalTurn.overtakes e' index = true := by
  rcases h.held index sessionRef hHeld with hUnfinished | ⟨e', he', hOvertakes⟩
  · exact Or.inl hUnfinished
  · exact Or.inr ⟨e', List.mem_append_left _ he', hOvertakes⟩

/-- A step without a call changes nothing in the store. -/
theorem renewalPast_proceeds (h : RenewalPast past system) {index : Nat} {event : RenewalEvent}
    {flight : RenewalFlight} (hFlight : system.flights[index]? = some flight) (e : RenewalTurn) :
    RenewalPast (past ++ [e]) ⟨system.store, system.flights.set index
      { flight with stage := flight.stage.proceeds flight.request event system.store }⟩ where
  sessions := h.sessions
  table := h.table
  restartable := h.restartable
  held := by
    intro other sessionRef hHeld
    rw [held_advance hFlight] at hHeld
    split at hHeld
    · rename_i hSame
      obtain ⟨session, hSession, rfl⟩ := Option.map_eq_some_iff.mp hHeld
      rcases proceeds_session h.sessions hSession with hHolds | hUnfinished
      · apply h.keep_held
        rw [← hSame, held_of_flight hFlight, hHolds]
        rfl
      · exact Or.inl hUnfinished
    · exact h.keep_held hHeld

/-- A call of a request nobody has overtaken is about an unfinished session. -/
theorem RenewalPast.open_of_spared (h : RenewalPast past system) {index : Nat}
    {event : RenewalEvent} {flight : RenewalFlight} {call : RenewalCall}
    (hFlight : system.flights[index]? = some flight)
    (hCall : flight.stage.call flight.request.actor event = some call)
    (hSpared : ∀ e ∈ past, RenewalTurn.overtakes e index = false) :
    ∀ sessionRef, call.sessionRef = some sessionRef → system.store.Unfinished sessionRef := by
  intro sessionRef hRef
  rw [(RenewalStage.call_about hCall).1] at hRef
  have hHeld : system.held index = some sessionRef := (held_of_flight hFlight).trans hRef
  rcases h.held index sessionRef hHeld with hUnfinished | ⟨e, he, hOvertakes⟩
  · exact hUnfinished
  · rw [hSpared e he] at hOvertakes
    cases hOvertakes

theorem renewalPast_calls (h : RenewalPast past system) {index : Nat} {event : RenewalEvent}
    {flight : RenewalFlight} {call : RenewalCall} (e : RenewalTurn) (hBefore : e.before = system)
    (hWrites : system.writes e.input = some (index, call))
    (hFlight : system.flights[index]? = some flight)
    (hCall : flight.stage.call flight.request.actor event = some call)
    (hFresh : call.DrawsFresh system.store)
    (hKeeps : KeepsFinished call system.store (renewalStep sha256 call system.store).2) :
    RenewalPast (past ++ [e]) ⟨(renewalStep sha256 call system.store).2,
      system.flights.set index { flight with
        stage := flight.stage.answered flight.request
          (renewalStep sha256 call system.store).1 }⟩ where
  sessions := (renewalStep_sound h.sessions hFresh).1
  table := renewalStep_table h.table
  restartable := hKeeps.restartable
  held := by
    intro other sessionRef hHeld
    rw [held_advance hFlight] at hHeld
    split at hHeld
    · rename_i hSame
      obtain ⟨session, hSession, rfl⟩ := Option.map_eq_some_iff.mp hHeld
      rcases answered_session h.sessions h.restartable hFresh hCall hSession with
        ⟨hHolds, hStore⟩ | hUnfinished
      · dsimp only
        rw [hStore]
        apply h.keep_held
        rw [← hSame, held_of_flight hFlight, hHolds]
        rfl
      · exact Or.inl hUnfinished
    · rename_i hOther
      rcases h.held other sessionRef hHeld with hUnfinished | ⟨e', he', hOvertakes⟩
      · rcases hKeeps.unfinished sessionRef hUnfinished with hFinishes | hStill
        · refine Or.inr ⟨e, List.mem_append_right _ List.mem_cons_self, ?_⟩
          simp [RenewalTurn.overtakes, hBefore, hWrites, hOther, hFinishes, hHeld]
        · exact Or.inl hStill
      · exact Or.inr ⟨e', List.mem_append_left _ he', hOvertakes⟩

/-- One step: what the past and the system agree on is kept, and no finished
session changes. -/
theorem renewalSystemStep_past (h : RenewalPast past system) (hFresh : system.DrawsFresh input)
    (hSpares : ∀ e ∈ past, RenewalTurn.Spares e ⟨system, input,
      (renewalSystemStep sha256 input system).1, (renewalSystemStep sha256 input system).2⟩) :
    RenewalPast (past ++ [⟨system, input, (renewalSystemStep sha256 input system).1,
        (renewalSystemStep sha256 input system).2⟩]) (renewalSystemStep sha256 input system).2 ∧
      FinishedStays system.store (renewalSystemStep sha256 input system).2.store := by
  cases input with
  | arrive request =>
      refine ⟨⟨h.sessions, h.table, h.restartable, ?_⟩, .refl system.store⟩
      intro index sessionRef hHeld
      rw [renewalSystemStep, held_arrive] at hHeld
      exact h.keep_held hHeld
  | advance index event =>
      cases hFlight : system.flights[index]? with
      | none =>
          simp only [renewalSystemStep, hFlight]
          exact ⟨⟨h.sessions, h.table, h.restartable, fun _ _ => h.keep_held⟩, .refl system.store⟩
      | some flight =>
          cases hCall : flight.stage.call flight.request.actor event with
          | none =>
              simp only [renewalSystemStep, hFlight, RenewalFlight.advance, hCall]
              exact ⟨renewalPast_proceeds h hFlight _, .refl system.store⟩
          | some call =>
              have hWrites : system.writes (.advance index event) = some (index, call) := by
                simp only [RenewalSystem.writes, hFlight, hCall, Option.map_some]
              simp only [RenewalSystem.DrawsFresh, hWrites] at hFresh
              simp only [RenewalTurn.Spares, hWrites] at hSpares
              have hKeeps := renewalStep_keepsFinished sha256 h.table h.restartable
                (RenewalStage.call_about hCall).2 (h.open_of_spared hFlight hCall hSpares)
              simp only [renewalSystemStep, hFlight, RenewalFlight.advance, hCall]
              exact ⟨renewalPast_calls h _ rfl hWrites hFlight hCall hFresh hKeeps, hKeeps.stays⟩

end Systems

section Sample

def renewalServices : RenewalServices where
  supportsDurableRenewalReplay := true
  supportsRequestIdStatusLookup := true

/-- The provider's answer about the session of the sample. -/
def renewalReply (state : RenewalState) : ProviderRenewalAnswer :=
  .answered {
    authorizationRef := "wecom-main"
    sessionRef := "provider-1"
    facts := { state := state, generation := 1 } }

def renewalEvent (answer : ProviderRenewalAnswer) : RenewalEvent where
  draw := renewalDraw
  answer := answer

def startedRenewal : List RenewalInput :=
  [.arrive ⟨renewalRequester, some renewalServices, .beginRenewalSession "wecom-main" "key-1"⟩,
    .advance 0 (renewalEvent .failed),
    .advance 0 (renewalEvent (renewalReply .waitingUser)),
    .advance 0 (renewalEvent .failed)]

def pollRenewal : RenewalInput :=
  .arrive ⟨renewalRequester, some renewalServices, .getRenewalSession renewalDraw⟩

/-- Two polls of a waiting session that both read it before either writes. -/
def overlappingPolls : List RenewalInput := startedRenewal ++
  [pollRenewal, pollRenewal,
    .advance 1 (renewalEvent .failed), .advance 2 (renewalEvent .failed)]

/-- The poll at `index` hears this answer and stores what it brought. -/
def answerPoll (index : Nat) (answer : ProviderRenewalAnswer) : List RenewalInput :=
  [.advance index (renewalEvent answer), .advance index (renewalEvent .failed)]

end Sample

end CyreneExchange.Integrations
