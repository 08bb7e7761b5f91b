import CyreneExchange.Integrations.Canonical
import CyreneExchange.Integrations.Intake.Observation
import CyreneExchange.Integrations.Outbox.Durability

/-! GitHub deliveries enter the inbox once. The first admission of a delivery
queues its notifications, a replay of the same payload reads the row back and
any other payload under the same delivery id is refused. The digest function
is assumed free of collisions on the payloads of the run. -/
namespace CyreneExchange.Integrations

open Machine Transaction

/-- The text whose digest is the fingerprint of an event. -/
def NormalizedGitHubEvent.fingerprintText (event : NormalizedGitHubEvent) : String :=
  Json.dumps (.obj event.fingerprintPayload)

/-- The payloads handed to `ingest_github_event` in a run. -/
def ingestedTexts (actions : List IntakeAction) : List String :=
  actions.filterMap fun
    | .call (.ingestGithubEvent delivery) => some delivery.event.fingerprintText
    | _ => none

/-- The bindings an event is announced to. -/
def Store.notified (s : Store) (event : IncomingEvent) : List SyncBinding :=
  s.syncBindings.filter fun binding => binding.connectionId == event.connectionId &&
    binding.organizationId == event.organizationId &&
    binding.workspaceId == event.workspaceId && binding.enabled

/-- The delivery id of the connection has its row. -/
def GitHubDelivery.Known (delivery : GitHubDelivery) (s : Store) : Prop :=
  ∃ event ∈ s.incomingEvents, event.connectionId = delivery.connectionId ∧
    event.deliveryId = delivery.deliveryId

/-- What `ingest_github_event` asks of a delivery. -/
structure GitHubDelivery.Admissible (delivery : GitHubDelivery) (s : Store) : Prop where
  verified : delivery.verified = true
  named : delivery.deliveryId ≠ "" ∧ delivery.deliveryId.length ≤ 300
  connected : ∃ connection ∈ s.connections, connection.id = delivery.connectionId ∧
    connection.enabled = true ∧ connection.repositoryId = delivery.event.repositoryId
  /-- A known delivery comes back with the payload it is stored with. -/
  consistent : ∀ event ∈ s.incomingEvents, event.connectionId = delivery.connectionId →
    event.deliveryId = delivery.deliveryId →
      { delivery.event with observedAt := event.observedAt } = event.toNormalizedGitHubEvent

/-- The idempotency key under which an event is announced to a binding. -/
def notificationKey (eventId bindingId : UUID) : String :=
  "incoming:" ++ eventId.text ++ ":" ++ bindingId.text

/-- `uuid4` repeats nothing the store holds: the drawn event names no row, nor
the key of a job, and the jobs drawn for the bindings are new and distinct. -/
structure GitHubDelivery.DrawsFresh (delivery : GitHubDelivery) (s : Store) : Prop where
  event : ∀ e ∈ s.incomingEvents, e.id ≠ delivery.eventUuid
  keys : ∀ row ∈ s.outboxJobs, ∀ bindingId : UUID,
    row.idempotencyKey ≠ some (notificationKey delivery.eventUuid bindingId)
  jobs : ∀ row ∈ s.outboxJobs, ∀ n < s.syncBindings.length, row.id ≠ delivery.jobUuid n
  distinct : ∀ m n, m < n → n < s.syncBindings.length → delivery.jobUuid m ≠ delivery.jobUuid n

/-- What the inbox holds in every reachable store. -/
structure Store.IncomingKeyed (sha256 : String → String) (s : Store) : Prop where
  deliveries : Table.KeysUnique (fun event : IncomingEvent =>
    (event.connectionId, event.deliveryId)) s.incomingEvents
  fingerprints : ∀ event ∈ s.incomingEvents,
    event.payloadFingerprint = event.toNormalizedGitHubEvent.fingerprint sha256
  bindings : Table.KeysUnique SyncBinding.id s.syncBindings
  connections : Table.KeysUnique IntegrationConnection.id s.connections

/-- Rows of the inbox and bindings stay as they are, and new ones come behind
them. -/
def Store.IncomingGrow (sha256 : String → String) (s t : Store) : Prop :=
  s.IncomingKeyed sha256 → t.IncomingKeyed sha256 ∧
    (∃ added, t.incomingEvents = s.incomingEvents ++ added) ∧
    ∃ added, t.syncBindings = s.syncBindings ++ added

section Steps

variable {sha256 : String → String} {s t : Store} {event : IncomingEvent}

instance : Std.Refl (Store.IncomingGrow sha256) :=
  ⟨fun _ keyed => ⟨keyed, ⟨[], (List.append_nil _).symm⟩, [], (List.append_nil _).symm⟩⟩

instance : IsTrans Store (Store.IncomingGrow sha256) where
  trans _ _ _ h h' keyed := by
    obtain ⟨keyedNext, ⟨events, hEvents⟩, bindings, hBindings⟩ := h keyed
    obtain ⟨keyedLast, ⟨events', hEvents'⟩, bindings', hBindings'⟩ := h' keyedNext
    exact ⟨keyedLast, ⟨events ++ events', by rw [hEvents', hEvents, List.append_assoc]⟩,
      bindings ++ bindings', by rw [hBindings', hBindings, List.append_assoc]⟩

/-- Writes to other tables. -/
theorem Store.IncomingGrow.of_eq (hIncoming : t.incomingEvents = s.incomingEvents)
    (hBindings : t.syncBindings = s.syncBindings) (hConnections : t.connections = s.connections) :
    s.IncomingGrow sha256 t := by
  rintro ⟨hDeliveries, hFingerprints, hIds, hKeys⟩
  refine ⟨⟨?_, ?_, ?_, ?_⟩, ⟨[], by rw [hIncoming, List.append_nil]⟩, [],
    by rw [hBindings, List.append_nil]⟩
  · rwa [hIncoming]
  · rwa [hIncoming]
  · rwa [hBindings]
  · rwa [hConnections]

theorem Store.InboxFrame.incoming_grow (h : s.InboxFrame t) : s.IncomingGrow sha256 t :=
  .of_eq h.incoming h.syncBindings h.connections

theorem insertConnection_grow (connection : IntegrationConnection) :
    Respects (Store.IncomingGrow sha256) (insertConnection connection) := by
  intro s t u h keyed
  obtain ⟨hFresh, rfl⟩ := insertConnection_eq_ok h
  exact ⟨⟨keyed.deliveries, keyed.fingerprints, keyed.bindings,
    keyed.connections.append_singleton hFresh⟩,
    ⟨[], (List.append_nil _).symm⟩, [], (List.append_nil _).symm⟩

theorem insertBinding_grow (binding : SyncBinding) :
    Respects (Store.IncomingGrow sha256) (insertBinding binding) := by
  intro s t u h keyed
  obtain ⟨hFresh, rfl⟩ := insertBinding_eq_ok h
  exact ⟨⟨keyed.deliveries, keyed.fingerprints, keyed.bindings.append_singleton hFresh,
    keyed.connections⟩, ⟨[], (List.append_nil _).symm⟩, [binding], rfl⟩

/-- A first admission adds a row under a key no row carries. -/
theorem admit_grow (hFresh : ∀ e ∈ s.incomingEvents, e.connectionId = event.connectionId →
      e.deliveryId ≠ event.deliveryId)
    (hFingerprint : event.payloadFingerprint = event.toNormalizedGitHubEvent.fingerprint sha256) :
    s.IncomingGrow sha256 { s with incomingEvents := s.incomingEvents ++ [event] } := by
  intro keyed
  refine ⟨⟨keyed.deliveries.append_singleton ?_, ?_, keyed.bindings, keyed.connections⟩,
    ⟨[event], rfl⟩, [], (List.append_nil _).symm⟩
  · intro e he hSame
    exact hFresh e he (Prod.mk.inj hSame).1 (Prod.mk.inj hSame).2
  · intro e he
    rcases List.mem_append.mp he with hOld | hNew
    · exact keyed.fingerprints e hOld
    · rw [List.mem_singleton.mp hNew]
      exact hFingerprint

theorem ingestGithubEvent_grow (delivery : GitHubDelivery) :
    Respects (Store.IncomingGrow sha256) (ingestGithubEvent sha256 delivery) := by
  intro s t event h
  obtain ⟨_, _, _, _, rfl⟩ |
    ⟨hFresh, _, connection, _, hId, _, rfl, u, rfl, ⟨_, rfl⟩ | ⟨_, hNotify⟩⟩ :=
    ingestGithubEvent_eq_ok h
  · exact refl_of _ _
  · exact admit_grow (fun e he hSame => hFresh e he (hSame.trans hId)) rfl
  · exact trans_of _ (admit_grow (fun e he hSame => hFresh e he (hSame.trans hId)) rfl)
      (notifyBindings_frame _ _ _ _ hNotify).incoming_grow

/-- No call changes or removes a row of the inbox. -/
theorem IntakeCall.body_grow (call : IntakeCall) :
    Respects (Store.IncomingGrow sha256) (call.body sha256) := by
  cases call with
  | dispatch call =>
      exact .bind ((dispatch_frame sha256 call.property).mono fun _ _ h => h.incoming_grow)
        fun _ => .pure _
  | createConnection connection =>
      exact .bind (insertConnection_grow connection) fun _ => .pure _
  | createBinding binding => exact .bind (insertBinding_grow binding) fun _ => .pure _
  | createActorBinding actorBinding =>
      refine .bind ?_ fun _ => .pure _
      intro s t u h
      rw [insertActorBinding_eq_ok h]
      exact .of_eq rfl rfl rfl
  | ingestGithubEvent delivery => exact .bind (ingestGithubEvent_grow delivery) fun _ => .pure _
  | persistWecomInbound message =>
      refine .bind ?_ fun _ => .pure _
      rintro s t ⟨event, created⟩ h
      rcases persistWecomInbound_eq_ok h with
        ⟨_, _, _, _, rfl⟩ | ⟨_, _, _, _, _, _, _, _, _, rfl⟩ <;> exact .of_eq rfl rfl rfl
  | markWecomInboundProcessed eventId bindingId state operationId =>
      refine .bind ?_ fun _ => .pure _
      intro s t event h
      obtain ⟨_, _, _, _, _, _, _, rfl⟩ := markWecomInboundProcessed_eq_ok h
      exact .of_eq rfl rfl rfl
  | beginWecomChallengeObservation bindingId sourceEventRef =>
      refine .bind ?_ fun _ => .pure _
      rintro s t ⟨event, claimed⟩ h
      obtain ⟨_, _, _, _, ⟨_, _, _, rfl⟩ | ⟨_, _, _, rfl⟩ | ⟨_, _, _, rfl⟩⟩ :=
        beginWecomChallengeObservation_eq_ok h <;> exact .of_eq rfl rfl rfl
  | markWecomChallengeUnknown bindingId sourceEventRef =>
      refine .bind ?_ fun _ => .pure _
      intro s t event h
      obtain ⟨_, _, _, _, _, _, rfl⟩ := markWecomChallengeUnknown_eq_ok h
      exact .of_eq rfl rfl rfl
  | enqueueWecomChallengeReply bindingId sourceEventRef challengeId jobUuid now =>
      refine .bind ?_ fun _ => .pure _
      intro s t event h
      obtain ⟨_, _, _, _, ⟨_, rfl⟩ | ⟨_, u, _, _, hInsert, _, rfl⟩⟩ :=
        enqueueWecomChallengeReply_eq_ok h
      · exact refl_of _ _
      · obtain rfl := insertJob_appends hInsert
        exact .of_eq rfl rfl rfl

theorem performIntake_grow (action : IntakeAction) (system : IntakeSystem) :
    system.store.IncomingGrow sha256 (performIntake sha256 action system).2.store :=
  performIntake_respects IntakeCall.body_grow
    (fun draw stage => (stage.body_frame sha256 draw).mono fun _ _ h => h.incoming_grow) action
    system

end Steps

section Payloads

variable {sha256 : String → String}

theorem GitHubEventType.text_inj {a b : GitHubEventType} (h : a.text = b.text) : a = b := by
  cases a <;> cases b <;> simp [GitHubEventType.text] at h ⊢

/-- The fingerprinted text tells events apart up to their observation time. -/
theorem NormalizedGitHubEvent.fingerprintText_inj {event event' : NormalizedGitHubEvent}
    (h : event'.fingerprintText = event.fingerprintText) :
    { event' with observedAt := event.observedAt } = event := by
  have hPayload : event'.fingerprintPayload = event.fingerprintPayload := by
    refine Json.dumps_obj_inj rfl ?_ ?_ ?_ h
    · simp [fingerprintPayload]
    · simp [fingerprintPayload]
    · simp [fingerprintPayload]
  simp only [fingerprintPayload, List.cons.injEq, Prod.mk.injEq, true_and, and_true,
    Json.str.injEq, Json.int.injEq, Json.bool.injEq] at hPayload
  obtain ⟨hType, hAction, hRepository, hIssue, hSender, hLogin, hTitle, hBody, hSelf⟩ := hPayload
  have hEventType := GitHubEventType.text_inj hType
  cases event
  cases event'
  simp_all

end Payloads

section Progress

variable {sha256 : String → String} {s : Store} {incoming : IncomingEvent}
  {connection : IntegrationConnection} {jobUuid : Nat → UUID} {now : Timestamp}
  {delivery : GitHubDelivery}

theorem IncomingEvent.notification_valid (incoming : IncomingEvent)
    (connection : IntegrationConnection) (binding : SyncBinding) (uuid : UUID) (now : Timestamp) :
    (incoming.notification connection binding uuid now).valid = true := by
  refine OutboxJob.valid_iff.mpr ⟨atMost_of_le ?_, rfl, rfl⟩
  have hLead : "incoming:".length = 9 := rfl
  have hColon : ":".length = 1 := rfl
  simp only [String.length_append, incoming.id.canonical, binding.id.canonical, hLead, hColon]
  decide

/-- The job of a binding under a key no job carries is queued. -/
theorem notifyBinding_commits {binding : SyncBinding} {uuid : UUID} (now : Timestamp)
    (wf : s.WellFormed)
    (hConnection : ∃ c ∈ s.connections, c.id = connection.id)
    (hKey : ∀ row ∈ s.outboxJobs,
      row.idempotencyKey ≠ some (notificationKey incoming.id binding.id))
    (hJob : ∀ row ∈ s.outboxJobs, row.id ≠ uuid) :
    ∃ t, notifyBinding incoming connection uuid now binding s = .ok ((), t) ∧ t.WellFormed ∧
      t.connections = s.connections ∧ ∀ row ∈ t.outboxJobs, row ∈ s.outboxJobs ∨ row.id = uuid ∧
        row.idempotencyKey = some (notificationKey incoming.id binding.id) := by
  unfold notifyBinding
  split_ifs
  · let job := incoming.notification connection binding uuid now
    have hValid : (require job.valid .documentInvalid : StoreTransaction Unit) s = .ok ((), s) :=
      require_of_true (incoming.notification_valid ..) _ s
    have hFresh : s.board.Fresh job := ⟨fun j hj => hJob _ (wf.ofJob_mem hj), hConnection,
      fun j hj _ _ => hKey _ (wf.ofJob_mem hj)⟩
    have hInsert := (insertJob_eq_ok (u := ()) wf).mpr ⟨hFresh, rfl⟩
    refine ⟨_, (bind_of_ok hValid).trans hInsert, (insertJob_step wf hInsert).1, rfl, ?_⟩
    intro row hRow
    rcases List.mem_append.mp hRow with hOld | hNew
    · exact Or.inl hOld
    · rw [List.mem_singleton.mp hNew]
      exact Or.inr ⟨rfl, rfl⟩
  · exact ⟨s, rfl, wf, rfl, fun row hRow => Or.inl hRow⟩

/-- The loop runs to its end, since the jobs it queues stay apart. -/
theorem notifyBindings_commits {bindings : List SyncBinding} {n : Nat} (incoming : IncomingEvent)
    (connection : IntegrationConnection) (now : Timestamp) (wf : s.WellFormed)
    (hConnection : ∃ c ∈ s.connections, c.id = connection.id)
    (hBindings : Table.KeysUnique SyncBinding.id bindings)
    (hKeys : ∀ row ∈ s.outboxJobs, ∀ binding ∈ bindings,
      row.idempotencyKey ≠ some (notificationKey incoming.id binding.id))
    (hJobs : ∀ row ∈ s.outboxJobs, ∀ k < bindings.length, row.id ≠ jobUuid (n + k))
    (hDistinct : ∀ j k, j < k → k < bindings.length → jobUuid (n + j) ≠ jobUuid (n + k)) :
    ∃ t, notifyBindings incoming connection jobUuid now bindings n s = .ok ((), t) := by
  induction bindings generalizing s n with
  | nil => exact ⟨s, rfl⟩
  | cons binding rest ih =>
      obtain ⟨hApart, hRest⟩ := List.nodup_cons.mp hBindings
      have hShift : ∀ k, n + 1 + k = n + (k + 1) := fun k => by omega
      obtain ⟨u, hFirst, wfNext, hConnections, hQueued⟩ := notifyBinding_commits now wf
        hConnection (fun row hRow => hKeys row hRow binding List.mem_cons_self)
        (fun row hRow => hJobs row hRow 0 (Nat.zero_lt_succ _))
      obtain ⟨t, hLoop⟩ := ih (s := u) (n := n + 1) wfNext (hConnections ▸ hConnection) hRest
        (by
          intro row hRow other hOther
          rcases hQueued row hRow with hOld | ⟨_, hKey⟩
          · exact hKeys row hOld other (List.mem_cons_of_mem _ hOther)
          · rw [hKey]
            intro hSame
            have hId : binding.id = other.id := UUID.eq_of_append_eq (Option.some.inj hSame)
            exact hApart (hId ▸ List.mem_map_of_mem hOther))
        (by
          intro row hRow k hk
          rw [hShift]
          rcases hQueued row hRow with hOld | ⟨hDrawn, _⟩
          · exact hJobs row hOld (k + 1) (Nat.succ_lt_succ hk)
          · rw [hDrawn]
            exact hDistinct 0 (k + 1) (Nat.zero_lt_succ k) (Nat.succ_lt_succ hk))
        (by
          intro j k hjk hk
          rw [hShift, hShift]
          exact hDistinct (j + 1) (k + 1) (Nat.succ_lt_succ hjk) (Nat.succ_lt_succ hk))
      exact ⟨t, (bind_of_ok hFirst).trans hLoop⟩

theorem insertIncomingEvent_commits (incoming : IncomingEvent)
    (hIds : ∀ e ∈ s.incomingEvents, e.id ≠ incoming.id)
    (hConnection : ∃ c ∈ s.connections, c.id = incoming.connectionId)
    (hNew : ∀ e ∈ s.incomingEvents, e.connectionId = incoming.connectionId →
      e.deliveryId ≠ incoming.deliveryId) :
    insertIncomingEvent incoming s =
      .ok ((), { s with incomingEvents := s.incomingEvents ++ [incoming] }) := by
  have hFree : (s.incomingEvents.all fun e => e.id != incoming.id) = true := by
    simpa using hIds
  have hKnown : (s.connections.any fun connection => connection.id == incoming.connectionId) =
      true := by
    simpa using hConnection
  have hKey : (s.incomingEvents.all fun e => e.connectionId != incoming.connectionId ||
      e.deliveryId != incoming.deliveryId) = true := by
    simp only [List.all_eq_true, Bool.or_eq_true, bne_iff_ne]
    exact fun e he => or_iff_not_imp_left.mpr fun hSame => hNew e he (not_not.mp hSame)
  unfold insertIncomingEvent
  rw [fetch_bind, id_eq, bind_of_ok (require_of_true hFree _ s),
    bind_of_ok (require_of_true hKnown _ s), bind_of_ok (require_of_true hKey _ s), store_apply]

/-- The SELECT of an enabled connection finds the one with the identifier. -/
theorem Store.IncomingKeyed.find_connection (keyed : s.IncomingKeyed sha256)
    (hMem : connection ∈ s.connections) (hEnabled : connection.enabled = true) :
    s.connections.find? (fun c => c.id == connection.id && c.enabled) = some connection := by
  cases hFind : s.connections.find? (fun c => c.id == connection.id && c.enabled) with
  | none =>
      have hNone := List.find?_eq_none.mp hFind connection hMem
      simp [hEnabled] at hNone
  | some found =>
      obtain ⟨hFound, hWhere⟩ := find_some_eq hFind
      simp only [Bool.and_eq_true, beq_iff_eq] at hWhere
      rw [keyed.connections.eq hFound hMem hWhere.1]

/-- A delivery that passes the checks is admitted: a known one reads its row
back, a new one is stored and its notifications are queued. -/
theorem ingestGithubEvent_commits (wf : s.WellFormed) (keyed : s.IncomingKeyed sha256)
    (hAdmissible : delivery.Admissible s) (hDraws : delivery.Known s ∨ delivery.DrawsFresh s) :
    ∃ event t, ingestGithubEvent sha256 delivery s = .ok (event, t) := by
  obtain ⟨connection, hMem, hId, hEnabled, hRepository⟩ := hAdmissible.connected
  have hFind := keyed.find_connection hMem hEnabled
  have hNamed : (delivery.deliveryId != "" && decide (delivery.deliveryId.length ≤ 300)) =
      true := by
    simpa using hAdmissible.named
  have hFound : (expectRow (some connection) (.notFound "integration connection not found") :
      StoreTransaction _) s = .ok (connection, s) := expectRow_eq_ok.mpr ⟨rfl, rfl⟩
  unfold ingestGithubEvent
  rw [bind_of_ok (require_of_true hAdmissible.verified _ s),
    bind_of_ok (require_of_true hNamed _ s), fetch_bind, ← hId, hFind, bind_of_ok hFound,
    bind_of_ok (require_of_true (beq_iff_eq.mpr hRepository.symm) _ s), fetch_bind]
  cases hPrevious : s.incomingEvents.find? (fun e =>
      e.connectionId == connection.id && e.deliveryId == delivery.deliveryId) with
  | some previous =>
      obtain ⟨hStored, hKey⟩ := find_some_eq hPrevious
      simp only [Bool.and_eq_true, beq_iff_eq] at hKey
      have hPayload := hAdmissible.consistent previous hStored (hKey.1.trans hId) hKey.2
      have hSame : (previous.payloadFingerprint == delivery.event.fingerprint sha256) = true := by
        rw [beq_iff_eq, keyed.fingerprints previous hStored, ← hPayload]
        rfl
      exact ⟨previous, s, bind_of_ok (require_of_true hSame _ s)⟩
  | none =>
      have hNew : ∀ e ∈ s.incomingEvents, e.connectionId = connection.id →
          e.deliveryId ≠ delivery.deliveryId := by
        intro e he hSame hDelivery
        have hNone := List.find?_eq_none.mp hPrevious e he
        simp [hSame, hDelivery] at hNone
      have hFresh : delivery.DrawsFresh s := by
        refine hDraws.resolve_left ?_
        rintro ⟨e, he, hSame, hDelivery⟩
        exact hNew e he (hSame.trans hId.symm) hDelivery
      let incoming := delivery.incoming sha256 connection
      have hInsert := insertIncomingEvent_commits incoming hFresh.event
        ⟨connection, hMem, rfl⟩ hNew
      simp only
      rw [bind_of_ok hInsert]
      split_ifs
      · exact ⟨incoming, _, rfl⟩
      · have wfNext : Store.WellFormed { s with
            incomingEvents := s.incomingEvents ++ [incoming] } :=
          Store.SameDocuments.wellFormed (s := s) ⟨rfl, rfl, rfl⟩ wf
        have hLength : (s.bindingsOf connection).length ≤ s.syncBindings.length :=
          List.length_filter_le _ _
        obtain ⟨t, hNotify⟩ := notifyBindings_commits incoming connection delivery.now wfNext
          ⟨connection, hMem, rfl⟩
          (List.Nodup.sublist (List.Sublist.map _ List.filter_sublist) keyed.bindings)
          (fun row hRow binding _ => hFresh.keys row hRow binding.id)
          (fun row hRow k hk => by
            rw [Nat.zero_add]
            exact hFresh.jobs row hRow k (hk.trans_le hLength))
          (fun j k hjk hk => by
            rw [Nat.zero_add, Nat.zero_add]
            exact hFresh.distinct j k hjk (hk.trans_le hLength))
        rw [fetch_bind]
        exact ⟨incoming, t, bind_of_ok hNotify⟩

end Progress

section Runs

variable {sha256 : String → String} {s t : Store}

/-- What one admitted delivery did to the store. -/
structure Ingested (before after : Store) (delivery : GitHubDelivery) (event : IncomingEvent) :
    Prop where
  delivered : event.connectionId = delivery.connectionId ∧ event.deliveryId = delivery.deliveryId
  /-- A delivery whose event is known is a replay and changes nothing. -/
  replay : (∃ e ∈ before.incomingEvents, e.connectionId = delivery.connectionId ∧
    e.deliveryId = delivery.deliveryId) → event ∈ before.incomingEvents ∧ after = before
  /-- A new event is stored with one NOTIFY job per binding it is announced
  to, or with none if the connection caused it. -/
  first : (¬ ∃ e ∈ before.incomingEvents, e.connectionId = delivery.connectionId ∧
    e.deliveryId = delivery.deliveryId) →
      event.toNormalizedGitHubEvent = delivery.event ∧
      ((before.notified event).map SyncBinding.id).Nodup ∧
      ∃ jobs : List OutboxJob,
        after = { before with
          incomingEvents := before.incomingEvents ++ [event]
          outboxJobs := before.outboxJobs ++ jobs.map JobRow.ofJob } ∧
        jobs.map OutboxJob.bindingId =
          (if event.selfAuthored then []
            else (before.notified event).map fun binding => some binding.id) ∧
        ∀ job ∈ jobs, job.kind = .notify ∧ job.connectionId = event.connectionId ∧
          job.payload.get "eventId" = some (.str event.id.text)

/-- The loop queues one job per enabled binding, in the order of the rows. -/
theorem notifications_bindings {incoming : IncomingEvent} {connection : IntegrationConnection}
    {jobUuid : Nat → UUID} {now : Timestamp} (bindings : List SyncBinding) (n : Nat) :
    (notifications incoming connection jobUuid now bindings n).map OutboxJob.bindingId =
      (bindings.filter (·.enabled)).map fun binding => some binding.id := by
  induction bindings generalizing n with
  | nil => rfl
  | cons binding rest ih =>
      unfold notifications
      split_ifs with hEnabled
      · rw [List.filter_cons_of_pos hEnabled, List.map_cons, List.map_cons, ih]
        rfl
      · rw [List.filter_cons_of_neg hEnabled, ih]

theorem mem_notifications {incoming : IncomingEvent} {connection : IntegrationConnection}
    {jobUuid : Nat → UUID} {now : Timestamp} {bindings : List SyncBinding} {n : Nat}
    {job : OutboxJob} (h : job ∈ notifications incoming connection jobUuid now bindings n) :
    ∃ binding uuid, job = incoming.notification connection binding uuid now := by
  induction bindings generalizing n with
  | nil => cases h
  | cons binding rest ih =>
      unfold notifications at h
      split_ifs at h with hEnabled
      · rcases List.mem_cons.mp h with rfl | h
        · exact ⟨binding, _, rfl⟩
        · exact ih h
      · exact ih h

theorem bindingsOf_enabled (s : Store) (connection : IntegrationConnection)
    (delivery : GitHubDelivery) : (s.bindingsOf connection).filter (·.enabled) =
      s.notified (delivery.incoming sha256 connection) := by
  unfold Store.bindingsOf Store.notified
  rw [List.filter_filter]
  refine List.filter_congr fun binding _ => ?_
  rw [Bool.and_comm]
  rfl

theorem Store.IncomingKeyed.notified_nodup (keyed : s.IncomingKeyed sha256)
    (event : IncomingEvent) : ((s.notified event).map SyncBinding.id).Nodup :=
  List.Nodup.sublist (List.Sublist.map _ List.filter_sublist) keyed.bindings

/-- An admitted delivery is a replay or a first admission. -/
theorem ingestGithubEvent_ingested {delivery : GitHubDelivery} {event : IncomingEvent}
    (wf : s.WellFormed) (keyed : s.IncomingKeyed sha256)
    (h : ingestGithubEvent sha256 delivery s = .ok (event, t)) :
    Ingested s t delivery event ∧ event ∈ t.incomingEvents ∧
      event.payloadFingerprint = delivery.event.fingerprint sha256 := by
  obtain ⟨hMem, hConnection, hDelivery, hFingerprint, rfl⟩ |
    ⟨hFresh, _, connection, _, hId, _, rfl, u, rfl, hRest⟩ := ingestGithubEvent_eq_ok h
  · refine ⟨⟨⟨hConnection, hDelivery⟩, fun _ => ⟨hMem, rfl⟩, fun hNew => ?_⟩, hMem, hFingerprint⟩
    exact absurd ⟨event, hMem, hConnection, hDelivery⟩ hNew
  · have hReplay : ¬ ∃ e ∈ s.incomingEvents, e.connectionId = delivery.connectionId ∧
        e.deliveryId = delivery.deliveryId := by
      rintro ⟨e, he, hConnection, hDelivery⟩
      exact hFresh e he hConnection hDelivery
    rcases hRest with ⟨hSelf, rfl⟩ | ⟨hSelf, hNotify⟩
    · refine ⟨⟨⟨hId, rfl⟩, fun hOld => absurd hOld hReplay, fun _ =>
        ⟨rfl, keyed.notified_nodup _, [], by simp, by simp [hSelf], by simp⟩⟩,
        List.mem_append_right _ (List.mem_singleton_self _), rfl⟩
    · have wfNext : Store.WellFormed { s with
          incomingEvents := s.incomingEvents ++ [delivery.incoming sha256 connection] } :=
        Store.SameDocuments.wellFormed (s := s) ⟨rfl, rfl, rfl⟩ wf
      obtain ⟨_, _, rfl⟩ := notifyBindings_step Board.Discipline.free wfNext hNotify
      refine ⟨⟨⟨hId, rfl⟩, fun hOld => absurd hOld hReplay, fun _ =>
        ⟨rfl, keyed.notified_nodup _, _, rfl, ?_, ?_⟩⟩,
        List.mem_append_right _ (List.mem_singleton_self _), rfl⟩
      · rw [notifications_bindings, bindingsOf_enabled, hSelf]
        rfl
      · intro job hJob
        obtain ⟨binding, uuid, rfl⟩ := mem_notifications hJob
        exact ⟨rfl, rfl, rfl⟩

/-- The event admits a delivery, for the first time or again. -/
def ingests (delivery : GitHubDelivery) (event : IncomingEvent)
    (e : Event IntakeSystem IntakeAction IntakeOutput) : Prop :=
  e.input = .call (.ingestGithubEvent delivery) ∧ e.output = .called (.ok (.incoming event))

/-- What the inbox guarantees about the deliveries of a run. -/
structure IngestedOnce (sha256 : String → String) (actions : List IntakeAction) : Prop where
  /-- A delivery that passes the checks is admitted. -/
  accepts : ∀ e ∈ trace (performIntake sha256) actions {}, ∀ delivery,
    e.input = .call (.ingestGithubEvent delivery) → delivery.Admissible e.before.store →
      delivery.Known e.before.store ∨ delivery.DrawsFresh e.before.store →
        ∃ event, ingests delivery event e
  /-- No delivery of a connection has two rows. -/
  unique : ∀ connectionId deliveryId,
    (run (performIntake sha256) actions {}).store.incomingEvents.countP
      (fun e => e.connectionId == connectionId && e.deliveryId == deliveryId) ≤ 1
  /-- An admitted delivery has its one row for good. -/
  stored : ∀ e ∈ trace (performIntake sha256) actions {}, ∀ delivery event,
    ingests delivery event e →
      event ∈ (run (performIntake sha256) actions {}).store.incomingEvents ∧
      (run (performIntake sha256) actions {}).store.incomingEvents.countP
        (fun e => e.connectionId == delivery.connectionId &&
          e.deliveryId == delivery.deliveryId) = 1
  /-- First admissions queue the notifications, replays queue nothing. -/
  admitted : ∀ e ∈ trace (performIntake sha256) actions {}, ∀ delivery event,
    ingests delivery event e → Ingested e.before.store e.after.store delivery event
  /-- A delivery id that comes back with another payload is refused. -/
  refused : (trace (performIntake sha256) actions {}).Pairwise fun e f =>
    ∀ delivery event delivery', ingests delivery event e →
      f.input = .call (.ingestGithubEvent delivery') →
      delivery'.connectionId = delivery.connectionId →
      delivery'.deliveryId = delivery.deliveryId →
      { delivery'.event with observedAt := delivery.event.observedAt } ≠ delivery.event →
        (∃ error, f.output = .called (.error error)) ∧ f.after = f.before

/-- The invariant of the whole store the inbox needs. -/
structure IntakeSystem.Ingesting (sha256 : String → String) (system : IntakeSystem) : Prop where
  wellFormed : system.store.WellFormed
  keyed : system.store.IncomingKeyed sha256

theorem performIntake_ingesting (sha256 : String → String) :
    Preserves (performIntake sha256) (fun _ _ => True) (IntakeSystem.Ingesting sha256) :=
  fun system action h _ => ⟨(performIntake_advances sha256 action system h.wellFormed).1,
    (performIntake_grow action system h.keyed).1⟩

theorem IntakeSystem.ingesting_initial (sha256 : String → String) :
    IntakeSystem.Ingesting sha256 {} :=
  ⟨Store.initial_wellFormed, ⟨List.nodup_nil, nofun, List.nodup_nil, List.nodup_nil⟩⟩

theorem Store.IncomingKeyed.countP_eq_one {event : IncomingEvent}
    (keyed : s.IncomingKeyed sha256) (hMem : event ∈ s.incomingEvents) :
    s.incomingEvents.countP (fun e =>
      e.connectionId == event.connectionId && e.deliveryId == event.deliveryId) = 1 := by
  apply keyed.deliveries.countP_eq_one hMem
  intro x _
  rw [Bool.eq_iff_iff]
  simp

theorem Store.IncomingKeyed.countP_le (keyed : s.IncomingKeyed sha256) (connectionId : UUID)
    (deliveryId : String) : s.incomingEvents.countP
      (fun e => e.connectionId == connectionId && e.deliveryId == deliveryId) ≤ 1 := by
  by_cases hKnown : ∃ e ∈ s.incomingEvents, e.connectionId = connectionId ∧
      e.deliveryId = deliveryId
  · obtain ⟨e, he, rfl, rfl⟩ := hKnown
    exact Nat.le_of_eq (keyed.countP_eq_one he)
  · rw [List.countP_eq_zero.mpr]
    · exact Nat.zero_le 1
    · intro e he hKey
      simp only [Bool.and_eq_true, beq_iff_eq] at hKey
      exact hKnown ⟨e, he, hKey⟩

/-- An admitted delivery, as an event of the run. -/
theorem ingests_spec {delivery : GitHubDelivery} {event : IncomingEvent}
    {e : Event IntakeSystem IntakeAction IntakeOutput} (h : ingests delivery event e)
    (hBefore : e.before.Ingesting sha256)
    (hOutput : e.output = (performIntake sha256 e.input e.before).1)
    (hAfter : e.after = (performIntake sha256 e.input e.before).2) :
    Ingested e.before.store e.after.store delivery event ∧
      event ∈ e.after.store.incomingEvents ∧
      event.payloadFingerprint = delivery.event.fingerprint sha256 := by
  obtain ⟨hInput, hAnswer⟩ := h
  rw [hInput] at hOutput hAfter
  rw [hAnswer] at hOutput
  simp only [performIntake, IntakeOutput.called.injEq] at hOutput hAfter
  obtain ⟨_, _, hIngest, hPure⟩ := bind_eq_ok.mp (commit_eq_ok hOutput.symm)
  simp only [pure_apply, Except.ok.injEq, Prod.mk.injEq, IntakeAnswer.incoming.injEq] at hPure
  obtain ⟨rfl, hStore⟩ := hPure
  rw [hAfter]
  rw [hStore] at hIngest
  exact ingestGithubEvent_ingested hBefore.wellFormed hBefore.keyed hIngest

/-- A delivery that passes the checks, as an event of the run. -/
theorem ingests_of_admissible {delivery : GitHubDelivery}
    {e : Event IntakeSystem IntakeAction IntakeOutput} (hBefore : e.before.Ingesting sha256)
    (hOutput : e.output = (performIntake sha256 e.input e.before).1)
    (hInput : e.input = .call (.ingestGithubEvent delivery))
    (hAdmissible : delivery.Admissible e.before.store)
    (hDraws : delivery.Known e.before.store ∨ delivery.DrawsFresh e.before.store) :
    ∃ event, ingests delivery event e := by
  obtain ⟨event, t, hIngest⟩ :=
    ingestGithubEvent_commits hBefore.wellFormed hBefore.keyed hAdmissible hDraws
  have hBody : IntakeCall.body sha256 (.ingestGithubEvent delivery) e.before.store =
      .ok (.incoming event, t) := bind_of_ok hIngest
  refine ⟨event, hInput, ?_⟩
  rw [hOutput, hInput]
  simp only [performIntake, commit_of_ok hBody]

/-- A second payload under a stored delivery id rolls back. -/
theorem ingestGithubEvent_refuses {delivery delivery' : GitHubDelivery} {event : IncomingEvent}
    (keyed : s.IncomingKeyed sha256) (hMem : event ∈ s.incomingEvents)
    (hConnection : event.connectionId = delivery'.connectionId)
    (hDelivery : event.deliveryId = delivery'.deliveryId)
    (hFingerprint : event.payloadFingerprint = delivery.event.fingerprint sha256)
    (hDiffers : delivery'.event.fingerprint sha256 ≠ delivery.event.fingerprint sha256)
    {event' : IncomingEvent} : ingestGithubEvent sha256 delivery' s ≠ .ok (event', t) := by
  intro h
  obtain ⟨hMem', hConnection', hDelivery', hFingerprint', _⟩ | ⟨hFresh, _⟩ :=
    ingestGithubEvent_eq_ok h
  · obtain rfl : event' = event := keyed.deliveries.eq hMem' hMem
      (Prod.ext (hConnection'.trans hConnection.symm) (hDelivery'.trans hDelivery.symm))
    exact hDiffers (hFingerprint'.symm.trans hFingerprint)
  · exact hFresh event hMem hConnection hDelivery

theorem mem_ingestedTexts {actions : List IntakeAction} {delivery : GitHubDelivery}
    (h : .call (.ingestGithubEvent delivery) ∈ actions) :
    delivery.event.fingerprintText ∈ ingestedTexts actions :=
  List.mem_filterMap.mpr ⟨_, h, rfl⟩

/-- Every delivery of a webhook enters the inbox exactly once. -/
theorem delivery_ingested_exactly_once (sha256 : String → String) (actions : List IntakeAction)
    (hDigest : CollisionFree sha256 (ingestedTexts actions)) : IngestedOnce sha256 actions := by
  have hInvariant := performIntake_ingesting sha256
  have hAdmitted : Admitted (performIntake sha256) (fun _ _ => True) actions {} :=
    admitted_of_forall (fun _ _ => trivial) _ _
  have hStart := IntakeSystem.ingesting_initial sha256
  have hEvents := hInvariant.trace hStart hAdmitted
  have hFinal := hInvariant.run hStart hAdmitted
  have hKeeps : ∀ system action, IntakeSystem.Ingesting sha256 system → True →
      system.store.incomingEvents ⊆ (performIntake sha256 action system).2.store.incomingEvents := by
    intro system action h _
    have hGrow : system.store.IncomingGrow sha256 (performIntake sha256 action system).2.store :=
      performIntake_grow action system
    obtain ⟨_, ⟨added, hNext⟩, _⟩ := hGrow h.keyed
    exact hNext ▸ List.subset_append_left _ _
  have hLasting := trace_related_run (R := fun s t : IntakeSystem =>
      s.store.incomingEvents ⊆ t.store.incomingEvents) hInvariant (fun _ => List.Subset.refl _)
    (fun _ _ _ h h' => List.Subset.trans h h') hKeeps hStart hAdmitted
  have hLater := (trace_related (R := fun s t : IntakeSystem =>
      s.store.incomingEvents ⊆ t.store.incomingEvents) hInvariant (fun _ => List.Subset.refl _)
    (fun _ _ _ h h' => List.Subset.trans h h') hKeeps hStart hAdmitted).2
  have hSpec : ∀ e ∈ trace (performIntake sha256) actions {}, ∀ delivery event,
      ingests delivery event e → Ingested e.before.store e.after.store delivery event ∧
        event ∈ e.after.store.incomingEvents ∧
        event.payloadFingerprint = delivery.event.fingerprint sha256 := by
    intro e he delivery event hIngests
    obtain ⟨hBefore, _, hOutput, hAfter⟩ := hEvents e he
    exact ingests_spec hIngests hBefore hOutput hAfter
  refine ⟨?_, hFinal.keyed.countP_le, ?_, fun e he delivery event hIngests =>
    (hSpec e he delivery event hIngests).1, ?_⟩
  · intro e he delivery hInput hAdmissible hDraws
    obtain ⟨hBefore, _, hOutput, _⟩ := hEvents e he
    exact ingests_of_admissible hBefore hOutput hInput hAdmissible hDraws
  · intro e he delivery event hIngests
    obtain ⟨hIngested, hMem, _⟩ := hSpec e he delivery event hIngests
    have hStored := hLasting e he hMem
    rw [← hIngested.delivered.1, ← hIngested.delivered.2]
    exact ⟨hStored, hFinal.keyed.countP_eq_one hStored⟩
  · refine List.Pairwise.imp_of_mem ?_ hLater
    intro e f he hf hSubset delivery event delivery' hIngests hInput hConnection hDelivery hPayload
    obtain ⟨hIngested, hMem, hFingerprint⟩ := hSpec e he delivery event hIngests
    obtain ⟨hBefore, _, hOutput, hAfter⟩ := hEvents f hf
    have hTexts : delivery'.event.fingerprint sha256 ≠ delivery.event.fingerprint sha256 := by
      intro hSame
      apply hPayload
      apply NormalizedGitHubEvent.fingerprintText_inj
      exact hDigest _ (mem_ingestedTexts (hInput ▸ input_mem hf)) _
        (mem_ingestedTexts (hIngests.1 ▸ input_mem he)) hSame
    have hRefused : ∀ event' t, ingestGithubEvent sha256 delivery' f.before.store ≠
        .ok (event', t) := fun _ _ =>
      ingestGithubEvent_refuses hBefore.keyed
        (hSubset hMem) (hIngested.delivered.1.trans hConnection.symm)
        (hIngested.delivered.2.trans hDelivery.symm) hFingerprint hTexts
    rw [hInput] at hOutput hAfter
    simp only [performIntake] at hOutput hAfter
    rcases commit_cases (IntakeCall.body sha256 (.ingestGithubEvent delivery')) f.before.store with
      ⟨answer, t, hBody, _⟩ | ⟨error, _, hCommit⟩
    · obtain ⟨event', _, hIngest, _⟩ := bind_eq_ok.mp hBody
      exact absurd hIngest (hRefused event' _)
    · rw [hCommit] at hOutput hAfter
      exact ⟨⟨error, hOutput⟩, hAfter⟩

end Runs

section Sample

def sampleIssue (title : String) (observedAt : Timestamp) : NormalizedGitHubEvent where
  eventType := .issues
  action := "opened"
  repositoryId := "repository"
  issueNumber := 7
  senderId := "41"
  senderLogin := "octocat"
  title := title
  observedAt := observedAt

def sampleDelivery (title : String) (now : Timestamp) : GitHubDelivery where
  connectionId := sampleId 'c'
  deliveryId := "delivery"
  event := sampleIssue title now
  verified := true
  eventUuid := sampleId '0'
  jobUuid := fun _ => sampleId '1'
  now := now

/-- A delivery, its redelivery a second later, and another payload under the
same delivery id. -/
def sampleDeliveries : List IntakeAction := [
  .call (.createConnection sampleConnection),
  .call (.createBinding sampleBinding),
  .call (.ingestGithubEvent (sampleDelivery "Crash" 0)),
  .call (.ingestGithubEvent (sampleDelivery "Crash" (seconds 1))),
  .call (.ingestGithubEvent (sampleDelivery "Panic" (seconds 2)))]

/-- The SHA-256 digests of the two payloads. -/
def sampleDigests : List (String × String) := [
  ((sampleIssue "Crash" 0).fingerprintText,
    "dc09a841abf0d10b27c5cdee4dcb0ba3e18a084f4aa1a8c5b1a696e4d1d52008"),
  ((sampleIssue "Panic" 0).fingerprintText,
    "00a51bfa05eebbfc76796e4dd7d93568509a4585f72ae930eeb7d0535c586711")]

/-- The first delivery is stored and announced, the second one reads its row and the third
one is refused. -/
theorem delivery_ingested_exactly_once_sample :
    IngestedOnce (digestOf sampleDigests) sampleDeliveries ∧
      (trace (performIntake (digestOf sampleDigests)) sampleDeliveries {}).map
          (fun e => match e.output with
            | .called (.ok (.incoming event)) => some event.id
            | _ => none) = [none, none, some (sampleId '0'), some (sampleId '0'), none] ∧
      let store := (run (performIntake (digestOf sampleDigests)) sampleDeliveries {}).store
      store.incomingEvents.map (fun event => (event.id, event.title)) =
          [(sampleId '0', "Crash")] ∧
        store.outboxJobs.map (fun row => (row.kind, row.document.bindingId)) =
          [(.notify, some (sampleId 'b'))] := by
  refine ⟨delivery_ingested_exactly_once _ _ ?_, by decide +kernel, by decide +kernel⟩
  refine (digestOf_collisionFree (by decide)).mono ?_
  intro text hText
  have hTexts : ingestedTexts sampleDeliveries = [(sampleIssue "Crash" 0).fingerprintText,
      (sampleIssue "Crash" 0).fingerprintText, (sampleIssue "Panic" 0).fingerprintText] := rfl
  rw [hTexts] at hText
  simp only [sampleDigests, List.map_cons, List.map_nil, List.mem_cons, List.not_mem_nil,
    or_false] at hText ⊢
  rcases hText with hFirst | hSecond | hThird
  · exact Or.inl hFirst
  · exact Or.inl hSecond
  · exact Or.inr hThird

end Sample

end CyreneExchange.Integrations
