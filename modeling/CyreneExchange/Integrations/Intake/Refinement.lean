import CyreneExchange.Integrations.Intake.Frames

/-! The intake refines the board too: its methods deliver jobs and extend the
connections, and what they do to the inbox is that events appear and move
forward. -/
namespace CyreneExchange.Integrations

open Transaction

/-- The primary key of the inbox and its unique source columns. -/
structure EventsKeyed (events : List WeComInboundEvent) : Prop where
  ids : Table.KeysUnique WeComInboundEvent.id events
  sources : Table.KeysUnique (fun event : WeComInboundEvent =>
    (event.bindingId, event.sourceEventId)) events

/-- Inbound events move forward, and new ones come behind them. -/
structure EventsGrow (events events' : List WeComInboundEvent) : Prop where
  keyed : EventsKeyed events'
  follow : ∃ kept added, events' = kept ++ added ∧ EventsFollow events kept

/-- What any method does to the inbox. -/
def Store.EventsAdvance (s t : Store) : Prop :=
  EventsKeyed s.wecomInboundEvents → EventsGrow s.wecomInboundEvents t.wecomInboundEvents

theorem EventsFollow.split {events later kept : List WeComInboundEvent}
    (h : EventsFollow (events ++ later) kept) :
    ∃ first second, kept = first ++ second ∧ EventsFollow events first := by
  induction events generalizing kept with
  | nil => exact ⟨[], kept, rfl, .nil⟩
  | cons event rest ih =>
      cases h with
      | cons hHead hTail =>
          obtain ⟨first, second, rfl, hFirst⟩ := ih hTail
          exact ⟨_ :: first, second, rfl, .cons hHead hFirst⟩

theorem EventsFollow.keyed {events events' : List WeComInboundEvent}
    (h : EventsFollow events events') (keyed : EventsKeyed events) : EventsKeyed events' := by
  refine ⟨h.unique keyed.ids, ?_⟩
  have hSources : events'.map (fun event => (event.bindingId, event.sourceEventId)) =
      events.map (fun event => (event.bindingId, event.sourceEventId)) := by
    clear keyed
    induction h with
    | nil => rfl
    | cons hHead _ ih => rw [List.map_cons, List.map_cons, hHead.bindingId_eq, hHead.source_eq, ih]
  unfold Table.KeysUnique
  rw [hSources]
  exact keyed.sources

theorem EventsFollow.grow {events events' : List WeComInboundEvent}
    (h : EventsFollow events events') (keyed : EventsKeyed events) : EventsGrow events events' :=
  ⟨h.keyed keyed, _, [], (List.append_nil _).symm, h⟩

instance : Std.Refl Store.EventsAdvance := ⟨fun _ keyed => (EventsFollow.refl _).grow keyed⟩

instance : IsTrans Store Store.EventsAdvance where
  trans _ _ _ h h' keyed := by
    obtain ⟨keyedNext, kept, added, hNext, hKept⟩ := h keyed
    obtain ⟨keyedLast, kept', added', hLast, hKept'⟩ := h' keyedNext
    refine ⟨keyedLast, ?_⟩
    rw [hNext] at hKept'
    obtain ⟨first, second, hFirst, hFollow⟩ := hKept'.split
    exact ⟨first, second ++ added', by rw [hLast, hFirst, List.append_assoc],
      hKept.trans hFollow⟩

theorem Store.InboxFrame.advance {s t : Store} (h : s.InboxFrame t) : s.EventsAdvance t :=
  fun keyed => (h.events keyed.ids).grow keyed

theorem Store.EventsAdvance.of_eq {s t : Store}
    (h : t.wecomInboundEvents = s.wecomInboundEvents) : s.EventsAdvance t := by
  intro keyed
  rw [h]
  exact (EventsFollow.refl _).grow keyed

section Inbound

variable {s : Store} {event event' : WeComInboundEvent}

/-- Writing an event back under its own identifier. -/
theorem persistInbound_advance (hMem : event ∈ s.wecomInboundEvents)
    (hFollows : event.Follows event') {eventRef : String} (hRef : event.id.text = eventRef)
    (bindingId : UUID) : s.EventsAdvance { s with
      wecomInboundEvents := Table.updateWhere
        (fun e => e.id.text == eventRef && e.bindingId == bindingId) (fun _ => event')
        s.wecomInboundEvents } := by
  intro keyed
  have hFollow : EventsFollow s.wecomInboundEvents (Table.updateWhere
      (fun e => e.id.text == eventRef && e.bindingId == bindingId) (fun _ => event')
      s.wecomInboundEvents) := by
    refine .updateWhere fun e he hWhere => ?_
    simp only [Bool.and_eq_true, beq_iff_eq] at hWhere
    rw [keyed.ids.eq he hMem (UUID.ext_text (hWhere.1.trans hRef.symm))]
    exact hFollows
  exact hFollow.grow keyed

end Inbound

section Methods

variable {s t : Store} {event : WeComInboundEvent} {bindingId : UUID} {eventRef : String}

theorem insertJob_appends {job : OutboxJob} {u : Unit} (h : insertJob job s = .ok (u, t)) :
    t = { s with outboxJobs := s.outboxJobs ++ [JobRow.ofJob job] } := by
  unfold insertJob at h
  rw [fetch_bind] at h
  iterate 3
    obtain ⟨_, _, hRequire, h⟩ := bind_eq_ok.mp h
    obtain ⟨_, rfl⟩ := require_eq_ok.mp hRequire
  cases h
  rfl

theorem insertOperation_appends {operation : Operation} {u : Unit}
    (h : insertOperation operation s = .ok (u, t)) :
    t = { s with operations := s.operations ++ [OperationRow.ofOperation operation] } := by
  unfold insertOperation at h
  rw [fetch_bind] at h
  iterate 3
    obtain ⟨_, _, hRequire, h⟩ := bind_eq_ok.mp h
    obtain ⟨_, rfl⟩ := require_eq_ok.mp hRequire
  cases h
  rfl

/-- The selected event, or the error for a missing one. -/
theorem selectInbound_bind {α : Type} {e : StoreError}
    {rest : WeComInboundEvent → StoreTransaction α} {a : α}
    (h : (do
      let found ← selectInbound eventRef bindingId
      let event ← expectRow found e
      rest event : StoreTransaction α) s = .ok (a, t)) :
    ∃ event ∈ s.wecomInboundEvents, event.id.text = eventRef ∧ event.bindingId = bindingId ∧
      rest event s = .ok (a, t) := by
  obtain ⟨found, _, hSelect, h⟩ := bind_eq_ok.mp h
  cases hSelect
  obtain ⟨event, _, hExpect, h⟩ := bind_eq_ok.mp h
  obtain ⟨hFound, rfl⟩ := expectRow_eq_ok.mp hExpect
  obtain ⟨hMem, hWhere⟩ := find_some_eq hFound
  simp only [Bool.and_eq_true, beq_iff_eq] at hWhere
  exact ⟨event, hMem, hWhere.1, hWhere.2, h⟩

theorem requireSourceOperation_reads {state : WeComEventState} {operationId : Option UUID}
    {eventId : UUID} :
    Respects Eq (requireSourceOperation state operationId event eventId bindingId) := by
  unfold requireSourceOperation
  split_ifs
  · split
    · exact .reject _
    · exact .bind (.fetch _) fun _ => .bind (expectRow_reads _ _) fun _ =>
        .bind (readOperation_reads _) fun _ => .require _ _
  · exact .pure ()

/-- What a committed `mark_wecom_inbound_processed` did. -/
theorem markWecomInboundProcessed_eq_ok {eventId : UUID} {state : WeComEventState}
    {operationId : Option UUID}
    (h : markWecomInboundProcessed eventId bindingId state operationId s = .ok (event, t)) :
    ∃ event₀ ∈ s.wecomInboundEvents, event₀.id = eventId ∧ event₀.bindingId = bindingId ∧
      state.processed = true ∧ (event₀.state = .received ∨ event₀.state = state) ∧
      event = { event₀ with state := state, operationId := operationId } ∧
      t = { s with
        wecomInboundEvents := Table.updateWhere
          (fun e => e.id.text == eventId.text && e.bindingId == bindingId) (fun _ => event)
          s.wecomInboundEvents } := by
  unfold markWecomInboundProcessed at h
  obtain ⟨_, _, hState, h⟩ := bind_eq_ok.mp h
  obtain ⟨hProcessed, rfl⟩ := require_eq_ok.mp hState
  obtain ⟨event₀, hMem, hId, hBinding, h⟩ := selectInbound_bind h
  obtain ⟨_, _, hRequire, h⟩ := bind_eq_ok.mp h
  obtain ⟨hBefore, rfl⟩ := require_eq_ok.mp hRequire
  obtain ⟨_, _, hRequire, h⟩ := bind_eq_ok.mp h
  obtain ⟨_, rfl⟩ := require_eq_ok.mp hRequire
  obtain ⟨_, u, hSource, h⟩ := bind_eq_ok.mp h
  obtain rfl := requireSourceOperation_reads hSource
  simp only [persistInbound, store_bind, pure_apply, Except.ok.injEq, Prod.mk.injEq] at h
  obtain ⟨rfl, rfl⟩ := h
  simp only [Bool.or_eq_true, beq_iff_eq] at hBefore
  exact ⟨event₀, hMem, UUID.ext_text hId, hBinding, hProcessed, hBefore, rfl, rfl⟩

/-- The event a method writes back, and the store it leaves. -/
def Store.putInbound (s : Store) (event : WeComInboundEvent) (eventRef : String)
    (bindingId : UUID) : Store :=
  { s with
    wecomInboundEvents := Table.updateWhere
      (fun e => e.id.text == eventRef && e.bindingId == bindingId) (fun _ => event)
      s.wecomInboundEvents }

/-- What a committed `begin_wecom_challenge_observation` did: it claims only
an event that is still RECEIVED. -/
theorem beginWecomChallengeObservation_eq_ok {claimed : Bool}
    (h : beginWecomChallengeObservation bindingId eventRef s = .ok ((event, claimed), t)) :
    ∃ event₀ ∈ s.wecomInboundEvents, event₀.id.text = eventRef ∧ event₀.bindingId = bindingId ∧
      ((claimed = true ∧ event₀.state = .received ∧
          event = { event₀ with state := .challengeObserving } ∧
          t = s.putInbound event event₀.id.text bindingId) ∨
        (claimed = false ∧ event₀.state = .challengeObserving ∧
          event = { event₀ with state := .challengeUnknown } ∧
          t = s.putInbound event event₀.id.text bindingId) ∨
        (claimed = false ∧ event₀.state ≠ .received ∧ event = event₀ ∧ t = s)) := by
  unfold beginWecomChallengeObservation at h
  obtain ⟨event₀, hMem, hId, hBinding, h⟩ := selectInbound_bind h
  refine ⟨event₀, hMem, hId, hBinding, ?_⟩
  split_ifs at h with hReceived hObserving
  · simp only [persistInbound, store_bind, pure_apply, Except.ok.injEq, Prod.mk.injEq] at h
    obtain ⟨⟨rfl, rfl⟩, rfl⟩ := h
    exact Or.inl ⟨rfl, hReceived, rfl, rfl⟩
  · simp only [persistInbound, store_bind, pure_apply, Except.ok.injEq, Prod.mk.injEq] at h
    obtain ⟨⟨rfl, rfl⟩, rfl⟩ := h
    exact Or.inr (Or.inl ⟨rfl, hObserving, rfl, rfl⟩)
  · simp only [pure_apply, Except.ok.injEq, Prod.mk.injEq] at h
    obtain ⟨⟨rfl, rfl⟩, rfl⟩ := h
    exact Or.inr (Or.inr ⟨rfl, hReceived, rfl, rfl⟩)

theorem markWecomChallengeUnknown_eq_ok
    (h : markWecomChallengeUnknown bindingId eventRef s = .ok (event, t)) :
    ∃ event₀ ∈ s.wecomInboundEvents, event₀.id.text = eventRef ∧ event₀.bindingId = bindingId ∧
      (event₀.state = .challengeObserving ∨ event₀.state = .challengeUnknown) ∧
      event = { event₀ with state := .challengeUnknown } ∧
      t = s.putInbound event event₀.id.text bindingId := by
  unfold markWecomChallengeUnknown at h
  obtain ⟨event₀, hMem, hId, hBinding, h⟩ := selectInbound_bind h
  obtain ⟨_, _, hRequire, h⟩ := bind_eq_ok.mp h
  obtain ⟨hState, rfl⟩ := require_eq_ok.mp hRequire
  simp only [persistInbound, store_bind, pure_apply, Except.ok.injEq, Prod.mk.injEq] at h
  obtain ⟨rfl, rfl⟩ := h
  simp only [Bool.or_eq_true, beq_iff_eq] at hState
  exact ⟨event₀, hMem, hId, hBinding, hState, rfl, rfl⟩

/-- What a committed `enqueue_wecom_challenge_reply` did: nothing for a replay,
otherwise one reply job and the event's new state. -/
theorem enqueueWecomChallengeReply_eq_ok {challengeId : String} {jobUuid : UUID}
    {now : Timestamp}
    (h : enqueueWecomChallengeReply bindingId eventRef challengeId jobUuid now s =
      .ok (event, t)) :
    ∃ event₀ ∈ s.wecomInboundEvents, event₀.id.text = eventRef ∧ event₀.bindingId = bindingId ∧
      ((event = event₀ ∧ t = s) ∨
        ∃ binding u, binding ∈ s.syncBindings ∧
          (event₀.challengeReply binding challengeId jobUuid now).valid = true ∧
          insertJob (event₀.challengeReply binding challengeId jobUuid now) s = .ok ((), u) ∧
          event = { event₀ with state := .challengeReplyPending, challengeId := some challengeId } ∧
          t = u.putInbound event event₀.id.text bindingId) := by
  unfold enqueueWecomChallengeReply at h
  obtain ⟨_, _, hRequire, h⟩ := bind_eq_ok.mp h
  obtain ⟨_, rfl⟩ := require_eq_ok.mp hRequire
  obtain ⟨event₀, hMem, hId, hBinding, h⟩ := selectInbound_bind h
  refine ⟨event₀, hMem, hId, hBinding, ?_⟩
  obtain ⟨_, _, hRequire, h⟩ := bind_eq_ok.mp h
  obtain ⟨_, rfl⟩ := require_eq_ok.mp hRequire
  obtain ⟨_, _, hRequire, h⟩ := bind_eq_ok.mp h
  obtain ⟨_, rfl⟩ := require_eq_ok.mp hRequire
  obtain ⟨found, _, hSelect, h⟩ := bind_eq_ok.mp h
  cases hSelect
  obtain ⟨binding, _, hExpect, h⟩ := bind_eq_ok.mp h
  obtain ⟨hFound, rfl⟩ := expectRow_eq_ok.mp hExpect
  obtain ⟨_, _, hRequire, h⟩ := bind_eq_ok.mp h
  obtain ⟨_, rfl⟩ := require_eq_ok.mp hRequire
  rw [fetch_bind] at h
  split_ifs at h with hExisting
  · simp only [pure_apply, Except.ok.injEq, Prod.mk.injEq] at h
    exact Or.inl ⟨h.1.symm, h.2.symm⟩
  · obtain ⟨_, _, hRequire, h⟩ := bind_eq_ok.mp h
    obtain ⟨_, rfl⟩ := require_eq_ok.mp hRequire
    obtain ⟨_, _, hRequire, h⟩ := bind_eq_ok.mp h
    obtain ⟨hValid, rfl⟩ := require_eq_ok.mp hRequire
    obtain ⟨_, u, hInsert, h⟩ := bind_eq_ok.mp h
    simp only [persistInbound, store_bind, pure_apply, Except.ok.injEq, Prod.mk.injEq] at h
    obtain ⟨rfl, rfl⟩ := h
    exact Or.inr ⟨binding, u, (find_some_eq hFound).1, hValid, hInsert, rfl, rfl⟩

theorem insertWecomInboundEvent_eq_ok {u : Unit}
    (h : insertWecomInboundEvent event s = .ok (u, t)) :
    (∀ e ∈ s.wecomInboundEvents, e.id ≠ event.id) ∧
      (∀ e ∈ s.wecomInboundEvents,
        (e.bindingId, e.sourceEventId) ≠ (event.bindingId, event.sourceEventId)) ∧
      t = { s with wecomInboundEvents := s.wecomInboundEvents ++ [event] } := by
  unfold insertWecomInboundEvent at h
  rw [fetch_bind] at h
  simp only [bind_eq_ok, require_eq_ok, store_apply, Except.ok.injEq, Prod.mk.injEq, id] at h
  obtain ⟨_, _, ⟨hFresh, rfl⟩, _, _, ⟨_, rfl⟩, _, _, ⟨hSource, rfl⟩, _, rfl⟩ := h
  simp only [List.all_eq_true, bne_iff_ne, Bool.or_eq_true] at hFresh hSource
  refine ⟨hFresh, fun e he hSame => ?_, rfl⟩
  rcases hSource e he with hBinding | hEvent
  · exact hBinding (Prod.mk.inj hSame).1
  · exact hEvent (Prod.mk.inj hSame).2

/-- What a committed `persist_wecom_inbound` did: it found the event, or
inserted a new one under a fresh identifier. -/
theorem persistWecomInbound_eq_ok {sha256 : String → String} {message : WeComMessage}
    {created : Bool} (h : persistWecomInbound sha256 message s = .ok ((event, created), t)) :
    (created = false ∧ event ∈ s.wecomInboundEvents ∧ event.bindingId = message.bindingId ∧
        event.sourceEventId = message.sourceEventId ∧ t = s) ∨
      (created = true ∧ (∀ e ∈ s.wecomInboundEvents, e.id ≠ event.id) ∧
        (∀ e ∈ s.wecomInboundEvents,
          (e.bindingId, e.sourceEventId) ≠ (event.bindingId, event.sourceEventId)) ∧
        ∃ binding ∈ s.syncBindings, binding.id = message.bindingId ∧
          binding.organizationId = message.expectedOrganizationId ∧
          binding.workspaceId = message.expectedWorkspaceId ∧
          event = message.event sha256 binding ∧
          t = { s with wecomInboundEvents := s.wecomInboundEvents ++ [event] }) := by
  unfold persistWecomInbound at h
  iterate 8
    obtain ⟨_, _, hRequire, h⟩ := bind_eq_ok.mp h
    obtain ⟨_, rfl⟩ := require_eq_ok.mp hRequire
  obtain ⟨found, _, hSelect, h⟩ := bind_eq_ok.mp h
  cases hSelect
  obtain ⟨binding, _, hExpect, h⟩ := bind_eq_ok.mp h
  obtain ⟨hFound, rfl⟩ := expectRow_eq_ok.mp hExpect
  obtain ⟨_, _, hRequire, h⟩ := bind_eq_ok.mp h
  obtain ⟨hScope, rfl⟩ := require_eq_ok.mp hRequire
  iterate 2
    obtain ⟨_, _, hRequire, h⟩ := bind_eq_ok.mp h
    obtain ⟨_, rfl⟩ := require_eq_ok.mp hRequire
  simp only [Bool.and_eq_true, beq_iff_eq] at hScope
  rw [fetch_bind] at h
  cases hPrevious : s.wecomInboundEvents.find? (fun e =>
      e.bindingId == message.bindingId && e.sourceEventId == message.sourceEventId) with
  | some previous =>
      simp only [hPrevious] at h
      obtain ⟨_, _, hRequire, h⟩ := bind_eq_ok.mp h
      obtain ⟨_, rfl⟩ := require_eq_ok.mp hRequire
      simp only [pure_apply, Except.ok.injEq, Prod.mk.injEq] at h
      obtain ⟨⟨rfl, rfl⟩, rfl⟩ := h
      obtain ⟨hMem, hWhere⟩ := find_some_eq hPrevious
      simp only [Bool.and_eq_true, beq_iff_eq] at hWhere
      exact Or.inl ⟨rfl, hMem, hWhere.1, hWhere.2, rfl⟩
  | none =>
      simp only [hPrevious] at h
      obtain ⟨_, u, hInsert, h⟩ := bind_eq_ok.mp h
      simp only [pure_apply, Except.ok.injEq, Prod.mk.injEq] at h
      obtain ⟨⟨rfl, rfl⟩, rfl⟩ := h
      obtain ⟨hFresh, hSource, rfl⟩ := insertWecomInboundEvent_eq_ok hInsert
      exact Or.inr ⟨rfl, hFresh, hSource, binding, (find_some_eq hFound).1,
        beq_iff_eq.mp (find_some_eq hFound).2, hScope.1, hScope.2, rfl, rfl⟩

end Methods

section GitHub

variable {s t : Store}

/-- The NOTIFY jobs the loop over the bindings queues. -/
def notifications (incoming : IncomingEvent) (connection : IntegrationConnection)
    (jobUuid : Nat → UUID) (now : Timestamp) : List SyncBinding → Nat → List OutboxJob
  | [], _ => []
  | binding :: rest, n =>
      if binding.enabled then
        incoming.notification connection binding (jobUuid n) now ::
          notifications incoming connection jobUuid now rest (n + 1)
      else notifications incoming connection jobUuid now rest (n + 1)

/-- The loop delivers one job per enabled binding and does nothing else. -/
theorem notifyBindings_step (rules : Board.Discipline) {incoming : IncomingEvent}
    {connection : IntegrationConnection} {jobUuid : Nat → UUID} {now : Timestamp}
    {bindings : List SyncBinding} {n : Nat} {u : Unit} (wf : s.WellFormed)
    (h : notifyBindings incoming connection jobUuid now bindings n s = .ok (u, t)) :
    t.WellFormed ∧ Board.Moves rules s.board t.board ∧ t = { s with
      outboxJobs := s.outboxJobs ++
        (notifications incoming connection jobUuid now bindings n).map JobRow.ofJob } := by
  induction bindings generalizing s n with
  | nil =>
      cases h
      exact ⟨wf, Relation.ReflTransGen.refl, by simp [notifications]⟩
  | cons binding rest ih =>
      obtain ⟨_, v, hFirst, hRest⟩ := bind_eq_ok.mp h
      unfold notifyBinding at hFirst
      unfold notifications
      split_ifs at hFirst ⊢ with hEnabled
      · obtain ⟨_, _, hRequire, hInsert⟩ := bind_eq_ok.mp hFirst
        obtain ⟨hValid, rfl⟩ := require_eq_ok.mp hRequire
        obtain ⟨wfNext, hBoard, hFresh⟩ := insertJob_step wf hInsert
        obtain ⟨-, hNext⟩ := (insertJob_eq_ok wf).mp hInsert
        obtain ⟨wfLast, hMoves, hLast⟩ := ih wfNext hRest
        refine ⟨wfLast, Relation.ReflTransGen.head ?_ hMoves, ?_⟩
        · rw [hBoard]
          exact .deliver _ hFresh hValid (Or.inl rfl) rfl rfl rfl rfl
        · rw [hLast, hNext]
          simp
      · cases hFirst
        exact ih wf hRest

/-- What a committed `ingest_github_event` did: nothing for a replay of the
same payload, otherwise one inbox row and, unless the connection caused the
event itself, one notification for each enabled binding. -/
theorem ingestGithubEvent_eq_ok {sha256 : String → String} {delivery : GitHubDelivery}
    {event : IncomingEvent} (h : ingestGithubEvent sha256 delivery s = .ok (event, t)) :
    (event ∈ s.incomingEvents ∧ event.connectionId = delivery.connectionId ∧
        event.deliveryId = delivery.deliveryId ∧
        event.payloadFingerprint = delivery.event.fingerprint sha256 ∧ t = s) ∨
      ((∀ e ∈ s.incomingEvents, e.connectionId = delivery.connectionId →
          e.deliveryId ≠ delivery.deliveryId) ∧
        (∀ e ∈ s.incomingEvents, e.id ≠ event.id) ∧
        ∃ connection ∈ s.connections, connection.id = delivery.connectionId ∧
          connection.enabled = true ∧ event = delivery.incoming sha256 connection ∧
          ∃ u, u = { s with incomingEvents := s.incomingEvents ++ [event] } ∧
            ((event.selfAuthored = true ∧ t = u) ∨
              (event.selfAuthored = false ∧ notifyBindings event connection delivery.jobUuid
                delivery.now (s.bindingsOf connection) 0 u = .ok ((), t)))) := by
  unfold ingestGithubEvent at h
  iterate 2
    obtain ⟨_, _, hRequire, h⟩ := bind_eq_ok.mp h
    obtain ⟨_, rfl⟩ := require_eq_ok.mp hRequire
  rw [fetch_bind] at h
  obtain ⟨connection, _, hExpect, h⟩ := bind_eq_ok.mp h
  obtain ⟨hFound, rfl⟩ := expectRow_eq_ok.mp hExpect
  obtain ⟨hConnection, hWhere⟩ := find_some_eq hFound
  simp only [Bool.and_eq_true, beq_iff_eq] at hWhere
  obtain ⟨_, _, hRequire, h⟩ := bind_eq_ok.mp h
  obtain ⟨_, rfl⟩ := require_eq_ok.mp hRequire
  rw [fetch_bind] at h
  cases hPrevious : s.incomingEvents.find? (fun e =>
      e.connectionId == delivery.connectionId && e.deliveryId == delivery.deliveryId) with
  | some previous =>
      simp only [hPrevious] at h
      obtain ⟨_, _, hRequire, h⟩ := bind_eq_ok.mp h
      obtain ⟨hSame, rfl⟩ := require_eq_ok.mp hRequire
      cases h
      obtain ⟨hMem, hKey⟩ := find_some_eq hPrevious
      simp only [Bool.and_eq_true, beq_iff_eq] at hKey
      exact Or.inl ⟨hMem, hKey.1, hKey.2, beq_iff_eq.mp hSame, rfl⟩
  | none =>
      simp only [hPrevious] at h
      obtain ⟨_, u, hInsert, h⟩ := bind_eq_ok.mp h
      unfold insertIncomingEvent at hInsert
      rw [fetch_bind] at hInsert
      simp only [bind_eq_ok, require_eq_ok, store_apply, Except.ok.injEq, Prod.mk.injEq, id]
        at hInsert
      obtain ⟨_, _, ⟨hFresh, rfl⟩, _, _, ⟨_, rfl⟩, _, _, ⟨_, rfl⟩, _, rfl⟩ := hInsert
      simp only [List.all_eq_true, bne_iff_ne] at hFresh
      have hNew : ∀ e ∈ s.incomingEvents, e.connectionId = delivery.connectionId →
          e.deliveryId ≠ delivery.deliveryId := by
        intro e he hEq hSame
        have hNone := List.find?_eq_none.mp hPrevious e he
        simp [hEq, hSame] at hNone
      split_ifs at h with hSelf
      · cases h
        exact Or.inr ⟨hNew, hFresh, connection, hConnection, hWhere.1, hWhere.2, rfl, _, rfl,
          Or.inl ⟨hSelf, rfl⟩⟩
      · rw [fetch_bind] at h
        obtain ⟨_, v, hNotify, h⟩ := bind_eq_ok.mp h
        cases h
        exact Or.inr ⟨hNew, hFresh, connection, hConnection, hWhere.1, hWhere.2, rfl, _, rfl,
          Or.inr ⟨by simpa using hSelf, hNotify⟩⟩

end GitHub

section Calls

variable {s t : Store} {rules : Board.Discipline}

theorem putInbound_documents (s : Store) (event : WeComInboundEvent) (eventRef : String)
    (bindingId : UUID) : s.SameDocuments (s.putInbound event eventRef bindingId) :=
  ⟨rfl, rfl, rfl⟩

/-- A call that leaves the documents alone moves nothing on the board. -/
theorem Store.SameDocuments.moves (h : s.SameDocuments t) (wf : s.WellFormed) :
    t.WellFormed ∧ Board.Moves rules s.board t.board := by
  refine ⟨h.wellFormed wf, ?_⟩
  rw [h.board]
  exact Relation.ReflTransGen.refl

theorem enqueueWecomChallengeReply_moves {bindingId : UUID} {eventRef challengeId : String}
    {jobUuid : UUID} {now : Timestamp} {event : WeComInboundEvent} (wf : s.WellFormed)
    (h : enqueueWecomChallengeReply bindingId eventRef challengeId jobUuid now s =
      .ok (event, t)) : t.WellFormed ∧ Board.Moves rules s.board t.board := by
  obtain ⟨event₀, _, _, _, ⟨_, rfl⟩ | ⟨binding, u, _, hValid, hInsert, _, rfl⟩⟩ :=
    enqueueWecomChallengeReply_eq_ok h
  · exact ⟨wf, Relation.ReflTransGen.refl⟩
  · obtain ⟨wfNext, hBoard, hFresh⟩ := insertJob_step wf hInsert
    refine ⟨(putInbound_documents ..).wellFormed wfNext, ?_⟩
    rw [(putInbound_documents ..).board, hBoard]
    exact Relation.ReflTransGen.single
      (.deliver _ hFresh hValid (Or.inr rfl) rfl rfl rfl rfl)

theorem ingestGithubEvent_moves {sha256 : String → String} {delivery : GitHubDelivery}
    {event : IncomingEvent} (wf : s.WellFormed)
    (h : ingestGithubEvent sha256 delivery s = .ok (event, t)) :
    t.WellFormed ∧ Board.Moves rules s.board t.board := by
  obtain ⟨_, _, _, _, rfl⟩ | ⟨_, _, connection, _, _, _, _, u, rfl, ⟨_, rfl⟩ | ⟨_, hNotify⟩⟩ :=
    ingestGithubEvent_eq_ok h
  · exact ⟨wf, Relation.ReflTransGen.refl⟩
  · exact Store.SameDocuments.moves ⟨rfl, rfl, rfl⟩ wf
  · have wfNext : Store.WellFormed { s with
        incomingEvents := s.incomingEvents ++ [event] } :=
      Store.SameDocuments.wellFormed (s := s) ⟨rfl, rfl, rfl⟩ wf
    obtain ⟨wfLast, hMoves, _⟩ := notifyBindings_step rules wfNext hNotify
    exact ⟨wfLast, hMoves⟩

theorem insertConnection_eq_ok {connection : IntegrationConnection} {u : Unit}
    (h : insertConnection connection s = .ok (u, t)) :
    (∀ c ∈ s.connections, c.id ≠ connection.id) ∧
      t = { s with connections := s.connections ++ [connection] } := by
  unfold insertConnection at h
  rw [fetch_bind] at h
  obtain ⟨_, _, hRequire, h⟩ := bind_eq_ok.mp h
  obtain ⟨hFresh, rfl⟩ := require_eq_ok.mp hRequire
  cases h
  simp only [List.all_eq_true, bne_iff_ne] at hFresh
  exact ⟨hFresh, rfl⟩

theorem insertBinding_eq_ok {binding : SyncBinding} {u : Unit}
    (h : insertBinding binding s = .ok (u, t)) : (∀ b ∈ s.syncBindings, b.id ≠ binding.id) ∧
      t = { s with syncBindings := s.syncBindings ++ [binding] } := by
  unfold insertBinding at h
  rw [fetch_bind] at h
  obtain ⟨_, _, hRequire, h⟩ := bind_eq_ok.mp h
  obtain ⟨hFresh, rfl⟩ := require_eq_ok.mp hRequire
  obtain ⟨_, _, hRequire, h⟩ := bind_eq_ok.mp h
  obtain ⟨_, rfl⟩ := require_eq_ok.mp hRequire
  cases h
  simp only [List.all_eq_true, bne_iff_ne] at hFresh
  exact ⟨hFresh, rfl⟩

theorem insertActorBinding_eq_ok {actorBinding : ActorBinding} {u : Unit}
    (h : insertActorBinding actorBinding s = .ok (u, t)) :
    t = { s with actorBindings := s.actorBindings ++ [actorBinding] } := by
  unfold insertActorBinding at h
  rw [fetch_bind] at h
  iterate 3
    obtain ⟨_, _, hRequire, h⟩ := bind_eq_ok.mp h
    obtain ⟨_, rfl⟩ := require_eq_ok.mp hRequire
  cases h
  rfl

/-- A dispatching call admits no operation, so it keeps every rule about
admission. -/
theorem DispatchCall.keeps (sha256 : String → String) (call : DispatchCall)
    (hFree : ∀ job, rules.authority job) : call.val.Keeps sha256 rules s := by
  refine ⟨fun job _ _ => hFree job, fun operation hAdmits => ?_⟩
  obtain ⟨call, hCall⟩ := call
  cases call <;> first | exact hAdmits.elim | cases hCall

/-- A well formed store stays so, and its board takes moves. -/
def Store.Advances (rules : Board.Discipline) (s t : Store) : Prop :=
  s.WellFormed → t.WellFormed ∧ Board.Moves rules s.board t.board

instance : Std.Refl (Store.Advances rules) := ⟨fun _ wf => ⟨wf, Relation.ReflTransGen.refl⟩⟩

instance : IsTrans Store (Store.Advances rules) where
  trans _ _ _ h h' wf := by
    obtain ⟨wfNext, hMoves⟩ := h wf
    obtain ⟨wfLast, hMoves'⟩ := h' wfNext
    exact ⟨wfLast, hMoves.trans hMoves'⟩

theorem persistIssueAction_advances (sha256 : String → String)
    (hFree : ∀ b operation, rules.intent b operation) (intent : IssueIntent) :
    Respects (Store.Advances rules) (persistIssueAction sha256 intent) := by
  intro s t operation h wf
  obtain ⟨wfNext, rfl | ⟨hMove, _⟩⟩ :=
    persistIssueAction_step sha256 rules wf (fun _ _ => hFree _ _) h
  · exact ⟨wf, Relation.ReflTransGen.refl⟩
  · exact ⟨wfNext, Relation.ReflTransGen.single hMove⟩

/-- The body of a committed intake call is a sequence of moves. -/
theorem IntakeCall.body_moves (sha256 : String → String) (hFree : ∀ job, rules.authority job)
    {call : IntakeCall} {answer : IntakeAnswer} (wf : s.WellFormed)
    (h : call.body sha256 s = .ok (answer, t)) :
    t.WellFormed ∧ Board.Moves rules s.board t.board := by
  cases call with
  | dispatch call =>
      obtain ⟨_, _, hBody, hPure⟩ := bind_eq_ok.mp h
      cases hPure
      exact Call.body_moves sha256 rules wf (call.keeps sha256 hFree) hBody
  | createConnection connection =>
      obtain ⟨_, _, hBody, hPure⟩ := bind_eq_ok.mp h
      cases hPure
      rw [(insertConnection_eq_ok hBody).2]
      exact ⟨⟨wf.jobRows, wf.operationRows, wf.jobIds, wf.operationIds⟩,
        Relation.ReflTransGen.single (.extend [connection])⟩
  | createBinding binding =>
      obtain ⟨_, _, hBody, hPure⟩ := bind_eq_ok.mp h
      cases hPure
      rw [(insertBinding_eq_ok hBody).2]
      exact Store.SameDocuments.moves ⟨rfl, rfl, rfl⟩ wf
  | createActorBinding actorBinding =>
      obtain ⟨_, _, hBody, hPure⟩ := bind_eq_ok.mp h
      cases hPure
      rw [insertActorBinding_eq_ok hBody]
      exact Store.SameDocuments.moves ⟨rfl, rfl, rfl⟩ wf
  | ingestGithubEvent delivery =>
      obtain ⟨_, _, hBody, hPure⟩ := bind_eq_ok.mp h
      cases hPure
      exact ingestGithubEvent_moves wf hBody
  | persistWecomInbound message =>
      obtain ⟨⟨event, created⟩, _, hBody, hPure⟩ := bind_eq_ok.mp h
      cases hPure
      obtain ⟨_, _, _, _, rfl⟩ | ⟨_, _, _, _, _, _, _, _, _, rfl⟩ :=
        persistWecomInbound_eq_ok hBody
      · exact ⟨wf, Relation.ReflTransGen.refl⟩
      · exact Store.SameDocuments.moves ⟨rfl, rfl, rfl⟩ wf
  | markWecomInboundProcessed eventId bindingId state operationId =>
      obtain ⟨_, _, hBody, hPure⟩ := bind_eq_ok.mp h
      cases hPure
      obtain ⟨_, _, _, _, _, _, _, rfl⟩ := markWecomInboundProcessed_eq_ok hBody
      exact Store.SameDocuments.moves ⟨rfl, rfl, rfl⟩ wf
  | beginWecomChallengeObservation bindingId sourceEventRef =>
      obtain ⟨⟨event, claimed⟩, _, hBody, hPure⟩ := bind_eq_ok.mp h
      cases hPure
      obtain ⟨_, _, _, _, ⟨_, _, _, rfl⟩ | ⟨_, _, _, rfl⟩ | ⟨_, _, _, rfl⟩⟩ :=
        beginWecomChallengeObservation_eq_ok hBody
      · exact (putInbound_documents ..).moves wf
      · exact (putInbound_documents ..).moves wf
      · exact ⟨wf, Relation.ReflTransGen.refl⟩
  | markWecomChallengeUnknown bindingId sourceEventRef =>
      obtain ⟨_, _, hBody, hPure⟩ := bind_eq_ok.mp h
      cases hPure
      obtain ⟨_, _, _, _, _, _, rfl⟩ := markWecomChallengeUnknown_eq_ok hBody
      exact (putInbound_documents ..).moves wf
  | enqueueWecomChallengeReply bindingId sourceEventRef challengeId jobUuid now =>
      obtain ⟨_, _, hBody, hPure⟩ := bind_eq_ok.mp h
      cases hPure
      exact enqueueWecomChallengeReply_moves wf hBody

theorem IntakeCall.body_advances (sha256 : String → String) (hFree : ∀ job, rules.authority job)
    (call : IntakeCall) : Respects (Store.Advances rules) (call.body sha256) :=
  fun _ _ _ h wf => call.body_moves sha256 hFree wf h

/-- Every step of the intake refines the board. -/
theorem performIntake_advances (sha256 : String → String) (action : IntakeAction)
    (system : IntakeSystem) : system.store.Advances Board.Discipline.free
      (performIntake sha256 action system).2.store :=
  performIntake_respects (IntakeCall.body_advances sha256 fun _ => trivial)
    (EnqueueStage.body_respects (persistIssueAction_advances sha256 fun _ _ => trivial)) action
    system

end Calls

end CyreneExchange.Integrations
