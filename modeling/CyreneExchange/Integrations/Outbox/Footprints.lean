import CyreneExchange.Integrations.Outbox.Runs

/-! What the methods that work jobs off write outside the job and operation
tables: evidence under named fences, and the states of the inbound events they
reply to. -/
namespace CyreneExchange.Integrations

open Transaction

/-- An inbound event keeps its facts for good, and once it has left RECEIVED
it does not come back. -/
structure WeComInboundEvent.Follows (event event' : WeComInboundEvent) : Prop where
  facts : event' = { event with
    state := event'.state
    challengeId := event'.challengeId
    operationId := event'.operationId }
  left : event.state ≠ .received → event'.state ≠ .received

theorem WeComInboundEvent.Follows.refl (event : WeComInboundEvent) : event.Follows event :=
  ⟨rfl, fun h => h⟩

theorem WeComInboundEvent.Follows.trans {event event' event'' : WeComInboundEvent}
    (h : event.Follows event') (h' : event'.Follows event'') : event.Follows event'' := by
  refine ⟨?_, fun hLeft => h'.left (h.left hLeft)⟩
  rw [h'.facts, h.facts]

theorem WeComInboundEvent.Follows.id_eq {event event' : WeComInboundEvent}
    (h : event.Follows event') : event'.id = event.id :=
  (congrArg WeComInboundEvent.id h.facts :)

theorem WeComInboundEvent.Follows.bindingId_eq {event event' : WeComInboundEvent}
    (h : event.Follows event') : event'.bindingId = event.bindingId :=
  (congrArg WeComInboundEvent.bindingId h.facts :)

theorem WeComInboundEvent.Follows.source_eq {event event' : WeComInboundEvent}
    (h : event.Follows event') : event'.sourceEventId = event.sourceEventId :=
  (congrArg WeComInboundEvent.sourceEventId h.facts :)

/-- Rows of the inbox, one by one. -/
def EventsFollow (events events' : List WeComInboundEvent) : Prop :=
  List.Forall₂ WeComInboundEvent.Follows events events'

theorem EventsFollow.refl (events : List WeComInboundEvent) : EventsFollow events events :=
  List.forall₂_same.mpr fun event _ => .refl event

theorem EventsFollow.trans {events events' events'' : List WeComInboundEvent}
    (h : EventsFollow events events') (h' : EventsFollow events' events'') :
    EventsFollow events events'' := by
  induction h generalizing events'' with
  | nil => exact h'
  | cons hHead _ ih =>
      cases h' with
      | cons hHead' hTail' => exact .cons (hHead.trans hHead') (ih hTail')

/-- An update that only writes rows that follow the ones they replace. -/
theorem EventsFollow.updateWhere {p : WeComInboundEvent → Bool}
    {f : WeComInboundEvent → WeComInboundEvent} {events : List WeComInboundEvent}
    (h : ∀ event ∈ events, p event = true → event.Follows (f event)) :
    EventsFollow events (Table.updateWhere p f events) := by
  unfold EventsFollow Table.updateWhere
  rw [List.forall₂_map_right_iff]
  apply List.forall₂_same.mpr
  intro event hMem
  split
  · next hp => exact h event hMem hp
  · exact .refl event

theorem EventsFollow.ids_eq {events events' : List WeComInboundEvent}
    (h : EventsFollow events events') :
    events'.map WeComInboundEvent.id = events.map WeComInboundEvent.id := by
  induction h with
  | nil => rfl
  | cons hHead _ ih => rw [List.map_cons, List.map_cons, hHead.id_eq, ih]

theorem EventsFollow.unique {events events' : List WeComInboundEvent}
    (h : EventsFollow events events')
    (unique : Table.KeysUnique WeComInboundEvent.id events) :
    Table.KeysUnique WeComInboundEvent.id events' := by
  unfold Table.KeysUnique
  rw [h.ids_eq]
  exact unique

theorem EventsFollow.image {events events' : List WeComInboundEvent} {event : WeComInboundEvent}
    (h : EventsFollow events events') (hMem : event ∈ events) :
    ∃ event' ∈ events', event.Follows event' := by
  induction h with
  | nil => cases hMem
  | cons hHead _ ih =>
      rcases List.mem_cons.mp hMem with rfl | hMem
      · exact ⟨_, List.mem_cons_self, hHead⟩
      · obtain ⟨event', hMem', hFollows⟩ := ih hMem
        exact ⟨event', List.mem_cons_of_mem _ hMem', hFollows⟩

/-- What dispatching leaves alone: the inbox but for the states of its events,
and the tables that only the routes write. -/
structure Store.InboxFrame (s t : Store) : Prop where
  connections : t.connections = s.connections
  syncBindings : t.syncBindings = s.syncBindings
  actorBindings : t.actorBindings = s.actorBindings
  incoming : t.incomingEvents = s.incomingEvents
  events : Table.KeysUnique WeComInboundEvent.id s.wecomInboundEvents →
    EventsFollow s.wecomInboundEvents t.wecomInboundEvents

instance : Std.Refl Store.InboxFrame := ⟨fun _ => ⟨rfl, rfl, rfl, rfl, fun _ => .refl _⟩⟩

instance : IsTrans Store Store.InboxFrame where
  trans _ _ _ h h' := ⟨h'.connections.trans h.connections, h'.syncBindings.trans h.syncBindings,
    h'.actorBindings.trans h.actorBindings, h'.incoming.trans h.incoming,
    fun unique => (h.events unique).trans (h'.events ((h.events unique).unique unique))⟩

/-- Every evidence row of `t` is one of `s` or one that `p` admits. -/
def Store.Records (p : JobEvidence → Prop) (s t : Store) : Prop :=
  ∀ e ∈ t.jobEvidence, e ∈ s.jobEvidence ∨ p e

instance (p : JobEvidence → Prop) : Std.Refl (Store.Records p) := ⟨fun _ _ => Or.inl⟩

instance (p : JobEvidence → Prop) : IsTrans Store (Store.Records p) where
  trans _ _ _ h h' := fun row hRow => (h' row hRow).elim (h row) Or.inr

theorem Store.Records.of_eq {p : JobEvidence → Prop} {s t : Store}
    (h : t.jobEvidence = s.jobEvidence) : s.Records p t := fun _ he => Or.inl (h ▸ he)

/-- What a method that works jobs off may write: it frames the inbox, and its
evidence is what `p` admits. -/
structure Store.Footprint (p : JobEvidence → Prop) (s t : Store) : Prop where
  frame : s.InboxFrame t
  records : s.Records p t

instance (p : JobEvidence → Prop) : Std.Refl (Store.Footprint p) :=
  ⟨fun s => ⟨refl_of _ s, refl_of _ s⟩⟩

instance (p : JobEvidence → Prop) : IsTrans Store (Store.Footprint p) where
  trans _ _ _ h h' := ⟨trans_of _ h.frame h'.frame, trans_of _ h.records h'.records⟩

/-- Writes to the job, operation, receipt and audit tables. -/
@[grind ←]
theorem Store.Footprint.of_eq {p : JobEvidence → Prop} {s t : Store}
    (hConnections : t.connections = s.connections) (hBindings : t.syncBindings = s.syncBindings)
    (hActors : t.actorBindings = s.actorBindings) (hIncoming : t.incomingEvents = s.incomingEvents)
    (hEvents : t.wecomInboundEvents = s.wecomInboundEvents)
    (hEvidence : t.jobEvidence = s.jobEvidence) : s.Footprint p t :=
  ⟨⟨hConnections, hBindings, hActors, hIncoming, fun _ => hEvents ▸ .refl _⟩,
    fun _ he => Or.inl (hEvidence ▸ he)⟩

/-- Writes to the evidence table. -/
theorem Store.Footprint.of_records {p : JobEvidence → Prop} {s : Store}
    {evidence : List JobEvidence} (h : ∀ e ∈ evidence, e ∈ s.jobEvidence ∨ p e) :
    s.Footprint p { s with jobEvidence := evidence } :=
  ⟨⟨rfl, rfl, rfl, rfl, fun _ => .refl _⟩, h⟩

/-- Every call in a frame, whatever evidence it writes. -/
theorem Respects.frame {α : Type} {program : StoreTransaction α}
    (h : Respects (Store.Footprint fun _ => True) program) : Respects Store.InboxFrame program :=
  h.mono fun _ _ hFootprint => hFootprint.frame

section Reads

variable {R : Store → Store → Prop} [Std.Refl R]

@[grind ←]
theorem expectRow_reads {α : Type} (found : Option α) (e : StoreError) :
    Respects R (expectRow found e) := by
  unfold expectRow
  grind

@[grind ←]
theorem selectOperation_reads (operationId : UUID) : Respects R (selectOperation operationId) := by
  unfold selectOperation
  grind

variable [IsTrans Store R]

@[grind ←]
theorem readJob_reads (row : JobRow) : Respects R (readJob row) := by
  unfold readJob
  grind

@[grind ←]
theorem readOperation_reads (row : OperationRow) : Respects R (readOperation row) := by
  unfold readOperation
  grind

@[grind ←]
theorem requireGrant_reads (principal : IntegrationPrincipal) (operationId : String)
    (now : Timestamp) : Respects R (requireGrant principal operationId now) := by
  unfold requireGrant
  grind

@[grind ←]
theorem requireExecutionScope_reads (principal : IntegrationPrincipal) (operation : Operation)
    (bindingId : UUID) : Respects R (requireExecutionScope principal operation bindingId) := by
  unfold requireExecutionScope
  grind

end Reads

section Statements

variable {p : JobEvidence → Prop}

@[grind ←]
theorem persistJob_footprint (job : OutboxJob) :
    Respects (Store.Footprint p) (persistJob job) := by
  unfold persistJob
  grind

@[grind ←]
theorem insertJob_footprint (job : OutboxJob) : Respects (Store.Footprint p) (insertJob job) := by
  unfold insertJob
  grind

@[grind ←]
theorem persistOperation_footprint (operation : Operation) (operationId : UUID) :
    Respects (Store.Footprint p) (persistOperation operation operationId) := by
  unfold persistOperation
  grind

@[grind ←]
theorem persistOperationDocument_footprint (operation : Operation) (operationId : UUID) :
    Respects (Store.Footprint p) (persistOperationDocument operation operationId) := by
  unfold persistOperationDocument
  grind

@[grind ←]
theorem insertReceipt_footprint (receipt : DeliveryReceipt) :
    Respects (Store.Footprint p) (insertReceipt receipt) := by
  unfold insertReceipt
  grind

@[grind ←]
theorem insertAudit_footprint (audit : OperationAudit) :
    Respects (Store.Footprint p) (insertAudit audit) := by
  unfold insertAudit
  grind

@[grind ←]
theorem forOperation_footprint (operationId : Option UUID) {body : UUID → StoreTransaction Unit}
    (h : ∀ id, Respects (Store.Footprint p) (body id)) :
    Respects (Store.Footprint p) (forOperation operationId body) := by
  unfold forOperation
  grind

/-- A new row is one that was named. -/
@[grind ←]
theorem insertEvidence_footprint {row : JobEvidence} (h : p row) :
    Respects (Store.Footprint p) (insertEvidence row) := by
  unfold insertEvidence
  refine .bind (.fetch _) fun _ => .bind (.require _ _) fun _ =>
    .store fun s => .of_records fun e he => ?_
  rcases List.mem_append.mp he with hOld | hNew
  · exact Or.inl hOld
  · rw [List.mem_singleton.mp hNew]
    exact Or.inr h

theorem replaceEvidence_footprint {row : JobEvidence} (h : p row) :
    Respects (Store.Footprint p) (replaceEvidence row) := by
  unfold replaceEvidence
  refine .store fun s => .of_records fun e he => ?_
  rcases List.mem_append.mp he with hOld | hNew
  · exact Or.inl (List.mem_of_mem_filter hOld)
  · rw [List.mem_singleton.mp hNew]
    exact Or.inr h

@[grind ←]
theorem enqueueCommandReply_footprint (operation : Operation) (state : JobState)
    (evidence : JsonObject) (now : Timestamp) (replyUuid : UUID) :
    Respects (Store.Footprint p) (enqueueCommandReply operation state evidence now replyUuid) := by
  unfold enqueueCommandReply
  grind

@[grind ←]
theorem enqueueReplyForOperation_footprint (operationId : UUID) (state : JobState)
    (evidence : JsonObject) (now : Timestamp) (replyUuid : UUID) :
    Respects (Store.Footprint p)
      (enqueueReplyForOperation operationId state evidence now replyUuid) := by
  unfold enqueueReplyForOperation
  grind

@[grind ←]
theorem updateOperationState_footprint (operationId : UUID) (state : OperationState)
    (now : Timestamp) (result : Option JsonObject) :
    Respects (Store.Footprint p) (updateOperationState operationId state now result) := by
  unfold updateOperationState
  grind

@[grind ←]
theorem clearOperationAuthority_footprint (operationId : UUID) :
    Respects (Store.Footprint p) (clearOperationAuthority operationId) := by
  unfold clearOperationAuthority
  grind

/-- A reply's outcome moves its source event to a final reply state. -/
@[grind ←]
theorem markReplyEvent_footprint (job : OutboxJob) (eligible : WeComInboundEvent → Bool)
    {state : WeComEventState} (hState : state ≠ .received) :
    Respects (Store.Footprint p) (markReplyEvent job eligible state) := by
  unfold markReplyEvent
  split_ifs
  · split
    · exact .pure ()
    · next eventRef _ =>
      intro s t a h
      rw [fetch_bind] at h
      cases hFind : s.wecomInboundEvents.find? (fun event =>
          event.id.text == eventRef && eligible event) with
      | none =>
          simp only [hFind, pure_apply, Except.ok.injEq, Prod.mk.injEq, true_and] at h
          subst h
          exact refl_of _ s
      | some event =>
          simp only [hFind, store_apply, Except.ok.injEq, Prod.mk.injEq, true_and] at h
          subst h
          obtain ⟨hMem, hFound⟩ := find_some_eq hFind
          simp only [Bool.and_eq_true, beq_iff_eq] at hFound
          refine ⟨⟨rfl, rfl, rfl, rfl, fun unique => .updateWhere fun e he hId => ?_⟩,
            fun _ => Or.inl⟩
          rw [unique.eq he hMem (UUID.ext_text ((beq_iff_eq.mp hId).trans hFound.1.symm))]
          exact ⟨rfl, fun _ => hState⟩
  · exact .pure ()

@[grind ←]
theorem bindReceipt_footprint (job : OutboxJob) (receipt : Option DeliveryReceipt) :
    Respects (Store.Footprint p) (bindReceipt job receipt) := by
  unfold bindReceipt
  grind

end Statements

section Calls

variable {p : JobEvidence → Prop}

/-- The first reads of every method that presents a job and a fence. -/
theorem loadedJob_footprint {α : Type} {select : StoreTransaction (Option JobRow)} {e : StoreError}
    {rest : OutboxJob → StoreTransaction α} (hSelect : Respects (Store.Footprint p) select)
    (hRest : ∀ job, Respects (Store.Footprint p) (rest job)) : Respects (Store.Footprint p) (do
      let row ← expectRow (← select) e
      let job ← readJob row
      rest job) :=
  .bind hSelect fun _ => .bind (expectRow_reads _ _) fun _ => .bind (readJob_reads _) hRest

theorem settleOperation_footprint (operationId : UUID) (state : OperationState) (now : Timestamp)
    (evidence : JsonObject) (outcome : JobState) (replyUuid : UUID) :
    Respects (Store.Footprint p) (do
      updateOperationState operationId state now (some evidence)
      enqueueReplyForOperation operationId outcome evidence now replyUuid) := by
  grind

theorem claimReadyJob_footprint (workerId : String) (now : Timestamp) (leaseSeconds : Int) :
    Respects (Store.Footprint p) (claimReadyJob workerId now leaseSeconds) := by
  unfold claimReadyJob
  refine .bind (.fetch _) fun found => ?_
  cases found with
  | none => exact .pure none
  | some row =>
      refine .bind (readJob_reads row) fun job => .bind (.fetch _) fun s =>
        .bind (.store fun _ => .of_eq rfl rfl rfl rfl rfl rfl) fun _ => ?_
      split
      · exact .pure none
      · exact .pure _

theorem markSending_footprint (jobId : UUID) (claimFence : Nat) (now : Timestamp) :
    Respects (Store.Footprint p) (markSending jobId claimFence now) := by
  unfold markSending
  refine loadedJob_footprint (.fetch _) fun job => ?_
  grind

theorem failClaimedJob_footprint (jobId : UUID) (claimFence : Nat) (reasonCode : String)
    (moment : Timestamp) (replyUuid replyUuid' : UUID)
    (h : ∀ evidence, p ⟨jobId, claimFence, evidence⟩) : Respects (Store.Footprint p)
      (failClaimedJob jobId claimFence reasonCode moment replyUuid replyUuid') := by
  unfold failClaimedJob
  refine loadedJob_footprint (.fetch _) fun job => .bind (persistJob_footprint _) fun _ =>
    .bind (insertEvidence_footprint (h _)) fun _ =>
    .bind (forOperation_footprint _ fun operationId => ?_)
      fun _ => .bind (markReplyEvent_footprint job _ (by decide)) fun _ => .pure _
  grind

theorem markAwaitingAuthority_footprint (jobId : UUID) (claimFence : Nat) (invocationId : String)
    (authorityState : AuthorityInvocationState) (moment : Timestamp) :
    Respects (Store.Footprint p)
      (markAwaitingAuthority jobId claimFence invocationId authorityState moment) := by
  unfold markAwaitingAuthority
  refine .bind (.require _ _) fun _ => loadedJob_footprint (.fetch _) fun job =>
    .bind (.require _ _) fun _ => .bind (persistJob_footprint _) fun _ =>
      .bind (forOperation_footprint _ fun operationId => ?_) fun _ => .pure _
  grind

theorem prepareAuthorityEnqueue_footprint (jobId : UUID) (claimFence : Nat) (candidate : String)
    (moment : Timestamp) : Respects (Store.Footprint p)
      (prepareAuthorityEnqueue jobId claimFence candidate moment) := by
  unfold prepareAuthorityEnqueue
  refine .bind (.require _ _) fun _ => loadedJob_footprint (.fetch _) fun job =>
    .bind (expectRow_reads _ _) fun _ => .bind (selectOperation_reads _) fun _ =>
      .bind (expectRow_reads _ _) fun _ => .bind (readOperation_reads _) fun _ => ?_
  grind

theorem updateAuthorityEvidence_footprint (jobId : UUID) (claimFence : Nat) (invocationId : String)
    (authorityState : AuthorityInvocationState) (moment : Timestamp) :
    Respects (Store.Footprint p)
      (updateAuthorityEvidence jobId claimFence invocationId authorityState moment) := by
  unfold updateAuthorityEvidence
  refine loadedJob_footprint (.fetch _) fun job => .bind (.require _ _) fun _ =>
    .bind (persistJob_footprint _) fun _ => .bind (forOperation_footprint _ fun operationId => ?_)
      fun _ => .pure _
  grind

theorem markAuthorityResultUnknown_footprint (jobId : UUID) (claimFence : Nat)
    (invocationId : String) (moment : Timestamp) (replyUuid : UUID)
    (h : ∀ evidence, p ⟨jobId, claimFence, evidence⟩) : Respects (Store.Footprint p)
      (markAuthorityResultUnknown jobId claimFence invocationId moment replyUuid) := by
  unfold markAuthorityResultUnknown
  exact loadedJob_footprint (.fetch _) fun job => .bind (.require _ _) fun _ =>
    .bind (persistJob_footprint _) fun _ => .bind (insertEvidence_footprint (h _)) fun _ =>
      .bind (forOperation_footprint _ fun _ => settleOperation_footprint ..) fun _ => .pure _

theorem beginAuthorizedExecution_footprint (principal : IntegrationPrincipal)
    (operationId bindingId : UUID) (executionOperationId argumentDigest invocationId : String)
    (leaseSeconds : Int) (moment : Timestamp) : Respects (Store.Footprint p)
      (beginAuthorizedExecution principal operationId bindingId executionOperationId
        argumentDigest invocationId leaseSeconds moment) := by
  unfold beginAuthorizedExecution
  refine .bind (requireGrant_reads _ _ _) fun _ => .bind (.fetch _) fun _ =>
    .bind (expectRow_reads _ _) fun _ => .bind (readOperation_reads _) fun _ =>
    .bind (.require _ _) fun _ => .bind (requireExecutionScope_reads _ _ _) fun _ =>
    loadedJob_footprint (.fetch _) fun job => .bind (.require _ _) fun _ =>
    .bind (persistJob_footprint _) fun _ => .bind (.fetch _) fun _ => ?_
  grind

theorem finishJob_footprint (jobId : UUID) (claimFence : Nat) (status : JobState)
    (evidence : JsonObject) (receipt : Option DeliveryReceipt) (clock : Timestamp)
    (replyUuid : UUID) (h : ∀ evidence, p ⟨jobId, claimFence, evidence⟩) :
    Respects (Store.Footprint p)
      (finishJob jobId claimFence status evidence receipt clock replyUuid) := by
  unfold finishJob
  refine .bind (expectRow_reads _ _) fun _ => loadedJob_footprint (.fetch _) fun job =>
    .bind (persistJob_footprint _) fun _ => .bind (insertEvidence_footprint (h _)) fun _ =>
    .bind (forOperation_footprint _ fun operationId => ?_) fun _ =>
    .bind (bindReceipt_footprint job receipt) fun _ =>
    .bind (markReplyEvent_footprint job _ ?_) fun _ => .pure _
  · grind
  · split_ifs <;> decide

theorem recoverClaim_footprint (now : Timestamp) (replyUuid : UUID) (row : JobRow) :
    Respects (Store.Footprint p) (recoverClaim now replyUuid row) := by
  unfold recoverClaim
  refine .bind (readJob_reads row) fun job => ?_
  split
  · refine .bind (forOperation_footprint _ fun operationId => ?_) fun _ => persistJob_footprint _
    unfold recoverOperation
    grind
  · exact persistJob_footprint _

theorem recoverClaims_footprint (now : Timestamp) (draw : Nat → UUID) (rows : List JobRow)
    (k : Nat) : Respects (Store.Footprint p) (recoverClaims now draw rows k) := by
  induction rows generalizing k with
  | nil => exact .pure k
  | cons row rest ih => exact .bind (recoverClaim_footprint now (draw k) row) fun _ => ih (k + 1)

theorem retryReadonlyJob_footprint (jobId : UUID) (claimFence : Nat) (now : Timestamp)
    (retryAfterSeconds : Option Int) (replyUuid : UUID)
    (h : ∀ evidence, p ⟨jobId, claimFence, evidence⟩) : Respects (Store.Footprint p)
      (retryReadonlyJob jobId claimFence now retryAfterSeconds replyUuid) := by
  unfold retryReadonlyJob
  refine loadedJob_footprint (.fetch _) fun job => .bind (.require _ _) fun _ =>
    .bind (persistJob_footprint _) fun _ => .bind (insertEvidence_footprint (h _)) fun _ =>
    .bind (forOperation_footprint _ fun operationId => ?_) fun _ => .pure _
  grind

theorem settleUnknownJobs_footprint (result : JsonObject) (now : Timestamp) (rows : List JobRow)
    (h : ∀ row ∈ rows, ∀ evidence, p ⟨row.document.id, row.claimFence, evidence⟩) :
    Respects (Store.Footprint p) (settleUnknownJobs result now rows) := by
  induction rows with
  | nil => exact .pure ()
  | cons row rest ih =>
      intro s t u hBody
      unfold settleUnknownJobs at hBody
      obtain ⟨job, _, hRead, hBody⟩ := bind_eq_ok.mp hBody
      obtain ⟨_, rfl, rfl⟩ := readJob_eq_ok.mp hRead
      refine Respects.bind (persistJob_footprint _) (fun _ => .bind
        (replaceEvidence_footprint (h row List.mem_cons_self _)) fun _ => ?_) hBody
      exact ih fun r hr => h r (List.mem_cons_of_mem row hr)

/-- Reconciliation writes the evidence of the unknown jobs of the operation. -/
theorem resolveUnknownOperation_footprint {principal : IntegrationPrincipal}
    {operationId auditUuid : UUID} {succeeded : Bool} {result : JsonObject} {grant : String}
    {now : Timestamp} {resolved : Operation} {s t : Store}
    (h : ∀ row ∈ s.outboxJobs, row.operationId = some operationId → row.state = .unknown →
      ∀ evidence, p ⟨row.document.id, row.claimFence, evidence⟩)
    (hBody : resolveUnknownOperation principal operationId succeeded result grant now auditUuid
      s = .ok (resolved, t)) : s.Footprint p t := by
  unfold resolveUnknownOperation at hBody
  obtain ⟨_, _, hGrant, hBody⟩ := bind_eq_ok.mp hBody
  obtain rfl := requireGrant_eq_ok hGrant
  rw [fetch_bind] at hBody
  obtain ⟨row, _, hRow, hBody⟩ := bind_eq_ok.mp hBody
  obtain ⟨_, rfl⟩ := expectRow_eq_ok.mp hRow
  obtain ⟨_, _, hRead, hBody⟩ := bind_eq_ok.mp hBody
  obtain ⟨_, _, rfl⟩ := readOperation_eq_ok.mp hRead
  rw [store_bind] at hBody
  generalize hSettled : ({ s with operations := _ } : Store) = settled at hBody
  have hJobs : settled.outboxJobs = s.outboxJobs := by rw [← hSettled]
  have hOthers : s.Footprint p settled := by
    rw [← hSettled]
    exact .of_eq rfl rfl rfl rfl rfl rfl
  refine trans_of (Store.Footprint p) hOthers ?_
  cases succeeded with
  | false =>
      simp only [Bool.false_eq_true, if_false] at hBody
      exact Respects.bind (insertAudit_footprint _) (fun _ => .pure _) hBody
  | true =>
      simp only [if_true] at hBody
      rw [fetch_bind, hJobs] at hBody
      refine Respects.bind (settleUnknownJobs_footprint _ _ _ ?_)
        (fun _ => .bind (insertAudit_footprint _) fun _ => .pure _) hBody
      intro r hr
      obtain ⟨hMem, hSelected⟩ := List.mem_filter.mp hr
      simp only [Bool.and_eq_true, beq_iff_eq] at hSelected
      exact h r hMem hSelected.1 hSelected.2

theorem persistIssueAction_footprint (sha256 : String → String) (intent : IssueIntent) :
    Respects (Store.Footprint p) (persistIssueAction sha256 intent) := by
  unfold persistIssueAction
  refine .bind (.fetch _) fun existing => ?_
  split
  · exact .bind (.require _ _) fun _ => readOperation_reads _
  · split
    · exact .reject _
    · refine .bind (.require _ _) fun _ => .bind ?_ fun _ =>
        .bind (.require _ _) fun _ => .bind (insertJob_footprint _) fun _ => .pure _
      unfold insertOperation
      grind

end Calls

end CyreneExchange.Integrations
