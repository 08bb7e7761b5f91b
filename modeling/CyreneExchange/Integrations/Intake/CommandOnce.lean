import CyreneExchange.Integrations.Intake.Idempotency
import CyreneExchange.Integrations.Intake.Inbox

/-! The operations of a chat event. Its command is submitted under a key built
from the event, but the key counts per actor: as long as the event is only
ever submitted for one actor there is one operation, whatever is redelivered
or crashes, and a sender who is linked to another actor in between gets a
second one. -/
namespace CyreneExchange.Integrations

open Machine Transaction

/-- The idempotency key of a chat command. -/
def commandKey (bindingId eventId : UUID) : String :=
  "wecom:" ++ bindingId.text ++ ":" ++ eventId.text

/-- A key and connection that belong to a stored event. -/
def Store.Commands (s : Store) (connectionId : UUID) (idempotencyKey ref : String) : Prop :=
  ∃ event ∈ s.wecomInboundEvents, ∃ binding ∈ s.syncBindings, event.id.text = ref ∧
    event.bindingId = binding.id ∧ connectionId = binding.connectionId ∧
    idempotencyKey = commandKey binding.id event.id

def IssueCommand.FromEvent (issue : IssueCommand) (eventId : UUID) : Prop :=
  issue.idempotencyKey = commandKey issue.bindingId eventId ∧ issue.sourceEventRef = eventId.text

/-- Where the command of an event stands on its way into the store. -/
def EnqueueStage.Sourced (s : Store) (eventId : UUID) : EnqueueStage → Prop
  | .command issue => issue.FromEvent eventId
  | .commandMatched issue _ binding _ =>
      issue.FromEvent eventId ∧ binding ∈ s.syncBindings ∧ binding.id = issue.bindingId
  | .commandEligible issue _ binding _ _ =>
      issue.FromEvent eventId ∧ binding ∈ s.syncBindings ∧ binding.id = issue.bindingId ∧
        ∃ event ∈ s.wecomInboundEvents, event.id = eventId ∧ event.bindingId = issue.bindingId
  | .submitting submission =>
      submission.sourceEventRef = some eventId.text ∧
        s.Commands submission.connection.id submission.request.idempotencyKey eventId.text
  | _ => False

/-- Bindings and events are there to stay. -/
structure Store.SourcesGrow (s t : Store) : Prop where
  bindings : s.syncBindings ⊆ t.syncBindings
  events : ∀ event ∈ s.wecomInboundEvents, ∃ event' ∈ t.wecomInboundEvents,
    event'.id = event.id ∧ event'.bindingId = event.bindingId

/-- Operations of one event are one operation. -/
def Board.Sourced (b : Board) : Prop :=
  ∀ o ∈ b.operations, ∀ o' ∈ b.operations, o.sourceEventRef.isSome →
    o.sourceEventRef = o'.sourceEventRef → o.id = o'.id

/-- An admitted chat command belongs to a stored event, and to the actor of
every operation stored for that event. -/
def Board.Discipline.commanding (s : Store) : Board.Discipline :=
  ⟨fun _ => True, fun b operation => ∀ ref, operation.sourceEventRef = some ref →
    s.Commands operation.connectionId operation.idempotencyKey ref ∧
      ∀ o ∈ b.operations, o.sourceEventRef = some ref → o.scope = operation.scope⟩

section Sources

variable {sha256 : String → String} {s t : Store} {eventId : UUID} {b c : Board}
  {operation operation' : Operation}

theorem Operation.SameIntent.sourceEventRef_eq (h : operation.SameIntent operation') :
    operation'.sourceEventRef = operation.sourceEventRef :=
  (congrArg Operation.sourceEventRef h :)

theorem Store.Commands.grow {connectionId : UUID} {key ref : String}
    (h : s.Commands connectionId key ref) (hGrow : s.SourcesGrow t) :
    t.Commands connectionId key ref := by
  obtain ⟨event, hEvent, binding, hBinding, hRef, hSame, hConnection, hKey⟩ := h
  obtain ⟨event', hEvent', hId, hBindingId⟩ := hGrow.events event hEvent
  exact ⟨event', hEvent', binding, hGrow.bindings hBinding, by rw [hId, hRef],
    hBindingId.trans hSame, hConnection, by rw [hId, hKey]⟩

/-- An event determines the connection and the key of its command. -/
theorem Store.Commands.unique {connectionId connectionId' : UUID} {key key' ref : String}
    (hEvents : EventsKeyed s.wecomInboundEvents)
    (hBindings : Table.KeysUnique SyncBinding.id s.syncBindings)
    (h : s.Commands connectionId key ref) (h' : s.Commands connectionId' key' ref) :
    connectionId = connectionId' ∧ key = key' := by
  obtain ⟨event, hEvent, binding, hBinding, hRef, hSame, rfl, rfl⟩ := h
  obtain ⟨event', hEvent', binding', hBinding', hRef', hSame', rfl, rfl⟩ := h'
  obtain rfl := hEvents.ids.eq hEvent hEvent' (UUID.ext_text (hRef.trans hRef'.symm))
  obtain rfl := hBindings.eq hBinding hBinding' (hSame.symm.trans hSame')
  exact ⟨rfl, rfl⟩

theorem EnqueueStage.Sourced.grow {stage : EnqueueStage} (h : stage.Sourced s eventId)
    (hGrow : s.SourcesGrow t) : stage.Sourced t eventId := by
  cases stage with
  | command issue => exact h
  | commandMatched issue parsed binding actorBinding =>
      exact ⟨h.1, hGrow.bindings h.2.1, h.2.2⟩
  | commandEligible issue parsed binding actorBinding event =>
      obtain ⟨hIssue, hBinding, hId, found, hFound, hEvent, hSame⟩ := h
      obtain ⟨found', hFound', hId', hBinding'⟩ := hGrow.events found hFound
      exact ⟨hIssue, hGrow.bindings hBinding, hId, found', hFound', hId'.trans hEvent,
        hBinding'.trans hSame⟩
  | submitting submission => exact ⟨h.1, h.2.grow hGrow⟩
  | rest | restBound | restDelegated => exact h.elim

/-- Each step of a chat command keeps it tied to its event. -/
theorem EnqueueStage.Sourced.next {stage next : EnqueueStage} {draw : Draw}
    (h : stage.Sourced s eventId) (hBody : stage.body sha256 draw s = .ok (.continues next, t)) :
    next.Sourced s eventId := by
  cases stage with
  | command issue =>
      iterate 3
        obtain ⟨_, _, hRequire, hBody⟩ := bind_eq_ok.mp hBody
        obtain ⟨_, rfl⟩ := require_eq_ok.mp hRequire
      obtain ⟨_, _, hParsed, hBody⟩ := bind_eq_ok.mp hBody
      obtain rfl := returned_reads _ hParsed
      obtain ⟨_, _, hFetch, hBody⟩ := bind_eq_ok.mp hBody
      cases hFetch
      obtain ⟨_, _, hFetch, hBody⟩ := bind_eq_ok.mp hBody
      cases hFetch
      obtain ⟨binding, _, hExpect, hBody⟩ := bind_eq_ok.mp hBody
      obtain ⟨hFound, rfl⟩ := expectRow_eq_ok.mp hExpect
      obtain ⟨_, _, _, hPure⟩ := bind_eq_ok.mp hBody
      cases hPure
      obtain ⟨hMem, hWhere⟩ := find_some_eq hFound
      simp only [Bool.and_eq_true, beq_iff_eq] at hWhere
      exact ⟨h, hMem, hWhere.1.1⟩
  | commandMatched issue parsed binding actorBinding =>
      obtain ⟨hIssue, hMem, hId⟩ := h
      obtain ⟨_, _, hFetch, hBody⟩ := bind_eq_ok.mp hBody
      cases hFetch
      obtain ⟨event, _, hExpect, hBody⟩ := bind_eq_ok.mp hBody
      obtain ⟨hFound, rfl⟩ := expectRow_eq_ok.mp hExpect
      iterate 3 obtain ⟨_, _, _, hBody⟩ := bind_eq_ok.mp hBody
      cases hBody
      obtain ⟨hEvent, hWhere⟩ := find_some_eq hFound
      simp only [Bool.and_eq_true, beq_iff_eq] at hWhere
      exact ⟨hIssue, hMem, hId, event, hEvent, UUID.ext_text (hWhere.1.trans hIssue.2), hWhere.2⟩
  | commandEligible issue parsed binding actorBinding event =>
      obtain ⟨⟨hKey, hRef⟩, hMem, hId, found, hFound, hEvent, hSame⟩ := h
      obtain ⟨_, _, hFetch, hBody⟩ := bind_eq_ok.mp hBody
      cases hFetch
      obtain ⟨connection, _, hExpect, hBody⟩ := bind_eq_ok.mp hBody
      obtain ⟨hConnection, rfl⟩ := expectRow_eq_ok.mp hExpect
      obtain ⟨_, _, _, hPure⟩ := bind_eq_ok.mp hBody
      cases hPure
      have hWhere := (find_some_eq hConnection).2
      simp only [Bool.and_eq_true, beq_iff_eq] at hWhere
      refine ⟨congrArg some hRef, found, hFound, binding, hMem, by rw [hEvent],
        hSame.trans hId.symm, hWhere.1.1.1, ?_⟩
      rw [hEvent, hId]
      exact hKey
  | submitting submission =>
      obtain ⟨_, _, _, hPure⟩ := bind_eq_ok.mp hBody
      cases hPure
  | rest | restBound | restDelegated => exact h.elim

/-- What one move of the board keeps. -/
structure Board.Commanded (s : Store) (b : Board) : Prop where
  sourced : b.Sourced
  commands : ∀ o ∈ b.operations, ∀ ref, o.sourceEventRef = some ref →
    s.Commands o.connectionId o.idempotencyKey ref

theorem Board.Commanded.of_images (h : b.Commanded s)
    (hOrigin : ∀ o' ∈ c.operations, ∃ o ∈ b.operations, o.SameIntent o') : c.Commanded s := by
  refine ⟨?_, ?_⟩
  · intro o ho o' ho' hSome hSame
    obtain ⟨x, hx, hIntent⟩ := hOrigin o ho
    obtain ⟨x', hx', hIntent'⟩ := hOrigin o' ho'
    rw [hIntent.sourceEventRef_eq] at hSome hSame
    rw [hIntent'.sourceEventRef_eq] at hSame
    rw [hIntent.id_eq, hIntent'.id_eq]
    exact h.sourced x hx x' hx' hSome hSame
  · intro o ho ref hRef
    obtain ⟨x, hx, hIntent⟩ := hOrigin o ho
    have hKey := hIntent.intentKey_eq
    simp only [Operation.intentKey, IntentKey.mk.injEq] at hKey
    rw [hKey.2.1, hKey.2.2]
    exact h.commands x hx ref (hIntent.sourceEventRef_eq.symm.trans hRef)

/-- A second operation of an event would share the key of the first. -/
theorem Board.Commanded.move (h : b.Commanded s) (hEvents : EventsKeyed s.wecomInboundEvents)
    (hBindings : Table.KeysUnique SyncBinding.id s.syncBindings)
    (hMove : Board.Move (Board.Discipline.commanding s) b c) : c.Commanded s := by
  cases hMove with
  | enqueue operation job _ hScope _ _ hIntent =>
      have hNone : ∀ o ∈ b.operations, ∀ ref, operation.sourceEventRef = some ref →
          o.sourceEventRef ≠ some ref := by
        intro o ho ref hRef hSame
        obtain ⟨hCommands, hActor⟩ := hIntent ref hRef
        obtain ⟨hConnection, hKey⟩ :=
          (h.commands o ho ref hSame).unique hEvents hBindings hCommands
        exact hScope o ho (hActor o ho hSame) hConnection hKey
      refine ⟨?_, ?_⟩
      · intro o ho o' ho' hSome hSame
        obtain ⟨ref, hRef⟩ := Option.isSome_iff_exists.mp hSome
        rcases List.mem_append.mp ho with hOld | hNew <;>
          rcases List.mem_append.mp ho' with hOld' | hNew'
        · exact h.sourced o hOld o' hOld' hSome hSame
        · obtain rfl := List.mem_singleton.mp hNew'
          exact absurd hRef (hNone o hOld ref (hSame.symm.trans hRef))
        · obtain rfl := List.mem_singleton.mp hNew
          exact absurd (hSame.symm.trans hRef) (hNone o' hOld' ref hRef)
        · rw [List.mem_singleton.mp hNew, List.mem_singleton.mp hNew']
      · intro o ho ref hRef
        rcases List.mem_append.mp ho with hOld | hNew
        · exact h.commands o hOld ref hRef
        · obtain rfl := List.mem_singleton.mp hNew
          exact (hIntent ref hRef).1
  | deliver | extend => exact h.of_images fun o ho => ⟨o, ho, rfl⟩
  | take turn job replies =>
      refine h.of_images fun o' ho' => ?_
      obtain ⟨o, ho, ⟨_, rfl⟩ | ⟨_, rfl⟩⟩ := Board.mem_take_operations.mp ho'
      · exact ⟨o, ho, turn.operation_sameIntent job o⟩
      · exact ⟨_, ho, rfl⟩
  | resolve unknown succeeded result now =>
      refine h.of_images fun o' ho' => ?_
      obtain ⟨o, ho, ⟨_, rfl⟩ | ⟨_, rfl⟩⟩ := Table.mem_updateWhere.mp ho'
      · exact ⟨o, ho, Turn.settle_sameIntent _ _ _ o⟩
      · exact ⟨_, ho, rfl⟩

theorem Board.Commanded.moves (h : b.Commanded s) (hEvents : EventsKeyed s.wecomInboundEvents)
    (hBindings : Table.KeysUnique SyncBinding.id s.syncBindings)
    (hMoves : Board.Moves (Board.Discipline.commanding s) b c) : c.Commanded s := by
  induction hMoves with
  | refl => exact h
  | tail _ hMove ih => exact ih.move hEvents hBindings hMove

end Sources

section Runs

variable {sha256 : String → String}

/-- The sender is still the actor the event was submitted for: a delivery that
submits the command of an event does so in the scope of every operation that
is stored for the event. -/
def SteadySender (system : IntakeSystem) (action : IntakeAction) : Prop :=
  match action with
  | .advance deliveryIndex _ =>
      match (system.deliveries[deliveryIndex]?).join with
      | some (.enqueueing _ eventId (.submitting submission)) =>
          ∀ row ∈ system.store.operations, row.document.sourceEventRef = some eventId.text →
            row.scope = submission.scope
      | _ => True
  | _ => True

instance (system : IntakeSystem) (action : IntakeAction) :
    Decidable (SteadySender system action) := by
  unfold SteadySender
  split
  · split <;> infer_instance
  · infer_instance

/-- What holds of the system as long as senders are steady. -/
structure IntakeSystem.Commanded (sha256 : String → String) (system : IntakeSystem) : Prop where
  ingesting : system.Ingesting sha256
  events : EventsKeyed system.store.wecomInboundEvents
  board : system.store.board.Commanded system.store
  requests : ∀ stage, some stage ∈ system.requests → ∃ principal request grant,
    (EnqueueEntry.rest principal request grant).Reaches stage
  deliveries : ∀ bindingId eventId stage,
    some (.enqueueing bindingId eventId stage) ∈ system.deliveries →
      stage.Sourced system.store eventId

theorem performIntake_sources {system : IntakeSystem} (action : IntakeAction)
    (h : system.Commanded sha256) :
    system.store.SourcesGrow (performIntake sha256 action system).2.store := by
  obtain ⟨_, _, added, hBindings⟩ := performIntake_grow action system h.ingesting.keyed
  obtain ⟨_, kept, added', hEvents, hFollow⟩ :=
    performIntake_advance sha256 action system h.events
  refine ⟨hBindings ▸ List.subset_append_left _ _, fun event hEvent => ?_⟩
  obtain ⟨event', hEvent', hFollows⟩ := hFollow.image hEvent
  exact ⟨event', hEvents ▸ List.mem_append_left _ hEvent', hFollows.id_eq, hFollows.bindingId_eq⟩

/-- A step of an enqueue call moves the board within the rules if the rules
admit what it submits. -/
theorem EnqueueStage.body_moves {rules : Board.Discipline} {s : Store} (wf : s.WellFormed)
    {stage : EnqueueStage} {draw : Draw}
    (hIntent : ∀ submission, stage = .submitting submission → ∀ executionOperationId argumentDigest,
      rules.intent s.board ((submission.intent draw).operation sha256 executionOperationId
        argumentDigest)) :
    (commit (stage.body sha256 draw) s).2.WellFormed ∧
      Board.Moves rules s.board (commit (stage.body sha256 draw) s).2.board := by
  by_cases hStage : ∀ submission, stage ≠ .submitting submission
  · rw [← (stage.body_reads sha256 draw hStage).commit s]
    exact ⟨wf, Relation.ReflTransGen.refl⟩
  · push Not at hStage
    obtain ⟨submission, rfl⟩ := hStage
    rcases commit_cases ((EnqueueStage.submitting submission).body sha256 draw) s with
      ⟨progress, t, hBody, hCommit⟩ | ⟨e, _, hCommit⟩
    · rw [hCommit]
      obtain ⟨operation, _, hPersist, hPure⟩ := bind_eq_ok.mp hBody
      cases hPure
      obtain ⟨wfNext, rfl | ⟨hMove, _⟩⟩ := persistIssueAction_step sha256 rules wf
        (hIntent submission rfl) hPersist
      · exact ⟨wfNext, Relation.ReflTransGen.refl⟩
      · exact ⟨wfNext, Relation.ReflTransGen.single hMove⟩
    · rw [hCommit]
      exact ⟨wf, Relation.ReflTransGen.refl⟩

/-- A steady step moves the board within the rules for chat commands. -/
theorem performIntake_commanding {system : IntakeSystem} {action : IntakeAction}
    (h : system.Commanded sha256) (hSteady : SteadySender system action) :
    Board.Moves (Board.Discipline.commanding system.store) system.store.board
      (performIntake sha256 action system).2.store.board := by
  have wf := h.ingesting.wellFormed
  have hCalls : ∀ call, Respects (Store.Advances (Board.Discipline.commanding system.store))
      (IntakeCall.body sha256 call) := IntakeCall.body_advances sha256 fun _ => trivial
  cases action with
  | call call => exact ((hCalls call).commit system.store wf).2
  | request | deliver => exact Relation.ReflTransGen.refl
  | answer requestIndex draw =>
      simp only [performIntake]
      split
      · exact Relation.ReflTransGen.refl
      · next stage hStage =>
          refine (EnqueueStage.body_moves wf ?_).2
          rintro submission rfl _ _ ref hRef
          obtain ⟨_, _, _, hReaches⟩ :=
            h.requests _ (List.mem_of_getElem? (Option.join_eq_some_iff.mp hStage))
          have hNone : submission.sourceEventRef = none := hReaches.2.2.2.2.2
          cases hNone.symm.trans hRef
  | advance deliveryIndex world =>
      cases hStage : (system.deliveries[deliveryIndex]?).join with
      | none =>
          rw [performIntake_absent hStage]
          exact Relation.ReflTransGen.refl
      | some stage =>
          rw [performIntake_deliver hStage]
          refine (DeliveryStage.advance_respects (s := system.store) hCalls ?_ wf).2
          rintro bindingId eventId inner rfl wf
          refine EnqueueStage.body_moves wf ?_
          rintro submission rfl _ _ ref hRef
          obtain ⟨hSource, hCommands⟩ := h.deliveries bindingId eventId _
            (List.mem_of_getElem? (Option.join_eq_some_iff.mp hStage))
          obtain rfl : eventId.text = ref := Option.some.inj (hSource.symm.trans hRef)
          refine ⟨hCommands, fun o ho hSame => ?_⟩
          simp only [SteadySender, hStage] at hSteady
          exact hSteady _ (wf.ofOperation_mem ho) hSame

theorem DeliveryProgress.eq_continues {progress : DeliveryProgress} {stage : DeliveryStage}
    (h : progress.stage = some stage) : progress = .continues stage := by
  cases progress with
  | continues next =>
      cases h
      rfl
  | acknowledges | raises => cases h

/-- The stages a delivery can be left with. -/
theorem DeliveryStage.advance_sourced {s : Store} {stage : DeliveryStage} {world : Surroundings}
    {bindingId eventId : UUID} {next : EnqueueStage}
    (hStage : ∀ inner, stage = .enqueueing bindingId eventId inner → inner.Sourced s eventId)
    (h : (stage.advance sha256 world s).1 = .continues (.enqueueing bindingId eventId next)) :
    next.Sourced s eventId := by
  cases stage with
  | resolving source envelope event commandText =>
      simp only [DeliveryStage.advance, resolveSender] at h
      cases hLinked : world.linked with
      | none => simp [hLinked] at h
      | some linked =>
          cases linked with
          | none => simp [hLinked] at h
          | some linked =>
              simp only [hLinked] at h
              split_ifs at h <;> cases h
              exact ⟨rfl, rfl⟩
  | enqueueing binding event inner =>
      simp only [DeliveryStage.advance] at h
      cases hBody : commit (inner.body sha256 world.draw) s with
      | mk progress t =>
          rw [hBody] at h
          rcases progress with e | progress
          · cases e <;> simp at h
          · cases progress with
            | returns operation => simp at h
            | continues stage =>
                cases h
                have hNext : (commit (inner.body sha256 world.draw) s).1 = .ok (.continues next) := by
                  rw [hBody]
                exact (hStage inner rfl).next (commit_eq_ok hNext)
  | received source envelope =>
      simp only [DeliveryStage.advance, routeInbound] at h
      grind
  | marking | claiming | observing | replying | abandoning =>
      simp only [DeliveryStage.advance] at h
      grind

theorem performIntake_requests {system : IntakeSystem} {action : IntakeAction}
    (h : ∀ stage, some stage ∈ system.requests → ∃ principal request grant,
      (EnqueueEntry.rest principal request grant).Reaches stage) :
    ∀ stage, some stage ∈ (performIntake sha256 action system).2.requests →
      ∃ principal request grant, (EnqueueEntry.rest principal request grant).Reaches stage := by
  intro stage hStage
  cases action with
  | call | deliver => exact h stage hStage
  | request principal request grant =>
      rcases List.mem_append.mp hStage with hOld | hNew
      · exact h stage hOld
      · cases List.mem_singleton.mp hNew
        exact ⟨principal, request, grant, rfl⟩
  | advance deliveryIndex world =>
      cases hDelivery : (system.deliveries[deliveryIndex]?).join with
      | none =>
          rw [performIntake_absent hDelivery] at hStage
          exact h stage hStage
      | some delivery =>
          rw [performIntake_deliver hDelivery] at hStage
          exact h stage hStage
  | answer requestIndex draw =>
      simp only [performIntake] at hStage
      cases hCurrent : (system.requests[requestIndex]?).join with
      | none =>
          rw [hCurrent] at hStage
          exact h stage hStage
      | some current =>
          simp only [hCurrent] at hStage
          rcases List.mem_or_eq_of_mem_set hStage with hOld | hNew
          · exact h stage hOld
          · obtain ⟨principal, request, grant, hReaches⟩ :=
              h current (List.mem_of_getElem? (Option.join_eq_some_iff.mp hCurrent))
            exact ⟨principal, request, grant, hReaches.progress hNew⟩

theorem performIntake_deliveries {system : IntakeSystem} {action : IntakeAction}
    (h : ∀ bindingId eventId stage,
      some (.enqueueing bindingId eventId stage) ∈ system.deliveries →
        stage.Sourced system.store eventId) :
    ∀ bindingId eventId stage, some (.enqueueing bindingId eventId stage) ∈
        (performIntake sha256 action system).2.deliveries →
      stage.Sourced system.store eventId := by
  intro bindingId eventId stage hStage
  cases action with
  | call | request => exact h bindingId eventId stage hStage
  | answer requestIndex draw =>
      simp only [performIntake] at hStage
      split at hStage <;> exact h bindingId eventId stage hStage
  | deliver source envelope =>
      rcases List.mem_append.mp hStage with hOld | hNew
      · exact h bindingId eventId stage hOld
      · cases List.mem_singleton.mp hNew
  | advance deliveryIndex world =>
      cases hDelivery : (system.deliveries[deliveryIndex]?).join with
      | none =>
          rw [performIntake_absent hDelivery] at hStage
          exact h bindingId eventId stage hStage
      | some delivery =>
          rw [performIntake_deliver hDelivery] at hStage
          rcases List.mem_or_eq_of_mem_set hStage with hOld | hNew
          · exact h bindingId eventId stage hOld
          · refine DeliveryStage.advance_sourced ?_ (DeliveryProgress.eq_continues hNew.symm)
            rintro inner rfl
            exact h bindingId eventId inner
              (List.mem_of_getElem? (Option.join_eq_some_iff.mp hDelivery))

theorem performIntake_commanded (sha256 : String → String) :
    Preserves (performIntake sha256) SteadySender (IntakeSystem.Commanded sha256) := by
  intro system action h hSteady
  have hGrow := performIntake_sources action h
  have hBoard := h.board.moves h.events h.ingesting.keyed.bindings
    (performIntake_commanding h hSteady)
  exact ⟨performIntake_ingesting sha256 system action h.ingesting trivial,
    performIntake_keyed sha256 system action h.events trivial,
    ⟨hBoard.sourced, fun o ho ref hRef => (hBoard.commands o ho ref hRef).grow hGrow⟩,
    performIntake_requests h.requests,
    fun bindingId eventId stage hStage =>
      (performIntake_deliveries h.deliveries bindingId eventId stage hStage).grow hGrow⟩

theorem IntakeSystem.commanded_initial (sha256 : String → String) :
    IntakeSystem.Commanded sha256 {} :=
  ⟨IntakeSystem.ingesting_initial sha256, .nil,
    ⟨by simp [Board.Sourced, Store.board], by simp [Store.board]⟩, by simp, by simp⟩

/-- What the intake guarantees about the operations of one event. -/
structure CommandedOnce (sha256 : String → String) (actions : List IntakeAction)
    (eventId : UUID) : Prop where
  operations : (run (performIntake sha256) actions {}).store.operations.countP
    (fun row => row.document.sourceEventRef == some eventId.text) ≤ 1
  /-- No operation of the event was dropped on the way. -/
  lasting : ∀ e ∈ trace (performIntake sha256) actions {}, ∀ row ∈ e.before.store.operations,
    row.document.sourceEventRef = some eventId.text →
      ∃ row' ∈ (run (performIntake sha256) actions {}).store.operations, row'.id = row.id ∧
        row'.document.sourceEventRef = some eventId.text

/-- While the sender of an event stays the same actor, the event has at most
one operation, whatever is redelivered, interleaved or crashes. -/
theorem chat_event_admits_one_operation (sha256 : String → String) (actions : List IntakeAction)
    (hSteady : Admitted (performIntake sha256) SteadySender actions {}) (eventId : UUID) :
    CommandedOnce sha256 actions eventId := by
  have hInvariant := performIntake_commanded sha256
  have hStart := IntakeSystem.commanded_initial sha256
  have hFinal := hInvariant.run hStart hSteady
  have wf := hFinal.ingesting.wellFormed
  have hStep : ∀ (system : IntakeSystem) action, system.Commanded sha256 →
      SteadySender system action →
      system.store.Lasts (performIntake sha256 action system).2.store := fun system action h _ =>
    (performIntake_advances sha256 action system).lasts h.ingesting.wellFormed
  have hLasting := trace_related_run (R := fun s t : IntakeSystem => s.store.Lasts t.store)
    hInvariant (fun _ => .refl _) (fun _ _ _ h h' => h.trans h') hStep hStart hSteady
  refine ⟨countP_le_one_of_pairwise _ ?_, ?_⟩
  · have hIds := List.pairwise_map.mp wf.operationIds
    refine hIds.imp_of_mem fun {row row'} hRow hRow' hApart hBoth => hApart ?_
    simp only [beq_iff_eq] at hBoth
    rw [wf.operationRow_id hRow, wf.operationRow_id hRow']
    exact hFinal.board.sourced _ (Store.WellFormed.mem_operations hRow) _
      (Store.WellFormed.mem_operations hRow') (by rw [hBoth.1]; rfl) (hBoth.1.trans hBoth.2.symm)
  · intro e he row hRow hRef
    obtain ⟨hBefore, hPromise, _, hAfter⟩ := hInvariant.trace hStart hSteady e he
    have hAfterLasts : e.before.store.Lasts e.after.store :=
      hAfter ▸ hStep e.before e.input hBefore hPromise
    obtain ⟨o, ho, hSame⟩ := (hAfterLasts.trans (hLasting e he)) _
      (Store.WellFormed.mem_operations hRow)
    refine ⟨_, wf.ofOperation_mem ho, ?_, hSame.sourceEventRef_eq.trans hRef⟩
    exact hSame.id_eq.trans (hBefore.ingesting.wellFormed.operationRow_id hRow).symm

end Runs

section Sample

def sampleSource : WeComInboundSource where
  bindingId := sampleId 'b'
  organizationId := "organization"
  workspaceId := "workspace"
  sourceAuthority := "authority"
  botNamespace := "namespace"
  accountId := "bot:exchange"
  groupConversationId := "group"

/-- A member of the group closes issue 7. -/
def sampleEnvelope : WeComInboundEnvelope where
  conversationId := "group"
  conversationKind := .group
  sourceEventId := "source-event"
  senderId := "sender"
  fromSelf := false
  sourceTransportRequestId := "transport"
  messageId := "message"
  content := [.text "/issue close 7"]
  rawBodySha256 := "10d982305eb3d1cfc01abc25a7ae2c13062e4299902fbbc1d5bdd71a42857413"

/-- The Account Center links the sender to one member of the workspace. -/
def sampleSurroundings (subject : String) (first second : Char) : Surroundings where
  draw := ⟨0, sampleId first, sampleId second⟩
  linked := some (some ⟨"issuer", subject, "organization", none⟩)
  observed := none

/-- The second member of the group with an ActorBinding. -/
def sampleOther : ActorBinding :=
  { sampleActor with id := sampleId 'd', scope := { sampleScope with actorSubject := "other" } }

/-- A delivery that crashes after its submission and before the mark, and the
redelivery, which resolves the sender again. -/
def crashedDeliveries (subject subject' : String) : List IntakeAction := [
  .call (.createConnection sampleConnection),
  .call (.createBinding sampleBinding),
  .call (.createActorBinding sampleActor),
  .call (.createActorBinding sampleOther),
  .deliver sampleSource sampleEnvelope,
  .advance 0 (sampleSurroundings subject 'e' 'e')] ++
  List.replicate 5 (.advance 0 (sampleSurroundings subject '0' '1')) ++
  [.deliver sampleSource sampleEnvelope,
    .advance 1 (sampleSurroundings subject' 'f' 'f')] ++
  List.replicate 5 (.advance 1 (sampleSurroundings subject' '2' '3'))

/-- A sender linked to another member before the redelivery gets a second
operation for the same message. No digest is compared in this run. -/
theorem relinked_sender_gets_second_operation :
    (run (performIntake (digestOf [])) (crashedDeliveries "member" "other")
      {}).store.operations.countP
        (fun row => row.document.sourceEventRef == some (sampleId 'e').text) = 2 := by
  decide +kernel

theorem chat_event_admits_one_operation_sample :
    CommandedOnce (digestOf []) (crashedDeliveries "member" "member") (sampleId 'e') :=
  chat_event_admits_one_operation _ _ (by decide +kernel) _

end Sample

end CyreneExchange.Integrations
