import CyreneExchange.Integrations.Intake.Refinement

/-! A WeCom event is observed at most once. Its row leaves RECEIVED with the
one claim of the observation and never comes back, and every observation
spends the claim of its own delivery. -/
namespace CyreneExchange.Integrations

open Machine Transaction

section Steps

variable {s t : Store} {event : WeComInboundEvent}

/-- The inbox as a whole across one write of a row that moves forward. -/
theorem putInbound_advance {event₀ : WeComInboundEvent} (hMem : event₀ ∈ s.wecomInboundEvents)
    (hFollows : event₀.Follows event) (bindingId : UUID) :
    s.EventsAdvance (s.putInbound event event₀.id.text bindingId) :=
  persistInbound_advance hMem hFollows rfl bindingId

theorem persistWecomInbound_advance (sha256 : String → String) (message : WeComMessage) :
    Respects Store.EventsAdvance (persistWecomInbound sha256 message) := by
  rintro s t ⟨event, created⟩ h
  rcases persistWecomInbound_eq_ok h with
    ⟨_, _, _, _, rfl⟩ | ⟨_, hFresh, hSource, _, _, _, _, _, _, rfl⟩
  · exact refl_of _ _
  · intro keyed
    exact ⟨⟨keyed.ids.append_singleton hFresh, keyed.sources.append_singleton hSource⟩, _,
      [event], rfl, .refl _⟩

theorem markWecomInboundProcessed_advance (eventId bindingId : UUID) (state : WeComEventState)
    (operationId : Option UUID) : Respects Store.EventsAdvance
      (markWecomInboundProcessed eventId bindingId state operationId) := by
  intro s t event h
  obtain ⟨event₀, hMem, rfl, _, hProcessed, _, rfl, rfl⟩ := markWecomInboundProcessed_eq_ok h
  refine putInbound_advance hMem ⟨rfl, fun _ => ?_⟩ bindingId
  rintro rfl
  cases hProcessed

theorem beginWecomChallengeObservation_advance (bindingId : UUID) (sourceEventRef : String) :
    Respects Store.EventsAdvance (beginWecomChallengeObservation bindingId sourceEventRef) := by
  rintro s t ⟨event, claimed⟩ h
  obtain ⟨event₀, hMem, _, _, ⟨_, _, rfl, rfl⟩ | ⟨_, _, rfl, rfl⟩ | ⟨_, _, _, rfl⟩⟩ :=
    beginWecomChallengeObservation_eq_ok h
  · exact putInbound_advance hMem ⟨rfl, fun _ => by simp⟩ bindingId
  · exact putInbound_advance hMem ⟨rfl, fun _ => by simp⟩ bindingId
  · exact refl_of _ _

theorem markWecomChallengeUnknown_advance (bindingId : UUID) (sourceEventRef : String) :
    Respects Store.EventsAdvance (markWecomChallengeUnknown bindingId sourceEventRef) := by
  intro s t event h
  obtain ⟨event₀, hMem, _, _, _, rfl, rfl⟩ := markWecomChallengeUnknown_eq_ok h
  exact putInbound_advance hMem ⟨rfl, fun _ => by simp⟩ bindingId

theorem enqueueWecomChallengeReply_advance (bindingId : UUID) (sourceEventRef challengeId : String)
    (jobUuid : UUID) (now : Timestamp) : Respects Store.EventsAdvance
      (enqueueWecomChallengeReply bindingId sourceEventRef challengeId jobUuid now) := by
  intro s t event h
  obtain ⟨event₀, hMem, _, _, ⟨_, rfl⟩ | ⟨binding, u, _, _, hInsert, rfl, rfl⟩⟩ :=
    enqueueWecomChallengeReply_eq_ok h
  · exact refl_of _ _
  · obtain rfl := insertJob_appends hInsert
    have hQueued : s.EventsAdvance { s with
        outboxJobs := s.outboxJobs ++ [JobRow.ofJob (event₀.challengeReply binding challengeId
          jobUuid now)] } := .of_eq rfl
    exact trans_of _ hQueued (putInbound_advance hMem ⟨rfl, fun _ => by simp⟩ bindingId)

theorem notifyBindings_frame {incoming : IncomingEvent} {connection : IntegrationConnection}
    (jobUuid : Nat → UUID) (now : Timestamp) (bindings : List SyncBinding) (n : Nat) :
    Respects Store.InboxFrame (notifyBindings incoming connection jobUuid now bindings n) := by
  induction bindings generalizing n with
  | nil => exact .pure ()
  | cons binding rest ih =>
      refine .bind ?_ fun _ => ih (n + 1)
      unfold notifyBinding
      split_ifs
      · exact .bind (.require _ _) fun _ => Respects.frame (insertJob_footprint _)
      · exact .pure ()

theorem ingestGithubEvent_advance (sha256 : String → String) (delivery : GitHubDelivery) :
    Respects Store.EventsAdvance (ingestGithubEvent sha256 delivery) := by
  intro s t event h
  obtain ⟨_, _, _, _, rfl⟩ | ⟨_, _, connection, _, _, _, _, u, rfl, ⟨_, rfl⟩ | ⟨_, hNotify⟩⟩ :=
    ingestGithubEvent_eq_ok h
  · exact refl_of _ _
  · exact .of_eq rfl
  · have hIncoming : s.EventsAdvance { s with incomingEvents := s.incomingEvents ++ [event] } :=
      .of_eq rfl
    exact trans_of _ hIncoming (notifyBindings_frame _ _ _ _ hNotify).advance

/-- No call of the store returns an event to RECEIVED. -/
theorem IntakeCall.body_advance (sha256 : String → String) (call : IntakeCall) :
    Respects Store.EventsAdvance (call.body sha256) := by
  cases call with
  | dispatch call =>
      exact .bind ((dispatch_frame sha256 call.property).mono fun _ _ h => h.advance) fun _ =>
        .pure _
  | createConnection connection =>
      refine .bind ?_ fun _ => .pure _
      intro s t u h
      rw [(insertConnection_eq_ok h).2]
      exact .of_eq rfl
  | createBinding binding =>
      refine .bind ?_ fun _ => .pure _
      intro s t u h
      rw [(insertBinding_eq_ok h).2]
      exact .of_eq rfl
  | createActorBinding actorBinding =>
      refine .bind ?_ fun _ => .pure _
      intro s t u h
      rw [insertActorBinding_eq_ok h]
      exact .of_eq rfl
  | ingestGithubEvent delivery => exact .bind (ingestGithubEvent_advance sha256 _) fun _ => .pure _
  | persistWecomInbound message =>
      exact .bind (persistWecomInbound_advance sha256 message) fun _ => .pure _
  | markWecomInboundProcessed eventId bindingId state operationId =>
      exact .bind (markWecomInboundProcessed_advance ..) fun _ => .pure _
  | beginWecomChallengeObservation bindingId sourceEventRef =>
      exact .bind (beginWecomChallengeObservation_advance ..) fun _ => .pure _
  | markWecomChallengeUnknown bindingId sourceEventRef =>
      exact .bind (markWecomChallengeUnknown_advance ..) fun _ => .pure _
  | enqueueWecomChallengeReply bindingId sourceEventRef challengeId jobUuid now =>
      exact .bind (enqueueWecomChallengeReply_advance ..) fun _ => .pure _

/-- One step of the system moves the inbox forward. -/
theorem performIntake_advance (sha256 : String → String) (action : IntakeAction)
    (system : IntakeSystem) :
    system.store.EventsAdvance (performIntake sha256 action system).2.store :=
  performIntake_respects (IntakeCall.body_advance sha256)
    (fun draw stage => (stage.body_frame sha256 draw).mono fun _ _ h => h.advance) action system

end Steps

section Runs

variable (sha256 : String → String) (eventId : UUID)

/-- The claim of the one observation of an event: a call that returns it as
claimed, or a delivery that goes on to observe it. -/
def claimsObservation (e : Event IntakeSystem IntakeAction IntakeOutput) : Bool :=
  match e.input, e.output with
  | .call (.beginWecomChallengeObservation ..), .called (.ok (.inbound event claimed)) =>
      claimed && event.id == eventId
  | .advance .., .advanced (.continues (.observing _ observed _)) => observed == eventId
  | _, _ => false

def DeliveryStage.observes (stage : Option DeliveryStage) : Bool :=
  match stage with
  | some (.observing _ observed _) => observed == eventId
  | _ => false

/-- A delivery hands the challenge of an event to the Account Center. -/
def observesChallenge (e : Event IntakeSystem IntakeAction IntakeOutput) : Bool :=
  match e.input with
  | .advance deliveryIndex _ =>
      DeliveryStage.observes eventId (e.before.deliveries[deliveryIndex]?).join
  | _ => false

/-- The event has a row, and no row of it is in RECEIVED. -/
structure Store.HasLeftReceived (s : Store) : Prop where
  known : ∃ event ∈ s.wecomInboundEvents, event.id = eventId
  left : ∀ event ∈ s.wecomInboundEvents, event.id = eventId → event.state ≠ .received

variable {sha256 eventId} {s t : Store} {event : WeComInboundEvent}

theorem Store.EventsAdvance.hasLeft (h : s.EventsAdvance t)
    (keyed : EventsKeyed s.wecomInboundEvents) (hLeft : s.HasLeftReceived eventId) :
    t.HasLeftReceived eventId := by
  obtain ⟨keyedNext, kept, added, hNext, hFollow⟩ := h keyed
  obtain ⟨event, hMem, hId⟩ := hLeft.known
  obtain ⟨event', hMem', hEvent⟩ := hFollow.image hMem
  have hNextMem : event' ∈ t.wecomInboundEvents := hNext ▸ List.mem_append_left _ hMem'
  refine ⟨⟨event', hNextMem, hEvent.id_eq.trans hId⟩, fun other hOther hSame => ?_⟩
  rw [keyedNext.ids.eq hOther hNextMem (hSame.trans (hEvent.id_eq.trans hId).symm)]
  exact hEvent.left (hLeft.left event hMem hId)

/-- Claiming finds the event in RECEIVED and leaves it out of RECEIVED. -/
theorem beginWecomChallengeObservation_claims {bindingId : UUID} {eventRef : String}
    (keyed : EventsKeyed s.wecomInboundEvents)
    (h : beginWecomChallengeObservation bindingId eventRef s = .ok ((event, true), t)) :
    event.id.text = eventRef ∧ ¬ s.HasLeftReceived event.id ∧ t.HasLeftReceived event.id := by
  obtain ⟨event₀, hMem, hRef, _, ⟨_, hReceived, rfl, rfl⟩ | ⟨hClaimed, _⟩ | ⟨hClaimed, _⟩⟩ :=
    beginWecomChallengeObservation_eq_ok h
  · refine ⟨hRef, fun hLeft => hLeft.left event₀ hMem rfl hReceived, ?_, ?_⟩
    · refine ⟨_, Table.mem_updateWhere_of_pos hMem ?_, rfl⟩
      simp_all
    · intro other hOther hSame
      obtain ⟨x, hx, ⟨_, rfl⟩ | ⟨hWhere, rfl⟩⟩ := Table.mem_updateWhere.mp hOther
      · simp
      · rw [keyed.ids.eq hx hMem hSame] at hWhere
        simp_all
  · cases hClaimed
  · cases hClaimed

/-- Only the claim of a delivery leads to an observation. -/
theorem DeliveryStage.advance_observing {stage : DeliveryStage} {world : Surroundings}
    {bindingId : UUID} {challengeValue : String}
    (h : (stage.advance sha256 world s).1 =
      .continues (.observing bindingId eventId challengeValue)) :
    ∃ event t, beginWecomChallengeObservation bindingId eventId.text s = .ok ((event, true), t) ∧
      (stage.advance sha256 world s).2 = t := by
  cases stage with
  | claiming claimed claimedId value =>
      simp only [DeliveryStage.advance] at h ⊢
      rcases commit_cases (beginWecomChallengeObservation claimed claimedId.text) s with
        ⟨⟨event, _ | _⟩, t, hBody, hCommit⟩ | ⟨e, _, hCommit⟩
      · simp [hCommit] at h
      · simp only [hCommit, DeliveryProgress.continues.injEq, DeliveryStage.observing.injEq] at h
        obtain ⟨rfl, rfl, rfl⟩ := h
        exact ⟨event, t, hBody, by rw [hCommit]⟩
      · simp [hCommit] at h
  | received source envelope =>
      simp only [DeliveryStage.advance, routeInbound] at h
      grind
  | resolving source envelope claimedId commandText =>
      simp only [DeliveryStage.advance, resolveSender] at h
      grind
  | enqueueing | marking | observing | replying | abandoning =>
      simp only [DeliveryStage.advance] at h
      grind

theorem performIntake_claims {system : IntakeSystem} {action : IntakeAction}
    (keyed : EventsKeyed system.store.wecomInboundEvents)
    (h : claimsObservation eventId ⟨system, action, (performIntake sha256 action system).1,
      (performIntake sha256 action system).2⟩ = true) :
    ¬ system.store.HasLeftReceived eventId ∧
      (performIntake sha256 action system).2.store.HasLeftReceived eventId := by
  cases action with
  | call call =>
      cases call with
      | beginWecomChallengeObservation bindingId sourceEventRef =>
          simp only [performIntake, claimsObservation] at h ⊢
          rcases commit_cases (IntakeCall.body sha256
            (.beginWecomChallengeObservation bindingId sourceEventRef)) system.store with
            ⟨answer, t, hBody, hCommit⟩ | ⟨e, _, hCommit⟩
          · obtain ⟨⟨event, claimed⟩, _, hBegin, hPure⟩ := bind_eq_ok.mp hBody
            cases hPure
            simp only [hCommit, Bool.and_eq_true, beq_iff_eq] at h ⊢
            obtain ⟨rfl, rfl⟩ := h
            exact (beginWecomChallengeObservation_claims keyed hBegin).2
          · simp [hCommit] at h
      | _ => simp [claimsObservation] at h
  | request | deliver | answer => simp [claimsObservation] at h
  | advance deliveryIndex world =>
      simp only [performIntake] at h ⊢
      cases hStage : (system.deliveries[deliveryIndex]?).join with
      | none => simp [hStage, claimsObservation] at h
      | some stage =>
          simp only [hStage, claimsObservation] at h ⊢
          split at h
          · simp_all
          · next hOutput =>
              simp only [IntakeOutput.advanced.injEq] at hOutput
              obtain rfl := beq_iff_eq.mp h
              obtain ⟨event, t, hBegin, hNext⟩ := DeliveryStage.advance_observing hOutput
              rw [hNext]
              obtain ⟨hId, hClaims⟩ := beginWecomChallengeObservation_claims keyed hBegin
              rwa [UUID.ext_text hId] at hClaims
          · cases h

/-- Deliveries that hold the claim of an event and have not observed it yet. -/
def IntakeSystem.observing (eventId : UUID) (system : IntakeSystem) : Nat :=
  system.deliveries.countP (DeliveryStage.observes eventId)

/-- A delivery in flight takes its next step. -/
theorem performIntake_deliver {system : IntakeSystem} {deliveryIndex : Nat} {stage : DeliveryStage}
    (h : (system.deliveries[deliveryIndex]?).join = some stage) (world : Surroundings) :
    performIntake sha256 (.advance deliveryIndex world) system =
      (.advanced (stage.advance sha256 world system.store).1, { system with
        store := (stage.advance sha256 world system.store).2
        deliveries := system.deliveries.set deliveryIndex
          (stage.advance sha256 world system.store).1.stage }) := by
  simp only [performIntake, h]

theorem performIntake_absent {system : IntakeSystem} {deliveryIndex : Nat}
    (h : (system.deliveries[deliveryIndex]?).join = none) (world : Surroundings) :
    performIntake sha256 (.advance deliveryIndex world) system = (.idle, system) := by
  simp only [performIntake, h]

theorem performIntake_observing (sha256 : String → String) (action : IntakeAction)
    (system : IntakeSystem) :
    IntakeSystem.observing eventId (performIntake sha256 action system).2 +
        (if observesChallenge eventId ⟨system, action, (performIntake sha256 action system).1,
          (performIntake sha256 action system).2⟩ = true then 1 else 0) ≤
      IntakeSystem.observing eventId system +
        if claimsObservation eventId ⟨system, action, (performIntake sha256 action system).1,
          (performIntake sha256 action system).2⟩ = true then 1 else 0 := by
  cases action with
  | call | request => exact Nat.le_add_right _ _
  | answer requestIndex draw =>
      simp only [performIntake]
      split <;> exact Nat.le_add_right _ _
  | deliver source envelope =>
      simp [performIntake, IntakeSystem.observing, observesChallenge, List.countP_append,
        DeliveryStage.observes]
  | advance deliveryIndex world =>
      cases hStage : (system.deliveries[deliveryIndex]?).join with
      | none =>
          rw [performIntake_absent hStage]
          simp [observesChallenge, hStage, DeliveryStage.observes]
      | some stage =>
          rw [performIntake_deliver hStage]
          simp only [observesChallenge, hStage]
          -- the delivery's own entry is the only token that moves
          have hEntry := Option.join_eq_some_iff.mp hStage
          have hCount := Table.countP_set (q := DeliveryStage.observes eventId) hEntry
            (stage.advance sha256 world system.store).1.stage
          refine Nat.le_of_eq (hCount.trans ?_)
          have hClaims : DeliveryStage.observes eventId
              (stage.advance sha256 world system.store).1.stage =
              claimsObservation eventId ⟨system, .advance deliveryIndex world,
                .advanced (stage.advance sha256 world system.store).1, system⟩ := by
            cases (stage.advance sha256 world system.store).1 with
            | continues next => cases next <;> rfl
            | acknowledges | raises => rfl
          rw [hClaims]
          rfl

/-- What the intake guarantees about the challenge of one event. -/
structure ObservedOnce (sha256 : String → String) (actions : List IntakeAction)
    (eventId : UUID) : Prop where
  claims : (trace (performIntake sha256) actions {}).countP (claimsObservation eventId) ≤ 1
  observations : (trace (performIntake sha256) actions {}).countP (observesChallenge eventId) ≤ 1
  forward : ∀ first second, actions = first ++ second →
    (run (performIntake sha256) first {}).store.HasLeftReceived eventId →
      (run (performIntake sha256) actions {}).store.HasLeftReceived eventId
  rows : ∀ event ∈ (run (performIntake sha256) actions {}).store.wecomInboundEvents,
    ∀ event' ∈ (run (performIntake sha256) actions {}).store.wecomInboundEvents,
      event.bindingId = event'.bindingId → event.sourceEventId = event'.sourceEventId →
        event = event'

theorem performIntake_keyed (sha256 : String → String) :
    Preserves (performIntake sha256) (fun _ _ => True) fun system => EventsKeyed system.store.wecomInboundEvents := fun system action keyed _ =>
  (performIntake_advance sha256 action system keyed).keyed

theorem EventsKeyed.nil : EventsKeyed [] := ⟨List.nodup_nil, List.nodup_nil⟩

/-- Whatever the workers, redeliveries and crashes, the challenge of an event
is claimed and observed at most once, and the event never returns to RECEIVED. -/
theorem challenge_observed_at_most_once (sha256 : String → String) (actions : List IntakeAction)
    (eventId : UUID) : ObservedOnce sha256 actions eventId := by
  have hAdmitted : ∀ actions system,
      Admitted (performIntake sha256) (fun _ _ => True) actions system :=
    admitted_of_forall fun _ _ => trivial
  have hKeyed := performIntake_keyed sha256
  have hClaims : (trace (performIntake sha256) actions {}).countP (claimsObservation eventId) ≤ 1 :=
    countP_le_one_of_latch (fun system => EventsKeyed system.store.wecomInboundEvents)
      (fun system => system.store.HasLeftReceived eventId) (claimsObservation eventId) hKeyed
      (fun system action keyed _ => (performIntake_advance sha256 action system).hasLeft keyed)
      (fun system action keyed _ h => (performIntake_claims keyed h).1)
      (fun system action keyed _ h => (performIntake_claims keyed h).2)
      .nil (hAdmitted actions {})
  have hTokens := countP_le_of_tokens (IntakeSystem.observing eventId) (claimsObservation eventId)
    (observesChallenge eventId)
    (fun system action => performIntake_observing sha256 action system) actions {}
  have hNone : IntakeSystem.observing eventId {} = 0 := rfl
  refine ⟨hClaims, by omega, ?_, ?_⟩
  · rintro first second rfl hLeft
    rw [run_append]
    have hBoth : Preserves (performIntake sha256) (fun _ _ => True) fun system =>
        EventsKeyed system.store.wecomInboundEvents ∧ system.store.HasLeftReceived eventId :=
      fun system action h _ => ⟨hKeyed system action h.1 trivial,
        (performIntake_advance sha256 action system).hasLeft h.1 h.2⟩
    exact (hBoth.run ⟨hKeyed.run .nil (hAdmitted first {}), hLeft⟩ (hAdmitted second _)).2
  · intro event hMem event' hMem' hBinding hSource
    have keyed : EventsKeyed (run (performIntake sha256) actions {}).store.wecomInboundEvents :=
      hKeyed.run .nil (hAdmitted actions {})
    exact keyed.sources.eq hMem hMem' (Prod.ext hBinding hSource)

end Runs

end CyreneExchange.Integrations
