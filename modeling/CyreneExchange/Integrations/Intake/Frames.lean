import CyreneExchange.Integrations.Intake.System
import CyreneExchange.Integrations.Outbox.Footprints

/-! What the methods of the store leave alone in the inbox tables. -/
namespace CyreneExchange.Integrations

open Transaction

/-- No dispatching call touches the tables of the routes, and it moves inbound
events only forward. -/
theorem dispatch_frame (sha256 : String → String) {call : Call} (h : call.dispatches = true) :
    Respects Store.InboxFrame (call.body sha256) := by
  refine Respects.frame ?_
  cases call with
  | persistIssueAction intent => cases h
  | enqueueDelivery intent => cases h
  | administer connections syncBindings actorBindings events => cases h
  | claimReadyJob => exact .bind (claimReadyJob_footprint ..) fun _ => .pure _
  | markSending => exact .bind (markSending_footprint ..) fun _ => .pure _
  | failClaimedJob =>
      exact .bind (failClaimedJob_footprint _ _ _ _ _ _ fun _ => trivial) fun _ => .pure _
  | markAwaitingAuthority => exact .bind (markAwaitingAuthority_footprint ..) fun _ => .pure _
  | prepareAuthorityEnqueue => exact .bind (prepareAuthorityEnqueue_footprint ..) fun _ => .pure _
  | updateAuthorityEvidence => exact .bind (updateAuthorityEvidence_footprint ..) fun _ => .pure _
  | markAuthorityResultUnknown =>
      exact .bind (markAuthorityResultUnknown_footprint _ _ _ _ _ fun _ => trivial)
        fun _ => .pure _
  | beginAuthorizedExecution =>
      exact .bind (beginAuthorizedExecution_footprint ..) fun _ => .pure _
  | finishJob =>
      exact .bind (finishJob_footprint _ _ _ _ _ _ _ fun _ => trivial) fun _ => .pure _
  | recoverExpiredClaims =>
      exact .bind (.bind (.fetch _) fun _ => recoverClaims_footprint ..) fun _ => .pure _
  | retryReadonlyJob =>
      exact .bind (retryReadonlyJob_footprint _ _ _ _ _ fun _ => trivial) fun _ => .pure _
  | resolveUnknownOperation =>
      refine .bind ?_ fun _ => .pure _
      exact fun _ _ _ hBody => resolveUnknownOperation_footprint (fun _ _ _ _ _ => trivial) hBody

section Stages

theorem returned_reads {α : Type} (answer : Except StoreError α) :
    Respects Eq (returned answer) := by
  cases answer with
  | ok a => exact .pure a
  | error e => exact .reject e

/-- Every step before the submission only reads the store. -/
theorem EnqueueStage.body_reads (sha256 : String → String) (draw : Draw) {stage : EnqueueStage}
    (h : ∀ submission, stage ≠ .submitting submission) : Respects Eq (stage.body sha256 draw) := by
  cases stage with
  | rest principal request grant =>
      unfold EnqueueStage.body beginRest
      exact .bind (requireGrant_reads _ _ _) fun _ => .bind (.require _ _) fun _ =>
        .bind (.require _ _) fun _ => .bind (.fetch _) fun _ => .bind (expectRow_reads _ _) fun _ =>
        .bind (.require _ _) fun _ => .pure _
  | restBound principal request grant binding =>
      unfold EnqueueStage.body delegateRest
      exact .bind (requireGrant_reads _ _ _) fun _ => .bind (.fetch _) fun _ =>
        .bind (expectRow_reads _ _) fun _ => .bind (.require _ _) fun _ => .pure _
  | restDelegated principal request binding actorBinding =>
      exact .bind (.fetch _) fun _ => .bind (expectRow_reads _ _) fun _ => .pure _
  | command issue =>
      unfold EnqueueStage.body beginCommand
      exact .bind (.require _ _) fun _ => .bind (.require _ _) fun _ => .bind (.require _ _) fun _ =>
        .bind (returned_reads _) fun _ => .bind (.fetch _) fun _ => .bind (.fetch _) fun _ =>
        .bind (expectRow_reads _ _) fun _ => .bind (expectRow_reads _ _) fun _ => .pure _
  | commandMatched issue parsed binding actorBinding =>
      unfold EnqueueStage.body matchCommand
      exact .bind (.fetch _) fun _ => .bind (expectRow_reads _ _) fun _ =>
        .bind (.require _ _) fun _ => .bind (.require _ _) fun _ => .bind (.require _ _) fun _ =>
        .pure _
  | commandEligible issue parsed binding actorBinding event =>
      unfold EnqueueStage.body connectCommand
      exact .bind (.fetch _) fun _ => .bind (expectRow_reads _ _) fun _ =>
        .bind (.require _ _) fun _ => .pure _
  | submitting submission => exact absurd rfl (h submission)

/-- What `_persist_issue_action` respects, every step of an enqueue call
respects. -/
theorem EnqueueStage.body_respects {sha256 : String → String} {R : Store → Store → Prop}
    [Std.Refl R] [IsTrans Store R]
    (hPersist : ∀ intent, Respects R (persistIssueAction sha256 intent)) (draw : Draw)
    (stage : EnqueueStage) : Respects R (stage.body sha256 draw) := by
  by_cases hStage : ∀ submission, stage ≠ .submitting submission
  · exact (stage.body_reads sha256 draw hStage).mono fun s t h => h ▸ refl_of R s
  · push Not at hStage
    obtain ⟨submission, rfl⟩ := hStage
    exact .bind (hPersist _) fun _ => .pure _

/-- No step of an enqueue call writes a table of the inbox. -/
theorem EnqueueStage.body_frame (sha256 : String → String) (draw : Draw) (stage : EnqueueStage) :
    Respects Store.InboxFrame (stage.body sha256 draw) :=
  stage.body_respects (fun intent => Respects.frame (persistIssueAction_footprint sha256 intent)) draw

end Stages

section Steps

variable {sha256 : String → String} {R : Store → Store → Prop} [Std.Refl R]

/-- What every call and the step of the enqueue call it is in respect, the step
of a delivery respects. -/
theorem DeliveryStage.advance_respects (hCall : ∀ call, Respects R (IntakeCall.body sha256 call))
    {world : Surroundings} {s : Store} {stage : DeliveryStage}
    (hStage : ∀ bindingId eventId inner, stage = .enqueueing bindingId eventId inner →
      R s (commit (inner.body sha256 world.draw) s).2) :
    R s (stage.advance sha256 world s).2 := by
  cases stage with
  | received source envelope =>
      have h := (hCall (.persistWecomInbound (inboundMessage source envelope world.draw)))
        |>.of_answer.commit s
      simp only [DeliveryStage.advance]
      generalize commit _ s = outcome at h ⊢
      obtain ⟨e | answer, t⟩ := outcome <;> exact h
  | resolving source envelope eventId commandText =>
      simp only [DeliveryStage.advance]
      cases world.linked <;> exact refl_of _ s
  | enqueueing bindingId eventId stage =>
      have h := hStage bindingId eventId stage rfl
      simp only [DeliveryStage.advance]
      generalize commit _ s = outcome at h ⊢
      obtain ⟨e | progress, t⟩ := outcome
      · cases e <;> exact h
      · cases progress <;> exact h
  | marking bindingId eventId state operationId =>
      have h := (hCall (.markWecomInboundProcessed eventId bindingId state operationId))
        |>.of_answer.commit s
      simp only [DeliveryStage.advance]
      generalize commit _ s = outcome at h ⊢
      obtain ⟨e | answer, t⟩ := outcome <;> exact h
  | claiming bindingId eventId challengeValue =>
      have h := (hCall (.beginWecomChallengeObservation bindingId eventId.text))
        |>.of_answer.commit s
      simp only [DeliveryStage.advance]
      generalize commit _ s = outcome at h ⊢
      obtain ⟨e | ⟨event, _ | _⟩, t⟩ := outcome <;> exact h
  | observing bindingId eventId challengeValue =>
      simp only [DeliveryStage.advance]
      split <;> exact refl_of _ s
  | replying bindingId eventId =>
      have h := (hCall (.enqueueWecomChallengeReply bindingId eventId.text eventId.text
        world.draw.first world.draw.now)) |>.of_answer.commit s
      simp only [DeliveryStage.advance]
      generalize commit _ s = outcome at h ⊢
      obtain ⟨e | answer, t⟩ := outcome <;> exact h
  | abandoning bindingId eventId =>
      have h := (hCall (.markWecomChallengeUnknown bindingId eventId.text)) |>.of_answer.commit s
      simp only [DeliveryStage.advance]
      generalize commit _ s = outcome at h ⊢
      obtain ⟨e | answer, t⟩ := outcome <;> exact h

/-- What every call and every enqueue step respects, the system respects. -/
theorem performIntake_respects (hCall : ∀ call, Respects R (IntakeCall.body sha256 call))
    (hStage : ∀ draw stage, Respects R (EnqueueStage.body sha256 draw stage))
    (action : IntakeAction) (system : IntakeSystem) :
    R system.store (performIntake sha256 action system).2.store := by
  cases action with
  | call call => exact (hCall call).commit system.store
  | request principal request grant => exact refl_of _ _
  | deliver source envelope => exact refl_of _ _
  | answer requestIndex draw =>
      simp only [performIntake]
      split
      · exact refl_of _ _
      · next stage _ => exact (hStage draw stage).commit system.store
  | advance deliveryIndex world =>
      simp only [performIntake]
      split
      · exact refl_of _ _
      · exact DeliveryStage.advance_respects hCall fun _ _ inner _ =>
          (hStage world.draw inner).commit system.store

end Steps

end CyreneExchange.Integrations
