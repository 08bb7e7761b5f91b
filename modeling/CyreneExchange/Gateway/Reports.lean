import CyreneExchange.Gateway.UnaryAudit

/-! The observer calls of an embeddings request, one at a time. Which call comes
first does not depend on the observer, and whether another one follows depends
on no more than the acceptance of a started event. -/
namespace CyreneExchange.Gateway
open CyreneExchange.General

abbrev Observer : Type := ObserverCall → Option Raise

/-- The same collaborators under another observer. -/
def Collaborators.observedBy (env : Collaborators) (observer : Observer) : Collaborators :=
  { env with observer }

/-- The observer call of an event. -/
def Event.call : Event → Option ObserverCall
  | .observed call _ => some call
  | _ => none

/-- The observer calls of a computation, in order. -/
def observerCalls {α : Type} (x : Handling α) : List ObserverCall := x.events.filterMap Event.call

section Calls

variable {α β : Type} {x : Handling α} {f : α → Handling β}

theorem observerCalls_bind_of_ok {a : α} (h : x.result = .ok a) :
    observerCalls (x >>= f) = observerCalls x ++ observerCalls (f a) := by
  rw [observerCalls, Traced.bind_of_ok h, List.filterMap_append]
  rfl

theorem observerCalls_bind_of_error {e : Raise} (h : x.result = .error e) :
    observerCalls (x >>= f) = observerCalls x := by
  rw [observerCalls, Traced.bind_of_error h]
  rfl

/-- One observer call, and what comes next once it was accepted. -/
theorem observerCalls_observe_bind {env : Collaborators} {call : ObserverCall}
    {next : Unit → Handling β} :
    observerCalls (observe env call >>= next) =
      call :: if env.observer call = none then observerCalls (next ()) else [] := by
  cases h : env.observer call with
  | none =>
      rw [observe_of_accepted h, if_pos rfl]
      rfl
  | some e =>
      rw [observe, h, if_neg (by simp)]
      rfl

/-- A last observer call. -/
theorem observerCalls_observe_last {env : Collaborators} {call : ObserverCall}
    {next : Unit → Handling β} (hLast : observerCalls (next ()) = []) :
    observerCalls (observe env call >>= next) = [call] := by
  rw [observerCalls_observe_bind, hLast, ite_self]

theorem observerCalls_reject {env : Collaborators} {rejection : Rejection} {raised : Raise} :
    observerCalls (reject env rejection raised : Handling α) = [.rejected rejection] := by
  rw [reject]
  exact observerCalls_observe_last rfl

theorem reject_fails {env : Collaborators} {rejection : Rejection} {raised : Raise} :
    ∃ e, (reject env rejection raised : Handling α).result = .error e := by
  obtain ⟨e, -, hResult, -⟩ := @reject_spec α env rejection raised
  exact ⟨e, hResult⟩

end Calls

section Stages

variable {α β : Type} {leaks leaksNext : Prop} {Refusal : Rejection → Prop}
  {Start : RequestMetadata → Prop}

/-- How a stage ends under every observer alike: it passes silently, stops
silently, which is a leak, or stops with a rejection. -/
inductive StageEnds (leaks : Prop) (Refusal : Rejection → Prop) (x : Observer → Handling α) : Prop
  | passes (a : α) (h : ∀ observer, (x observer).result = .ok a ∧ observerCalls (x observer) = [])
  | stops (hLeaks : leaks)
      (h : ∀ observer, (∃ e, (x observer).result = .error e) ∧ observerCalls (x observer) = [])
  | rejects (rejection : Rejection) (hRefusal : Refusal rejection)
      (h : ∀ observer, (∃ e, (x observer).result = .error e) ∧
        observerCalls (x observer) = [.rejected rejection])

/-- The observer calls of a request: none, which is a leak, one rejection, or a
started event, after whose acceptance at most one finished event follows. -/
inductive Reports (leaks : Prop) (Refusal : Rejection → Prop) (Start : RequestMetadata → Prop)
    (x : Observer → Handling α) : Prop
  | nothing (hLeaks : leaks) (h : ∀ observer, observerCalls (x observer) = [])
  | rejection (rejection : Rejection) (hRefusal : Refusal rejection)
      (h : ∀ observer, observerCalls (x observer) = [.rejected rejection])
  | attempt (metadata : RequestMetadata) (hStart : Start metadata)
      (last : Option (Str × Option ProviderUsage × Option Str))
      (h : ∀ observer, observerCalls (x observer) = .started metadata ::
        if observer (.started metadata) = none then
          (last.map fun outcome => .finished metadata outcome.1 outcome.2.1 outcome.2.2).toList
        else [])

theorem StageEnds.of_ok (a : α) : StageEnds leaks Refusal fun _ => (pure a : Handling α) :=
  .passes a fun _ => ⟨rfl, rfl⟩

/-- A guarded check, when its own answer does not depend on the observer. -/
theorem stageEnds_guarded (env : Collaborators) (check : Except Raise α)
    {report : Raise → Option (Rejection × Raise)}
    (hLeaks : ∀ e, check = .error e → report e = none → leaks)
    (hRefusal : ∀ e rejection raised, check = .error e → report e = some (rejection, raised) →
      Refusal rejection) :
    StageEnds leaks Refusal fun observer => guarded (env.observedBy observer) check report := by
  cases hCheck : check with
  | ok a => exact .of_ok a
  | error e =>
      cases hReport : report e with
      | none =>
          apply StageEnds.stops (hLeaks e hCheck hReport)
          intro observer
          simp only [guarded, hReport]
          exact ⟨⟨e, rfl⟩, rfl⟩
      | some answer =>
          apply StageEnds.rejects answer.1 (hRefusal e answer.1 answer.2 hCheck hReport)
          intro observer
          simp only [guarded, hReport]
          exact ⟨reject_fails, observerCalls_reject⟩

theorem StageEnds.mono {x : Observer → Handling α} (h : StageEnds leaks Refusal x)
    (hLeaks : leaks → leaksNext) : StageEnds leaksNext Refusal x := by
  cases h with
  | passes a h => exact .passes a h
  | stops hLeak h => exact .stops (hLeaks hLeak) h
  | rejects rejection hRefusal h => exact .rejects rejection hRefusal h

variable {x : Observer → Handling α} {f : Observer → α → Handling β}

/-- Two stages in a row are a stage. -/
theorem StageEnds.bind (hFirst : StageEnds leaks Refusal x)
    (hNext : ∀ a, (∀ observer, (x observer).result = .ok a) →
      StageEnds leaks Refusal fun observer => f observer a) :
    StageEnds leaks Refusal fun observer => x observer >>= f observer := by
  cases hFirst with
  | stops hLeaks h =>
      apply StageEnds.stops hLeaks
      intro observer
      obtain ⟨⟨e, hError⟩, hCalls⟩ := h observer
      exact ⟨⟨e, by rw [Traced.bind_of_error hError]⟩,
        (observerCalls_bind_of_error hError).trans hCalls⟩
  | rejects rejection hRefusal h =>
      apply StageEnds.rejects rejection hRefusal
      intro observer
      obtain ⟨⟨e, hError⟩, hCalls⟩ := h observer
      exact ⟨⟨e, by rw [Traced.bind_of_error hError]⟩,
        (observerCalls_bind_of_error hError).trans hCalls⟩
  | passes a h =>
      have hResult : ∀ observer, (x observer >>= f observer).result = (f observer a).result := by
        intro observer
        rw [Traced.bind_of_ok (h observer).1]
      have hCalls : ∀ observer,
          observerCalls (x observer >>= f observer) = observerCalls (f observer a) := by
        intro observer
        rw [observerCalls_bind_of_ok (h observer).1, (h observer).2, List.nil_append]
      cases hNext a fun observer => (h observer).1 with
      | passes b hEnds =>
          apply StageEnds.passes b
          intro observer
          rw [hResult, hCalls]
          exact hEnds observer
      | stops hLeaks hEnds =>
          apply StageEnds.stops hLeaks
          intro observer
          rw [hResult, hCalls]
          exact hEnds observer
      | rejects rejection hRefusal hEnds =>
          apply StageEnds.rejects rejection hRefusal
          intro observer
          rw [hResult, hCalls]
          exact hEnds observer

/-- A stage in front of a request. -/
theorem StageEnds.reports (hFirst : StageEnds leaks Refusal x)
    (hNext : ∀ a, (∀ observer, (x observer).result = .ok a) →
      Reports leaks Refusal Start fun observer => f observer a) :
    Reports leaks Refusal Start fun observer => x observer >>= f observer := by
  cases hFirst with
  | stops hLeaks h =>
      apply Reports.nothing hLeaks
      intro observer
      obtain ⟨⟨e, hError⟩, hCalls⟩ := h observer
      exact (observerCalls_bind_of_error hError).trans hCalls
  | rejects rejection hRefusal h =>
      apply Reports.rejection rejection hRefusal
      intro observer
      obtain ⟨⟨e, hError⟩, hCalls⟩ := h observer
      exact (observerCalls_bind_of_error hError).trans hCalls
  | passes a h =>
      have hCalls : ∀ observer,
          observerCalls (x observer >>= f observer) = observerCalls (f observer a) := by
        intro observer
        rw [observerCalls_bind_of_ok (h observer).1, (h observer).2, List.nil_append]
      cases hNext a fun observer => (h observer).1 with
      | nothing hLeaks hReports =>
          exact .nothing hLeaks fun observer => (hCalls observer).trans (hReports observer)
      | rejection rejection hRefusal hReports =>
          exact .rejection rejection hRefusal fun observer =>
            (hCalls observer).trans (hReports observer)
      | attempt metadata hStart last hReports =>
          exact .attempt metadata hStart last fun observer =>
            (hCalls observer).trans (hReports observer)

end Stages

section Requests

variable (env : Collaborators) (requestId : Str) (headers : List (Str × Str)) (payload : Dict)

/-- The public types of the errors a request is rejected with. -/
def rejectionTypes : List Str :=
  ["authentication_error", "quota_exceeded", "quota_unavailable", "request_cancelled",
    "invalid_request_error", "model_not_permitted", "no_route"]

/-- A rejection of this request: its texts are constants, or come from the
payload or the resolved principal. -/
structure RejectionOf (rejection : Rejection) : Prop where
  requestId : rejection.requestId = requestId
  principal : ∀ principal, rejection.principal = some principal →
    ∃ token, env.principals token = .ok (some principal)
  status : rejection.status = text "rejected" ∨ rejection.status = text "cancelled"
  errorType : rejection.errorType ∈ rejectionTypes
  model : rejection.model = payloadModel payload ∨ ∃ request,
    NormalizedEmbeddingRequest.fromOpenai (.dict payload) = .ok request ∧
      rejection.model = some request.model

/-- The start of this request on a planned target. -/
structure StartOf (metadata : RequestMetadata) : Prop where
  requestId : metadata.requestId = requestId
  principal : ∃ token, env.principals token = .ok (some metadata.principal)
  model : ∃ request, NormalizedEmbeddingRequest.fromOpenai (.dict payload) = .ok request ∧
    metadata.model = request.model
  target : ∃ request targets target, env.plan request metadata.principal = .ok targets ∧
    target ∈ targets ∧ metadata.routeId = target.routeName ∧
      metadata.providerRef = target.providerRef

/-- No exception gets past the handler before its first observer call. -/
structure EmbeddingsReported : Prop where
  authentication : ¬ PrincipalInterrupted env headers
  parsing : ∀ principal, Admits env headers principal → EmbeddingReadable payload
  routing : ∀ principal, Admits env headers principal →
    ∀ request, NormalizedEmbeddingRequest.fromOpenai (.dict payload) = .ok request →
      principal.permits request.model = true →
        ¬ RoutingInterrupted env (.embedding request) principal

end Requests

section Handler

variable {env : Collaborators} {requestId : Str} {headers : List (Str × Str)} {payload : Dict}

theorem authenticate_principal {principal : RequestPrincipal}
    (h : authenticate env headers = .ok principal) :
    ∃ token, env.principals token = .ok (some principal) := by
  unfold authenticate at h
  split at h
  · cases h
  · next token hToken =>
      split at h
      · next found hFound =>
          cases h
          exact ⟨token, hFound⟩
      · cases h
      · split at h <;> cases h

theorem RejectionOf.of_principal {principal : RequestPrincipal} {model : Option Str}
    {stream : Option Bool} {status errorType : Str}
    (hPrincipal : ∃ token, env.principals token = .ok (some principal))
    (hStatus : status = text "rejected" ∨ status = text "cancelled")
    (hType : errorType ∈ rejectionTypes)
    (hModel : model = payloadModel payload ∨ ∃ request,
      NormalizedEmbeddingRequest.fromOpenai (.dict payload) = .ok request ∧
        model = some request.model) :
    RejectionOf env requestId payload
      (requestRejection requestId principal model stream status errorType) where
  requestId := rfl
  principal := by
    rintro _ ⟨⟩
    exact hPrincipal
  status := hStatus
  errorType := hType
  model := hModel

/-- The quota check of a known principal leaks nothing. -/
theorem stageEnds_quota {principal : RequestPrincipal} {stream : Option Bool} {leaks : Prop}
    (hFound : ∃ token, env.principals token = .ok (some principal)) :
    StageEnds leaks (RejectionOf env requestId payload) fun observer =>
      guarded (env.observedBy observer) (match env.quota principal with
        | some e => .error e.raised
        | none => .ok ()) fun e => some ({
          requestId, principal := some principal, status := "rejected",
          errorType := e.auditErrorType, model := payloadModel payload, stream }, e) := by
  apply stageEnds_guarded env
  · rintro e - ⟨⟩
  · rintro e rejection raised hError ⟨⟩
    refine RejectionOf.of_principal hFound (Or.inl rfl) ?_ (Or.inl rfl)
    split at hError
    · next error hQuota =>
        cases hError
        cases error <;> decide
    · cases hError

/-- The admission leaks only where the token lookup is interrupted. -/
theorem stageEnds_admission {stream : Option Bool} :
    StageEnds (PrincipalInterrupted env headers) (RejectionOf env requestId payload)
      fun observer => admission (env.observedBy observer) requestId headers
        (payloadModel payload) stream := by
  apply StageEnds.bind
  · apply stageEnds_guarded env (authenticate env headers)
    · intro e hError hReport
      apply authenticate_interrupted.mp
      exact ⟨e, hError, by simpa using hReport⟩
    · intro e rejection raised hError hReport
      split at hReport
      · next hAuthentication =>
          cases hReport
          subst hAuthentication
          exact ⟨rfl, by rintro _ ⟨⟩, Or.inl rfl, List.mem_cons_self, Or.inl rfl⟩
      · cases hReport
  · intro principal hResult
    have hFound := authenticate_principal (guarded_result.mp (hResult env.observer))
    apply StageEnds.bind
    · exact stageEnds_quota hFound
    · intro _ _
      apply StageEnds.bind
      · apply stageEnds_guarded env
          (if env.cancelled .beforeRouting then .error (.requestCancelled none) else .ok ())
        · rintro e - ⟨⟩
        · rintro e rejection raised hError ⟨⟩
          refine RejectionOf.of_principal hFound (Or.inr rfl) ?_ (Or.inl rfl)
          split at hError
          · cases hError
            decide
          · cases hError
      · intro _ _
        exact .of_ok principal

/-- Routing leaks only where it is interrupted. -/
theorem stageEnds_route {principal : RequestPrincipal} {request : NormalizedEmbeddingRequest}
    (hFound : ∃ token, env.principals token = .ok (some principal))
    (hParsed : NormalizedEmbeddingRequest.fromOpenai (.dict payload) = .ok request) :
    StageEnds (RoutingInterrupted env (.embedding request) principal)
      (RejectionOf env requestId payload)
      fun observer => route (env.observedBy observer) 1
        (requestRejection requestId principal (some request.model) (some false))
        (.embedding request) principal := by
  have hRefusal : ∀ e rejection raised, reportNoRoute
      (requestRejection requestId principal (some request.model) (some false)) e =
        some (rejection, raised) → RejectionOf env requestId payload rejection := by
    intro e rejection raised hReport
    unfold reportNoRoute at hReport
    split at hReport
    · cases hReport
      exact .of_principal hFound (Or.inl rfl) (by decide) (Or.inr ⟨request, hParsed, rfl⟩)
    · cases hReport
  apply StageEnds.bind
  · apply stageEnds_guarded env (resolveRouter env)
    · intro e hError hReport
      obtain ⟨className, rfl⟩ := reportNoRoute_eq_none.mp hReport
      refine Or.inl ⟨className, ?_⟩
      unfold resolveRouter at hError
      cases hRouter : env.router with
      | ok found =>
          rw [hRouter] at hError
          cases found <;> cases hError
      | error raised =>
          rw [hRouter] at hError
          rw [Except.error.inj hError]
    · exact fun e rejection raised _ hReport => hRefusal e rejection raised hReport
  · intro _ hRouter
    have hRouterOk : env.router = .ok true := by
      have hResolved := guarded_result.mp (hRouter env.observer)
      change resolveRouter env = _ at hResolved
      unfold resolveRouter at hResolved
      cases hKnown : env.router with
      | ok found =>
          rw [hKnown] at hResolved
          cases found with
          | true => rfl
          | false => cases hResolved
      | error raised =>
          rw [hKnown] at hResolved
          cases hResolved
    apply StageEnds.bind
    · exact .passes () fun _ => ⟨rfl, rfl⟩
    · intro _ _
      apply StageEnds.bind
      · apply stageEnds_guarded env (planRoutes env 1 (.embedding request) principal)
        · intro e hError hReport
          obtain ⟨className, rfl⟩ := reportNoRoute_eq_none.mp hReport
          refine Or.inr ⟨hRouterOk, className, ?_⟩
          unfold planRoutes at hError
          cases hPlan : env.plan (.embedding request) principal with
          | ok targets =>
              rw [hPlan] at hError
              cases hError
          | error raised =>
              rw [hPlan] at hError
              rw [Except.error.inj hError]
        · exact fun e rejection raised _ hReport => hRefusal e rejection raised hReport
      · intro candidates _
        apply stageEnds_guarded env
          (if candidates.isEmpty then .error .noRoute else .ok candidates)
        · intro e hError hReport
          split at hError
          · cases hError
            cases hReport
          · cases hError
        · exact fun e rejection raised _ hReport => hRefusal e rejection raised hReport

/-- The single attempt: a rejection when it is cancelled before it starts, else
its start and what the provider call leads to. -/
theorem reports_attempt {principal : RequestPrincipal} {request : NormalizedEmbeddingRequest}
    {target : RouteTarget} {leaks : Prop}
    (hFound : ∃ token, env.principals token = .ok (some principal))
    (hParsed : NormalizedEmbeddingRequest.fromOpenai (.dict payload) = .ok request)
    (hPlan : ∃ rest, env.plan (.embedding request) principal = .ok (target :: rest)) :
    Reports leaks (RejectionOf env requestId payload) (StartOf env requestId payload)
      fun observer => attempts (env.observedBy observer) embeddingClauses
        (requestMetadata requestId principal request.model false)
        (requestRejection requestId principal (some request.model) (some false))
        (fun attempt target metadata =>
          embeddingCall (env.observedBy observer) attempt request target metadata) 0 [target] := by
  simp only [attempts_cons]
  apply StageEnds.reports
  · apply stageEnds_guarded env
      (if env.cancelled (.beforeAttempt 0) then .error (.requestCancelled none) else .ok ())
    · rintro e - ⟨⟩
    · rintro e rejection raised hError ⟨⟩
      refine RejectionOf.of_principal hFound (Or.inr rfl) ?_ (Or.inr ⟨request, hParsed, rfl⟩)
      split at hError
      · cases hError
        decide
      · cases hError
  · intro _ _
    have hStart : StartOf env requestId payload
        (requestMetadata requestId principal request.model false target) := by
      obtain ⟨rest, hPlan⟩ := hPlan
      exact ⟨rfl, hFound, ⟨request, hParsed, rfl⟩,
        ⟨_, _, target, hPlan, List.mem_cons_self, rfl, rfl⟩⟩
    have hNext : ∀ observer, observerCalls (attempts (env.observedBy observer) embeddingClauses
        (requestMetadata requestId principal request.model false)
        (requestRejection requestId principal (some request.model) (some false))
        (fun attempt target metadata =>
          embeddingCall (env.observedBy observer) attempt request target metadata) (0 + 1) []) = [] :=
      fun _ => rfl
    -- the provider call reports nothing, and does not depend on the observer
    have hCall : observerCalls (embeddingCall env 0 request target
        (requestMetadata requestId principal request.model false target)) = [] := by
      rw [observerCalls, List.filterMap_eq_nil_iff]
      intro event hEvent
      rw [embeddingCall_events hEvent]
      rfl
    have hOutcome : ∀ (observer : Observer) (next : Except Raise GatewayResponse →
        Handling GatewayResponse), observerCalls ((embeddingCall (env.observedBy observer) 0 request
          target (requestMetadata requestId principal request.model false target)).outcome >>= next) =
        observerCalls (next (embeddingCall env 0 request target
          (requestMetadata requestId principal request.model false target)).result) := by
      intro observer next
      rw [observerCalls, Traced.outcome_bind, List.filterMap_append]
      exact (congrArg (· ++ _) hCall).trans (List.nil_append _)
    cases hResult : (embeddingCall env 0 request target
        (requestMetadata requestId principal request.model false target)).result with
    | ok response =>
        apply Reports.attempt _ hStart (some (text "completed", response.usage, none))
        intro observer
        rw [observerCalls_observe_bind, hOutcome, hResult]
        have hBody := embeddingCall_unary hResult
        unfold conclude
        cases hKind : response.body with
        | stream =>
            rw [hKind] at hBody
            exact hBody.elim
        | answer answer =>
            simp only [hKind]
            rw [observerCalls_observe_last rfl]
            rfl
        | embeddings batch =>
            simp only [hKind]
            rw [observerCalls_observe_last rfl]
            rfl
    | error e =>
        cases hClause : embeddingClauses (env.cancelled (.afterFailure 0)) e with
        | escapes =>
            apply Reports.attempt _ hStart none
            intro observer
            rw [observerCalls_observe_bind, hOutcome, hResult]
            have hEscapes : embeddingClauses ((env.observedBy observer).cancelled
                (.afterFailure 0)) e = .escapes := hClause
            simp only [conclude, hEscapes]
            rfl
        | finishes status usage errorType raised =>
            apply Reports.attempt _ hStart (some (status, usage, some errorType))
            intro observer
            rw [observerCalls_observe_bind, hOutcome, hResult]
            have hFinishes : embeddingClauses ((env.observedBy observer).cancelled
                (.afterFailure 0)) e = .finishes status usage errorType raised := hClause
            simp only [conclude, hFinishes]
            rw [observerCalls_observe_last]
            · rfl
            · cases raised with
              | none => exact hNext observer
              | some raised => rfl

/-- The observer calls of `handle_openai_embeddings` with one route attempt. -/
theorem reports_handleOpenaiEmbeddings :
    Reports (¬ EmbeddingsReported env headers payload) (RejectionOf env requestId payload)
      (StartOf env requestId payload)
      fun observer => handleOpenaiEmbeddings (env.observedBy observer) 1 requestId headers
        payload := by
  simp only [handleOpenaiEmbeddings_eq]
  apply StageEnds.reports
  · exact stageEnds_admission.mono fun hLeaks hReported => hReported.authentication hLeaks
  · intro principal hAdmission
    have hAdmits : Admits env headers principal := admission_result.mp (hAdmission env.observer)
    have hFound := authenticate_principal hAdmits.authenticated
    apply StageEnds.reports
    · apply stageEnds_guarded env
        ((NormalizedEmbeddingRequest.fromOpenai (.dict payload)).mapError Raise.ofRaised)
      · intro e hError hReport hReported
        have hSettles := settles_embedding.mpr (hReported.parsing principal hAdmits)
        cases hParsed : NormalizedEmbeddingRequest.fromOpenai (.dict payload) with
        | ok request =>
            rw [hParsed] at hError
            cases hError
        | error raised =>
            rw [hParsed] at hError
            cases hError
            rw [if_pos (ofRaised_eq_protocolError.mpr (hSettles raised hParsed))] at hReport
            cases hReport
      · intro e rejection raised _ hReport
        split at hReport
        · cases hReport
          exact .of_principal hFound (Or.inl rfl) (by decide) (Or.inl rfl)
        · cases hReport
    · intro request hRequest
      have hParsed : NormalizedEmbeddingRequest.fromOpenai (.dict payload) = .ok request :=
        parsed_result.mp (hRequest env.observer)
      apply StageEnds.reports
      · apply stageEnds_guarded env
          (if principal.permits request.model then .ok () else .error .modelNotPermitted)
        · rintro e - ⟨⟩
        · rintro e rejection raised hError ⟨⟩
          refine RejectionOf.of_principal hFound (Or.inl rfl) ?_ (Or.inr ⟨request, hParsed, rfl⟩)
          split at hError
          · cases hError
          · cases hError
            decide
      · intro _ hPermitted
        have hPermits : principal.permits request.model = true :=
          permitted_result.mp (hPermitted env.observer)
        unfold runEmbeddings
        apply StageEnds.reports
        · exact (stageEnds_route hFound hParsed).mono fun hLeaks hReported =>
            hReported.routing principal hAdmits request hParsed hPermits hLeaks
        · intro candidates hRoute
          obtain ⟨target, hSelects, rfl⟩ := route_single.mp (hRoute env.observer)
          exact reports_attempt hFound hParsed hSelects.2

end Handler

end CyreneExchange.Gateway
