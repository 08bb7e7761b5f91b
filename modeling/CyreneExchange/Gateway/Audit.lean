import CyreneExchange.Gateway.Handlers
import CyreneExchange.Gateway.Totality

/-! The audit trace of a unary request: one rejection, or a started event and
one finished event. It is missing exactly where an exception passes every
`except` clause. -/
namespace CyreneExchange.Gateway
open CyreneExchange.General

/-- The events the observer sees. -/
def isObserved : Event → Bool
  | .observed .. => true
  | _ => false

/-- One rejection of this request. -/
def Rejected (requestId : Str) (events : List Event) : Prop :=
  ∃ rejection accepted, events = [.observed (.rejected rejection) accepted] ∧
    rejection.requestId = requestId

/-- One rejection of this request, or its start and its end. -/
def Audited (requestId : Str) (events : List Event) : Prop :=
  Rejected requestId events ∨
    ∃ metadata status usage errorType accepted,
      events = [.observed (.started metadata) true,
        .observed (.finished metadata status usage errorType) accepted] ∧
      metadata.requestId = requestId

theorem not_audited_nil {requestId : Str} : ¬ Audited requestId [] := by
  rintro (⟨_, _, h, -⟩ | ⟨_, _, _, _, _, h, -⟩) <;> cases h

section Gates

variable {α : Type} {env : Collaborators} {requestId : Str}

/-- The event of one observer call. -/
theorem observe_events (call : ObserverCall) :
    ∃ accepted, (observe env call).events = [.observed call accepted] ∧
      (accepted = true ↔ env.observer call = none) ∧
      ((observe env call).result = .ok () ↔ env.observer call = none) := by
  unfold observe
  cases h : env.observer call with
  | none => exact ⟨true, rfl, by simp, by simp [Traced.log]⟩
  | some e =>
      refine ⟨false, rfl, by simp, ?_⟩
      simp only [reduceCtorEq, iff_false]
      intro hOk
      cases hOk

theorem observed_observe (call : ObserverCall) : ∃ accepted,
    (observe env call).observed isObserved = [.observed call accepted] ∧
      (accepted = true ↔ env.observer call = none) := by
  obtain ⟨accepted, hEvents, hAccepted, -⟩ := @observe_events env call
  exact ⟨accepted, by rw [Traced.observed, hEvents]; rfl, hAccepted⟩

theorem observe_of_accepted {call : ObserverCall} (h : env.observer call = none) :
    observe env call = ⟨[.observed call true], .ok ()⟩ := by
  rw [observe, h]
  rfl

/-- Reporting a rejection leaves this one event and fails. -/
theorem reject_spec (rejection : Rejection) (raised : Raise) : ∃ e accepted,
    (reject env rejection raised : Handling α).result = .error e ∧
      (reject env rejection raised : Handling α).observed isObserved =
        [.observed (.rejected rejection) accepted] := by
  obtain ⟨accepted, hEvents, -⟩ := @observed_observe env (.rejected rejection)
  cases h : (observe env (.rejected rejection)).result with
  | ok u =>
      refine ⟨raised, accepted, ?_, ?_⟩
      · rw [reject, Traced.bind_of_ok h]
        rfl
      · rw [reject, Traced.observed_bind_of_ok h, hEvents]
        rfl
  | error e =>
      refine ⟨e, accepted, ?_, ?_⟩
      · rw [reject, Traced.bind_of_error h]
      · rw [reject, Traced.observed_bind_of_error h, hEvents]

/-- A guarded check leaks what its report does not name. -/
theorem gate_guarded {check : Except Raise α} {report : Raise → Option (Rejection × Raise)}
    (hId : ∀ e rejection raised, report e = some (rejection, raised) →
      rejection.requestId = requestId) :
    Traced.Gate isObserved (Rejected requestId) (∃ e, check = .error e ∧ report e = none)
      (guarded env check report) := by
  cases hCheck : check with
  | ok a =>
      refine (Traced.gate_of_ok (a := a) rfl rfl).congr ?_
      simp
  | error e =>
      cases hReport : report e with
      | none =>
          have hFail : guarded env (.error e) report = (Traced.fail e : Handling α) := by
            rw [guarded, hReport]
          rw [hFail]
          refine ⟨by rintro a ⟨⟩, fun _ _ hTight => absurd ⟨e, rfl, hReport⟩ hTight,
            fun _ _ _ => rfl⟩
      | some answer =>
          obtain ⟨rejection, raised⟩ := answer
          have hReject : guarded env (.error e) report =
              (reject env rejection raised : Handling α) := by
            rw [guarded, hReport]
          obtain ⟨e', accepted, hResult, hEvents⟩ :=
            @reject_spec α env rejection raised
          rw [hReject]
          refine ⟨?_, ?_, ?_⟩
          · intro a ha
            rw [hResult] at ha
            cases ha
          · intro _ _ _
            exact ⟨rejection, accepted, hEvents, hId e rejection raised hReport⟩
          · rintro _ _ ⟨e'', hSame, hNone⟩
            cases hSame
            rw [hReport] at hNone
            cases hNone

theorem guarded_result {check : Except Raise α} {report : Raise → Option (Rejection × Raise)}
    {a : α} : (guarded env check report).result = .ok a ↔ check = .ok a := by
  cases hCheck : check with
  | ok b => simp [guarded]
  | error e =>
      rw [guarded]
      cases hReport : report e with
      | none => simp
      | some answer =>
          obtain ⟨e', accepted, hResult, -⟩ :=
            @reject_spec α env answer.1 answer.2
          simp [hResult]

end Gates

section Stages

variable {env : Collaborators} {requestId : Str}

/-- The token lookup is interrupted by an exception outside `Exception`. -/
def PrincipalInterrupted (env : Collaborators) (headers : List (Str × Str)) : Prop :=
  ∃ token, bearerToken headers = some token ∧
    ∃ className, env.principals token = .error (.base className)

/-- The request is authenticated, within quota and not cancelled yet. -/
structure Admits (env : Collaborators) (headers : List (Str × Str))
    (principal : RequestPrincipal) : Prop where
  authenticated : authenticate env headers = .ok principal
  quota : env.quota principal = none
  live : env.cancelled .beforeRouting = false

theorem authenticate_interrupted {headers : List (Str × Str)} :
    (∃ e, authenticate env headers = .error e ∧ e ≠ .authentication) ↔
      PrincipalInterrupted env headers := by
  unfold authenticate PrincipalInterrupted
  cases bearerToken headers with
  | none => simp
  | some token =>
      simp only [Option.some.injEq, exists_eq_left']
      cases env.principals token with
      | ok found => cases found <;> simp
      | error e => cases e <;> simp [Raise.isException]

theorem gate_admission {headers : List (Str × Str)} {model : Option Str} {stream : Option Bool} :
    Traced.Gate isObserved (Rejected requestId) (PrincipalInterrupted env headers)
      (admission env requestId headers model stream) := by
  refine ((gate_guarded ?_).bind fun principal _ => (gate_guarded ?_).bind fun _ _ =>
    (gate_guarded ?_).bind fun _ _ => Traced.gate_of_ok (a := principal) rfl rfl).congr ?_
  · intro e rejection raised hReport
    split at hReport
    · cases hReport
      rfl
    · cases hReport
  · rintro e rejection raised ⟨⟩
    rfl
  · rintro e rejection raised ⟨⟩
    rfl
  · rw [← authenticate_interrupted]
    simp

theorem admission_result {headers : List (Str × Str)} {model : Option Str}
    {stream : Option Bool} {principal : RequestPrincipal} :
    (admission env requestId headers model stream).result = .ok principal ↔
      Admits env headers principal := by
  simp only [admission, Traced.result_bind_eq_ok, guarded_result, Traced.result_pure]
  constructor
  · rintro ⟨found, hFound, _, hQuota, _, hLive, hOut⟩
    cases hOut
    refine ⟨hFound, ?_, ?_⟩
    · cases hNone : env.quota principal with
      | none => rfl
      | some e =>
          rw [hNone] at hQuota
          cases hQuota
    · cases hCancelled : env.cancelled .beforeRouting with
      | false => rfl
      | true =>
          rw [hCancelled] at hLive
          cases hLive
  · rintro ⟨hFound, hQuota, hLive⟩
    exact ⟨principal, hFound, (), by rw [hQuota], (), by rw [hLive]; rfl, rfl⟩

/-- Routing is interrupted by an exception outside `Exception`. -/
def RoutingInterrupted (env : Collaborators) (request : RoutedRequest)
    (principal : RequestPrincipal) : Prop :=
  (∃ className, env.router = .error (.base className)) ∨
    env.router = .ok true ∧ ∃ className, env.plan request principal = .error (.base className)

theorem reportNoRoute_eq_none {rejection : Str → Str → Rejection} {e : Raise} :
    reportNoRoute rejection e = none ↔ ∃ className, e = .base className := by
  cases e <;> simp [reportNoRoute, Raise.isException]

theorem reportNoRoute_id {rejection : Str → Str → Rejection}
    (hId : ∀ status errorType, (rejection status errorType).requestId = requestId) (e : Raise)
    (found : Rejection) (raised : Raise) (h : reportNoRoute rejection e = some (found, raised)) :
    found.requestId = requestId := by
  unfold reportNoRoute at h
  split at h
  · cases h
    exact hId _ _
  · cases h

theorem gate_route {maxRouteAttempts : Nat} {rejection : Str → Str → Rejection}
    {request : RoutedRequest} {principal : RequestPrincipal}
    (hId : ∀ status errorType, (rejection status errorType).requestId = requestId) :
    Traced.Gate isObserved (Rejected requestId) (RoutingInterrupted env request principal)
      (route env maxRouteAttempts rejection request principal) := by
  refine ((gate_guarded (reportNoRoute_id hId)).bind fun _ _ =>
    (Traced.gate_of_ok (a := ()) rfl rfl).bind fun _ _ =>
      (gate_guarded (reportNoRoute_id hId)).bind fun candidates _ =>
        gate_guarded (reportNoRoute_id hId)).congr ?_
  have hEmpty : ∀ targets : List RouteTarget, ¬ ∃ e, (if targets.isEmpty then
      Except.error Raise.noRoute else Except.ok targets) = .error e ∧
        ∃ className, e = .base className := by
    rintro targets ⟨e, h, className, rfl⟩
    split at h <;> cases h
  simp only [reportNoRoute_eq_none, guarded_result, RoutingInterrupted, resolveRouter, planRoutes,
    hEmpty]
  cases env.router with
  | error e => simp
  | ok found =>
      cases found with
      | false => simp
      | true => cases env.plan request principal <;> simp [Traced.log, Except.map]

theorem route_result {maxRouteAttempts : Nat} {rejection : Str → Str → Rejection}
    {request : RoutedRequest} {principal : RequestPrincipal} {candidates : List RouteTarget} :
    (route env maxRouteAttempts rejection request principal).result = .ok candidates ↔
      env.router = .ok true ∧ ∃ targets, env.plan request principal = .ok targets ∧
        candidates = targets.take maxRouteAttempts ∧ candidates ≠ [] := by
  simp only [route, Traced.result_bind_eq_ok, guarded_result, resolveRouter, planRoutes]
  constructor
  · rintro ⟨_, hRouter, _, -, planned, hPlan, hSome⟩
    have hTrue : env.router = .ok true := by
      revert hRouter
      cases env.router with
      | error e => simp
      | ok found => cases found <;> simp
    cases hTargets : env.plan request principal with
    | error e =>
        rw [hTargets] at hPlan
        cases hPlan
    | ok targets =>
        rw [hTargets] at hPlan
        cases hPlan
        split at hSome
        · cases hSome
        · rename_i hFilled
          cases hSome
          exact ⟨hTrue, targets, rfl, rfl, by simpa using hFilled⟩
  · rintro ⟨hRouter, targets, hPlan, rfl, hSome⟩
    refine ⟨(), by rw [hRouter], (), rfl, targets.take maxRouteAttempts, by rw [hPlan]; rfl, ?_⟩
    rw [if_neg (by simpa using hSome)]

theorem gate_permitted {rejection : Str → Str → Rejection} {principal : RequestPrincipal}
    {model : Str} (hId : ∀ status errorType, (rejection status errorType).requestId = requestId) :
    Traced.Gate isObserved (Rejected requestId) False (permitted env rejection principal model) := by
  refine (gate_guarded ?_).congr (by simp)
  rintro e found raised ⟨⟩
  exact hId _ _

theorem permitted_result {rejection : Str → Str → Rejection} {principal : RequestPrincipal}
    {model : Str} {u : Unit} :
    (permitted env rejection principal model).result = .ok u ↔ principal.permits model = true := by
  rw [permitted, guarded_result]
  cases principal.permits model <;> simp

theorem ofRaised_eq_protocolError {raised : Raised} :
    Raise.ofRaised raised = .protocolError ↔ Documented raised := by
  cases raised <;> simp [Raise.ofRaised, Documented]

theorem gate_parsed {Request : Type} {rejection : Str → Str → Rejection}
    {result : Checked Request}
    (hId : ∀ status errorType, (rejection status errorType).requestId = requestId) :
    Traced.Gate isObserved (Rejected requestId) (¬ Settles Documented result)
      (parsed env rejection result) := by
  refine (gate_guarded ?_).congr ?_
  · intro e found raised h
    split at h
    · cases h
      exact hId _ _
    · cases h
  · cases result with
    | ok request => simp [Except.mapError]
    | error e => simp [Except.mapError, ofRaised_eq_protocolError]

theorem parsed_result {Request : Type} {rejection : Str → Str → Rejection}
    {result : Checked Request} {request : Request} :
    (parsed env rejection result).result = .ok request ↔ result = .ok request := by
  rw [parsed, guarded_result]
  cases result <;> simp [Except.mapError]

/-- Media resolution is interrupted by an exception outside `Exception`. -/
def MediaInterrupted (env : Collaborators) (request : NormalizedInferenceRequest)
    (principal : RequestPrincipal) : Prop :=
  ∃ className, resolveMediaArtifacts env request principal = .error (.base className)

/-- What media resolution raises: a cancellation, its own error, or an interruption. -/
def MediaError (e : Raise) : Prop :=
  (∃ usage, e = .requestCancelled usage) ∨ e = .mediaUnavailable ∨ ∃ className, e = .base className

theorem settles_resolvePart {principal : RequestPrincipal} {message index total : Nat}
    {part : Value} : Settles MediaError (resolvePart env principal message index total part) := by
  intro e h
  unfold resolvePart at h
  repeat' split at h
  all_goals first
    | (cases h; done)
    | (cases h; exact .inr (.inl rfl))
    | (cases h; exact .inl ⟨_, rfl⟩)
    | skip
  rename_i e' hNotCancelled hRead hException
  cases h
  cases e with
  | base className => exact .inr (.inr ⟨className, rfl⟩)
  | _ => simp [Raise.isException] at hException

theorem settles_resolveMediaArtifacts {request : NormalizedInferenceRequest}
    {principal : RequestPrincipal} :
    Settles MediaError (resolveMediaArtifacts env request principal) := by
  have hMessage : ∀ index total message,
      Settles MediaError (resolveMessage env principal index total message) := by
    intro index total message
    unfold resolveMessage
    split
    · simp
    · exact settles_bind.mpr ⟨settles_pass_of_forall (fun _ _ _ => settles_resolvePart) _ _ _,
        fun _ _ => settles_pure _⟩
  exact settles_bind.mpr ⟨settles_pass_of_forall hMessage _ _ _, fun _ _ => settles_pure _⟩

theorem gate_media {rejection : Str → Str → Rejection} {request : NormalizedInferenceRequest}
    {principal : RequestPrincipal}
    (hId : ∀ status errorType, (rejection status errorType).requestId = requestId) :
    Traced.Gate isObserved (Rejected requestId) (MediaInterrupted env request principal)
      (guarded env (resolveMediaArtifacts env request principal) (reportMedia rejection)) := by
  refine (gate_guarded ?_).congr ?_
  · intro e found raised h
    unfold reportMedia at h
    split at h
    · cases h
      exact hId _ _
    · cases h
      exact hId _ _
    · cases h
  · constructor
    · rintro ⟨e, hError, hNone⟩
      rcases settles_resolveMediaArtifacts e hError with ⟨usage, rfl⟩ | rfl | ⟨className, rfl⟩
      · cases hNone
      · cases hNone
      · exact ⟨className, hError⟩
    · rintro ⟨className, hError⟩
      exact ⟨_, hError, rfl⟩

end Stages

section Attempts

variable {env : Collaborators} {requestId : Str} {clauses : Bool → Raise → Handled}
  {metadata : RouteTarget → RequestMetadata} {rejection : Str → Str → Rejection}
  {call : Nat → RouteTarget → RequestMetadata → Handling GatewayResponse} {target : RouteTarget}

/-- The response is complete when the handler returns it. -/
def ResponseBody.Unary : ResponseBody → Prop
  | .stream .. => False
  | _ => True

/-- What is left of an attempt once its start was accepted. -/
def conclude (env : Collaborators) (clauses : Bool → Raise → Handled) (metadata : RequestMetadata)
    (attempt : Nat) (next : Handling GatewayResponse) (outcome : Except Raise GatewayResponse) :
    Handling GatewayResponse :=
  match outcome with
  | .ok response =>
      match response.body with
      | .stream .. => pure response
      | _ => do
          observe env (.finished metadata "completed" response.usage none)
          pure response
  | .error e =>
      match clauses (env.cancelled (.afterFailure attempt)) e with
      | .escapes => Traced.fail e
      | .finishes status usage errorType raised => do
          observe env (.finished metadata status usage (some errorType))
          match raised with
          | some e => Traced.fail e
          | none => next

theorem attempts_cons (attempt : Nat) (rest : List RouteTarget) :
    attempts env clauses metadata rejection call attempt (target :: rest) = (do
      let _ ← guarded env (if env.cancelled (.beforeAttempt attempt) then
          .error (.requestCancelled none) else .ok ()) fun e =>
        some (rejection "cancelled" e.auditErrorType, e)
      observe env (.started (metadata target))
      let outcome ← (call attempt target (metadata target)).outcome
      conclude env clauses (metadata target) attempt
        (attempts env clauses metadata rejection call (attempt + 1) rest) outcome) := rfl

/-- A single finished event is what follows, unless the exception escapes. -/
theorem conclude_observed {md : RequestMetadata} {attempt : Nat} {next : Handling GatewayResponse}
    {outcome : Except Raise GatewayResponse} (hNext : next.observed isObserved = [])
    (hUnary : ∀ response, outcome = .ok response → response.body.Unary) :
    (∃ status usage errorType accepted,
      (conclude env clauses md attempt next outcome).observed isObserved =
        [.observed (.finished md status usage errorType) accepted]) ∧
      (∀ e, outcome = .error e → clauses (env.cancelled (.afterFailure attempt)) e ≠ .escapes) ∨
    (conclude env clauses md attempt next outcome).observed isObserved = [] ∧
      ∃ e, outcome = .error e ∧ clauses (env.cancelled (.afterFailure attempt)) e = .escapes := by
  have hFinish : ∀ (call : ObserverCall) (last : Handling GatewayResponse),
      last.observed isObserved = [] → ∃ accepted,
        (observe env call >>= fun _ => last).observed isObserved = [.observed call accepted] := by
    intro call last hLast
    obtain ⟨accepted, hEvents, -⟩ := @observed_observe env call
    refine ⟨accepted, ?_⟩
    cases hResult : (observe env call).result with
    | ok u => rw [Traced.observed_bind_of_ok hResult, hEvents, hLast, List.append_nil]
    | error e => rw [Traced.observed_bind_of_error hResult, hEvents]
  cases outcome with
  | ok response =>
      refine .inl ⟨?_, by rintro e ⟨⟩⟩
      have hBody := hUnary response rfl
      unfold conclude
      cases hKind : response.body with
      | stream => rw [hKind] at hBody; exact hBody.elim
      | answer answer =>
          simp only [hKind]
          obtain ⟨accepted, h⟩ := hFinish (.finished md "completed" response.usage none)
            (pure response) rfl
          exact ⟨_, _, _, accepted, h⟩
      | embeddings batch =>
          simp only [hKind]
          obtain ⟨accepted, h⟩ := hFinish (.finished md "completed" response.usage none)
            (pure response) rfl
          exact ⟨_, _, _, accepted, h⟩
  | error e =>
      cases hClause : clauses (env.cancelled (.afterFailure attempt)) e with
      | escapes =>
          refine .inr ⟨?_, e, rfl, hClause⟩
          simp only [conclude, hClause]
          rfl
      | finishes status usage errorType raised =>
          refine .inl ⟨?_, ?_⟩
          · simp only [conclude, hClause]
            cases raised with
            | none =>
                obtain ⟨accepted, h⟩ := hFinish (.finished md status usage (some errorType)) next hNext
                exact ⟨_, _, _, accepted, h⟩
            | some raised =>
                obtain ⟨accepted, h⟩ := hFinish (.finished md status usage (some errorType))
                  (Traced.fail raised) rfl
                exact ⟨_, _, _, accepted, h⟩
          · rintro _ ⟨⟩
            rw [hClause]
            simp

/-- The single attempt of a unary request is audited when the observer accepts
its start and no exception of the provider call escapes. -/
theorem audited_attempts
    (hRejection : ∀ status errorType, (rejection status errorType).requestId = requestId)
    (hMetadata : (metadata target).requestId = requestId)
    (hSilent : (call 0 target (metadata target)).observed isObserved = [])
    (hUnary : ∀ response, (call 0 target (metadata target)).result = .ok response →
      response.body.Unary) :
    Audited requestId
        ((attempts env clauses metadata rejection call 0 [target]).observed isObserved) ↔
      (env.cancelled (.beforeAttempt 0) = false →
        env.observer (.started (metadata target)) = none ∧
          ∀ e, (call 0 target (metadata target)).result = .error e →
            clauses (env.cancelled (.afterFailure 0)) e ≠ .escapes) := by
  have hGate : Traced.Gate isObserved (Rejected requestId) False
      (guarded env (if env.cancelled (.beforeAttempt 0) then .error (.requestCancelled none)
        else .ok ()) fun e => some (rejection "cancelled" e.auditErrorType, e)) := by
    refine (gate_guarded ?_).congr (by simp)
    rintro e found raised ⟨⟩
    exact hRejection _ _
  rw [attempts_cons, hGate.lawful_bind_iff (fun _ h => .inl h) not_audited_nil]
  simp only [not_false_eq_true, true_and, guarded_result]
  have hLive : ∀ u : Unit, (if env.cancelled (.beforeAttempt 0) then
      Except.error (Raise.requestCancelled none) else Except.ok ()) = .ok u ↔
      env.cancelled (.beforeAttempt 0) = false := by
    intro u
    cases env.cancelled (.beforeAttempt 0) <;> simp
  simp only [hLive]
  refine forall_const Unit |>.trans (imp_congr_right fun _ => ?_)
  cases hStart : env.observer (.started (metadata target)) with
  | some e =>
      have hEvents : ∀ rest : Unit → Handling GatewayResponse,
          (observe env (.started (metadata target)) >>= rest).observed isObserved =
            [.observed (.started (metadata target)) false] := by
        intro rest
        rw [observe, hStart]
        rfl
      rw [hEvents]
      simp only [reduceCtorEq, false_and, iff_false]
      rintro (⟨_, _, h, -⟩ | ⟨_, _, _, _, _, h, -⟩) <;> cases h
  | none =>
      have hStarted : ∀ rest : Unit → Handling GatewayResponse,
          (observe env (.started (metadata target)) >>= rest).observed isObserved =
            .observed (.started (metadata target)) true :: (rest ()).observed isObserved := by
        intro rest
        rw [observe_of_accepted hStart]
        rfl
      have hOutcome : ∀ rest : Except Raise GatewayResponse → Handling GatewayResponse,
          ((call 0 target (metadata target)).outcome >>= rest).observed isObserved =
            (rest (call 0 target (metadata target)).result).observed isObserved := by
        intro rest
        rw [Traced.observed_bind_of_ok (a := (call 0 target (metadata target)).result) rfl]
        exact (congrArg (· ++ _) hSilent).trans (List.nil_append _)
      rw [hStarted, hOutcome]
      simp only [true_and]
      rcases @conclude_observed env clauses (metadata target)
        0 (attempts env clauses metadata rejection call 1 [])
        (call 0 target (metadata target)).result rfl hUnary with
        ⟨⟨status, usage, errorType, accepted, hEvents⟩, hHandled⟩ | ⟨hEvents, e, hError, hEscapes⟩
      · rw [hEvents]
        refine iff_of_true (.inr ⟨_, _, _, _, _, rfl, hMetadata⟩) hHandled
      · rw [hEvents]
        refine iff_of_false ?_ fun hHandled => hHandled e hError hEscapes
        rintro (⟨_, _, h, -⟩ | ⟨_, _, _, _, _, h, -⟩) <;> cases h

end Attempts

section Calls

variable {env : Collaborators} {attempt : Nat} {target : RouteTarget} {md : RequestMetadata}

/-- No `except` clause of the handlers catches this exception. -/
def Uncaught (e : Raise) : Prop := e = .lifecycle ∨ e.isException = false

theorem sharedClauses_escapes {cancelled : Bool} {usage : Option ProviderUsage} {e : Raise} :
    sharedClauses cancelled usage e = .escapes ↔ Uncaught e := by
  cases e <;> cases cancelled <;> simp [sharedClauses, Uncaught, Raise.isException]

theorem chatClauses_escapes {cancelled : Bool} {e : Raise} :
    chatClauses cancelled e = .escapes ↔ Uncaught e := sharedClauses_escapes

theorem embeddingClauses_escapes {cancelled : Bool} {e : Raise} :
    embeddingClauses cancelled e = .escapes ↔ Uncaught e := by
  unfold embeddingClauses
  split
  · simp [Uncaught, Raise.isException]
  · exact sharedClauses_escapes

theorem resolveProvider_eq_ok {u : Unit} :
    resolveProvider env attempt target = .ok u ↔
      env.provider attempt target.providerRef = .ok true := by
  unfold resolveProvider
  cases env.provider attempt target.providerRef with
  | error e => simp
  | ok found => cases found <;> simp

/-- Resolving the provider raises something that is not caught. -/
theorem resolveProvider_uncaught : (∃ e, resolveProvider env attempt target = .error e ∧ Uncaught e) ↔
    ∃ e, env.provider attempt target.providerRef = .error e ∧ Uncaught e := by
  unfold resolveProvider
  cases env.provider attempt target.providerRef with
  | error e => simp
  | ok found => cases found <;> simp [Uncaught, Raise.isException]

/-- Reading on lets an exception through only where the chunks end in an
interruption that no cancellation comes before. -/
theorem collectChunks_uncaught {ending : Option Raise} {collected rest : List ProviderChunk} :
    (∃ e, collectChunks env attempt ending collected rest = .error e ∧ Uncaught e) ↔
      ∃ e, ending = some e ∧ e.isException = false ∧ ∀ i, collected.length ≤ i →
        i < collected.length + rest.length → env.cancelled (.collecting attempt i) = false := by
  induction rest generalizing collected with
  | nil =>
      cases ending with
      | none => simp [collectChunks]
      | some e =>
          cases e <;> simp [collectChunks, Uncaught, Raise.isException]
          omega
  | cons chunk rest ih =>
      rw [collectChunks]
      cases hCancelled : env.cancelled (.collecting attempt collected.length) with
      | true =>
          simp only [if_true, Except.error.injEq, exists_eq_left']
          refine iff_of_false (by simp [Uncaught, Raise.isException]) ?_
          rintro ⟨e, -, -, hLive⟩
          rw [hLive collected.length le_rfl (by simp)] at hCancelled
          cases hCancelled
      | false =>
          simp only [Bool.false_eq_true, if_false, ih]
          refine exists_congr fun e => and_congr_right fun _ => and_congr_right fun _ => ?_
          simp only [List.length_append, List.length_cons, List.length_nil]
          constructor
          · intro h i hLow hHigh
            rcases Nat.eq_or_lt_of_le hLow with rfl | hLater
            · exact hCancelled
            · exact h i hLater (by omega)
          · intro h i hLow hHigh
            exact h i (by omega) (by omega)

theorem collectResponse_uncaught {ending : Option Raise} {first : ProviderChunk}
    {rest : List ProviderChunk} :
    (∃ e, collectResponse env attempt first rest ending = .error e ∧ Uncaught e) ↔
      ∃ e, ending = some e ∧ e.isException = false ∧ ∀ i, 1 ≤ i → i < 1 + rest.length →
        env.cancelled (.collecting attempt i) = false := by
  have hChunks := @collectChunks_uncaught env attempt ending
    [first] rest
  rw [List.length_singleton] at hChunks
  rw [← hChunks]
  refine exists_congr fun e => and_congr_left fun hUncaught => ?_
  unfold collectResponse
  rw [except_bind_eq_error]
  refine or_iff_left ?_
  rintro ⟨collected, -, hAssembled⟩
  split at hAssembled
  · cases hAssembled
  · cases hAssembled
    rcases hUncaught with hKind | hKind <;> cases hKind

/-- The provider call of a chat request ends in an exception no clause catches:
the provider, its invocation or the first chunk raises it, or the later chunks
end in an interruption. -/
def ChatCallEscapes (env : Collaborators) (attempt : Nat) (request : NormalizedInferenceRequest)
    (target : RouteTarget) : Prop :=
  (∃ e, env.provider attempt target.providerRef = .error e ∧ Uncaught e) ∨
  env.provider attempt target.providerRef = .ok true ∧
    ((∃ e, env.complete attempt target.providerRef (chatProviderRequest request target) =
      .error e ∧ Uncaught e) ∨
    ∃ answer e, env.complete attempt target.providerRef (chatProviderRequest request target) =
      .ok answer ∧ answer.ending = some e ∧
        (answer.chunks = [] ∧ Uncaught e ∨ answer.chunks ≠ [] ∧ e.isException = false ∧
          ∀ i, 1 ≤ i → i < answer.chunks.length → env.cancelled (.collecting attempt i) = false))

/-- The provider call of an embeddings request ends in an exception no clause catches. -/
def EmbeddingCallEscapes (env : Collaborators) (attempt : Nat)
    (request : NormalizedEmbeddingRequest) (target : RouteTarget) : Prop :=
  (∃ e, env.provider attempt target.providerRef = .error e ∧ Uncaught e) ∨
  env.provider attempt target.providerRef = .ok true ∧
    ∃ e, env.embed attempt target.providerRef (embeddingProviderRequest request target) =
      .error e ∧ Uncaught e

/-- A chat call is seen by nobody but its provider. -/
theorem chatCall_events {request : NormalizedInferenceRequest} {event : Event}
    (h : event ∈ (chatCall env attempt request target md).events) :
    event = .invoked target.providerRef := by
  unfold chatCall at h
  dsimp only at h
  rw [Traced.mem_events_bind] at h
  rcases h with h | ⟨_, -, h⟩
  · cases h
  · rw [Traced.log_bind, List.mem_cons] at h
    refine h.resolve_right ?_
    intro hLater
    split at hLater
    · rw [Traced.mem_events_bind] at hLater
      rcases hLater with h | ⟨steps, -, h⟩
      · cases h
      · split at h <;> cases h
    · rw [Traced.mem_events_bind] at hLater
      rcases hLater with h | ⟨answer, -, h⟩
      · cases h
      · split at h
        · cases h
        · rw [Traced.mem_events_bind] at h
          rcases h with h | ⟨_, -, h⟩ <;> cases h

theorem embeddingCall_events {request : NormalizedEmbeddingRequest} {event : Event}
    (h : event ∈ (embeddingCall env attempt request target md).events) :
    event = .invoked target.providerRef := by
  unfold embeddingCall at h
  rw [Traced.mem_events_bind] at h
  rcases h with h | ⟨_, -, h⟩
  · cases h
  · rw [Traced.log_bind, List.mem_cons] at h
    refine h.resolve_right ?_
    intro hLater
    rw [Traced.mem_events_bind] at hLater
    rcases hLater with h | ⟨batch, -, h⟩
    · cases h
    · split at h
      · cases h
      · split at h
        · cases h
        · split at h <;> cases h

/-- The answer to a request without streaming is complete. -/
theorem chatCall_unary {request : NormalizedInferenceRequest} {response : GatewayResponse}
    (hUnary : request.stream = false)
    (h : (chatCall env attempt request target md).result = .ok response) :
    response.body.Unary := by
  unfold chatCall at h
  dsimp only at h
  rw [Traced.result_bind_eq_ok] at h
  obtain ⟨_, -, h⟩ := h
  rw [Traced.result_bind_eq_ok] at h
  obtain ⟨_, -, h⟩ := h
  rw [if_neg (by simp [hUnary]), Traced.result_bind_eq_ok] at h
  obtain ⟨answer, -, h⟩ := h
  split at h
  · cases h
  · rw [Traced.result_bind_eq_ok] at h
    obtain ⟨_, -, h⟩ := h
    cases h
    trivial

theorem embeddingCall_unary {request : NormalizedEmbeddingRequest} {response : GatewayResponse}
    (h : (embeddingCall env attempt request target md).result = .ok response) :
    response.body.Unary := by
  unfold embeddingCall at h
  rw [Traced.result_bind_eq_ok] at h
  obtain ⟨_, -, h⟩ := h
  rw [Traced.result_bind_eq_ok] at h
  obtain ⟨_, -, h⟩ := h
  rw [Traced.result_bind_eq_ok] at h
  obtain ⟨batch, -, h⟩ := h
  split at h
  · cases h
  · split at h
    · cases h
    · split at h
      · cases h
      · cases h
        trivial

theorem not_uncaught_providerFailure {usage : Option ProviderUsage} :
    ¬ Uncaught (.providerFailure usage) := by
  simp [Uncaught, Raise.isException]

theorem chatCall_uncaught {request : NormalizedInferenceRequest} (hUnary : request.stream = false) :
    (∃ e, (chatCall env attempt request target md).result = .error e ∧ Uncaught e) ↔
      ChatCallEscapes env attempt request target := by
  unfold chatCall ChatCallEscapes
  simp only [Traced.exists_result_bind_error, Traced.result_lift, resolveProvider_uncaught,
    resolveProvider_eq_ok, Traced.log, hUnary, Bool.false_eq_true, if_false, reduceCtorEq,
    false_and, exists_false, false_or, true_and, exists_const]
  refine or_congr_right (and_congr_right fun _ => or_congr_right (exists_congr fun answer => ?_))
  rw [exists_and_left]
  refine and_congr_right fun _ => ?_
  obtain ⟨chunks, ending⟩ := answer
  cases chunks with
  | nil => cases ending <;> simp [Uncaught, stopIteration, Raise.isException]
  | cons first rest =>
      have hAssembled : ∀ response : GatewayResponse, ¬ ∃ e,
          (pure response : Handling GatewayResponse).result = .error e ∧ Uncaught e := by
        rintro response ⟨e, h, -⟩
        cases h
      simp only [Traced.exists_result_bind_error, Traced.result_lift, collectResponse_uncaught,
        hAssembled, and_false, exists_false, or_false]
      simp [Nat.add_comm]

theorem embeddingCall_uncaught {request : NormalizedEmbeddingRequest} :
    (∃ e, (embeddingCall env attempt request target md).result = .error e ∧ Uncaught e) ↔
      EmbeddingCallEscapes env attempt request target := by
  unfold embeddingCall EmbeddingCallEscapes
  simp only [Traced.exists_result_bind_error, Traced.result_lift, resolveProvider_uncaught,
    resolveProvider_eq_ok, Traced.log, reduceCtorEq, false_and, exists_false, false_or,
    true_and, exists_const]
  refine or_congr_right (and_congr_right fun _ => or_iff_left ?_)
  rintro ⟨batch, -, e, hError, hUncaught⟩
  cases batch with
  | none =>
      cases hError
      exact not_uncaught_providerFailure hUncaught
  | some batch =>
      dsimp only at hError
      split at hError
      · cases hError
        exact not_uncaught_providerFailure hUncaught
      · split at hError
        · cases hError
          simp [Uncaught, Raise.isException] at hUncaught
        · cases hError

end Calls

end CyreneExchange.Gateway
