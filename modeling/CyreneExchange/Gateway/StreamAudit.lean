import CyreneExchange.Gateway.Emission
import CyreneExchange.Gateway.UnaryAudit

/-! The audit trace of a streaming request. The body reports its end once,
wherever its consumer stops, provided it was asked for a first item. -/
namespace CyreneExchange.Gateway
open CyreneExchange.General

/-- Every accepted start is followed by its only finished event. -/
inductive FinishedOnce : List Event → Prop where
  | nil : FinishedOnce []
  | rejected {rejection : Rejection} {accepted : Bool} {rest : List Event}
      (later : FinishedOnce rest) :
      FinishedOnce (.observed (.rejected rejection) accepted :: rest)
  | refused {metadata : RequestMetadata} {rest : List Event} (later : FinishedOnce rest) :
      FinishedOnce (.observed (.started metadata) false :: rest)
  | finished {metadata : RequestMetadata} {status : Str} {usage : Option ProviderUsage}
      {errorType : Option Str} {accepted : Bool} {rest : List Event} (later : FinishedOnce rest) :
      FinishedOnce (.observed (.started metadata) true ::
        .observed (.finished metadata status usage errorType) accepted :: rest)

/-- The only observed event is this request's end. -/
def EndsOnce (metadata : RequestMetadata) (events : List Event) : Prop :=
  ∃ status usage errorType accepted,
    events = [.observed (.finished metadata status usage errorType) accepted]

section Body

variable {body : StreamBody} {state : StreamState} {generator : Generator}

/-- A suspended body whose end is not reported yet. -/
def Generator.Open : Generator → Prop
  | .atChunk .. | .atFinish _ | .atUsage _ => True
  | .created | .atDone | .closed => False

theorem report_ends (facts : Str × Str) :
    EndsOnce body.metadata ((body.report state facts).observed isObserved) := by
  obtain ⟨accepted, hEvents, -⟩ := @observed_observe body.env
    (.finished body.metadata facts.1 state.usage (some facts.2))
  exact ⟨_, _, _, accepted, hEvents⟩

theorem interrupt_ends (e : Raise) :
    (∃ raised, (body.interrupt state e).result = .error raised) ∧
      EndsOnce body.metadata ((body.interrupt state e).observed isObserved) := by
  have hEnds := @report_ends body state (body.failureFacts e)
  unfold StreamBody.interrupt
  cases hResult : (body.report state (body.failureFacts e)).result with
  | ok u =>
      rw [Traced.observed_bind_of_ok hResult, Traced.bind_of_ok hResult]
      refine ⟨⟨e, rfl⟩, ?_⟩
      rw [show (Traced.fail e : Handling Generator).observed isObserved = [] from rfl,
        List.append_nil]
      exact hEnds
  | error raised =>
      rw [Traced.observed_bind_of_error hResult, Traced.bind_of_error hResult]
      exact ⟨⟨raised, rfl⟩, hEnds⟩

/-- What asking for an item does: suspend again unreported, or report the end
and raise, or report the completion and publish "[DONE]". -/
inductive Advanced (body : StreamBody) (x : Handling Generator) : Prop where
  | suspends (generator : Generator) (item : StreamItem) (isOpen : generator.Open)
      (eq : x = ⟨[.emitted item], .ok generator⟩) (notDone : item ≠ .done)
  | ends (raised : Raise) (result : x.result = .error raised)
      (ends : EndsOnce body.metadata (x.observed isObserved))
      (silent : ∀ item, Event.emitted item ∉ x.events)
  | completes (usage : Option ProviderUsage)
      (eq : x = ⟨[.observed (.finished body.metadata "completed" usage none) true,
        .emitted .done], .ok .atDone⟩)

theorem advanced_interrupt (e : Raise) : Advanced body (body.interrupt state e) := by
  obtain ⟨⟨raised, hResult⟩, hEnds⟩ := @interrupt_ends body state e
  refine .ends raised hResult hEnds ?_
  intro item hMem
  rw [StreamBody.interrupt, Traced.mem_events_bind] at hMem
  rcases hMem with hMem | ⟨_, -, hMem⟩
  · obtain ⟨accepted, hEvents, -⟩ := @observe_events body.env
      (.finished body.metadata (body.failureFacts e).1 state.usage (some (body.failureFacts e).2))
    rw [StreamBody.report, hEvents, List.mem_singleton] at hMem
    cases hMem
  · cases hMem

theorem advanced_completeStage : Advanced body (body.completeStage state) := by
  obtain ⟨accepted, hEvents, hAccepted, hOk⟩ :=
    @observe_events body.env (.finished body.metadata "completed" state.usage none)
  unfold StreamBody.completeStage
  cases hResult : (observe body.env
    (.finished body.metadata "completed" state.usage none)).result with
  | ok u =>
      rw [hAccepted.mpr (hOk.mp hResult)] at hEvents
      refine .completes state.usage ?_
      rw [Traced.bind_of_ok hResult, hEvents]
      rfl
  | error raised =>
      refine .ends raised ?_ ?_ ?_
      · rw [Traced.bind_of_error hResult]
      · rw [Traced.observed_bind_of_error hResult, Traced.observed, hEvents]
        exact ⟨_, _, _, accepted, rfl⟩
      · intro item
        rw [Traced.bind_of_error hResult, hEvents]
        simp

theorem advanced_usageStage : Advanced body (body.usageStage state) := by
  unfold StreamBody.usageStage
  split
  · exact advanced_completeStage
  · split
    · exact .suspends (.atUsage state) _ trivial rfl (by simp)
    · exact advanced_completeStage

theorem advanced_finishStage : Advanced body (body.finishStage state) := by
  unfold StreamBody.finishStage
  split
  · exact advanced_interrupt _
  · split
    · exact advanced_usageStage
    · exact .suspends (.atFinish state) _ trivial rfl (by simp)

theorem advanced_chunkStage (index : Nat) : Advanced body (body.chunkStage state index) := by
  unfold StreamBody.chunkStage
  split
  · rename_i chunk hStep
    split
    · exact advanced_interrupt _
    · exact .suspends (.atChunk index (state.absorb body.includeUsage chunk)) _ trivial rfl (by simp)
  · exact advanced_finishStage
  · exact advanced_interrupt _
  · exact advanced_interrupt _

/-- One `next` on a body whose end is not reported. -/
theorem advanced_next (h : generator = .created ∨ generator.Open) :
    Advanced body (body.next generator) := by
  cases generator with
  | created => exact advanced_chunkStage 0
  | atChunk index state => exact advanced_chunkStage (index + 1)
  | atFinish state => exact advanced_usageStage
  | atUsage state => exact advanced_completeStage
  | atDone => rcases h with h | h <;> cases h
  | closed => rcases h with h | h <;> cases h

/-- A body that has come to its end stays silent. -/
theorem drive_over (h : generator = .atDone ∨ generator = .closed) (ops : List ConsumerOp) :
    (body.drive generator ops).events = [] := by
  induction ops generalizing generator with
  | nil => rcases h with rfl | rfl <;> rfl
  | cons op rest ih =>
      have hRest := @ih .closed (.inr rfl)
      rcases h with rfl | rfl <;> cases op <;> exact (List.nil_append _).trans hRest

theorem drive_next_of_ok {reached : Generator} {ops : List ConsumerOp}
    (h : (body.next generator).result = .ok reached) :
    (body.drive generator (.next :: ops)).events =
      (body.next generator).events ++ (body.drive reached ops).events := by
  rw [StreamBody.drive, Traced.outcome_bind, h]

theorem drive_next_of_error {raised : Raise} {ops : List ConsumerOp}
    (h : (body.next generator).result = .error raised) :
    (body.drive generator (.next :: ops)).events = (body.next generator).events := by
  rw [StreamBody.drive, Traced.outcome_bind, h]
  dsimp only
  rw [drive_over (.inr rfl), List.append_nil]

/-- Closing an open body reports its end. -/
theorem close_ends (h : generator.Open) :
    EndsOnce body.metadata ((body.close generator).observed isObserved) := by
  cases generator with
  | atChunk index state => exact report_ends _
  | atFinish state => exact report_ends _
  | atUsage state => exact report_ends _
  | created => exact h.elim
  | atDone => exact h.elim
  | closed => exact h.elim

theorem drive_nil_events : (body.drive generator []).events = (body.close generator).events := by
  rw [StreamBody.drive, Traced.outcome_bind]
  exact List.append_nil _

theorem drive_close_events {ops : List ConsumerOp} :
    (body.drive generator (.close :: ops)).events = (body.close generator).events := by
  rw [StreamBody.drive, Traced.outcome_bind]
  dsimp only
  rw [drive_over (.inr rfl), List.append_nil]

/-- Asking for an item of a body whose end is not reported leads to one report. -/
theorem drive_next_ends (h : generator = .created ∨ generator.Open) {ops : List ConsumerOp}
    (hLater : ∀ reached : Generator, reached.Open →
      EndsOnce body.metadata ((body.drive reached ops).observed isObserved)) :
    EndsOnce body.metadata ((body.drive generator (.next :: ops)).observed isObserved) := by
  cases @advanced_next body _ h with
  | suspends reached item isOpen eq notDone =>
      have hResult : (body.next generator).result = .ok reached := by rw [eq]
      rw [Traced.observed, drive_next_of_ok hResult, eq]
      exact hLater reached isOpen
  | ends raised result ends silent =>
      rw [Traced.observed, drive_next_of_error result]
      exact ends
  | completes usage eq =>
      have hResult : (body.next generator).result = .ok .atDone := by rw [eq]
      rw [Traced.observed, drive_next_of_ok hResult, eq, drive_over (.inl rfl)]
      exact ⟨_, _, _, _, rfl⟩

/-- Wherever its consumer stops, an open body reports its end once. -/
theorem drive_open (h : generator.Open) (ops : List ConsumerOp) :
    EndsOnce body.metadata ((body.drive generator ops).observed isObserved) := by
  induction ops generalizing generator with
  | nil =>
      rw [Traced.observed, drive_nil_events]
      exact close_ends h
  | cons op rest ih =>
      cases op with
      | next => exact drive_next_ends (.inr h) fun reached hOpen => ih hOpen
      | close =>
          rw [Traced.observed, drive_close_events]
          exact close_ends h

/-- A new body reports its end once when the first thing its consumer does is
to ask for an item. Otherwise it reports nothing. -/
theorem drive_created (ops : List ConsumerOp) :
    (ops.head? = some .next ∧
      EndsOnce body.metadata ((body.drive .created ops).observed isObserved)) ∨
    (ops.head? ≠ some .next ∧ (body.drive .created ops).observed isObserved = []) := by
  cases ops with
  | nil => exact .inr ⟨by simp, rfl⟩
  | cons op rest =>
      cases op with
      | next => exact .inl ⟨rfl, drive_next_ends (.inl rfl) fun reached hOpen => drive_open hOpen rest⟩
      | close =>
          refine .inr ⟨by simp, ?_⟩
          rw [Traced.observed, drive_close_events]
          rfl

/-- The accepted completion of this request. -/
def CompletedEvent (metadata : RequestMetadata) (event : Event) : Prop :=
  ∃ usage, event = .observed (.finished metadata "completed" usage none) true

/-- "[DONE]" comes only after the accepted completion. -/
def DoneLast (metadata : RequestMetadata) (events : List Event) : Prop :=
  Traced.Permitted (· = .emitted .done) (CompletedEvent metadata) events

theorem doneLast_of_none {metadata : RequestMetadata} {events : List Event}
    (h : ∀ item, Event.emitted item ∉ events) : DoneLast metadata events := by
  refine Traced.permitted_of_none ?_
  rintro _ hMem rfl
  exact h _ hMem

theorem doneLast_close : DoneLast body.metadata (body.close generator).events := by
  have hReport : ∀ (state : StreamState) (facts : Str × Str),
      DoneLast body.metadata (body.report state facts).events := by
    intro state facts
    obtain ⟨accepted, hEvents, -⟩ := @observe_events body.env
      (.finished body.metadata facts.1 state.usage (some facts.2))
    refine doneLast_of_none fun item => ?_
    rw [StreamBody.report, hEvents]
    simp
  cases generator with
  | atChunk index state => exact hReport _ _
  | atFinish state => exact hReport _ _
  | atUsage state => exact hReport _ _
  | created => exact doneLast_of_none (by simp [StreamBody.close])
  | atDone => exact doneLast_of_none (by simp [StreamBody.close])
  | closed => exact doneLast_of_none (by simp [StreamBody.close])

/-- Whatever its consumer does, a body publishes "[DONE]" only once its
completion is accepted. -/
theorem doneLast_drive (ops : List ConsumerOp) :
    DoneLast body.metadata (body.drive generator ops).events := by
  induction ops generalizing generator with
  | nil =>
      rw [drive_nil_events]
      exact doneLast_close
  | cons op rest ih =>
      cases op with
      | close =>
          rw [drive_close_events]
          exact doneLast_close
      | next =>
          by_cases hLive : generator = .created ∨ generator.Open
          · cases @advanced_next body _ hLive with
            | suspends reached item isOpen eq notDone =>
                have hResult : (body.next generator).result = .ok reached := by rw [eq]
                rw [drive_next_of_ok hResult, eq]
                refine Traced.Permitted.append (Traced.permitted_of_none ?_) (.inr ih)
                rintro _ hMem rfl
                rw [List.mem_singleton] at hMem
                cases hMem
                exact notDone rfl
            | ends raised result ends silent =>
                rw [drive_next_of_error result]
                exact doneLast_of_none silent
            | completes usage eq =>
                have hResult : (body.next generator).result = .ok .atDone := by rw [eq]
                rw [drive_next_of_ok hResult, eq, drive_over (.inl rfl), List.append_nil]
                have hDone : DoneLast body.metadata
                    ([.observed (.finished body.metadata "completed" usage none) true] ++
                      [.emitted .done]) :=
                  (doneLast_of_none (by simp)).append
                    (.inl ⟨_, List.mem_singleton_self _, usage, rfl⟩)
                exact hDone
          · rw [drive_over]
            · exact doneLast_of_none (by simp)
            · cases generator with
              | atDone => exact .inl rfl
              | closed => exact .inr rfl
              | created => exact absurd (.inl rfl) hLive
              | atChunk => exact absurd (.inr trivial) hLive
              | atFinish => exact absurd (.inr trivial) hLive
              | atUsage => exact absurd (.inr trivial) hLive

end Body

section Opening

variable {env : Collaborators} {attempt : Nat} {request : NormalizedInferenceRequest}
  {target : RouteTarget} {md : RequestMetadata}

/-- What the provider of this target answers a streaming request: its first
chunk and its steps, or what it raises. -/
def openStream (env : Collaborators) (attempt : Nat) (request : NormalizedInferenceRequest)
    (target : RouteTarget) : Except Raise (ProviderChunk × (Nat → ProviderStep)) := do
  resolveProvider env attempt target
  let steps ← env.completeStream attempt target.providerRef (chatProviderRequest request target)
  match steps 0 with
  | .chunk first => pure (first, steps)
  | .exhausted => .error stopIteration
  | .raises e => .error e

/-- The response around an opened stream. -/
def streamResponse (request : NormalizedInferenceRequest) (metadata : RequestMetadata)
    (opened : ProviderChunk × (Nat → ProviderStep)) : GatewayResponse :=
  { requestId := metadata.requestId, model := request.model, routeId := metadata.routeId
    body := .stream metadata opened.1 opened.2 (includesUsage request) }

/-- The call of a streaming request opens its stream and does nothing more. -/
theorem chatCall_stream (hStream : request.stream = true) :
    (chatCall env attempt request target md).result =
      (openStream env attempt request target).map (streamResponse request md) := by
  unfold chatCall openStream
  dsimp only
  cases resolveProvider env attempt target with
  | error e => rfl
  | ok u =>
      rw [Traced.lift_ok_bind, Traced.log_bind, if_pos hStream]
      dsimp only
      cases env.completeStream attempt target.providerRef (chatProviderRequest request target) with
      | error e => rfl
      | ok steps =>
          rw [Traced.lift_ok_bind]
          change _ = Except.map _ (match steps 0 with
            | .chunk first => .ok (first, steps)
            | .exhausted => .error stopIteration
            | .raises e => .error e)
          cases steps 0 <;> rfl

end Opening

section Requests

variable (env : Collaborators) (request : NormalizedInferenceRequest)
  (metadata : RouteTarget → RequestMetadata) (ops : List ConsumerOp)

/-- The failed attempt is reported, and the next candidate is tried. -/
def FallsBack (attempt : Nat) (md : RequestMetadata) (e : Raise) : Prop :=
  ∃ status usage errorType,
    chatClauses (env.cancelled (.afterFailure attempt)) e =
      .finishes status usage errorType none ∧
    env.observer (.finished md status usage (some errorType)) = none

/-- Every attempt that is started either opens a stream whose consumer asks for
a first item, or fails in a way the handler catches. -/
def AttemptsHandled : Nat → List RouteTarget → Prop
  | _, [] => True
  | attempt, target :: rest =>
      env.cancelled (.beforeAttempt attempt) = false →
        env.observer (.started (metadata target)) = none →
          match openStream env attempt request target with
          | .ok _ => ops.head? = some .next
          | .error e => ¬ Uncaught e ∧
              (FallsBack env attempt (metadata target) e → AttemptsHandled (attempt + 1) rest)

variable {env request metadata ops}

theorem finishedOnce_started {md : RequestMetadata} {rest : List Event} :
    FinishedOnce (.observed (.started md) true :: rest) ↔
      ∃ status usage errorType accepted later,
        rest = .observed (.finished md status usage errorType) accepted :: later ∧
          FinishedOnce later := by
  constructor
  · rintro (_ | _ | _ | @⟨_, status, usage, errorType, accepted, later, h⟩)
    exact ⟨status, usage, errorType, accepted, later, rfl, h⟩
  · rintro ⟨status, usage, errorType, accepted, later, rfl, h⟩
    exact .finished h

theorem finishedOnce_finished {md : RequestMetadata} {status : Str} {usage : Option ProviderUsage}
    {errorType : Option Str} {accepted : Bool} {later : List Event} :
    FinishedOnce (.observed (.started md) true ::
      .observed (.finished md status usage errorType) accepted :: later) ↔ FinishedOnce later := by
  rw [finishedOnce_started]
  constructor
  · rintro ⟨_, _, _, _, _, h, hLater⟩
    cases h
    exact hLater
  · intro hLater
    exact ⟨_, _, _, _, _, rfl, hLater⟩

theorem finishedOnce_of_rejected {requestId : Str} {events : List Event}
    (h : Rejected requestId events) : FinishedOnce events := by
  obtain ⟨rejection, accepted, rfl, -⟩ := h
  exact .rejected .nil

/-- The consumer of a response. -/
def serveResponse (env : Collaborators) (cancelled : StreamPoint → Bool) (ops : List ConsumerOp)
    (response : GatewayResponse) : Handling Unit :=
  match response.body with
  | .stream metadata _ steps includeUsage =>
      StreamBody.drive { env, metadata, steps, includeUsage, cancelled } .created ops
  | _ => pure ()

/-- After an accepted start, the trace of a streaming attempt is its end and what
the later candidates leave. -/
theorem finishedOnce_concluded {cancelled : StreamPoint → Bool} {attempt : Nat}
    {md : RequestMetadata} {next : Handling GatewayResponse} {target : RouteTarget} :
    FinishedOnce (.observed (.started md) true ::
        ((conclude env chatClauses md attempt next
            ((openStream env attempt request target).map (streamResponse request md)) >>=
          serveResponse env cancelled ops).observed isObserved)) ↔
      match openStream env attempt request target with
      | .ok _ => ops.head? = some .next
      | .error e => ¬ Uncaught e ∧ (FallsBack env attempt md e →
          FinishedOnce ((next >>= serveResponse env cancelled ops).observed isObserved)) := by
  cases openStream env attempt request target with
  | ok opened =>
      have hServed : (conclude env chatClauses md attempt next
          ((Except.ok opened).map (streamResponse request md)) >>=
            serveResponse env cancelled ops) =
          StreamBody.drive ⟨env, md, opened.2, includesUsage request, cancelled⟩ .created ops := rfl
      rw [hServed, finishedOnce_started]
      rcases @drive_created ⟨env, md, opened.2, includesUsage request, cancelled⟩ ops with
        ⟨hNext, status, usage, errorType, accepted, hEvents⟩ | ⟨hNext, hEvents⟩
      · rw [hEvents]
        exact iff_of_true ⟨status, usage, errorType, accepted, [], rfl, .nil⟩ hNext
      · rw [hEvents]
        refine iff_of_false ?_ hNext
        rintro ⟨_, _, _, _, _, h, -⟩
        cases h
  | error e =>
      dsimp only [Except.map, conclude]
      cases hClause : chatClauses (env.cancelled (.afterFailure attempt)) e with
      | escapes =>
          dsimp only
          rw [Traced.fail_bind, finishedOnce_started]
          refine iff_of_false ?_ fun h => h.1 (chatClauses_escapes.mp hClause)
          rintro ⟨_, _, _, _, _, h, -⟩
          cases h
      | finishes status usage errorType raised =>
          have hCaught : ¬ Uncaught e := by
            intro hUncaught
            rw [chatClauses_escapes.mpr hUncaught] at hClause
            cases hClause
          dsimp only
          rw [Traced.bind_assoc]
          obtain ⟨accepted, hEvents, hAccepted⟩ :=
            @observed_observe env (.finished md status usage (some errorType))
          cases hResult : (observe env (.finished md status usage (some errorType))).result with
          | error raised' =>
              rw [Traced.observed_bind_of_error hResult, hEvents, finishedOnce_finished]
              refine iff_of_true .nil ⟨hCaught, ?_⟩
              rintro ⟨status', usage', errorType', hSame, hObserver⟩
              rw [hClause] at hSame
              cases hSame
              rw [observe_of_accepted hObserver] at hResult
              cases hResult
          | ok u =>
              rw [Traced.observed_bind_of_ok hResult, hEvents, List.singleton_append,
                finishedOnce_finished]
              cases raised with
              | some raised =>
                  refine iff_of_true .nil ⟨hCaught, ?_⟩
                  rintro ⟨status', usage', errorType', hSame, -⟩
                  rw [hClause] at hSame
                  cases hSame
              | none =>
                  have hObserver : env.observer (.finished md status usage (some errorType)) =
                      none := by
                    obtain ⟨accepted', hEvents', hAccepted', hOk⟩ := @observe_events env
                      (.finished md status usage (some errorType))
                    exact hOk.mp hResult
                  constructor
                  · intro h
                    exact ⟨hCaught, fun _ => h⟩
                  · intro h
                    exact h.2 ⟨status, usage, errorType, hClause, hObserver⟩

theorem finishedOnce_attempts {requestId : Str} {rejection : Str → Str → Rejection}
    {cancelled : StreamPoint → Bool}
    (hRejection : ∀ status errorType, (rejection status errorType).requestId = requestId)
    (hStream : request.stream = true) (attempt : Nat) (targets : List RouteTarget) :
    FinishedOnce ((attempts env chatClauses metadata rejection
        (fun attempt target md => chatCall env attempt request target md) attempt targets >>=
          serveResponse env cancelled ops).observed isObserved) ↔
      AttemptsHandled env request metadata ops attempt targets := by
  induction targets generalizing attempt with
  | nil => exact iff_of_true .nil trivial
  | cons target rest ih =>
      have hGate : Traced.Gate isObserved (Rejected requestId) False
          (guarded env (if env.cancelled (.beforeAttempt attempt) then
            .error (.requestCancelled none) else .ok ()) fun e =>
              some (rejection "cancelled" e.auditErrorType, e)) := by
        refine (gate_guarded ?_).congr (by simp)
        rintro e found raised ⟨⟩
        exact hRejection _ _
      have hLive : ∀ u : Unit, (if env.cancelled (.beforeAttempt attempt) then
          Except.error (Raise.requestCancelled none) else Except.ok ()) = .ok u ↔
          env.cancelled (.beforeAttempt attempt) = false := by
        intro u
        cases env.cancelled (.beforeAttempt attempt) <;> simp
      rw [attempts_cons, Traced.bind_assoc,
        hGate.lenient_bind_iff (fun _ => finishedOnce_of_rejected) .nil]
      simp only [guarded_result, hLive]
      refine forall_const Unit |>.trans (imp_congr_right fun _ => ?_)
      cases hStart : env.observer (.started (metadata target)) with
      | some e =>
          refine iff_of_true ?_ (by rintro ⟨⟩)
          rw [observe, hStart]
          exact .refused .nil
      | none =>
          have hCall : (chatCall env attempt request target (metadata target)).observed
              isObserved = [] := by
            rw [Traced.observed_eq_nil]
            intro event hEvent
            rw [chatCall_events hEvent]
            rfl
          have hObserved : ∀ rest : Except Raise GatewayResponse → Handling GatewayResponse,
              (((observe env (.started (metadata target)) >>= fun _ =>
                (chatCall env attempt request target (metadata target)).outcome >>= rest) >>=
                  serveResponse env cancelled ops).observed isObserved) =
              .observed (.started (metadata target)) true ::
                ((rest ((openStream env attempt request target).map
                  (streamResponse request (metadata target))) >>=
                    serveResponse env cancelled ops).observed isObserved) := by
            intro rest
            rw [Traced.bind_assoc, observe_of_accepted hStart,
              Traced.observed_bind_of_ok (a := ()) rfl, Traced.bind_assoc,
              Traced.observed_bind_of_ok (a := (chatCall env attempt request target
                (metadata target)).result) rfl, ← chatCall_stream hStream]
            exact congrArg (List.cons _) ((congrArg (· ++ _) hCall).trans (List.nil_append _))
          rw [hObserved, finishedOnce_concluded]
          cases openStream env attempt request target with
          | ok opened => exact ⟨fun h _ => h, fun h => h rfl⟩
          | error e =>
              dsimp only
              rw [ih]
              exact ⟨fun h _ => h, fun h => h rfl⟩

/-- A chat request that asks for a stream is handled: whatever it starts opens a
stream that is read from, or fails in a way the handler catches. -/
def StreamHandled (env : Collaborators) (maxRouteAttempts : Nat) (requestId : Str)
    (headers : List (Str × Str)) (payload : Dict) (ops : List ConsumerOp) : Prop :=
  ∀ principal, Admits env headers principal →
    ∀ request, NormalizedInferenceRequest.fromOpenai (.dict payload) = .ok request →
      principal.permits request.model = true → env.router = .ok true →
        ∀ targets, env.plan (.chat (requestForRouting request)) principal = .ok targets →
          ∀ resolved, resolveMediaArtifacts env request principal = .ok resolved →
            AttemptsHandled env resolved
              (requestMetadata requestId principal resolved.model resolved.stream) ops 0
              (targets.take maxRouteAttempts)

variable {maxRouteAttempts : Nat} {requestId : Str} {headers : List (Str × Str)} {payload : Dict}
  {cancelled : StreamPoint → Bool}

theorem serveChat_eq :
    serveChat env maxRouteAttempts requestId headers payload cancelled ops =
      handleOpenaiChat env maxRouteAttempts requestId headers payload >>=
        serveResponse env cancelled ops := rfl

/-- Behind a gate a request is finished once when whatever it lets through is. -/
theorem finishedOnce_behind {α : Type} {leaks : Prop} {x : Handling α} {f : α → Handling Unit}
    (hGate : Traced.Gate isObserved (Rejected requestId) leaks x) :
    FinishedOnce ((x >>= f).observed isObserved) ↔
      ∀ a, x.result = .ok a → FinishedOnce ((f a).observed isObserved) :=
  hGate.lenient_bind_iff (fun _ => finishedOnce_of_rejected) .nil

theorem finishedOnce_serveChat (hAsked : payload.get "stream" = .bool true) :
    FinishedOnce ((serveChat env maxRouteAttempts requestId headers payload cancelled
        ops).observed isObserved) ↔
      StreamHandled env maxRouteAttempts requestId headers payload ops := by
  have hRun : ∀ principal request, request.stream = true →
      (FinishedOnce ((runChat env requestId principal maxRouteAttempts request >>=
          serveResponse env cancelled ops).observed isObserved) ↔
        (env.router = .ok true →
          ∀ targets, env.plan (.chat (requestForRouting request)) principal = .ok targets →
            ∀ resolved, resolveMediaArtifacts env request principal = .ok resolved →
              AttemptsHandled env resolved
                (requestMetadata requestId principal resolved.model resolved.stream) ops 0
                (targets.take maxRouteAttempts))) := by
    intro principal request hStream
    unfold runChat
    dsimp only
    simp only [Traced.bind_assoc, finishedOnce_behind (gate_route requestRejection_id),
      finishedOnce_behind (gate_media requestRejection_id), route_result, guarded_result]
    constructor
    · intro h hRouter targets hPlan resolved hResolved
      by_cases hSome : targets.take maxRouteAttempts = []
      · rw [hSome]
        trivial
      · have hStreams := (resolveMediaArtifacts_stream hResolved).trans hStream
        exact (finishedOnce_attempts requestRejection_id hStreams 0 _).mp
          (h _ ⟨hRouter, targets, hPlan, rfl, hSome⟩ resolved hResolved)
    · rintro h candidates ⟨hRouter, targets, hPlan, rfl, -⟩ resolved hResolved
      have hStreams := (resolveMediaArtifacts_stream hResolved).trans hStream
      exact (finishedOnce_attempts requestRejection_id hStreams 0 _).mpr
        (h hRouter targets hPlan resolved hResolved)
  rw [serveChat_eq, handleOpenaiChat_eq]
  simp only [Traced.bind_assoc, finishedOnce_behind gate_admission,
    finishedOnce_behind (gate_parsed requestRejection_id),
    finishedOnce_behind (gate_permitted requestRejection_id), admission_result, parsed_result,
    permitted_result, forall_const]
  constructor
  · intro h principal hAdmits request hParsed hPermits
    exact (hRun principal request (stream_of_asked hParsed hAsked)).mp
      (h principal hAdmits request hParsed hPermits)
  · intro h principal hAdmits request hParsed hPermits
    exact (hRun principal request (stream_of_asked hParsed hAsked)).mpr
      (h principal hAdmits request hParsed hPermits)

end Requests

section Order

variable {env : Collaborators} {requestId : Str}

/-- "[DONE]" comes only after an accepted completion of the request. -/
def DoneAfterCompletion (events : List Event) : Prop :=
  Traced.Permitted (· = .emitted .done) (fun event => ∃ metadata, CompletedEvent metadata event)
    events

theorem serveChat_doneAfterCompletion {maxRouteAttempts : Nat} {headers : List (Str × Str)}
    {payload : Dict} {cancelled : StreamPoint → Bool} {ops : List ConsumerOp} :
    DoneAfterCompletion
      (serveChat env maxRouteAttempts requestId headers payload cancelled ops).events := by
  refine Traced.Permitted.bind (Traced.permitted_of_none ?_) fun response _ => .inr ?_
  · rintro _ hMem rfl
    rcases mem_handleOpenaiChat hMem with h | ⟨_, -, h⟩ | ⟨_, h⟩ <;> cases h
  · cases response.body with
    | stream metadata first steps includeUsage =>
        intro before event after hSplit hNeeds
        obtain ⟨grant, hMem, hGives⟩ := doneLast_drive ops before event after hSplit hNeeds
        exact ⟨grant, hMem, metadata, hGives⟩
    | answer => exact Traced.permitted_of_none (by simp)
    | embeddings => exact Traced.permitted_of_none (by simp)

end Order

/-- A chat request that asks for a stream has exactly one end for every accepted
start just when every stream it opens is read from and every other start fails
in a way the handler catches. "[DONE]" always comes after the accepted completion. -/
theorem stream_audited_iff (env : Collaborators) (maxRouteAttempts : Nat) (requestId : Str)
    (headers : List (Str × Str)) (payload : Dict) (cancelled : StreamPoint → Bool)
    (ops : List ConsumerOp) (hAsked : payload.get "stream" = .bool true) :
    (FinishedOnce ((serveChat env maxRouteAttempts requestId headers payload cancelled
        ops).observed isObserved) ↔
      StreamHandled env maxRouteAttempts requestId headers payload ops) ∧
    DoneAfterCompletion
      (serveChat env maxRouteAttempts requestId headers payload cancelled ops).events :=
  ⟨finishedOnce_serveChat hAsked, serveChat_doneAfterCompletion⟩

/-- A chat payload that asks for a stream. -/
def streamPayload : Dict :=
  [("model", .str "m"), ("stream", .bool true),
    ("messages", .list [.dict [("role", .str "user"), ("content", .str "hi")]])]

/-- A stream that is read to its end is finished once. -/
theorem stream_audited_iff_sample :
    StreamHandled calmCollaborators 3 "r" [("Authorization", "Bearer t")] streamPayload
      [.next, .next, .next] :=
  (stream_audited_iff calmCollaborators 3 "r" [("Authorization", "Bearer t")] streamPayload
    (fun _ => false) [.next, .next, .next] rfl).1.mp (.finished .nil)

/-- A stream body that nobody reads leaves its accepted start without an end. -/
theorem unread_stream_unfinished : ¬ ∀ (env : Collaborators) (maxRouteAttempts : Nat)
    (requestId : Str) (headers : List (Str × Str)) (payload : Dict)
    (cancelled : StreamPoint → Bool) (ops : List ConsumerOp),
    payload.get "stream" = .bool true →
      FinishedOnce ((serveChat env maxRouteAttempts requestId headers payload cancelled
        ops).observed isObserved) := by
  intro h
  have hUnread := h calmCollaborators 3 "r" [("Authorization", "Bearer t")] streamPayload
    (fun _ => false) [] rfl
  cases hUnread

end CyreneExchange.Gateway
