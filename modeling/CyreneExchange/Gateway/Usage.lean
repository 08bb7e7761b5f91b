import CyreneExchange.Gateway.StreamAudit

/-! The usage on record: what each finished event of a chat request reports,
against the usage of all the chunks that its attempt received. -/
namespace CyreneExchange.Gateway
open CyreneExchange.General

section Reception

/-- The chunks that a loop takes up, and the one that it lets go of when it sees
the cancellation. -/
structure Reception where
  kept : List ProviderChunk := []
  dropped : List ProviderChunk := []

/-- Every chunk that was received. -/
def Reception.all (reception : Reception) : List ProviderChunk :=
  reception.kept ++ reception.dropped

/-- Read chunks on from an index until the cancellation is seen. -/
def receive (cancelled : Nat → Bool) : Nat → List ProviderChunk → Reception
  | _, [] => {}
  | index, chunk :: rest =>
      if cancelled index then { dropped := [chunk] }
      else
        let later := receive cancelled (index + 1) rest
        { later with kept := chunk :: later.kept }

/-- How often a consumer asks for an item before it closes the body. -/
def asked : List ConsumerOp → Nat
  | .next :: ops => asked ops + 1
  | _ => 0

/-- The chunks that a stream gives when it is asked so often, from an index on. -/
def arrived (steps : Nat → ProviderStep) : Nat → Nat → List ProviderChunk
  | _, 0 => []
  | index, count + 1 =>
      match steps index with
      | .chunk chunk => chunk :: arrived steps (index + 1) count
      | _ => []

variable (env : Collaborators) (request : NormalizedInferenceRequest) (attempt : Nat)
  (target : RouteTarget) (cancelled : StreamPoint → Bool) (ops : List ConsumerOp)

/-- What the provider of this target answers a unary request. -/
def openAnswer : Except Raise ProviderAnswer := do
  resolveProvider env attempt target
  env.complete attempt target.providerRef (chatProviderRequest request target)

/-- What the unary loop receives of these chunks. The first one comes before the loop. -/
def unaryReception : List ProviderChunk → Reception
  | [] => {}
  | first :: rest =>
      let later := receive (fun index => env.cancelled (.collecting attempt index)) 1 rest
      { later with kept := first :: later.kept }

/-- What the stream body receives while its consumer reads. -/
def streamReception (steps : Nat → ProviderStep) : Reception :=
  receive (fun index => cancelled (.chunk index)) 0 (arrived steps 0 (asked ops))

/-- What an attempt receives from its provider. -/
def reception : Reception :=
  if request.stream then
    match openStream env attempt request target with
    | .ok opened => streamReception cancelled ops opened.2
    | .error _ => {}
  else
    match openAnswer env request attempt target with
    | .ok answer => unaryReception env attempt answer.chunks
    | .error _ => {}

/-- The chunk that is let go of adds nothing to the usage. -/
def Reception.NothingLost (reception : Reception) : Prop :=
  mergeChunkUsage reception.all = mergeChunkUsage reception.kept

/-- The end of a unary answer keeps the usage of the chunks that were taken up.
Chunks that do not assemble lose theirs, and a RequestCancelled of the provider
brings its own. -/
def EndingCarries (kept : List ProviderChunk) : Option Raise → Prop
  | none => (∃ answer, collectAnswer kept = .ok answer) ∨ ∀ chunk ∈ kept, chunk.usage = none
  | some (.requestCancelled usage) => usage = mergeChunkUsage kept
  | some _ => True

/-- A unary answer leaves the usage of its chunks on record. -/
def AnswerCarries (answer : ProviderAnswer) : Prop :=
  match answer.chunks with
  | [] => (answer.ending.getD stopIteration).usage = none
  | chunks =>
      let received := unaryReception env attempt chunks
      received.NothingLost ∧ (received.dropped = [] → EndingCarries received.kept answer.ending)

/-- An attempt leaves the usage of its chunks on record. -/
def UsageCarried : Prop :=
  if request.stream then
    match openStream env attempt request target with
    | .ok opened => (streamReception cancelled ops opened.2).NothingLost
    | .error e => e.usage = none
  else
    match openAnswer env request attempt target with
    | .ok answer => AnswerCarries env attempt answer
    | .error e => e.usage = none

end Reception

section Reports

/-- The finished events of a trace: which attempt each ends, counted by the
starts before it, and the usage it reports. -/
def usageReports : Nat → List Event → List (Nat × Option ProviderUsage)
  | _, [] => []
  | starts, .observed (.started _) _ :: rest => usageReports (starts + 1) rest
  | starts, .observed (.finished _ _ usage _) _ :: rest =>
      (starts - 1, usage) :: usageReports starts rest
  | starts, _ :: rest => usageReports starts rest

/-- The event neither starts an attempt nor, unless with this usage, ends one. -/
def EndsWith (usage : Option ProviderUsage) : Event → Prop
  | .observed (.started _) _ => False
  | .observed (.finished _ _ reported _) _ => reported = usage
  | _ => True

/-- The event neither starts nor ends an attempt. -/
def Quiet : Event → Prop
  | .observed (.started _) _ => False
  | .observed (.finished _ _ _ _) _ => False
  | _ => True

variable {starts : Nat} {usage : Option ProviderUsage} {events later : List Event}

theorem usageReports_quiet_append (h : ∀ event ∈ events, Quiet event) :
    usageReports starts (events ++ later) = usageReports starts later := by
  induction events with
  | nil => rfl
  | cons event rest ih =>
      rw [List.forall_mem_cons] at h
      have hRest := ih h.2
      cases event with
      | observed call accepted =>
          cases call with
          | rejected rejection => exact hRest
          | started metadata => exact h.1.elim
          | finished metadata status reported errorType => exact h.1.elim
      | planned request => exact hRest
      | invoked providerRef => exact hRest
      | emitted item => exact hRest

theorem usageReports_quiet (h : ∀ event ∈ events, Quiet event) : usageReports starts events = [] := by
  rw [← List.append_nil events, usageReports_quiet_append h]
  rfl

/-- Where no further attempt starts, every report is the end of the last one. -/
theorem usageReports_of_endsWith {attempt : Nat} (h : ∀ event ∈ events, EndsWith usage event) :
    ∀ report ∈ usageReports (attempt + 1) events, report = (attempt, usage) := by
  induction events with
  | nil => simp [usageReports]
  | cons event rest ih =>
      rw [List.forall_mem_cons] at h
      have hRest := ih h.2
      cases event with
      | observed call accepted =>
          cases call with
          | rejected rejection => exact hRest
          | started metadata => exact h.1.elim
          | finished metadata status reported errorType =>
              obtain rfl : reported = usage := h.1
              exact List.forall_mem_cons.mpr ⟨rfl, hRest⟩
      | planned request => exact hRest
      | invoked providerRef => exact hRest
      | emitted item => exact hRest

end Reports

section Streams

variable {body : StreamBody} {state : StreamState} {usage : Option ProviderUsage}

/-- The usage of a stream body when its consumer reads on from this chunk. -/
def StreamBody.usageFrom (body : StreamBody) (usage : Option ProviderUsage) (index : Nat)
    (ops : List ConsumerOp) : Option ProviderUsage :=
  (receive (fun index => body.cancelled (.chunk index)) index
    (arrived body.steps index (asked ops))).kept.foldl
      (fun usage chunk => mergeUsage usage chunk.usage) usage

/-- The usage that the end of a body reports when its consumer goes on like this. -/
def StreamBody.finalUsage (body : StreamBody) (ops : List ConsumerOp) :
    Generator → Option ProviderUsage
  | .created => body.usageFrom none 0 ops
  | .atChunk index state => body.usageFrom state.usage (index + 1) ops
  | .atFinish state | .atUsage state => state.usage
  | .atDone | .closed => none

theorem endsWith_observe {env : Collaborators} {metadata : RequestMetadata} {status : Str}
    {errorType : Option Str} :
    ∀ event ∈ (observe env (.finished metadata status usage errorType)).events,
      EndsWith usage event := by
  obtain ⟨accepted, hEvents, -⟩ := @observe_events env (.finished metadata status usage errorType)
  rw [hEvents]
  intro event hMem
  obtain rfl := List.mem_singleton.mp hMem
  rfl

theorem endsWith_interrupt (e : Raise) :
    ∀ event ∈ (body.interrupt state e).events, EndsWith state.usage event := by
  intro event hMem
  rw [StreamBody.interrupt, Traced.mem_events_bind] at hMem
  rcases hMem with hMem | ⟨_, -, hMem⟩
  · exact endsWith_observe event hMem
  · cases hMem

/-- What one `next` does to the usage: the events end the request with it, or
the body is to end with the same one. -/
structure Passes (body : StreamBody) (usage : Option ProviderUsage) (rest : List ConsumerOp)
    (x : Handling Generator) : Prop where
  events : ∀ event ∈ x.events, EndsWith usage event
  reached : ∀ generator, x.result = .ok generator →
    generator = .atDone ∨ body.finalUsage rest generator = usage

variable {rest : List ConsumerOp}

theorem passes_emit {item : StreamItem} {generator : Generator}
    (h : body.finalUsage rest generator = usage) :
    Passes body usage rest (StreamBody.emit item generator) where
  events event hMem := by
    obtain rfl := List.mem_singleton.mp hMem
    trivial
  reached reached hResult := by
    cases hResult
    exact .inr h

theorem passes_interrupt (e : Raise) : Passes body state.usage rest (body.interrupt state e) where
  events := endsWith_interrupt e
  reached reached hResult := by
    obtain ⟨⟨raised, hRaised⟩, -⟩ := @interrupt_ends body state e
    rw [hRaised] at hResult
    cases hResult

theorem passes_completeStage : Passes body state.usage rest (body.completeStage state) where
  events event hMem := by
    rw [StreamBody.completeStage, Traced.mem_events_bind] at hMem
    rcases hMem with hMem | ⟨_, -, hMem⟩
    · exact endsWith_observe event hMem
    · obtain rfl := List.mem_singleton.mp hMem
      trivial
  reached reached hResult := by
    obtain ⟨_, -, hDone⟩ := Traced.result_bind_eq_ok.mp hResult
    cases hDone
    exact .inl rfl

theorem passes_usageStage : Passes body state.usage rest (body.usageStage state) := by
  unfold StreamBody.usageStage
  split
  · exact passes_completeStage
  · split
    · exact passes_emit rfl
    · exact passes_completeStage

theorem passes_finishStage : Passes body state.usage rest (body.finishStage state) := by
  unfold StreamBody.finishStage
  split
  · exact passes_interrupt _
  · split
    · exact passes_usageStage
    · exact passes_emit rfl

/-- A round of the loop takes its chunk up, unless it sees the cancellation. -/
theorem passes_chunkStage (index : Nat) :
    Passes body (body.usageFrom state.usage index (.next :: rest)) rest
      (body.chunkStage state index) := by
  have hAsked : asked (.next :: rest) = asked rest + 1 := rfl
  unfold StreamBody.chunkStage
  cases hStep : body.steps index with
  | chunk chunk =>
      dsimp only
      cases hCancelled : body.cancelled (.chunk index) with
      | true =>
          have hUsage : body.usageFrom state.usage index (.next :: rest) = state.usage := by
            simp [StreamBody.usageFrom, hAsked, arrived, hStep, receive, hCancelled]
          rw [if_pos rfl, hUsage]
          exact passes_interrupt _
      | false =>
          have hUsage : body.usageFrom state.usage index (.next :: rest) =
              body.usageFrom (mergeUsage state.usage chunk.usage) (index + 1) rest := by
            simp [StreamBody.usageFrom, hAsked, arrived, hStep, receive, hCancelled]
          rw [if_neg Bool.false_ne_true, hUsage]
          exact passes_emit rfl
  | exhausted =>
      have hUsage : body.usageFrom state.usage index (.next :: rest) = state.usage := by
        simp [StreamBody.usageFrom, hAsked, arrived, hStep, receive]
      rw [hUsage]
      exact passes_finishStage
  | raises e =>
      have hUsage : body.usageFrom state.usage index (.next :: rest) = state.usage := by
        simp [StreamBody.usageFrom, hAsked, arrived, hStep, receive]
      rw [hUsage]
      cases e with
      | providerInvocationCancelled => exact passes_interrupt _
      | _ => exact passes_interrupt _

/-- One `next` on a body that has not come to its end. -/
theorem passes_next {generator : Generator} (h : generator ≠ .atDone ∧ generator ≠ .closed) :
    Passes body (body.finalUsage (.next :: rest) generator) rest (body.next generator) := by
  cases generator with
  | created => exact @passes_chunkStage body {} rest 0
  | atChunk index state => exact passes_chunkStage (index + 1)
  | atFinish state => exact passes_usageStage
  | atUsage state => exact passes_completeStage
  | atDone => exact (h.1 rfl).elim
  | closed => exact (h.2 rfl).elim

theorem close_endsWith {generator : Generator} (hAsked : asked rest = 0) :
    ∀ event ∈ (body.close generator).events, EndsWith (body.finalUsage rest generator) event := by
  cases generator with
  | atChunk index state =>
      have hUsage : body.finalUsage rest (.atChunk index state) = state.usage := by
        simp [StreamBody.finalUsage, StreamBody.usageFrom, hAsked, arrived, receive]
      rw [hUsage]
      exact endsWith_observe
  | atFinish state => exact endsWith_observe
  | atUsage state => exact endsWith_observe
  | created => simp [StreamBody.close]
  | atDone => simp [StreamBody.close]
  | closed => simp [StreamBody.close]

/-- Whatever its consumer does, a body ends with the usage of what it took up. -/
theorem drive_endsWith (generator : Generator) (ops : List ConsumerOp) :
    ∀ event ∈ (body.drive generator ops).events, EndsWith (body.finalUsage ops generator) event := by
  induction ops generalizing generator with
  | nil =>
      rw [drive_nil_events]
      exact close_endsWith rfl
  | cons op rest ih =>
      cases op with
      | close =>
          rw [drive_close_events]
          exact close_endsWith rfl
      | next =>
          by_cases hOver : generator = .atDone ∨ generator = .closed
          · rw [drive_over hOver]
            simp
          · have hPasses := @passes_next body rest generator (not_or.mp hOver)
            cases hResult : (body.next generator).result with
            | error raised =>
                rw [drive_next_of_error hResult]
                exact hPasses.events
            | ok reached =>
                rw [drive_next_of_ok hResult]
                refine List.forall_mem_append.mpr ⟨hPasses.events, ?_⟩
                rcases hPasses.reached reached hResult with rfl | hSame
                · rw [drive_over (.inl rfl)]
                  simp
                · rw [← hSame]
                  exact ih reached

end Streams

section Answers

variable {env : Collaborators} {request : NormalizedInferenceRequest} {attempt : Nat}
  {target : RouteTarget} {md : RequestMetadata}

theorem mergeUsage_eq_none {current observed : Option ProviderUsage} :
    mergeUsage current observed = none ↔ current = none ∧ observed = none := by
  cases current <;> cases observed <;> simp [mergeUsage]

theorem mergeChunkUsage_eq_none {chunks : List ProviderChunk} :
    mergeChunkUsage chunks = none ↔ ∀ chunk ∈ chunks, chunk.usage = none := by
  have hFold : ∀ usage, chunks.foldl (fun usage chunk => mergeUsage usage chunk.usage) usage = none ↔
      usage = none ∧ ∀ chunk ∈ chunks, chunk.usage = none := by
    induction chunks with
    | nil => simp
    | cons chunk rest ih =>
        intro usage
        rw [List.foldl_cons, ih, mergeUsage_eq_none, List.forall_mem_cons, and_assoc]
  exact (hFold none).trans (and_iff_right rfl)

/-- The collecting loop comes to the end of the chunks or lets go of one. -/
theorem collectChunks_received {ending : Option Raise} {collected rest : List ProviderChunk}
    {received : Reception}
    (hReceived : receive (fun index => env.cancelled (.collecting attempt index))
      collected.length rest = received) :
    (received.dropped = [] ∧ collectChunks env attempt ending collected rest =
      collectChunks env attempt ending (collected ++ received.kept) []) ∨
    (received.dropped ≠ [] ∧ collectChunks env attempt ending collected rest =
      .error (.requestCancelled (mergeChunkUsage (collected ++ received.kept)))) := by
  induction rest generalizing collected received with
  | nil =>
      obtain rfl := hReceived
      exact .inl ⟨rfl, by rw [receive, List.append_nil]⟩
  | cons chunk rest ih =>
      rw [collectChunks]
      cases hCancelled : env.cancelled (.collecting attempt collected.length) with
      | true =>
          obtain rfl : { dropped := [chunk] } = received := by
            rw [← hReceived, receive, if_pos hCancelled]
          exact .inr ⟨by simp, by rw [if_pos rfl, List.append_nil]⟩
      | false =>
          obtain rfl : { receive (fun index => env.cancelled (.collecting attempt index))
              (collected.length + 1) rest with
                kept := chunk :: (receive (fun index => env.cancelled (.collecting attempt index))
                  (collected.length + 1) rest).kept } = received := by
            rw [← hReceived, receive, if_neg (by simp [hCancelled])]
          rw [if_neg Bool.false_ne_true]
          have hLater := @ih (collected ++ [chunk]) _ rfl
          rwa [List.length_append, List.length_singleton, List.append_assoc] at hLater

/-- The usage that a call leaves to its finished event. -/
def recordedUsage : Except Raise GatewayResponse → Option ProviderUsage
  | .ok response => response.usage
  | .error e => e.usage

/-- The response around a collected answer. -/
def answerResponse (request : NormalizedInferenceRequest) (metadata : RequestMetadata)
    (collected : UnaryAnswer × Option ProviderUsage) : GatewayResponse :=
  { requestId := metadata.requestId, model := request.model, routeId := metadata.routeId
    body := .answer collected.1, usage := collected.2 }

/-- What becomes of a provider's answer to a unary request. -/
def collectAll (env : Collaborators) (attempt : Nat) (answer : ProviderAnswer) :
    Except Raise (UnaryAnswer × Option ProviderUsage) :=
  match answer.chunks with
  | [] => .error (answer.ending.getD stopIteration)
  | first :: rest => collectResponse env attempt first rest answer.ending

/-- The call of a unary request collects the answer of its provider. -/
theorem chatCall_answer (hUnary : request.stream = false) :
    (chatCall env attempt request target md).result =
      (openAnswer env request attempt target >>= collectAll env attempt).map
        (answerResponse request md) := by
  unfold chatCall openAnswer
  dsimp only
  cases resolveProvider env attempt target with
  | error e => rfl
  | ok u =>
      rw [Traced.lift_ok_bind, Traced.log_bind, if_neg (by simp [hUnary]), except_ok_bind]
      dsimp only
      cases env.complete attempt target.providerRef (chatProviderRequest request target) with
      | error e => rfl
      | ok answer =>
          rw [Traced.lift_ok_bind, except_ok_bind, collectAll]
          cases answer.chunks with
          | nil => rfl
          | cons first rest =>
              dsimp only
              cases collectResponse env attempt first rest answer.ending <;> rfl

/-- The end of the chunks records the usage of what was taken up where it carries it. -/
theorem collected_recorded {kept : List ProviderChunk} {ending : Option Raise}
    {outcome : Except Raise (UnaryAnswer × Option ProviderUsage)}
    (hOutcome : (collectChunks env attempt ending kept [] >>= fun collected =>
      match collectAnswer collected with
      | .ok answer => .ok (answer, mergeChunkUsage collected)
      | .error _ => .error (.providerFailure none)) = outcome)
    (hCaught : ∀ e, outcome = .error e → ¬ Uncaught e) :
    recordedUsage (outcome.map (answerResponse request md)) = mergeChunkUsage kept ↔
      EndingCarries kept ending := by
  subst hOutcome
  cases ending with
  | none =>
      rw [collectChunks, except_ok_bind]
      cases hAnswer : collectAnswer kept with
      | ok answer => exact iff_of_true rfl (.inl ⟨answer, hAnswer⟩)
      | error conflict =>
          have hEnding : EndingCarries kept none ↔ ∀ chunk ∈ kept, chunk.usage = none := by
            refine or_iff_right ?_
            rintro ⟨answer, hAssembled⟩
            rw [hAnswer] at hAssembled
            cases hAssembled
          rw [hEnding, ← mergeChunkUsage_eq_none]
          exact eq_comm
  | some e =>
      cases e with
      | requestCancelled usage => rfl
      | base className => exact (hCaught (.base className) rfl (.inr rfl)).elim
      | _ => exact iff_of_true rfl trivial

/-- A collected answer records the usage of its chunks where it carries it. -/
theorem collectAll_recorded {answer : ProviderAnswer}
    {outcome : Except Raise (UnaryAnswer × Option ProviderUsage)}
    (hOutcome : collectAll env attempt answer = outcome)
    (hCaught : ∀ e, outcome = .error e → ¬ Uncaught e) :
    recordedUsage (outcome.map (answerResponse request md)) =
        mergeChunkUsage (unaryReception env attempt answer.chunks).all ↔
      AnswerCarries env attempt answer := by
  obtain ⟨chunks, ending⟩ := answer
  cases chunks with
  | nil =>
      subst hOutcome
      exact Iff.rfl
  | cons first rest =>
      have hChunks := @collectChunks_received env attempt ending [first] rest _ rfl
      change collectResponse env attempt first rest ending = outcome at hOutcome
      rw [collectResponse] at hOutcome
      dsimp only [List.length_singleton, List.singleton_append, AnswerCarries, unaryReception] at *
      generalize receive (fun index => env.cancelled (.collecting attempt index)) 1 rest = later at *
      rcases hChunks with ⟨hDropped, hChunks⟩ | ⟨hDropped, hChunks⟩
      · rw [hChunks] at hOutcome
        simp only [Reception.NothingLost, Reception.all, hDropped, List.append_nil, true_and,
          forall_const]
        exact collected_recorded hOutcome hCaught
      · rw [hChunks] at hOutcome
        subst hOutcome
        refine Iff.trans ?_ (and_iff_left fun hNone => (hDropped hNone).elim).symm
        exact eq_comm

/-- A unary call records the usage of its chunks where it carries it. -/
theorem chatCall_recorded {cancelled : StreamPoint → Bool} {ops : List ConsumerOp}
    (hUnary : request.stream = false)
    (hCaught : ∀ e, (chatCall env attempt request target md).result = .error e → ¬ Uncaught e) :
    recordedUsage (chatCall env attempt request target md).result =
        mergeChunkUsage (reception env request attempt target cancelled ops).all ↔
      UsageCarried env request attempt target cancelled ops := by
  rw [chatCall_answer hUnary] at hCaught ⊢
  simp only [reception, UsageCarried, hUnary, Bool.false_eq_true, if_false]
  cases hAnswer : openAnswer env request attempt target with
  | error e => exact Iff.rfl
  | ok answer =>
      rw [hAnswer, except_ok_bind] at hCaught
      rw [except_ok_bind]
      refine collectAll_recorded rfl fun e hError => hCaught e ?_
      rw [hError]
      rfl

end Answers

section Attempts

variable {env : Collaborators} {request : NormalizedInferenceRequest} {attempt : Nat}
  {target : RouteTarget} {md : RequestMetadata} {cancelled : StreamPoint → Bool}
  {ops : List ConsumerOp}

/-- The usage is that of the chunks of this attempt exactly where it carries it. -/
def Accounts (env : Collaborators) (request : NormalizedInferenceRequest)
    (cancelled : StreamPoint → Bool) (ops : List ConsumerOp) (attempt : Nat) (target : RouteTarget)
    (usage : Option ProviderUsage) : Prop :=
  usage = mergeChunkUsage (reception env request attempt target cancelled ops).all ↔
    UsageCarried env request attempt target cancelled ops

/-- What an opened stream reports is the usage of the chunks it took up. -/
theorem accounts_stream {opened : ProviderChunk × (Nat → ProviderStep)} {includeUsage : Bool}
    (hStream : request.stream = true)
    (hOpened : openStream env attempt request target = .ok opened) :
    Accounts env request cancelled ops attempt target
      (StreamBody.finalUsage ⟨env, md, opened.2, includeUsage, cancelled⟩ ops .created) := by
  simp only [Accounts, reception, UsageCarried, hStream, if_true, hOpened]
  exact eq_comm

/-- A stream that does not open reports the usage of its exception. -/
theorem accounts_unopened {e : Raise} (hStream : request.stream = true)
    (hOpened : openStream env attempt request target = .error e) :
    Accounts env request cancelled ops attempt target e.usage := by
  simp only [Accounts, reception, UsageCarried, hStream, if_true, hOpened]
  exact Iff.rfl

theorem chatClauses_usage {noticed : Bool} {e : Raise} {status errorType : Str}
    {usage : Option ProviderUsage} {raised : Option Raise}
    (h : chatClauses noticed e = .finishes status usage errorType raised) :
    usage = e.usage ∧ ¬ Uncaught e := by
  refine ⟨?_, fun hUncaught => ?_⟩
  · cases e <;> cases noticed <;> cases h <;> rfl
  · rw [chatClauses_escapes.mpr hUncaught] at h
    cases h

theorem quiet_guarded {α : Type} {check : Except Raise α}
    {report : Raise → Option (Rejection × Raise)} :
    ∀ event ∈ (guarded env check report).events, Quiet event := by
  intro event hMem
  unfold guarded at hMem
  split at hMem
  · cases hMem
  · split at hMem
    · rename_i rejection raised _
      rw [reject, Traced.mem_events_bind] at hMem
      rcases hMem with hMem | ⟨_, -, hMem⟩
      · obtain ⟨accepted, hEvents, -⟩ := @observe_events env (.rejected rejection)
        rw [hEvents, List.mem_singleton] at hMem
        rw [hMem]
        trivial
      · cases hMem
    · cases hMem

theorem quiet_admission {requestId : Str} {headers : List (Str × Str)} {model : Option Str}
    {stream : Option Bool} :
    ∀ event ∈ (admission env requestId headers model stream).events, Quiet event := by
  intro event hMem
  simp only [admission, Traced.mem_events_bind] at hMem
  rcases hMem with hMem | ⟨_, -, hMem | ⟨_, -, hMem | ⟨_, -, hMem⟩⟩⟩
  · exact quiet_guarded event hMem
  · exact quiet_guarded event hMem
  · exact quiet_guarded event hMem
  · cases hMem

theorem quiet_route {maxRouteAttempts : Nat} {rejection : Str → Str → Rejection}
    {routed : RoutedRequest} {principal : RequestPrincipal} :
    ∀ event ∈ (route env maxRouteAttempts rejection routed principal).events, Quiet event := by
  intro event hMem
  simp only [route, Traced.mem_events_bind] at hMem
  rcases hMem with hMem | ⟨_, -, hMem | ⟨_, -, hMem | ⟨_, -, hMem⟩⟩⟩
  · exact quiet_guarded event hMem
  · rw [List.mem_singleton.mp hMem]
    trivial
  · exact quiet_guarded event hMem
  · exact quiet_guarded event hMem

section Sequences

variable {α β : Type} {Holds : Nat × Option ProviderUsage → Prop} {starts : Nat}

/-- Every report of a computation that follows so many starts. -/
def ReportsHold (Holds : Nat × Option ProviderUsage → Prop) (starts : Nat) (x : Handling α) : Prop :=
  ∀ report ∈ usageReports starts x.events, Holds report

theorem reportsHold_of_quiet {x : Handling α} (hQuiet : ∀ event ∈ x.events, Quiet event) :
    ReportsHold Holds starts x := by
  rw [ReportsHold, usageReports_quiet hQuiet]
  simp

theorem ReportsHold.quiet_bind {x : Handling α} {f : α → Handling β}
    (hQuiet : ∀ event ∈ x.events, Quiet event)
    (hRest : ∀ a, x.result = .ok a → ReportsHold Holds starts (f a)) :
    ReportsHold Holds starts (x >>= f) := by
  cases hResult : x.result with
  | error e =>
      rw [Traced.bind_of_error hResult]
      exact reportsHold_of_quiet hQuiet
  | ok a =>
      rw [Traced.bind_of_ok hResult, ReportsHold, usageReports_quiet_append hQuiet]
      exact hRest a hResult

theorem ReportsHold.started_bind {f : Unit → Handling β}
    (hRest : ReportsHold Holds (starts + 1) (f ())) :
    ReportsHold Holds starts (observe env (.started md) >>= f) := by
  obtain ⟨accepted, hEvents, -⟩ := @observe_events env (.started md)
  cases hResult : (observe env (.started md)).result with
  | error e =>
      rw [Traced.bind_of_error hResult, hEvents]
      simp [ReportsHold, usageReports]
  | ok u =>
      rw [Traced.bind_of_ok hResult, hEvents]
      exact hRest

theorem ReportsHold.finished_bind {status : Str} {usage : Option ProviderUsage}
    {errorType : Option Str} {f : Unit → Handling β} (hHere : Holds (attempt, usage))
    (hRest : ReportsHold Holds (attempt + 1) (f ())) :
    ReportsHold Holds (attempt + 1)
      (observe env (.finished md status usage errorType) >>= f) := by
  obtain ⟨accepted, hEvents, -⟩ := @observe_events env (.finished md status usage errorType)
  cases hResult : (observe env (.finished md status usage errorType)).result with
  | error e =>
      rw [Traced.bind_of_error hResult, hEvents]
      simpa [ReportsHold, usageReports] using hHere
  | ok u =>
      rw [Traced.bind_of_ok hResult, hEvents]
      exact List.forall_mem_cons.mpr ⟨hHere, hRest⟩

end Sequences

variable {Holds : Nat × Option ProviderUsage → Prop} {next : Handling GatewayResponse}

/-- A failed attempt reports the usage of its exception. -/
theorem reportsHold_failed {e : Raise} (hHere : ¬ Uncaught e → Holds (attempt, e.usage))
    (hNext : ReportsHold Holds (attempt + 1) (next >>= serveResponse env cancelled ops)) :
    ReportsHold Holds (attempt + 1)
      (conclude env chatClauses md attempt next (.error e) >>= serveResponse env cancelled ops) := by
  dsimp only [conclude]
  cases hClause : chatClauses (env.cancelled (.afterFailure attempt)) e with
  | escapes => exact reportsHold_of_quiet (by rintro _ ⟨⟩)
  | finishes status usage errorType raised =>
      obtain ⟨rfl, hCaught⟩ := chatClauses_usage hClause
      dsimp only
      rw [Traced.bind_assoc]
      apply ReportsHold.finished_bind (hHere hCaught)
      cases raised with
      | none => exact hNext
      | some raised => exact reportsHold_of_quiet (by rintro _ ⟨⟩)

/-- An attempt whose start was accepted accounts for its usage. -/
theorem reportsHold_concluded
    (hNext : ReportsHold Holds (attempt + 1) (next >>= serveResponse env cancelled ops))
    (hHolds : ∀ usage, Accounts env request cancelled ops attempt target usage →
      Holds (attempt, usage)) :
    ReportsHold Holds (attempt + 1)
      (conclude env chatClauses md attempt next (chatCall env attempt request target md).result >>=
        serveResponse env cancelled ops) := by
  cases hStream : request.stream with
  | true =>
      rw [chatCall_stream hStream]
      cases hOpened : openStream env attempt request target with
      | error e => exact reportsHold_failed (fun _ => hHolds _ (accounts_unopened hStream hOpened)) hNext
      | ok opened =>
          have hServed : conclude env chatClauses md attempt next
              ((Except.ok opened).map (streamResponse request md)) >>=
                serveResponse env cancelled ops =
              StreamBody.drive ⟨env, md, opened.2, includesUsage request, cancelled⟩ .created ops := rfl
          rw [hServed]
          intro report hReport
          obtain rfl := usageReports_of_endsWith (drive_endsWith .created ops) report hReport
          exact hHolds _ (accounts_stream hStream hOpened)
  | false =>
      have hRecorded := @chatCall_recorded env request attempt target md cancelled ops hStream
      cases hResult : (chatCall env attempt request target md).result with
      | error e =>
          refine reportsHold_failed (fun hCaught => hHolds _ ?_) hNext
          rw [hResult] at hRecorded
          refine hRecorded ?_
          rintro _ ⟨⟩
          exact hCaught
      | ok response =>
          have hBody := chatCall_unary hStream hResult
          rw [hResult] at hRecorded
          have hHere := hHolds _ (hRecorded (by rintro _ ⟨⟩))
          dsimp only [conclude]
          cases hKind : response.body with
          | stream => rw [hKind] at hBody; exact hBody.elim
          | answer answer =>
              rw [Traced.bind_assoc]
              apply ReportsHold.finished_bind hHere
              refine reportsHold_of_quiet ?_
              rw [Traced.pure_bind, serveResponse, hKind]
              rintro _ ⟨⟩
          | embeddings batch =>
              rw [Traced.bind_assoc]
              apply ReportsHold.finished_bind hHere
              refine reportsHold_of_quiet ?_
              rw [Traced.pure_bind, serveResponse, hKind]
              rintro _ ⟨⟩

/-- Every attempt accounts for its own usage. -/
theorem reportsHold_attempts {metadata : RouteTarget → RequestMetadata}
    {rejection : Str → Str → Rejection} {targets : List RouteTarget}
    (hHolds : ∀ index target usage, targets[index]? = some target →
      Accounts env request cancelled ops (attempt + index) target usage →
        Holds (attempt + index, usage)) :
    ReportsHold Holds attempt (attempts env chatClauses metadata rejection
      (fun attempt target md => chatCall env attempt request target md) attempt targets >>=
        serveResponse env cancelled ops) := by
  induction targets generalizing attempt with
  | nil => exact reportsHold_of_quiet (by rintro _ ⟨⟩)
  | cons target rest ih =>
      rw [attempts_cons, Traced.bind_assoc]
      refine ReportsHold.quiet_bind quiet_guarded fun _ _ => ?_
      rw [Traced.bind_assoc]
      apply ReportsHold.started_bind
      rw [Traced.bind_assoc]
      refine ReportsHold.quiet_bind ?_ ?_
      · intro event hMem
        rw [chatCall_events hMem]
        trivial
      · rintro outcome ⟨⟩
        refine reportsHold_concluded (ih ?_) fun usage => hHolds 0 target usage rfl
        intro index found usage hFound hAccounts
        rw [Nat.add_assoc, Nat.add_comm 1] at hAccounts ⊢
        exact hHolds (index + 1) found usage hFound hAccounts

end Attempts

section Requests

variable (env : Collaborators) (maxRouteAttempts : Nat) (headers : List (Str × Str))
  (payload : Dict)

/-- The attempt sends this request to this target. -/
def Attempted (attempt : Nat) (request : NormalizedInferenceRequest) (target : RouteTarget) : Prop :=
  ∃ principal parsed targets, Admits env headers principal ∧
    NormalizedInferenceRequest.fromOpenai (.dict payload) = .ok parsed ∧
    env.plan (.chat (requestForRouting parsed)) principal = .ok targets ∧
    resolveMediaArtifacts env parsed principal = .ok request ∧
    (targets.take maxRouteAttempts)[attempt]? = some target

end Requests

/-- A finished event of a chat request reports the usage of all the chunks that
its attempt received exactly where the attempt carries it. -/
theorem usage_recorded_iff (env : Collaborators) (maxRouteAttempts : Nat) (requestId : Str)
    (headers : List (Str × Str)) (payload : Dict) (cancelled : StreamPoint → Bool)
    (ops : List ConsumerOp) :
    ∀ report ∈ usageReports 0
        (serveChat env maxRouteAttempts requestId headers payload cancelled ops).events,
      ∃ request target, Attempted env maxRouteAttempts headers payload report.1 request target ∧
        (report.2 = mergeChunkUsage (reception env request report.1 target cancelled ops).all ↔
          UsageCarried env request report.1 target cancelled ops) := by
  rw [serveChat_eq, handleOpenaiChat_eq]
  simp only [Traced.bind_assoc]
  refine ReportsHold.quiet_bind quiet_admission fun principal hAdmits => ?_
  refine ReportsHold.quiet_bind quiet_guarded fun parsed hParsed => ?_
  refine ReportsHold.quiet_bind quiet_guarded fun _ _ => ?_
  simp only [runChat, Traced.bind_assoc]
  refine ReportsHold.quiet_bind quiet_route fun candidates hPlan => ?_
  refine ReportsHold.quiet_bind quiet_guarded fun request hResolved => ?_
  refine reportsHold_attempts fun index target usage hTarget hAccounts => ?_
  rw [admission_result] at hAdmits
  rw [parsed_result] at hParsed
  rw [guarded_result] at hResolved
  obtain ⟨-, targets, hTargets, rfl, -⟩ := route_result.mp hPlan
  rw [Nat.zero_add] at hAccounts ⊢
  exact ⟨request, target, ⟨principal, parsed, targets, hAdmits, hParsed, hTargets, hResolved,
    hTarget⟩, hAccounts⟩

/-- A plain chat payload. -/
def plainPayload : Dict :=
  [("model", .str "m"), ("messages", .list [.dict [("role", .str "user"), ("content", .str "hi")]])]

/-- The request that it is parsed to. -/
def plainRequest : NormalizedInferenceRequest :=
  { model := "m", stream := false
    messages := [[("role", .str "user"), ("content", .str "hi")]] }

/-- A provider that answers with these chunks. -/
def chunkCollaborators (chunks : List ProviderChunk) : Collaborators :=
  { calmCollaborators with complete := fun _ _ _ => .ok { chunks } }

/-- Two chunks of text of which the second one has usage. -/
def textChunks : List ProviderChunk :=
  [{ delta := "he" },
    { delta := "llo", usage := some { promptTokens := some 1, completionTokens := some 2 } }]

theorem usage_recorded_iff_sample :
    ∃ request target,
      Attempted (chunkCollaborators textChunks) 1 [("Authorization", "Bearer t")] plainPayload 0
        request target ∧
      (some { promptTokens := some 1, completionTokens := some 2 } =
          mergeChunkUsage (reception (chunkCollaborators textChunks) request 0 target
            (fun _ => false) []).all ↔
        UsageCarried (chunkCollaborators textChunks) request 0 target (fun _ => false) []) :=
  usage_recorded_iff (chunkCollaborators textChunks) 1 "r" [("Authorization", "Bearer t")]
    plainPayload (fun _ => false) [] (0, some { promptTokens := some 1, completionTokens := some 2 })
    (List.mem_singleton_self _)

/-- Two fragments of one tool call that disagree on its identity, and usage. -/
def conflictChunks : List ProviderChunk :=
  [{ toolCalls := [{ index := 0, id := some "a" }], usage := some { totalTokens := some 3 } },
    { toolCalls := [{ index := 0, id := some "b" }] }]

/-- Chunks that do not assemble take their usage with them. -/
theorem conflicting_chunks_lose_usage : ¬ ∀ (env : Collaborators) (maxRouteAttempts : Nat)
    (requestId : Str) (headers : List (Str × Str)) (payload : Dict)
    (cancelled : StreamPoint → Bool) (ops : List ConsumerOp),
    ∀ report ∈ usageReports 0
        (serveChat env maxRouteAttempts requestId headers payload cancelled ops).events,
      ∀ request target, Attempted env maxRouteAttempts headers payload report.1 request target →
        report.2 = mergeChunkUsage (reception env request report.1 target cancelled ops).all := by
  intro h
  have hLost := h (chunkCollaborators conflictChunks) 1 "r" [("Authorization", "Bearer t")]
    plainPayload (fun _ => false) [] (0, none) (List.mem_singleton_self _) plainRequest
    { providerRef := "p" } ⟨_, _, _, ⟨rfl, rfl, rfl⟩, rfl, rfl, rfl, rfl⟩
  cases hLost

end CyreneExchange.Gateway
