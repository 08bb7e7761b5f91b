import CyreneExchange.Gateway.StreamAudit

/-! What the consumer of a stream puts together from its events, against the
unary answer assembled from the same chunks. -/
namespace CyreneExchange.Gateway
open CyreneExchange.General

section Consumer

/-- An event as the consumer of a stream sees it. -/
structure StreamedEvent where
  choice : Option StreamChoice
  usage : Option OpenaiUsage
deriving DecidableEq, Repr

/-- The events of a stream, in order. -/
def streamedEvents (events : List Event) : List StreamedEvent :=
  events.filterMap fun event => match event with
    | .emitted (.event choice usage) => some { choice, usage }
    | _ => none

/-- A tool call as far as its deltas are received. -/
structure ReceivedCall where
  index : Nat
  id : Option Str := none
  type : Option Str := none
  name : Option Str := none
  arguments : Option Str := none
deriving DecidableEq, Repr

/-- Concatenate a fragment to what is known. -/
def joinFragment (known fragment : Option Str) : Option Str :=
  match known, fragment with
  | known, none => known
  | none, some fragment => some fragment
  | some known, some fragment => some (known ++ fragment)

/-- Merge one delta of this call. -/
def ReceivedCall.receive (call : ReceivedCall) (delta : OpenaiToolCall) : ReceivedCall :=
  { index := call.index
    id := delta.id.or call.id
    type := delta.type.or call.type
    name := joinFragment call.name (delta.function.bind OpenaiFunction.name)
    arguments := joinFragment call.arguments (delta.function.bind OpenaiFunction.arguments) }

/-- Merge one delta into the call of its index. -/
def receiveAt (delta : OpenaiToolCall) (index : Nat) : List ReceivedCall → List ReceivedCall
  | [] => [ReceivedCall.receive { index } delta]
  | call :: rest =>
      if call.index = index then call.receive delta :: rest
      else call :: receiveAt delta index rest

def receiveCall (calls : List ReceivedCall) (delta : OpenaiToolCall) : List ReceivedCall :=
  match delta.index with
  | some index => receiveAt delta index calls
  | none => calls

def ReceivedCall.toMessage (call : ReceivedCall) : OpenaiToolCall :=
  { id := call.id, type := call.type, function := openaiFunction call.name call.arguments }

/-- The deltas of a stream. -/
def deltasOf (events : List StreamedEvent) : List StreamDelta :=
  events.filterMap fun event => event.choice.map StreamChoice.delta

/-- The message a consumer puts together from deltas. -/
def receivedMessage (deltas : List StreamDelta) : AssistantMessage :=
  let content := deltas.flatMap fun delta => delta.content.getD []
  let calls := (deltas.flatMap fun delta => delta.toolCalls.getD []).foldl receiveCall []
  { role := (deltas.findSome? StreamDelta.role).getD "assistant"
    content := if !content.isEmpty || calls.isEmpty then some content else none
    toolCalls := if calls.isEmpty then none else
      some ((calls.insertionSort fun a b => a.index ≤ b.index).map ReceivedCall.toMessage) }

/-- The last finish reason of a stream. -/
def receivedReason (events : List StreamedEvent) : Option Str :=
  (events.filterMap fun event => event.choice.bind StreamChoice.finishReason).getLast?

/-- The last usage of a stream. -/
def receivedUsage (events : List StreamedEvent) : Option OpenaiUsage :=
  (events.filterMap StreamedEvent.usage).getLast?

/-- The events carry this answer. -/
structure Carries (includeUsage : Bool) (events : List StreamedEvent) (answer : UnaryAnswer) :
    Prop where
  message : receivedMessage (deltasOf events) = answer.message
  finishReason : receivedReason events = some answer.finishReason
  usage : includeUsage = true → receivedUsage events = answer.usage

end Consumer

section Emission

/-- The steps of a provider that gives these chunks and no more. -/
def chunkSteps (chunks : List ProviderChunk) (index : Nat) : ProviderStep :=
  match chunks[index]? with
  | some chunk => .chunk chunk
  | none => .exhausted

/-- The finish event after the chunks. -/
def StreamState.finishEvents (state : StreamState) : List StreamedEvent :=
  if state.emittedFinish then []
  else [{ choice := some { delta := {}, finishReason := some state.defaultReason }, usage := none }]

/-- The usage event after the chunks. -/
def StreamState.usageEvents (state : StreamState) (includeUsage : Bool) : List StreamedEvent :=
  if state.usageEmitted then []
  else
    match state.reportedUsage includeUsage with
    | some usage => [{ choice := none, usage := some usage }]
    | none => []

/-- The events of a stream that is read to its end. -/
def eventsOf (includeUsage : Bool) : StreamState → List ProviderChunk → List StreamedEvent
  | state, [] => state.finishEvents ++ state.usageEvents includeUsage
  | state, chunk :: rest =>
      let state := state.absorb includeUsage chunk
      { choice := chunk.streamChoice, usage := state.reportedUsage includeUsage } ::
        eventsOf includeUsage state rest

variable {body : StreamBody} {state : StreamState} {generator : Generator}

theorem streamedEvents_append (first second : List Event) :
    streamedEvents (first ++ second) = streamedEvents first ++ streamedEvents second :=
  List.filterMap_append

/-- Emitting an event and reading on. -/
theorem streamed_emit {choice : Option StreamChoice} {usage : Option OpenaiUsage}
    {reached : Generator} (h : body.next generator =
      StreamBody.emit (.event choice usage) reached) (count : Nat) :
    streamedEvents (body.drive generator (List.replicate (count + 1) .next)).events =
      { choice, usage } :: streamedEvents (body.drive reached (List.replicate count .next)).events := by
  have hResult : (body.next generator).result = .ok reached := by rw [h]; rfl
  rw [List.replicate_succ, drive_next_of_ok hResult, h, streamedEvents_append]
  rfl

theorem streamed_complete (h : body.next generator = body.completeStage state) (count : Nat) :
    streamedEvents (body.drive generator (List.replicate (count + 1) .next)).events = [] := by
  rw [List.replicate_succ]
  obtain ⟨accepted, hEvents, hAccepted⟩ :=
    @observe_events body.env (.finished body.metadata "completed" state.usage none)
  cases hResult : (observe body.env
    (.finished body.metadata "completed" state.usage none)).result with
  | ok u =>
      have hStage : body.next generator =
          ⟨[.observed (.finished body.metadata "completed" state.usage none) accepted,
            .emitted .done], .ok .atDone⟩ := by
        rw [h, StreamBody.completeStage, Traced.bind_of_ok hResult, hEvents]
        rfl
      rw [@drive_next_of_ok _ _ .atDone _ (by rw [hStage]), hStage, drive_over (.inl rfl)]
      rfl
  | error raised =>
      have hStage : body.next generator =
          ⟨[.observed (.finished body.metadata "completed" state.usage none) accepted],
            .error raised⟩ := by
        rw [h, StreamBody.completeStage, Traced.bind_of_error hResult, hEvents]
      rw [@drive_next_of_error _ _ raised _ (by rw [hStage]), hStage]
      rfl

theorem streamed_usage (h : body.next generator = body.usageStage state) (count : Nat) :
    streamedEvents (body.drive generator (List.replicate (count + 2) .next)).events =
      state.usageEvents body.includeUsage := by
  unfold StreamBody.usageStage at h
  unfold StreamState.usageEvents
  split at h
  · rename_i hEmitted
    rw [if_pos hEmitted]
    exact streamed_complete h (count + 1)
  · rename_i hEmitted
    rw [if_neg hEmitted]
    cases hUsage : state.reportedUsage body.includeUsage with
    | none =>
        rw [hUsage] at h
        exact streamed_complete h (count + 1)
    | some usage =>
        rw [hUsage] at h
        rw [streamed_emit h, (@streamed_complete _ state _) rfl]

theorem streamed_finish (h : body.next generator = body.finishStage state)
    (hLive : body.cancelled .afterStreaming = false) (count : Nat) :
    streamedEvents (body.drive generator (List.replicate (count + 3) .next)).events =
      state.finishEvents ++ state.usageEvents body.includeUsage := by
  unfold StreamBody.finishStage at h
  rw [if_neg (by simp [hLive])] at h
  unfold StreamState.finishEvents
  split at h
  · rename_i hEmitted
    rw [if_pos hEmitted]
    exact streamed_usage h (count + 1)
  · rename_i hEmitted
    rw [if_neg hEmitted, streamed_emit h, (@streamed_usage _ state _) rfl]
    rfl

/-- A stream that nobody cancels gives its events to whoever reads far enough. -/
theorem streamed_chunks (hLive : ∀ point, body.cancelled point = false) {index : Nat}
    {rest : List ProviderChunk}
    (hSteps : ∀ later, body.steps (index + later) = chunkSteps rest later)
    (h : body.next generator = body.chunkStage state index) (count : Nat) :
    streamedEvents (body.drive generator
        (List.replicate (count + rest.length + 3) .next)).events =
      eventsOf body.includeUsage state rest := by
  induction rest generalizing generator state index with
  | nil =>
      have hStep : body.steps index = .exhausted := hSteps 0
      rw [StreamBody.chunkStage, hStep] at h
      exact streamed_finish h (hLive _) count
  | cons chunk rest ih =>
      have hStep : body.steps index = .chunk chunk := hSteps 0
      rw [StreamBody.chunkStage, hStep] at h
      dsimp only at h
      rw [if_neg (by simp [hLive])] at h
      have hLength : count + (chunk :: rest).length + 3 = count + rest.length + 3 + 1 := by
        rw [List.length_cons]
        omega
      rw [hLength, streamed_emit h, eventsOf]
      refine congrArg (List.cons _) (@ih _ _ (index + 1) (fun later => ?_) rfl)
      rw [Nat.add_right_comm, Nat.add_assoc, hSteps (later + 1)]
      rfl

end Emission

section Deltas

variable {includeUsage : Bool} {state : StreamState} {chunks : List ProviderChunk}

theorem deltasOf_cons (event : StreamedEvent) (events : List StreamedEvent) :
    deltasOf (event :: events) = (event.choice.map StreamChoice.delta).toList ++ deltasOf events := by
  unfold deltasOf
  rw [List.filterMap_cons]
  cases event.choice <;> rfl

/-- An event without a choice comes from a chunk with an empty delta. -/
theorem streamChoice_delta (chunk : ProviderChunk) :
    chunk.streamChoice.map StreamChoice.delta = some chunk.streamDelta ∨
      chunk.streamChoice.map StreamChoice.delta = none ∧ chunk.streamDelta = {} := by
  unfold ProviderChunk.streamChoice
  split
  · rename_i h
    exact .inr ⟨rfl, h.1⟩
  · exact .inl rfl

theorem streamChoice_reason (chunk : ProviderChunk) :
    chunk.streamChoice.bind StreamChoice.finishReason = chunk.finishReason := by
  unfold ProviderChunk.streamChoice
  split
  · rename_i h
    exact h.2.symm
  · rfl

/-- The deltas after the chunks are empty. -/
theorem deltasOf_tail : ∀ delta ∈ deltasOf (state.finishEvents ++ state.usageEvents includeUsage),
    delta = {} := by
  intro delta hMem
  obtain ⟨event, hEvent, hDelta⟩ := List.mem_filterMap.mp hMem
  rcases List.mem_append.mp hEvent with hFinish | hUsage
  · unfold StreamState.finishEvents at hFinish
    split at hFinish
    · cases hFinish
    · rw [List.mem_singleton] at hFinish
      cases hFinish
      cases hDelta
      rfl
  · unfold StreamState.usageEvents at hUsage
    split at hUsage
    · cases hUsage
    · split at hUsage
      · rw [List.mem_singleton] at hUsage
        cases hUsage
        cases hDelta
      · cases hUsage

/-- What a consumer concatenates from the deltas is what the chunks hold. -/
theorem flatMap_deltasOf {β : Type} (f : StreamDelta → List β) (hEmpty : f {} = []) :
    (deltasOf (eventsOf includeUsage state chunks)).flatMap f =
      chunks.flatMap fun chunk => f chunk.streamDelta := by
  induction chunks generalizing state with
  | nil =>
      rw [eventsOf, List.flatMap_nil, List.flatMap_eq_nil_iff]
      intro delta hMem
      rw [deltasOf_tail delta hMem, hEmpty]
  | cons chunk rest ih =>
      rw [eventsOf, deltasOf_cons, List.flatMap_append, ih, List.flatMap_cons]
      refine congrArg (· ++ _) ?_
      rcases streamChoice_delta chunk with h | ⟨h, hDelta⟩
      · dsimp only
        rw [h, Option.toList_some, List.flatMap_singleton]
      · dsimp only
        rw [h, hDelta, hEmpty]
        rfl

/-- The first of its kind among the deltas is the first among the chunks. -/
theorem findSome_deltasOf {β : Type} (f : StreamDelta → Option β) (hEmpty : f {} = none) :
    (deltasOf (eventsOf includeUsage state chunks)).findSome? f =
      chunks.findSome? fun chunk => f chunk.streamDelta := by
  induction chunks generalizing state with
  | nil =>
      rw [eventsOf, List.findSome?_nil, List.findSome?_eq_none_iff]
      intro delta hMem
      rw [deltasOf_tail delta hMem, hEmpty]
  | cons chunk rest ih =>
      rw [eventsOf, deltasOf_cons, List.findSome?_append, ih, List.findSome?_cons]
      rcases streamChoice_delta chunk with h | ⟨h, hDelta⟩
      · dsimp only
        rw [h, Option.toList_some, List.findSome?_singleton]
        cases f chunk.streamDelta <;> rfl
      · dsimp only
        rw [h, hDelta, hEmpty]
        rfl

end Deltas

section Calls

/-- An accumulated call as its consumer knows it. -/
def ToolCallAccumulator.received (acc : ToolCallAccumulator) : ReceivedCall :=
  { index := acc.index, id := acc.callId, type := acc.callType
    name := if acc.functionNameSeen then some acc.functionName else none
    arguments := if acc.functionArgumentsSeen then some acc.functionArguments else none }

/-- A text that was never seen is empty. -/
structure ToolCallAccumulator.Lawful (acc : ToolCallAccumulator) : Prop where
  name : acc.functionNameSeen = false → acc.functionName = []
  arguments : acc.functionArgumentsSeen = false → acc.functionArguments = []

theorem mergeIdentity_eq_ok {current value out : Option Str} {conflict : MergeConflict}
    (h : mergeIdentity current value conflict = .ok out) : out = value.or current := by
  unfold mergeIdentity at h
  split at h
  · cases h
    rfl
  · cases h
    rfl
  · split at h
    · cases h
      rfl
    · cases h

/-- What the parts of a delta's function are read back as. -/
theorem openaiFunction_parts (name arguments : Option Str) :
    (openaiFunction name arguments).bind OpenaiFunction.name = name ∧
      (openaiFunction name arguments).bind OpenaiFunction.arguments = arguments := by
  cases name <;> cases arguments <;> exact ⟨rfl, rfl⟩

/-- Merging a fragment into an accumulated text. -/
theorem joinFragment_seen {seen : Bool} {known : Str} {fragment : Option Str}
    (hKnown : seen = false → known = []) :
    joinFragment (if seen then some known else none) fragment =
        (if seen || fragment.isSome then some (known ++ fragment.getD []) else none) ∧
      ((seen || fragment.isSome) = false → known ++ fragment.getD [] = []) := by
  cases seen with
  | true => cases fragment <;> simp [joinFragment]
  | false => cases fragment <;> simp [joinFragment, hKnown]

/-- One merged delta is one received delta. -/
theorem merge_received {acc out : ToolCallAccumulator} {delta : ToolCallDelta}
    (hLawful : acc.Lawful) (h : acc.merge delta = .ok out) :
    out.Lawful ∧ out.index = acc.index ∧ delta.index = acc.index ∧
      acc.received.receive delta.toOpenaiDelta = out.received := by
  unfold ToolCallAccumulator.merge at h
  split at h
  · cases h
  · rename_i hIndex
    obtain ⟨callId, hId, h⟩ := except_bind_eq_ok.mp h
    obtain ⟨callType, hType, h⟩ := except_bind_eq_ok.mp h
    cases h
    have hName := @joinFragment_seen _ _ delta.functionName hLawful.name
    have hArguments := @joinFragment_seen _ _ delta.functionArguments hLawful.arguments
    obtain ⟨hNamePart, hArgumentsPart⟩ :=
      openaiFunction_parts delta.functionName delta.functionArguments
    refine ⟨⟨hName.2, hArguments.2⟩, rfl, not_not.mp hIndex, ?_⟩
    simp only [ToolCallAccumulator.received, ReceivedCall.receive, ToolCallDelta.toOpenaiDelta,
      hNamePart, hArgumentsPart, hName.1, hArguments.1, mergeIdentity_eq_ok hId,
      mergeIdentity_eq_ok hType]

theorem mergeCall_received {accs out : List ToolCallAccumulator} {delta : ToolCallDelta}
    (hLawful : ∀ acc ∈ accs, acc.Lawful) (h : mergeCall accs delta = .ok out) :
    (∀ acc ∈ out, acc.Lawful) ∧
      receiveCall (accs.map ToolCallAccumulator.received) delta.toOpenaiDelta =
        out.map ToolCallAccumulator.received := by
  induction accs generalizing out with
  | nil =>
      obtain ⟨merged, hMerged, h⟩ := except_bind_eq_ok.mp h
      cases h
      obtain ⟨hOut, -, -, hReceived⟩ := merge_received ⟨fun _ => rfl, fun _ => rfl⟩ hMerged
      exact ⟨by simpa using hOut, congrArg ([·]) hReceived⟩
  | cons acc rest ih =>
      have hHead : acc.Lawful := hLawful acc List.mem_cons_self
      have hTail : ∀ acc ∈ rest, acc.Lawful := fun acc hMem =>
        hLawful acc (List.mem_cons_of_mem _ hMem)
      rw [mergeCall] at h
      change _ ∧ receiveAt delta.toOpenaiDelta delta.index
        (acc.received :: rest.map ToolCallAccumulator.received) = _
      rw [receiveAt]
      split at h
      · rename_i hIndex
        obtain ⟨merged, hMerged, h⟩ := except_bind_eq_ok.mp h
        cases h
        obtain ⟨hOut, -, -, hReceived⟩ := merge_received hHead hMerged
        refine ⟨List.forall_mem_cons.mpr ⟨hOut, hTail⟩, ?_⟩
        have hSame : acc.received.index = delta.index := hIndex
        rw [if_pos hSame, hReceived]
        rfl
      · rename_i hIndex
        obtain ⟨later, hLater, h⟩ := except_bind_eq_ok.mp h
        cases h
        obtain ⟨hOut, hReceived⟩ := ih hTail hLater
        refine ⟨List.forall_mem_cons.mpr ⟨hHead, hOut⟩, ?_⟩
        have hOther : acc.received.index ≠ delta.index := hIndex
        rw [if_neg hOther]
        exact congrArg (List.cons _) hReceived

/-- The calls a consumer merges are the accumulated ones. -/
theorem mergeCalls_received {accs out : List ToolCallAccumulator} {deltas : List ToolCallDelta}
    (hLawful : ∀ acc ∈ accs, acc.Lawful) (h : mergeCalls accs deltas = .ok out) :
    (deltas.map ToolCallDelta.toOpenaiDelta).foldl receiveCall
      (accs.map ToolCallAccumulator.received) = out.map ToolCallAccumulator.received := by
  induction deltas generalizing accs with
  | nil =>
      cases h
      rfl
  | cons delta rest ih =>
      obtain ⟨merged, hMerged, h⟩ := except_bind_eq_ok.mp h
      obtain ⟨hNext, hReceived⟩ := mergeCall_received hLawful hMerged
      rw [List.map_cons, List.foldl_cons, hReceived]
      exact ih hNext h

end Calls

section Reasons

variable {includeUsage : Bool} {state : StreamState} {chunks : List ProviderChunk}

/-- The last finish reason that the chunks report. -/
def lastReason (chunks : List ProviderChunk) : Option Str :=
  (chunks.filterMap ProviderChunk.finishReason).getLast?

/-- The finish reasons of a stream: those of the chunks, else the default one. -/
theorem reasons_eventsOf :
    ((eventsOf includeUsage state chunks).filterMap fun event =>
        event.choice.bind StreamChoice.finishReason) =
      chunks.filterMap ProviderChunk.finishReason ++
        (if state.emittedFinish || chunks.any (fun chunk => chunk.finishReason.isSome) then []
        else [if state.sawToolCalls || chunks.any (fun chunk => !chunk.toolCalls.isEmpty)
          then text "tool_calls" else text "stop"]) := by
  induction chunks generalizing state with
  | nil =>
      have hUsage : ((state.usageEvents includeUsage).filterMap fun event =>
          event.choice.bind StreamChoice.finishReason) = [] := by
        unfold StreamState.usageEvents
        split
        · rfl
        · split <;> rfl
      rw [eventsOf, List.filterMap_append, hUsage, StreamState.finishEvents]
      cases hFinish : state.emittedFinish <;> simp [StreamState.defaultReason]
  | cons chunk rest ih =>
      rw [eventsOf, List.filterMap_cons, ih, List.filterMap_cons]
      dsimp only
      rw [streamChoice_reason]
      cases hReason : chunk.finishReason with
      | none => simp [StreamState.absorb, hReason, Bool.or_assoc]
      | some reason => simp [StreamState.absorb, hReason]

theorem namedReasons (chunks : List ProviderChunk) :
    chunks.filterMap ProviderChunk.namedReason =
      (chunks.filterMap ProviderChunk.finishReason).filter fun reason => !reason.isEmpty := by
  rw [List.filter_filterMap]
  rfl

/-- A unary answer always has a finish reason. -/
theorem unaryFinishReason_ne_nil (chunks : List ProviderChunk) : unaryFinishReason chunks ≠ [] := by
  unfold unaryFinishReason
  cases hNamed : chunks.reverse.findSome? ProviderChunk.namedReason with
  | none =>
      rw [Option.getD_none]
      split <;> simp [text]
  | some reason =>
      obtain ⟨chunk, -, hChunk⟩ := List.exists_of_findSome?_eq_some hNamed
      obtain ⟨-, hFilled⟩ := Option.filter_eq_some_iff.mp hChunk
      rintro rfl
      cases hFilled

/-- The unary answer has the last reason of the chunks unless that is empty. -/
theorem unaryFinishReason_of_last {reason : Str} (hLast : lastReason chunks = some reason)
    (hFilled : reason ≠ []) : unaryFinishReason chunks = reason := by
  rw [unaryFinishReason, ← List.getLast?_filterMap, namedReasons]
  rcases List.eq_nil_or_concat (chunks.filterMap ProviderChunk.finishReason) with
    hNone | ⟨before, last, hSome⟩
  · rw [lastReason, hNone] at hLast
    cases hLast
  · rw [List.concat_eq_append] at hSome
    rw [lastReason, hSome, List.getLast?_concat] at hLast
    cases hLast
    have hKept : (!List.isEmpty reason) = true := by simpa using hFilled
    rw [hSome, List.filter_append, List.filter_singleton, hKept]
    simp

theorem unaryFinishReason_of_none (hNone : lastReason chunks = none) :
    unaryFinishReason chunks =
      if chunks.any (fun chunk => !chunk.toolCalls.isEmpty) then text "tool_calls"
      else text "stop" := by
  rw [lastReason, List.getLast?_eq_none_iff] at hNone
  rw [unaryFinishReason, ← List.getLast?_filterMap, namedReasons, hNone]
  rfl

/-- The reason of the unary answer is the last one the stream emits, unless that is empty. -/
theorem receivedReason_iff :
    receivedReason (eventsOf includeUsage {} chunks) = some (unaryFinishReason chunks) ↔
      lastReason chunks ≠ some [] := by
  have hAny : (chunks.any fun chunk => chunk.finishReason.isSome) = (lastReason chunks).isSome := by
    rw [lastReason, Bool.eq_iff_iff, Option.isSome_iff_ne_none, Ne, List.getLast?_eq_none_iff,
      List.filterMap_eq_nil_iff]
    simp [Option.isSome_iff_ne_none]
  rw [receivedReason, reasons_eventsOf, hAny, List.getLast?_append]
  change Option.or _ (lastReason chunks) = _ ↔ _
  cases hLast : lastReason chunks with
  | none =>
      rw [unaryFinishReason_of_none hLast]
      simp
  | some reason =>
      simp only [Option.isSome_some, Bool.or_true, if_true, List.getLast?_nil, Option.none_or]
      constructor
      · intro h hEmpty
        rw [h] at hEmpty
        exact unaryFinishReason_ne_nil chunks (Option.some.inj hEmpty)
      · intro hFilled
        rw [unaryFinishReason_of_last hLast (fun hEmpty => hFilled (congrArg some hEmpty))]

end Reasons

section Usage

variable {state : StreamState} {chunks : List ProviderChunk}

/-- Usage was emitted exactly when what is known of it serializes. -/
def StreamState.Reported (state : StreamState) : Prop :=
  state.usageEmitted = (serializedUsage state.usage).isSome

theorem reported_absorb (h : state.Reported) (chunk : ProviderChunk) :
    (state.absorb true chunk).Reported := by
  unfold StreamState.Reported at h ⊢
  change (state.usageEmitted || (serializedUsage (mergeUsage state.usage chunk.usage)).isSome) = _
  rw [h]
  cases hKnown : (serializedUsage state.usage).isSome with
  | false => rfl
  | true => exact (serializedUsage_mergeUsage chunk.usage hKnown).symm

theorem serializedUsage_foldl {usage : Option ProviderUsage}
    (h : (serializedUsage usage).isSome = true) :
    (serializedUsage (chunks.foldl (fun usage chunk => mergeUsage usage chunk.usage)
      usage)).isSome = true := by
  induction chunks generalizing usage with
  | nil => exact h
  | cons chunk rest ih => exact ih (serializedUsage_mergeUsage chunk.usage h)

/-- The last usage event carries all that the chunks report. -/
theorem usages_eventsOf (h : state.Reported) :
    ((eventsOf true state chunks).filterMap StreamedEvent.usage).getLast?.or
        (serializedUsage state.usage) =
      serializedUsage (chunks.foldl (fun usage chunk => mergeUsage usage chunk.usage) state.usage) := by
  induction chunks generalizing state with
  | nil =>
      have hTail : (eventsOf true state []).filterMap StreamedEvent.usage = [] := by
        have hFinish : (state.finishEvents).filterMap StreamedEvent.usage = [] := by
          unfold StreamState.finishEvents
          split <;> rfl
        have hUsage : state.usageEvents true = [] := by
          unfold StreamState.usageEvents StreamState.reportedUsage
          unfold StreamState.Reported at h
          cases hKnown : serializedUsage state.usage with
          | none => simp
          | some usage => simp [h, hKnown]
        rw [eventsOf, List.filterMap_append, hFinish, hUsage]
        rfl
      rw [hTail]
      rfl
  | cons chunk rest ih =>
      have hRest := ih (reported_absorb h chunk)
      have hKept : (serializedUsage (rest.foldl (fun usage chunk => mergeUsage usage chunk.usage)
          (mergeUsage state.usage chunk.usage))).or (serializedUsage state.usage) =
            serializedUsage (rest.foldl (fun usage chunk => mergeUsage usage chunk.usage)
              (mergeUsage state.usage chunk.usage)) := by
        cases hKnown : serializedUsage state.usage with
        | none => exact Option.or_none
        | some usage =>
            refine Option.or_of_isSome (serializedUsage_foldl ?_)
            exact serializedUsage_mergeUsage chunk.usage (by rw [hKnown]; rfl)
      have hEvents : ((eventsOf true state (chunk :: rest)).filterMap
          StreamedEvent.usage).getLast? =
            ((eventsOf true (state.absorb true chunk) rest).filterMap
              StreamedEvent.usage).getLast?.or
                (serializedUsage (mergeUsage state.usage chunk.usage)) := by
        have hMerged : (state.absorb true chunk).reportedUsage true =
            serializedUsage (mergeUsage state.usage chunk.usage) := rfl
        rw [eventsOf, List.filterMap_cons]
        dsimp only
        rw [hMerged]
        cases serializedUsage (mergeUsage state.usage chunk.usage) with
        | none => exact Option.or_none.symm
        | some usage =>
            dsimp only
            rw [List.getLast?_cons]
            cases ((eventsOf true (state.absorb true chunk) rest).filterMap
              StreamedEvent.usage).getLast? <;> rfl
      rw [hEvents, List.foldl_cons, ← hKept]
      exact congrArg (Option.or · _) hRest

end Usage

section Agreement

variable {includeUsage : Bool} {chunks : List ProviderChunk}

/-- The message put together from the events is the assembled one. -/
theorem receivedMessage_eventsOf {message : AssistantMessage}
    (h : assembleMessage chunks = .ok message) :
    receivedMessage (deltasOf (eventsOf includeUsage {} chunks)) = message := by
  obtain ⟨accs, hAccs, hMessage⟩ := except_bind_eq_ok.mp h
  cases hMessage
  have hContent : ((deltasOf (eventsOf includeUsage {} chunks)).flatMap fun delta =>
      delta.content.getD []) = chunks.flatMap ProviderChunk.delta := by
    rw [flatMap_deltasOf (fun delta => delta.content.getD []) rfl]
    refine List.flatMap_congr fun chunk _ => ?_
    unfold ProviderChunk.streamDelta
    cases hDelta : chunk.delta <;> rfl
  have hRole : (deltasOf (eventsOf includeUsage {} chunks)).findSome? StreamDelta.role =
      chunks.findSome? ProviderChunk.role := findSome_deltasOf StreamDelta.role rfl
  have hDeltas : ((deltasOf (eventsOf includeUsage {} chunks)).flatMap fun delta =>
      delta.toolCalls.getD []) = (allCalls chunks).map ToolCallDelta.toOpenaiDelta := by
    rw [flatMap_deltasOf (fun delta => delta.toolCalls.getD []) rfl, allCalls, List.map_flatMap]
    refine List.flatMap_congr fun chunk _ => ?_
    unfold ProviderChunk.streamDelta
    cases hCalls : chunk.toolCalls <;> rfl
  have hCalls : ((allCalls chunks).map ToolCallDelta.toOpenaiDelta).foldl receiveCall [] =
      accs.map ToolCallAccumulator.received :=
    @mergeCalls_received [] _ _ (by simp) hAccs
  have hSorted : ((accs.map ToolCallAccumulator.received).insertionSort
      fun a b => a.index ≤ b.index) = (sortedByIndex accs).map ToolCallAccumulator.received :=
    (List.map_insertionSort _ _ ToolCallAccumulator.received accs fun _ _ _ _ => Iff.rfl).symm
  unfold receivedMessage
  dsimp only
  rw [hContent, hRole, hDeltas, hCalls, hSorted, List.map_map, List.isEmpty_map]
  rfl

/-- The events of a stream that is read to its end carry the unary answer
unless the last finish reason is empty. -/
theorem carries_eventsOf {answer : UnaryAnswer} (h : collectAnswer chunks = .ok answer) :
    Carries includeUsage (eventsOf includeUsage {} chunks) answer ↔
      lastReason chunks ≠ some [] := by
  obtain ⟨message, hMessage, hAnswer⟩ := except_bind_eq_ok.mp h
  cases hAnswer
  constructor
  · intro hCarries
    exact receivedReason_iff.mp hCarries.finishReason
  · intro hReason
    refine ⟨receivedMessage_eventsOf hMessage, receivedReason_iff.mpr hReason, ?_⟩
    rintro rfl
    have hUsage := @usages_eventsOf {} chunks rfl
    rwa [show serializedUsage ({} : StreamState).usage = none from rfl, Option.or_none] at hUsage

theorem collectChunks_ok {env : Collaborators} {attempt : Nat} {collected rest out : List ProviderChunk}
    (h : collectChunks env attempt none collected rest = .ok out) : out = collected ++ rest := by
  induction rest generalizing collected with
  | nil =>
      cases h
      exact (List.append_nil _).symm
  | cons chunk rest ih =>
      rw [collectChunks] at h
      split at h
      · cases h
      · rw [ih h, List.append_assoc]
        rfl

theorem collectResponse_answer {env : Collaborators} {attempt : Nat} {first : ProviderChunk}
    {rest : List ProviderChunk} {answer : UnaryAnswer} {usage : Option ProviderUsage}
    (h : collectResponse env attempt first rest none = .ok (answer, usage)) :
    collectAnswer (first :: rest) = .ok answer := by
  obtain ⟨collected, hCollected, h⟩ := except_bind_eq_ok.mp h
  rw [collectChunks_ok hCollected] at h
  cases hAnswer : collectAnswer ([first] ++ rest) with
  | error e =>
      rw [hAnswer] at h
      cases h
  | ok answer' =>
      rw [hAnswer] at h
      cases h
      exact hAnswer

end Agreement

/-- For chunks that the unary path assembles, the uncancelled stream that is
read to its end carries the same answer exactly when the last finish reason the
chunks report is not the empty text. -/
theorem stream_carries_unary_answer_iff (env : Collaborators) (attempt : Nat)
    (metadata : RequestMetadata) (includeUsage : Bool) (first : ProviderChunk)
    (rest : List ProviderChunk) (answer : UnaryAnswer) (usage : Option ProviderUsage)
    (count : Nat) (hUnary : collectResponse env attempt first rest none = .ok (answer, usage))
    (hRead : rest.length + 4 ≤ count) :
    Carries includeUsage
        (streamedEvents (StreamBody.drive
          { env, metadata, steps := chunkSteps (first :: rest), includeUsage
            cancelled := fun _ => false } .created (List.replicate count .next)).events) answer ↔
      lastReason (first :: rest) ≠ some [] := by
  have hCount : count = (count - (rest.length + 4)) + (first :: rest).length + 3 := by
    rw [List.length_cons]
    omega
  rw [hCount, @streamed_chunks ⟨env, metadata, chunkSteps (first :: rest), includeUsage,
    fun _ => false⟩ {} _ (fun _ => rfl) 0 (first :: rest)
      (fun later => by rw [Nat.zero_add]) rfl]
  exact carries_eventsOf (collectResponse_answer hUnary)

/-- The metadata of a streaming request. -/
def sampleMetadata : RequestMetadata :=
  { requestId := "r", model := "m", stream := true, routeId := "p", providerRef := "p"
    principal := { actorId := "a", workspaceId := "w", credentialRef := "c" } }

/-- Two chunks of text with usage at the end carry the assembled answer. -/
theorem stream_carries_unary_answer_iff_sample :
    Carries true
      (streamedEvents (StreamBody.drive
        { env := calmCollaborators, metadata := sampleMetadata, includeUsage := true
          steps := chunkSteps [{ delta := "he", role := some "assistant" },
            { delta := "llo", finishReason := some "stop"
              usage := some { promptTokens := some 1, completionTokens := some 2 } }]
          cancelled := fun _ => false } .created (List.replicate 5 .next)).events)
      { message := { role := "assistant", content := some "hello", toolCalls := none }
        finishReason := "stop"
        usage := some { promptTokens := some 1, completionTokens := some 2, totalTokens := some 3 } } :=
  (stream_carries_unary_answer_iff calmCollaborators 0 sampleMetadata true
    { delta := "he", role := some "assistant" }
    [{ delta := "llo", finishReason := some "stop"
       usage := some { promptTokens := some 1, completionTokens := some 2 } }] _
    (some { promptTokens := some 1, completionTokens := some 2 }) 5 rfl (by decide)).mpr (by decide)

/-- An empty finish reason is emitted as it is, and replaced in the unary answer. -/
theorem empty_reason_disagrees : ¬ ∀ (env : Collaborators) (attempt : Nat)
    (metadata : RequestMetadata) (includeUsage : Bool) (first : ProviderChunk)
    (rest : List ProviderChunk) (answer : UnaryAnswer) (usage : Option ProviderUsage) (count : Nat),
    collectResponse env attempt first rest none = .ok (answer, usage) →
    rest.length + 4 ≤ count →
    Carries includeUsage
      (streamedEvents (StreamBody.drive
        { env, metadata, steps := chunkSteps (first :: rest), includeUsage
          cancelled := fun _ => false } .created (List.replicate count .next)).events) answer := by
  intro h
  have hCarries := h calmCollaborators 0 sampleMetadata false
    { delta := "hi", finishReason := some [] } [] _ none 4 rfl (by decide)
  exact absurd hCarries.finishReason (by decide)

end CyreneExchange.Gateway
