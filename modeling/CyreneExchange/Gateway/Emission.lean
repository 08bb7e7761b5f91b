import CyreneExchange.Gateway.Handlers

/-! The body of a streaming response: a generator that turns provider chunks
into events, and reports the end of the request when it completes, fails or is
closed. -/
namespace CyreneExchange.Gateway
open CyreneExchange.General

/-- A place in the stream body where the cancellation event is read. -/
inductive StreamPoint where
  | chunk (index : Nat)
  | afterStreaming
  | failureStatus
  | failureError
  | closedStatus
  | closedError
deriving DecidableEq

/-- What a stream body is made from. -/
structure StreamBody where
  env : Collaborators
  metadata : RequestMetadata
  steps : Nat → ProviderStep
  includeUsage : Bool
  cancelled : StreamPoint → Bool

/-- The local variables of `_stream_body`. -/
structure StreamState where
  emittedFinish : Bool := false
  sawToolCalls : Bool := false
  usage : Option ProviderUsage := none
  usageEmitted : Bool := false
deriving DecidableEq

/-- Where a stream body is suspended: nowhere yet, at the event of a chunk, at
the finish or usage event that follows the chunks, at "[DONE]", or it is closed. -/
inductive Generator where
  | created
  | atChunk (index : Nat) (state : StreamState)
  | atFinish (state : StreamState)
  | atUsage (state : StreamState)
  | atDone
  | closed
deriving DecidableEq

/-- The usage an event carries. -/
def StreamState.reportedUsage (state : StreamState) (includeUsage : Bool) : Option OpenaiUsage :=
  if includeUsage then serializedUsage state.usage else none

/-- The variables after one more chunk. -/
def StreamState.absorb (state : StreamState) (includeUsage : Bool) (chunk : ProviderChunk) :
    StreamState :=
  let merged : StreamState :=
    { emittedFinish := state.emittedFinish || chunk.finishReason.isSome
      sawToolCalls := state.sawToolCalls || !chunk.toolCalls.isEmpty
      usage := mergeUsage state.usage chunk.usage
      usageEmitted := state.usageEmitted }
  { merged with usageEmitted := merged.usageEmitted || (merged.reportedUsage includeUsage).isSome }

/-- The delta of a chunk: its role, its text and its tool calls where it has any. -/
def ProviderChunk.streamDelta (chunk : ProviderChunk) : StreamDelta :=
  { role := chunk.role
    content := if chunk.delta.isEmpty then none else some chunk.delta
    toolCalls := if chunk.toolCalls.isEmpty then none
      else some (chunk.toolCalls.map ToolCallDelta.toOpenaiDelta) }

/-- The choice of a chunk's event: none when there is nothing to tell. -/
def ProviderChunk.streamChoice (chunk : ProviderChunk) : Option StreamChoice :=
  if chunk.streamDelta = {} ∧ chunk.finishReason = none then none
  else some { delta := chunk.streamDelta, finishReason := chunk.finishReason }

/-- The finish reason that is emitted when no chunk had one. -/
def StreamState.defaultReason (state : StreamState) : Str :=
  if state.sawToolCalls then "tool_calls" else "stop"

namespace StreamBody

variable (body : StreamBody)

/-- Status and error type of a body that ends without a caught exception. -/
def closedFacts : Str × Str :=
  (if body.cancelled .closedStatus then "cancelled" else "failed",
    if body.cancelled .closedError then "request_cancelled" else "stream_closed")

/-- Status and error type that the `except` clauses find for an exception. -/
def failureFacts (e : Raise) : Str × Str :=
  match e with
  | .requestCancelled _ => ("cancelled", "request_cancelled")
  | e =>
      if e.isException then
        (if body.cancelled .failureStatus then "cancelled" else "failed",
          if body.cancelled .failureError then "request_cancelled" else e.auditErrorType)
      else body.closedFacts

/-- The `finally` clause of a body whose end was not reported before. -/
def report (state : StreamState) (facts : Str × Str) : Handling Unit :=
  observe body.env (.finished body.metadata facts.1 state.usage (some facts.2))

/-- An exception inside the `try` of the body. -/
def interrupt (state : StreamState) (e : Raise) : Handling Generator := do
  body.report state (body.failureFacts e)
  Traced.fail e

/-- Emit one item and wait for the consumer. -/
def emit (item : StreamItem) (generator : Generator) : Handling Generator := do
  Traced.log (.emitted item)
  pure generator

/-- The completed event is committed before "[DONE]" is published. -/
def completeStage (state : StreamState) : Handling Generator := do
  observe body.env (.finished body.metadata "completed" state.usage none)
  emit .done .atDone

/-- The usage event, when usage is wanted and no event carried it. -/
def usageStage (state : StreamState) : Handling Generator :=
  if state.usageEmitted then body.completeStage state
  else
    match state.reportedUsage body.includeUsage with
    | some usage => emit (.event none (some usage)) (.atUsage state)
    | none => body.completeStage state

/-- The finish event, when no chunk had a finish reason. -/
def finishStage (state : StreamState) : Handling Generator :=
  if body.cancelled .afterStreaming then body.interrupt state (.requestCancelled none)
  else if state.emittedFinish then body.usageStage state
  else
    emit (.event (some { delta := {}, finishReason := some state.defaultReason }) none)
      (.atFinish state)

/-- One round of the loop over the provider chunks. -/
def chunkStage (state : StreamState) (index : Nat) : Handling Generator :=
  match body.steps index with
  | .chunk chunk =>
      if body.cancelled (.chunk index) then body.interrupt state (.requestCancelled none)
      else
        let state := state.absorb body.includeUsage chunk
        emit (.event chunk.streamChoice (state.reportedUsage body.includeUsage))
          (.atChunk index state)
  | .exhausted => body.finishStage state
  | .raises .providerInvocationCancelled => body.interrupt state (.requestCancelled none)
  | .raises e => body.interrupt state e

/-- `next(body)`: run on to the next item, or to the end. -/
def next : Generator → Handling Generator
  | .created => body.chunkStage {} 0
  | .atChunk index state => body.chunkStage state (index + 1)
  | .atFinish state => body.usageStage state
  | .atUsage state => body.completeStage state
  | .atDone => pure .closed
  | .closed => pure .closed

/-- `body.close()`: a body that was never started ends without running. -/
def close : Generator → Handling Unit
  | .atChunk _ state | .atFinish state | .atUsage state => body.report state body.closedFacts
  | .created | .atDone | .closed => pure ()

end StreamBody

/-- What a consumer does with a stream body. -/
inductive ConsumerOp where
  | next | close
deriving DecidableEq, Repr

/-- A consumer asks for items and may close the body. Letting go of the body
closes it as well. -/
def StreamBody.drive (body : StreamBody) : Generator → List ConsumerOp → Handling Unit
  | generator, [] => do
      let _ ← (body.close generator).outcome
      pure ()
  | generator, .next :: ops => do
      let advanced ← (body.next generator).outcome
      match advanced with
      | .ok generator => drive body generator ops
      | .error _ => drive body .closed ops
  | generator, .close :: ops => do
      let _ ← (body.close generator).outcome
      drive body .closed ops

/-- A chat request with the consumer of its response: a unary response needs none. -/
def serveChat (env : Collaborators) (maxRouteAttempts : Nat) (requestId : Str)
    (headers : List (Str × Str)) (payload : Dict) (cancelled : StreamPoint → Bool)
    (ops : List ConsumerOp) : Handling Unit := do
  let response ← handleOpenaiChat env maxRouteAttempts requestId headers payload
  match response.body with
  | .stream metadata _ steps includeUsage =>
      StreamBody.drive { env, metadata, steps, includeUsage, cancelled } .created ops
  | _ => pure ()

end CyreneExchange.Gateway
