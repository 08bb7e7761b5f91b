import CyreneExchange.Gateway.Capabilities
import CyreneExchange.Gateway.Values

/-! The unary answer: the chunks of one provider call are collected and
assembled into one assistant message. -/
namespace CyreneExchange.Gateway
open CyreneExchange.General

/-- `_ToolCallAccumulator`. -/
structure ToolCallAccumulator where
  index : Nat
  callId : Option Str := none
  callType : Option Str := none
  functionName : Str := []
  functionArguments : Str := []
  functionNameSeen : Bool := false
  functionArgumentsSeen : Bool := false
deriving DecidableEq, Repr

/-- The identities of a tool call that two deltas may disagree on. -/
inductive MergeConflict where
  | index
  | ids (index : Nat)
  | types (index : Nat)
deriving DecidableEq, Repr

/-- The text of the ProviderFailureError a conflict raises. -/
def MergeConflict.message : MergeConflict → Str
  | .index => "provider tool-call index changed during assembly"
  | .ids place => text s!"provider returned conflicting tool-call ids for index {place}"
  | .types place => text s!"provider returned conflicting tool-call types for index {place}"

/-- `if value is not None: if current not in (None, value): raise; current = value`. -/
def mergeIdentity (current value : Option Str) (conflict : MergeConflict) :
    Except MergeConflict (Option Str) :=
  match value, current with
  | none, _ => .ok current
  | some value, none => .ok (some value)
  | some value, some known => if known = value then .ok (some value) else .error conflict

/-- `_ToolCallAccumulator.merge`. -/
def ToolCallAccumulator.merge (acc : ToolCallAccumulator) (delta : ToolCallDelta) :
    Except MergeConflict ToolCallAccumulator := do
  if delta.index ≠ acc.index then .error .index else
  let callId ← mergeIdentity acc.callId delta.id (.ids acc.index)
  let callType ← mergeIdentity acc.callType delta.type (.types acc.index)
  pure
    { acc with
      callId, callType
      functionNameSeen := acc.functionNameSeen || delta.functionName.isSome
      functionName := acc.functionName ++ delta.functionName.getD []
      functionArgumentsSeen := acc.functionArgumentsSeen || delta.functionArguments.isSome
      functionArguments := acc.functionArguments ++ delta.functionArguments.getD [] }

/-- `_ToolCallAccumulator.to_openai_message`. -/
def ToolCallAccumulator.toOpenaiMessage (acc : ToolCallAccumulator) : OpenaiToolCall :=
  { id := acc.callId
    type := acc.callType
    function := openaiFunction
      (if acc.functionNameSeen then some acc.functionName else none)
      (if acc.functionArgumentsSeen then some acc.functionArguments else none) }

/-- `accumulators.setdefault(call.index, ...)` followed by `merge`. -/
def mergeCall : List ToolCallAccumulator → ToolCallDelta →
    Except MergeConflict (List ToolCallAccumulator)
  | [], delta => do
      let merged ← ToolCallAccumulator.merge { index := delta.index } delta
      pure [merged]
  | acc :: rest, delta =>
      if acc.index = delta.index then do
        let merged ← acc.merge delta
        pure (merged :: rest)
      else do
        let rest ← mergeCall rest delta
        pure (acc :: rest)

/-- Merge the calls of all chunks in order. -/
def mergeCalls : List ToolCallAccumulator → List ToolCallDelta →
    Except MergeConflict (List ToolCallAccumulator)
  | accs, [] => .ok accs
  | accs, delta :: rest => do
      let accs ← mergeCall accs delta
      mergeCalls accs rest

/-- An assistant message. -/
structure AssistantMessage where
  role : Str
  content : Option Str
  toolCalls : Option (List OpenaiToolCall)
deriving DecidableEq, Repr

/-- All tool-call deltas in the order they arrive. -/
def allCalls (chunks : List ProviderChunk) : List ToolCallDelta :=
  chunks.flatMap ProviderChunk.toolCalls

/-- `accumulators[index] for index in sorted(accumulators)`. -/
def sortedByIndex (accs : List ToolCallAccumulator) : List ToolCallAccumulator :=
  accs.insertionSort fun a b => a.index ≤ b.index

/-- `_assemble_message`. -/
def assembleMessage (chunks : List ProviderChunk) : Except MergeConflict AssistantMessage := do
  let content := chunks.flatMap ProviderChunk.delta
  let role := (chunks.findSome? ProviderChunk.role).getD "assistant"
  let accumulators ← mergeCalls [] (allCalls chunks)
  pure
    { role
      content := if !content.isEmpty || accumulators.isEmpty then some content else none
      toolCalls := if accumulators.isEmpty then none else
        some ((sortedByIndex accumulators).map ToolCallAccumulator.toOpenaiMessage) }

/-- `chunk.finish_reason` when it is neither absent nor empty. -/
def ProviderChunk.namedReason (chunk : ProviderChunk) : Option Str :=
  chunk.finishReason.filter fun reason => !reason.isEmpty

/-- The finish reason of a unary answer. -/
def unaryFinishReason (chunks : List ProviderChunk) : Str :=
  (chunks.reverse.findSome? ProviderChunk.namedReason).getD
    (if chunks.any (fun chunk => !chunk.toolCalls.isEmpty) then "tool_calls" else "stop")

/-- The answer part of `_collect_response`: message, finish reason and usage. -/
structure UnaryAnswer where
  message : AssistantMessage
  finishReason : Str
  usage : Option OpenaiUsage
deriving DecidableEq, Repr

def collectAnswer (chunks : List ProviderChunk) : Except MergeConflict UnaryAnswer := do
  let message ← assembleMessage chunks
  pure
    { message
      finishReason := unaryFinishReason chunks
      usage := serializedUsage (mergeChunkUsage chunks) }

end CyreneExchange.Gateway
