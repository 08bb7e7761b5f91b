import CyreneExchange.Gateway.Values

/-! What a provider reports: text and tool-call deltas, finish reasons and
usage facts, and the public shapes they are serialized to. -/
namespace CyreneExchange.Gateway

/-- One structured fragment of an indexed tool call. -/
structure ToolCallDelta where
  index : Nat
  id : Option Str := none
  type : Option Str := none
  functionName : Option Str := none
  functionArguments : Option Str := none
deriving DecidableEq, Repr

/-- Exact token facts, possibly partial. -/
structure ProviderUsage where
  promptTokens : Option Nat := none
  completionTokens : Option Nat := none
  totalTokens : Option Nat := none
  source : Str := text "provider"
deriving DecidableEq, Repr

/-- One chunk of provider output. -/
structure ProviderChunk where
  delta : Str := []
  finishReason : Option Str := none
  role : Option Str := none
  toolCalls : List ToolCallDelta := []
  usage : Option ProviderUsage := none
deriving DecidableEq, Repr

/-- The `function` object of a tool call. -/
structure OpenaiFunction where
  name : Option Str := none
  arguments : Option Str := none
deriving DecidableEq, Repr

/-- A tool call in a delta, or without its index in a message. -/
structure OpenaiToolCall where
  index : Option Nat := none
  id : Option Str := none
  type : Option Str := none
  function : Option OpenaiFunction := none
deriving DecidableEq, Repr

/-- `if function: value["function"] = function`. -/
def openaiFunction (name arguments : Option Str) : Option OpenaiFunction :=
  if name.isSome || arguments.isSome then some { name, arguments } else none

/-- `ToolCallDelta.to_openai_delta`. -/
def ToolCallDelta.toOpenaiDelta (call : ToolCallDelta) : OpenaiToolCall :=
  { index := some call.index, id := call.id, type := call.type
    function := openaiFunction call.functionName call.functionArguments }

/-- The public `usage` object. -/
structure OpenaiUsage where
  promptTokens : Option Nat := none
  completionTokens : Option Nat := none
  totalTokens : Option Nat := none
deriving DecidableEq, Repr

/-- `ProviderUsage.to_openai_dict`: a missing total is derived from both parts. -/
def ProviderUsage.toOpenaiDict (usage : ProviderUsage) : OpenaiUsage :=
  { promptTokens := usage.promptTokens
    completionTokens := usage.completionTokens
    totalTokens := usage.totalTokens.or
      (usage.promptTokens.bind fun prompt => usage.completionTokens.map fun completion =>
        prompt + completion) }

/-- Python truth of the serialized usage. -/
def OpenaiUsage.nonempty (usage : OpenaiUsage) : Bool :=
  usage.promptTokens.isSome || usage.completionTokens.isSome || usage.totalTokens.isSome

/-- `serialized_usage = usage.to_openai_dict()`, kept only when it has an entry. -/
def serializedUsage (usage : Option ProviderUsage) : Option OpenaiUsage :=
  usage.bind fun facts => if facts.toOpenaiDict.nonempty then some facts.toOpenaiDict else none

/-- The delta of a stream event. -/
structure StreamDelta where
  role : Option Str := none
  content : Option Str := none
  toolCalls : Option (List OpenaiToolCall) := none
deriving DecidableEq, Repr

/-- The choice of a stream event. -/
structure StreamChoice where
  delta : StreamDelta
  finishReason : Option Str
deriving DecidableEq, Repr

/-- One item of a stream body: an event with at most one choice, or "[DONE]". -/
inductive StreamItem where
  | event (choice : Option StreamChoice) (usage : Option OpenaiUsage)
  | done
deriving DecidableEq, Repr

/-- `ExchangeGateway._merge_usage`. -/
def mergeUsage (current observed : Option ProviderUsage) : Option ProviderUsage :=
  match observed, current with
  | none, _ => current
  | some observed, none => some observed
  | some observed, some current =>
      some { promptTokens := observed.promptTokens.or current.promptTokens
             completionTokens := observed.completionTokens.or current.completionTokens
             totalTokens := observed.totalTokens.or current.totalTokens
             source := observed.source }

/-- `ExchangeGateway._merge_chunk_usage`. -/
def mergeChunkUsage (chunks : List ProviderChunk) : Option ProviderUsage :=
  chunks.foldl (fun usage chunk => mergeUsage usage chunk.usage) none

theorem ProviderUsage.nonempty_toOpenaiDict (usage : ProviderUsage) :
    usage.toOpenaiDict.nonempty = true ↔
      usage.promptTokens.isSome ∨ usage.completionTokens.isSome ∨ usage.totalTokens.isSome := by
  obtain ⟨prompt, completion, total, source⟩ := usage
  cases prompt <;> cases completion <;> cases total <;>
    simp [ProviderUsage.toOpenaiDict, OpenaiUsage.nonempty]

/-- Once usage serializes to something, merging more keeps it so. -/
theorem serializedUsage_mergeUsage {usage : Option ProviderUsage} (observed : Option ProviderUsage)
    (h : (serializedUsage usage).isSome = true) :
    (serializedUsage (mergeUsage usage observed)).isSome = true := by
  cases usage with
  | none => simp [serializedUsage] at h
  | some current =>
      have hCurrent : current.toOpenaiDict.nonempty = true := by
        by_contra hEmpty
        simp [serializedUsage, hEmpty] at h
      cases observed with
      | none => exact h
      | some observed =>
          rw [ProviderUsage.nonempty_toOpenaiDict] at hCurrent
          have hMerged : (mergeUsage (some current) (some observed)).any fun facts =>
              facts.toOpenaiDict.nonempty := by
            simp only [mergeUsage, Option.any_some, ProviderUsage.nonempty_toOpenaiDict,
              Option.isSome_or, Bool.or_eq_true]
            tauto
          simp only [mergeUsage, Option.any_some] at hMerged
          simp [serializedUsage, mergeUsage, hMerged]

end CyreneExchange.Gateway
