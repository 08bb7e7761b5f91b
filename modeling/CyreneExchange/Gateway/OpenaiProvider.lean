import CyreneExchange.Gateway.StreamAgreement
import CyreneExchange.Gateway.Usage

/-! The provider over one OpenAI-compatible endpoint: a unary body and the lines
of an event stream are projected to provider chunks. -/
namespace CyreneExchange.Gateway
open CyreneExchange.General

/-- Python truth of a value. -/
def Value.truthy : Value → Bool
  | .none => false
  | .bool value => value
  | .int value => value != 0
  | .float value => value != .negativeZero && value != .number 0
  | .str value => !value.isEmpty
  | .bytes data => !data.isEmpty
  | .list items => !items.isEmpty
  | .tuple items => !items.isEmpty
  | .dict entries => !entries.isEmpty

/-- `value or default`. -/
def Value.orElse (value default : Value) : Value := if value.truthy then value else default

namespace OpenaiProvider

/-- `ProviderUnavailableError`. -/
def unavailable : Raise := .ordinary "ProviderUnavailableError" none

def attributeError : Raise := .ordinary "AttributeError" none
def typeError : Raise := .ordinary "TypeError" none
def keyError : Raise := .ordinary "KeyError" none

/-- `value.get(key)`: only a mapping has it. -/
def member (value : Value) (key : Str) : Except Raise Value :=
  match value with
  | .dict d => .ok (Dict.get d key)
  | _ => .error attributeError

/-- `choices[0]` of choices that are not empty. -/
def firstChoice : Value → Except Raise Value
  | .list (choice :: _) | .tuple (choice :: _) => .ok choice
  | .str (c :: _) => .ok (.str [c])
  | .dict _ => .error keyError
  | _ => .error typeError

/-- `_token`. -/
def token : Value → Option Nat
  | .int n => if 0 ≤ n then some n.toNat else none
  | _ => none

/-- `_usage`. -/
def usage : Value → Option ProviderUsage
  | .dict d => some
      { promptTokens := token (Dict.get d "prompt_tokens")
        completionTokens := token (Dict.get d "completion_tokens")
        totalTokens := token (Dict.get d "total_tokens") }
  | _ => none

/-- A text, or nothing. -/
def optionalText : Value → Except Raise (Option Str)
  | .none => .ok none
  | .str s => .ok (some s)
  | _ => .error typeError

/-- `ProviderChunk(role=..., delta=..., finish_reason=..., usage=...)` with the checks of
`__post_init__`. A finish reason is not checked: one that is no text would be handed on as it
is, and has no place in the typed chunk. -/
def providerChunk (role delta finishReason reported : Value) : Except Raise ProviderChunk := do
  let delta ← match delta with
    | .str s => .ok s
    | _ => .error typeError
  let role ← optionalText role
  pure { delta, role, finishReason := finishReason.asStr, usage := usage reported }

section Unary

/-- What the POST of a unary request gives: a transport error, or a response with its
status and, where that decodes, its JSON body. -/
inductive PostOutcome where
  | httpError
  | response (status : Nat) (body : Option Value)

/-- The chunk of a unary body. -/
def bodyChunk (body : Value) : Except Raise ProviderChunk := do
  let choices := (← member body "choices").orElse (.list [])
  if !choices.truthy then .error unavailable else
  let choice ← firstChoice choices
  let message := (← member choice "message").orElse (.dict [])
  let role := (← member message "role").orElse (.str "assistant")
  let delta := (← member message "content").orElse (.str [])
  let finishReason := (← member choice "finish_reason").orElse (.str "stop")
  providerChunk role delta finishReason (← member body "usage")

/-- The chunk of a response. -/
def responseChunk : PostOutcome → Except Raise ProviderChunk
  | .httpError => .error unavailable
  | .response status body =>
      if 400 ≤ status then .error unavailable
      else match body with
        | none => .error (.ordinary "JSONDecodeError" none)
        | some body => bodyChunk body

/-- `_collect`. -/
def collect (cancelled : Bool) (outcome : PostOutcome) : ProviderAnswer :=
  if cancelled then { chunks := [], ending := some .providerInvocationCancelled }
  else match responseChunk outcome with
    | .ok chunk => { chunks := [chunk] }
    | .error e => { chunks := [], ending := some e }

end Unary

section Stream

/-- `line[len(_SSE_DATA_PREFIX):].strip()`. -/
def linePayload (line : Str) : Str := Str.strip (line.drop 5)

/-- The chunk of an event. -/
def eventChunk (event : Dict) : Except Raise ProviderChunk := do
  let choices := (event.get "choices").orElse (.list [])
  if !choices.truthy then pure { usage := usage (event.get "usage") } else
  let choice ← firstChoice choices
  let delta := (← member choice "delta").orElse (.dict [])
  let role ← member delta "role"
  let content := (← member delta "content").orElse (.str [])
  providerChunk role content (← member choice "finish_reason") (event.get "usage")

variable (loads : Str → Option Value)

/-- `_stream_chunk`, over the JSON decoder. -/
def streamChunk (line : Str) : Except Raise (Option ProviderChunk) :=
  if !line.startsWith "data:" then .ok none
  else
    let payload := linePayload line
    if payload.isEmpty || payload == text "[DONE]" then .ok none
    else match loads payload with
      | none => .error unavailable
      | some (.dict event) => (eventChunk event).map some
      | some _ => .ok none

/-- The chunks of the lines from an index on, up to the first that raises. -/
def lineChunks (cancelled : Nat → Bool) (ending : Option Raise) : Nat → List Str → ProviderAnswer
  | _, [] => { chunks := [], ending }
  | index, line :: rest =>
      if cancelled index then { chunks := [], ending := some .providerInvocationCancelled }
      else match streamChunk loads line with
        | .error e => { chunks := [], ending := some e }
        | .ok none => lineChunks cancelled ending (index + 1) rest
        | .ok (some chunk) =>
            let later := lineChunks cancelled ending (index + 1) rest
            { later with chunks := chunk :: later.chunks }

/-- What the POST of a streaming request gives: a transport error, or a response with its
lines, which a transport error may cut short. -/
inductive StreamOutcome where
  | httpError
  | response (status : Nat) (lines : List Str) (broken : Bool)

/-- `_stream`. -/
def stream (cancelled : Nat → Bool) : StreamOutcome → ProviderAnswer
  | .httpError => { chunks := [], ending := some unavailable }
  | .response status lines broken =>
      if 400 ≤ status then { chunks := [], ending := some unavailable }
      else lineChunks loads cancelled (if broken then some unavailable else none) 0 lines

/-- Each `next` of an answer. -/
def answerSteps (answer : ProviderAnswer) (index : Nat) : ProviderStep :=
  match answer.chunks[index]? with
  | some chunk => .chunk chunk
  | none =>
      match answer.ending with
      | some e => .raises e
      | none => .exhausted

theorem answerSteps_eq {answer : ProviderAnswer} (h : answer.ending = none) :
    answerSteps answer = chunkSteps answer.chunks := by
  funext index
  cases hChunk : answer.chunks[index]? with
  | none => simp only [answerSteps, chunkSteps, hChunk, h]
  | some chunk => simp only [answerSteps, chunkSteps, hChunk]

end Stream

end OpenaiProvider

end CyreneExchange.Gateway
