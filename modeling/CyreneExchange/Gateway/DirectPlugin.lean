import CyreneExchange.Gateway.Protocol

/-! The projection of a normalized chat request into the contract of a model
provider plugin. Typed content parts select another request version, in which
every message has typed parts. -/
namespace CyreneExchange.Gateway
open CyreneExchange.General

section Json

/-- The escapes of `json.dumps(..., ensure_ascii=False)`, by code point. -/
def jsonEscape (c : CodePoint) : Str :=
  match c.val with
  | 34 => text "\\\""
  | 92 => text "\\\\"
  | 8 => text "\\b"
  | 9 => text "\\t"
  | 10 => text "\\n"
  | 12 => text "\\f"
  | 13 => text "\\r"
  | n =>
      if n < 32 then
        text "\\u00" ++ text (if n < 16 then "0" else "1") ++
          text (String.singleton (Nat.digitChar (n % 16)))
      else [c]

def jsonString (s : Str) : Str := text "\"" ++ s.flatMap jsonEscape ++ text "\""

variable (floatRepr : Float64 → Str)

mutual
/-- `json.dumps(value, ensure_ascii=False, separators=(",", ":"))`: bytes raise TypeError. -/
def jsonDumps : Value → Option Str
  | .none => some (text "null")
  | .bool value => some (if value then text "true" else text "false")
  | .int value => some (text (toString value))
  | .float value => some (floatRepr value)
  | .str value => some (jsonString value)
  | .bytes _ => none
  | .list items | .tuple items =>
      (jsonItems items).map fun parts =>
        text "[" ++ List.intercalate (text ",") parts ++ text "]"
  | .dict entries =>
      (jsonEntries entries).map fun parts =>
        text "\x7b" ++ List.intercalate (text ",") parts ++ text "\x7d"

def jsonItems : List Value → Option (List Str)
  | [] => some []
  | item :: rest => do
      let part ← jsonDumps item
      let parts ← jsonItems rest
      pure (part :: parts)

def jsonEntries : List (Str × Value) → Option (List Str)
  | [] => some []
  | (key, value) :: rest => do
      let part ← jsonDumps value
      let parts ← jsonEntries rest
      pure ((jsonString key ++ text ":" ++ part) :: parts)
end

end Json

section Contract

/-- `ChatRole`. -/
inductive ChatRole where
  | system | user | assistant | tool
deriving DecidableEq, Repr

/-- `ChatToolCall` with its `ChatToolCallFunction`. -/
structure ChatToolCall where
  id : Str
  type : Str
  name : Str
  arguments : Str
deriving DecidableEq, Repr

/-- `ChatMessage`. -/
structure ChatMessage where
  role : ChatRole
  content : Str
  name : Option Str
  toolCallId : Option Str
  toolCalls : List ChatToolCall
deriving DecidableEq, Repr

/-- The typed content parts of the third request version. -/
inductive ContentPart where
  | ofText (body : Str)
  | ofImage (mimeType : Str) (data : Option (List UInt8)) (artifactId : Option Str)
  | ofAudio (mimeType : Str) (data : Option (List UInt8)) (artifactId : Option Str)
  | ofFile (mimeType : Str) (data : Option (List UInt8)) (artifactId filename : Option Str)
deriving DecidableEq

/-- `ChatMessageV3`. -/
structure ChatMessageV3 where
  role : ChatRole
  content : List ContentPart
  name : Option Str
  toolCallId : Option Str
  toolCalls : List ChatToolCall
deriving DecidableEq

/-- `ChatTool` with its `ChatFunction`. -/
structure ChatTool where
  type : Str
  name : Str
  description : Option Str
  parametersJson : Str
  strict : Option Bool
deriving DecidableEq, Repr

/-- `ChatToolChoice`. -/
structure ChatToolChoice where
  mode : Str
  functionName : Option Str := none
deriving DecidableEq, Repr

/-- `ChatCompletionRequest` and `ChatCompletionRequestV3`, by their messages. -/
structure ChatCompletionRequest (Message : Type) where
  messages : List Message
  model : Str
  stream : Bool
  temperature : Option Float64
  maxTokens : Option Int
  tools : List ChatTool
  toolChoice : Option ChatToolChoice
  parallelToolCalls : Option Bool
  includeUsage : Option Bool

end Contract

section Checks

/-- What a projection raises. -/
inductive ProjectionError where
  | execution (message : Str)
  | typeError
deriving DecidableEq, Repr

abbrev Projected := Except ProjectionError

/-- The value of a check, or a ModelProviderExecutionError. -/
def need {α : Type} (value : Option α) (message : Str) : Projected α :=
  match value with
  | some a => .ok a
  | none => .error (.execution message)

/-- An optional value of one type. -/
def Value.optional {α : Type} (view : Value → Option α) (value : Value) : Option (Option α) :=
  if value.isNone then some Option.none else (view value).map some

/-- `isinstance(value, bytes)`. -/
def Value.asBytes : Value → Option (List UInt8)
  | .bytes data => some data
  | _ => Option.none

/-- A text that is not blank. -/
def Value.asFilled (value : Value) : Option Str := value.asStr.filter fun s => !s.isBlank

end Checks

section Messages

/-- `_ROLE_VALUES`. -/
def roleValues : List (Str × ChatRole) :=
  [(text "system", .system), (text "user", .user), (text "assistant", .assistant),
    (text "tool", .tool)]

/-- `_MESSAGE_FIELDS`. -/
def messageFields : List Str :=
  [text "role", text "content", text "name", text "tool_call_id", text "tool_calls"]

/-- `"" if content is None else content`, when that is a text. -/
def contentText : Value → Option Str
  | .none => some []
  | value => value.asStr

/-- One tool call of `_to_chat_message`. -/
def toChatToolCall (index callIndex : Nat) (rawCall : Value) : Projected ChatToolCall := do
  let field := text s!"messages[{index}].tool_calls[{callIndex}]"
  let call ← need rawCall.asDict (about field " must be an object")
  let callId ← need (call.get "id").asFilled (about field ".id is invalid")
  let callType ← need (call.getD "type" (.str "function")).asFilled (about field ".type is invalid")
  let function ← need (call.get "function").asDict (about field ".function is invalid")
  let name ← need (function.get "name").asFilled (about field ".function is invalid")
  let arguments ← need (function.getD "arguments" (.str [])).asStr (about field ".function is invalid")
  pure { id := callId, type := callType, name, arguments }

/-- The tool calls of `_to_chat_message`. -/
def toChatToolCalls (index : Nat) (rawToolCalls : Value) : Projected (List ChatToolCall) :=
  if rawToolCalls.isNone then pure []
  else do
    let calls ← need rawToolCalls.asSequence
      (text s!"messages[{index}].tool_calls must be an array")
    each (toChatToolCall index) 0 calls

/-- `_to_chat_message`. -/
def toChatMessage (index : Nat) (message : Dict) : Projected ChatMessage := do
  let unsupported := message.unknownKeys messageFields
  let _ ← need (if unsupported.isEmpty then some () else none)
    (text s!"messages[{index}] contains unsupported canonical fields: " ++ joinNames unsupported)
  let role ← need ((message.get "role").asStr.bind fun role => roleValues.lookup role)
    (text s!"messages[{index}].role is invalid")
  let content ← need (contentText (message.get "content"))
    (text s!"messages[{index}].content must be text or null")
  let name ← need (Value.optional Value.asStr (message.get "name"))
    (text s!"messages[{index}].name must be text when provided")
  let toolCallId ← need (Value.optional Value.asStr (message.get "tool_call_id"))
    (text s!"messages[{index}].tool_call_id must be text when provided")
  let toolCalls ← toChatToolCalls index (message.get "tool_calls")
  pure { role, content, name, toolCallId, toolCalls }

/-- One content part of `_to_chat_message_v3`. -/
def toContentPart (index partIndex : Nat) (rawPart : Value) : Projected ContentPart := do
  let field := text s!"messages[{index}].content[{partIndex}]"
  let part ← need rawPart.asDict (about field " is invalid")
  let partType := (part.get "type").asStr
  if partType = some (text "text") then do
    let body ← need (part.get "text").asStr (about field ".text is invalid")
    pure (.ofText body)
  else do
    let mimeType ← need (part.get "mime_type").asStr (about field ".mime_type is invalid")
    let data ← need (Value.optional Value.asBytes (part.get "data")) (about field ".data is invalid")
    let artifactId ← need (Value.optional Value.asStr (part.get "artifact_id"))
      (about field ".artifact_id is invalid")
    if partType = some (text "image") then pure (.ofImage mimeType data artifactId)
    else if partType = some (text "audio") then pure (.ofAudio mimeType data artifactId)
    else if partType = some (text "file") then do
      let filename ← need (Value.optional Value.asStr (part.get "filename"))
        (about field ".filename is invalid")
      pure (.ofFile mimeType data artifactId filename)
    else .error (.execution (about field ".type is unsupported"))

/-- `{**message, "content": ""}`. -/
def withoutContent (message : Dict) : Dict := message.set "content" (.str [])

/-- `_to_chat_message_v3`. -/
def toChatMessageV3 (index : Nat) (message : Dict) : Projected ChatMessageV3 := do
  let rawContent ← need (message.get "content").asSequence
    (text s!"messages[{index}].content must contain typed parts")
  let content ← each (toContentPart index) 0 rawContent
  let normalized ← toChatMessage index (withoutContent message)
  pure { role := normalized.role, content, name := normalized.name
         toolCallId := normalized.toolCallId, toolCalls := normalized.toolCalls }

end Messages

section Requests

variable (floatRepr : Float64 → Str)

/-- One tool of `_to_chat_request`. -/
def toChatTool (index : Nat) (tool : Dict) : Projected ChatTool := do
  let field := text s!"tools[{index}]"
  let function ← need (tool.get "function").asDict (about field ".function must be an object")
  let name ← need (function.get "name").asFilled (about field ".function.name is invalid")
  let parameters ← need (function.getD "parameters" (.dict [])).asDict
    (about field ".function.parameters must be an object")
  let description ← need (Value.optional Value.asStr (function.get "description"))
    (about field ".function.description must be text")
  let strict ← need (Value.optional Value.asBool (function.get "strict"))
    (about field ".function.strict must be boolean")
  let type ← need ((tool.get "type").asStr.filter fun s => !s.isEmpty)
    (about field ".type is invalid")
  match jsonDumps floatRepr (.dict parameters) with
  | some parametersJson => pure { type, name, description, parametersJson, strict }
  | none => .error .typeError

/-- The tool choice of `_to_chat_request`. -/
def toChatToolChoice (toolChoice : Option Value) : Projected (Option ChatToolChoice) :=
  match toolChoice with
  | none => pure none
  | some (.str mode) => pure (some { mode })
  | some (.dict choice) => do
      let name ← need ((Dict.get choice "function").asDict.bind fun function =>
        (function.get "name").asStr) "tool_choice.function.name is invalid"
      pure (some { mode := "function", functionName := some name })
  | some _ => .error (.execution "tool_choice is invalid")

/-- The options that both request versions share. -/
def completionRequest {Message : Type} (request : NormalizedInferenceRequest)
    (messages : List Message) (tools : List ChatTool) (toolChoice : Option ChatToolChoice) :
    ChatCompletionRequest Message :=
  { messages, tools, toolChoice, model := request.model, stream := request.stream
    temperature := request.temperature, maxTokens := request.maxTokens
    parallelToolCalls := request.parallelToolCalls
    includeUsage := request.streamOptions.map fun options =>
      (options.getD "include_usage" (.bool false)).asBool = some true }

/-- `_to_chat_request`. -/
def toChatRequest (request : NormalizedInferenceRequest) :
    Projected (ChatCompletionRequest ChatMessage) := do
  let messages ← each toChatMessage 0 request.messages
  let tools ← each (toChatTool floatRepr) 0 request.tools
  let toolChoice ← toChatToolChoice request.toolChoice
  pure (completionRequest request messages tools toolChoice)

/-- `_requires_v3_chat`. -/
def requiresV3Chat (request : NormalizedInferenceRequest) : Bool :=
  request.messages.any fun message => (contentText (message.get "content")).isNone

/-- `_to_chat_request_v3`. -/
def toChatRequestV3 (request : NormalizedInferenceRequest) :
    Projected (ChatCompletionRequest ChatMessageV3) := do
  let messages ← each toChatMessageV3 0 request.messages
  let textRequest ← toChatRequest floatRepr
    { request with messages := request.messages.map withoutContent }
  pure (completionRequest request messages textRequest.tools textRequest.toolChoice)

/-- The request handed to the plugin. -/
inductive TypedRequest where
  | text (request : ChatCompletionRequest ChatMessage)
  | parts (request : ChatCompletionRequest ChatMessageV3)

/-- The projection at the start of `DirectPluginModelProvider.complete`. -/
def projectRequest (request : NormalizedInferenceRequest) : Projected TypedRequest :=
  if requiresV3Chat request then .parts <$> toChatRequestV3 floatRepr request
  else .text <$> toChatRequest floatRepr request

end Requests

end CyreneExchange.Gateway
