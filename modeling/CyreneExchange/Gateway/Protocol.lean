import CyreneExchange.Gateway.Values

/-! Request normalization: an OpenAI-compatible payload is checked field by
field and becomes a provider-neutral request, or a ProtocolError. Python can
raise three other exceptions on the way. -/
namespace CyreneExchange.Gateway
open CyreneExchange.General

/-- What a check raises. -/
inductive Raised where
  | protocolError (message : Str)
  | typeError
  | overflowError
  | unicodeEncodeError
deriving DecidableEq, Repr

abbrev Checked := Except Raised

/-- `raise ProtocolError(message)`. -/
def refuse {α : Type} (message : Str) : Checked α := .error (.protocolError message)

/-- `if not condition: raise ProtocolError(message)`. -/
def require (condition : Bool) (message : Str) : Checked Unit :=
  if condition then .ok () else refuse message

/-- The value an `isinstance` test narrows to. -/
def expect {α : Type} (value : Option α) (message : Str) : Checked α :=
  match value with
  | some a => .ok a
  | none => refuse message

/-- `value in {...}` for a set of texts: the value is hashed first. -/
def memberOf (value : Value) (allowed : List Str) : Checked Bool :=
  if value.hashable then .ok (value.asStr.any fun s => allowed.contains s)
  else .error .typeError

def maxChatContentParts : Nat := 128
def maxChatMediaBytes : Nat := 20 * 1024 * 1024
def maxArtifactIdLength : Nat := 256

/-- `f"{subject} {rest}"`. -/
def about (subject : Str) (rest : String) : Str := subject ++ text rest

/-- `", ".join(names)`. -/
def joinNames (names : List Str) : Str := List.intercalate (text ", ") names

/-- `_require_non_empty_string`. -/
def requireNonEmptyString (value : Value) (fieldName : Str) : Checked Str := do
  let s ← expect value.asStr (about fieldName " must be a non-empty string")
  require (!s.isBlank) (about fieldName " must be a non-empty string")
  pure s.strip

/-- `len(value.encode("utf-8"))`: lone surrogates do not encode. -/
def encodedLength (s : Str) : Checked Nat :=
  if s.hasSurrogate then .error .unicodeEncodeError else .ok (s.map Str.utf8Width).sum

section Checks

variable {α : Type} {value : Value} {field message : Str}

theorem require_eq_ok {condition : Bool} {u : Unit} :
    require condition message = .ok u ↔ condition = true := by
  cases condition <;> simp [require, refuse]

theorem expect_eq_ok {option : Option α} {a : α} :
    expect option message = .ok a ↔ option = some a := by
  cases option <;> simp [expect, refuse]

theorem memberOf_eq_ok {allowed : List Str} {found : Bool} :
    memberOf value allowed = .ok found ↔
      value.hashable = true ∧ value.asStr.any (fun s => allowed.contains s) = found := by
  cases hHash : value.hashable <;> simp [memberOf, hHash]

theorem encodedLength_eq_ok {s : Str} {size : Nat} : encodedLength s = .ok size ↔
    s.hasSurrogate = false ∧ (s.map Str.utf8Width).sum = size := by
  cases hSurrogate : s.hasSurrogate <;> simp [encodedLength, hSurrogate]

theorem requireNonEmptyString_eq_ok {s : Str} : requireNonEmptyString value field = .ok s ↔
    ∃ raw, value = .str raw ∧ raw.isBlank = false ∧ s = raw.strip := by
  constructor
  · intro h
    obtain ⟨raw, hRaw, hBody⟩ := except_bind_eq_ok.mp h
    obtain ⟨_, hBlank, hStrip⟩ := except_bind_eq_ok.mp hBody
    cases value <;> simp only [Value.asStr, expect_eq_ok, reduceCtorEq] at hRaw
    cases hRaw
    cases hStrip
    exact ⟨raw, rfl, by simpa using require_eq_ok.mp hBlank, rfl⟩
  · rintro ⟨raw, rfl, hBlank, rfl⟩
    simp [requireNonEmptyString, Value.asStr, expect, require, hBlank, bind, Except.bind, pure,
      Except.pure]

end Checks

/-- `_normalize_tool`. -/
def normalizeTool (index : Nat) (rawTool : Value) : Checked Dict := do
  let tool ← expect rawTool.asDict (text s!"tools[{index}] must be an object")
  require ((tool.get "type").asStr = some (text "function"))
    (text s!"tools[{index}].type must be 'function'")
  let rawFunction ← expect (tool.get "function").asDict
    (text s!"tools[{index}].function must be an object")
  let name ← requireNonEmptyString (rawFunction.get "name") (text s!"tools[{index}].function.name")
  let description := rawFunction.get "description"
  require (description.isNone || description.asStr.isSome)
    (text s!"tools[{index}].function.description must be a string")
  let parameters := rawFunction.get "parameters"
  require (parameters.isNone || parameters.asDict.isSome)
    (text s!"tools[{index}].function.parameters must be an object")
  let strict := rawFunction.get "strict"
  require (strict.isNone || strict.asBool.isSome)
    (text s!"tools[{index}].function.strict must be a boolean")
  -- a null description, schema or strict flag stays in the copy as it is
  let function := rawFunction.set "name" (.str name)
  let function := function.setSome "description" (description.asStr.map .str)
  let function := function.setSome "parameters" (parameters.asDict.map .dict)
  let function := function.setSome "strict" (strict.asBool.map .bool)
  pure ((tool.set "type" (.str "function")).set "function" (.dict function))

/-- `_normalize_tool_choice`. -/
def normalizeToolChoice (value : Value) : Checked Value :=
  match value.asStr with
  | some mode => do
      require ([text "none", text "auto", text "required"].contains mode)
        "tool_choice must be 'none', 'auto', or 'required'"
      pure (.str mode)
  | none => do
      let choice ← expect value.asDict "tool_choice must be a string or an object"
      require ((choice.get "type").asStr = some (text "function"))
        "tool_choice.type must be 'function'"
      let function ← expect (choice.get "function").asDict "tool_choice.function must be an object"
      let name ← requireNonEmptyString (function.get "name") "tool_choice.function.name"
      pure (.dict [("type", .str "function"), ("function", .dict [("name", .str name)])])

/-- `_normalize_stream_options`. -/
def normalizeStreamOptions (value : Value) : Checked Dict := do
  let options ← expect value.asDict "stream_options must be an object"
  let unknown := options.unknownKeys ["include_usage"]
  require unknown.isEmpty
    (text "stream_options contains unsupported fields: " ++ joinNames unknown)
  let includeUsage ← expect (options.getD "include_usage" (.bool false)).asBool
    "stream_options.include_usage must be a boolean"
  pure [("include_usage", .bool includeUsage)]

/-- One call of `_normalize_tool_calls`. -/
def normalizeToolCall (messageIndex callIndex : Nat) (rawCall : Value) : Checked Value := do
  let field := text s!"messages[{messageIndex}].tool_calls[{callIndex}]"
  let call ← expect rawCall.asDict (about field " must be an object")
  let callId ← requireNonEmptyString (call.get "id") (about field ".id")
  require ((call.getD "type" (.str "function")).asStr = some (text "function"))
    (about field ".type must be 'function'")
  let rawFunction ← expect (call.get "function").asDict (about field ".function must be an object")
  let name ← requireNonEmptyString (rawFunction.get "name") (about field ".function.name")
  let arguments ← expect (rawFunction.getD "arguments" (.str [])).asStr
    (about field ".function.arguments must be a string")
  let function := (rawFunction.set "name" (.str name)).set "arguments" (.str arguments)
  pure (.dict (((call.set "id" (.str callId)).set "type" (.str "function")).set
    "function" (.dict function)))

/-- `_normalize_tool_calls`. -/
def normalizeToolCalls (rawToolCalls : Value) (messageIndex : Nat) : Checked Value := do
  let calls ← expect rawToolCalls.asSequence
    (text s!"messages[{messageIndex}].tool_calls must be an array")
  require (!calls.isEmpty) (text s!"messages[{messageIndex}].tool_calls must not be empty")
  let calls ← each (normalizeToolCall messageIndex) 0 calls
  pure (.list calls)

/-- A character of `[a-z0-9!#$&^_.+-]`, the marks by their code points. -/
def isMimeChar (c : CodePoint) : Bool :=
  (decide (97 ≤ c.val) && decide (c.val ≤ 122)) || (decide (48 ≤ c.val) && decide (c.val ≤ 57)) ||
    [33, 35, 36, 38, 94, 95, 46, 43, 45].contains c.val

def isSlash (c : CodePoint) : Bool := c.val == 47

/-- `mime_type.split("/", 1)[0]`. -/
def mimeCategory (mimeType : Str) : Str := mimeType.takeWhile fun c => !isSlash c

/-- `re.fullmatch` of two non-empty runs of such characters around a slash. -/
def isMimeType (s : Str) : Bool :=
  let category := mimeCategory s
  let subtype := s.drop (category.length + 1)
  decide (category.length < s.length) && !category.isEmpty && category.all isMimeChar &&
    !subtype.isEmpty && subtype.all isMimeChar

/-- The state of the base64 reader between two characters. -/
structure Base64State where
  quad : Nat := 0
  left : Nat := 0
  pads : Nat := 0
  padding : Bool := false

/-- The value of a character of the base64 alphabet. -/
def base64Value (c : CodePoint) : Option Nat :=
  if 65 ≤ c.val ∧ c.val ≤ 90 then some (c.val - 65)
  else if 97 ≤ c.val ∧ c.val ≤ 122 then some (c.val - 71)
  else if 48 ≤ c.val ∧ c.val ≤ 57 then some (c.val + 4)
  else if c.val = 43 then some 62
  else if c.val = 47 then some 63
  else none

/-- The reading loop of `base64.b64decode(encoded, validate=True)`. -/
def base64Loop (state : Base64State) : Str → Option (List UInt8)
  | [] => if state.quad = 0 then some [] else none
  | c :: rest =>
      if c.val = 61 then
        let pads := if 2 ≤ state.quad then state.pads + 1 else state.pads
        if 2 ≤ state.quad ∧ 4 ≤ state.quad + pads then
          if rest.isEmpty then some [] else none
        else base64Loop { state with pads := pads, padding := true } rest
      else
        match base64Value c with
        | none => none
        | some value =>
            if state.padding then none
            else
              match state.quad with
              | 0 => base64Loop { state with quad := 1, left := value, pads := 0 } rest
              | 1 =>
                  (base64Loop { state with quad := 2, left := value % 16, pads := 0 } rest).map
                    (UInt8.ofNat (state.left * 4 + value / 16) :: ·)
              | 2 =>
                  (base64Loop { state with quad := 3, left := value % 4, pads := 0 } rest).map
                    (UInt8.ofNat (state.left * 16 + value / 4) :: ·)
              | _ =>
                  (base64Loop { state with quad := 0, left := 0, pads := 0 } rest).map
                    (UInt8.ofNat (state.left * 64 + value) :: ·)

/-- `base64.b64decode(encoded, validate=True)`; `none` for its ValueError. -/
def b64decode (encoded : Str) : Option (List UInt8) :=
  if encoded.head?.any (fun c => c.val == 61) then none else base64Loop {} encoded

/-- An identifier the media check lets pass as an opaque reference. -/
def opaqueReference (artifactId : Str) : Bool :=
  !artifactId.isBlank && decide (artifactId.length ≤ maxArtifactIdLength) &&
    !artifactId.includes "://" && !artifactId.includes "/" && !artifactId.includes "\\" &&
    !artifactId.startsWith "~"

def plainFilename (filename : Str) : Bool :=
  !filename.isBlank && decide (filename.length ≤ 255) && !filename.includes "/" &&
    !filename.includes "\\" && !filename.includes [0] &&
    !([text ".", text ".."].contains filename)

/-- The fields a media part may have. -/
def mediaFields (partType : Str) : List Str :=
  [text "type", text "mime_type", text "data_base64", text "artifact_id"] ++
    if partType = text "file" then [text "filename"] else []

/-- `not isinstance(mime_type, str) or len(mime_type) > 255 or re.fullmatch(...) is None`. -/
def normalizeMimeType (value : Value) (field : Str) : Checked Str := do
  let raw ← expect value.asStr (about field ".mime_type is invalid")
  require (decide (raw.length ≤ 255) && isMimeType raw.strip.lower)
    (about field ".mime_type is invalid")
  pure raw.strip.lower

/-- Decode inline media against the size limits. -/
def normalizeInlineMedia (value : Value) (field : Str) (mediaBytes : Nat) :
    Checked (List UInt8 × Nat) := do
  let encoded ← expect value.asStr (about field ".data_base64 is empty or exceeds the size limit")
  require (!encoded.isEmpty && decide (encoded.length ≤ (maxChatMediaBytes + 2) / 3 * 4))
    (about field ".data_base64 is empty or exceeds the size limit")
  let data ← expect (b64decode encoded) (about field ".data_base64 is not valid base64")
  require (!data.isEmpty && decide (data.length ≤ maxChatMediaBytes))
    (about field ".data_base64 is empty or exceeds the size limit")
  require (decide (mediaBytes + data.length ≤ maxChatMediaBytes))
    "chat media exceeds the maximum aggregate size"
  pure (data, mediaBytes + data.length)

/-- The bytes or the reference of a media part, as its entry. -/
def normalizeMediaSource (field : Str) (mediaBytes : Nat) (rawPart : Dict) :
    Checked (Dict × Nat) :=
  if rawPart.has "data_base64" then do
    let (data, mediaBytes) ← normalizeInlineMedia (rawPart.get "data_base64") field mediaBytes
    pure ([("data", .bytes data)], mediaBytes)
  else do
    let artifactId ← expect (rawPart.get "artifact_id").asStr
      (about field ".artifact_id must be an opaque reference")
    require (opaqueReference artifactId) (about field ".artifact_id must be an opaque reference")
    pure ([("artifact_id", .str artifactId)], mediaBytes)

/-- The file name of a file part, as its entry. -/
def normalizeFilename (field partType : Str) (rawPart : Dict) : Checked Dict :=
  if partType = text "file" ∧ rawPart.has "filename" = true then do
    let filename ← expect (rawPart.get "filename").asStr (about field ".filename is invalid")
    require (plainFilename filename) (about field ".filename is invalid")
    pure [("filename", .str filename)]
  else pure []

/-- The media branch of `_normalize_content_part`. -/
def normalizeMediaPart (field : Str) (mediaBytes : Nat) (rawPart : Dict) (partType : Str) :
    Checked (Value × Nat) := do
  let unknown := rawPart.unknownKeys (mediaFields partType)
  require unknown.isEmpty (about field " contains unsupported fields: " ++ joinNames unknown)
  let mimeType ← normalizeMimeType (rawPart.get "mime_type") field
  let category := mimeCategory mimeType
  require ((partType ≠ text "image" || category = text "image") &&
      (partType ≠ text "audio" || category = text "audio"))
    (about field ".mime_type does not match its content type")
  require (rawPart.has "data_base64" != rawPart.has "artifact_id")
    (about field " must supply exactly one of data_base64 or artifact_id")
  let (source, mediaBytes) ← normalizeMediaSource field mediaBytes rawPart
  let filename ← normalizeFilename field partType rawPart
  let shape : Dict := [("type", .str partType), ("mime_type", .str mimeType)]
  pure (.dict (shape ++ source ++ filename), mediaBytes)

/-- `_normalize_content_part`. -/
def normalizeContentPart (messageIndex partIndex mediaBytes : Nat) (rawPart : Value) :
    Checked (Value × Nat) := do
  let field := text s!"messages[{messageIndex}].content[{partIndex}]"
  let part ← expect rawPart.asDict (about field " must be an object")
  let partType := part.get "type"
  if partType.asStr = some (text "text") then do
    require (part.keysAre ["type", "text"])
      (about field " text part must contain only a string text field")
    let body ← expect (part.get "text").asStr
      (about field " text part must contain only a string text field")
    pure (.dict [("type", .str "text"), ("text", .str body)], mediaBytes)
  else do
    let supported ← memberOf partType [text "image", text "audio", text "file"]
    require supported (about field ".type is unsupported")
    normalizeMediaPart field mediaBytes part (partType.asStr.getD [])

/-- The content branch of `_normalize_message`. -/
def normalizeContent (index mediaBytes : Nat) (role : Str) (content : Value) :
    Checked (Value × Nat) :=
  match content.asSequence with
  | some parts => do
      require (role ≠ text "tool" && !parts.isEmpty && decide (parts.length ≤ maxChatContentParts))
        (text s!"messages[{index}].content must contain 1 to {maxChatContentParts} parts")
      let (parts, mediaBytes) ← pass (normalizeContentPart index) 0 mediaBytes parts
      pure (.tuple parts, mediaBytes)
  | none => do
      require (content.isNone || content.asStr.isSome)
        (text s!"messages[{index}].content must be text, typed parts, or null")
      pure (content, mediaBytes)

/-- `isinstance(content, str) and len(content.encode("utf-8")) > MAX_CHAT_MEDIA_BYTES`. -/
def checkContentSize (index : Nat) (content : Value) : Checked Unit :=
  match content.asStr with
  | some s => do
      let size ← encodedLength s
      require (decide (size ≤ maxChatMediaBytes))
        (text s!"messages[{index}].content exceeds the maximum text size")
  | none => pure ()

/-- The four chat roles. -/
def roleNames : List Str := [text "system", text "user", text "assistant", text "tool"]

/-- A tool message names the call it answers. -/
def checkToolCallId (index : Nat) (role : Str) (toolCallId : Value) : Checked Unit :=
  if role = text "tool" then do
    let _ ← requireNonEmptyString toolCallId (text s!"messages[{index}].tool_call_id")
    pure ()
  else pure ()

/-- The role of a message, checked against the fields it comes with. -/
def normalizeHeader (index : Nat) (rawMessage : Dict) : Checked Str := do
  let valid ← memberOf (rawMessage.get "role") roleNames
  require valid (text s!"messages[{index}].role is invalid")
  let role := (rawMessage.get "role").asStr.getD []
  let hasToolCalls := rawMessage.has "tool_calls"
  require (!hasToolCalls || role = text "assistant")
    (text s!"messages[{index}].tool_calls is only valid for assistant messages")
  require (rawMessage.has "content" || hasToolCalls)
    (text s!"messages[{index}].content is required")
  pure role

/-- `_normalize_message`. -/
def normalizeMessage (index mediaBytes : Nat) (rawMessage : Dict) : Checked (Dict × Nat) := do
  let role ← normalizeHeader index rawMessage
  let (content, mediaBytes) ← normalizeContent index mediaBytes role (rawMessage.get "content")
  require (!content.isNone || role = text "assistant")
    (text s!"messages[{index}].content must be text for " ++ role ++ text " messages")
  checkContentSize index content
  let message := (rawMessage.set "role" (.str role)).set "content" content
  require ((message.get "name").isNone || (message.get "name").asStr.isSome)
    (text s!"messages[{index}].name must be a string when provided")
  require ((message.get "tool_call_id").isNone || (message.get "tool_call_id").asStr.isSome)
    (text s!"messages[{index}].tool_call_id must be a string when provided")
  checkToolCallId index role (message.get "tool_call_id")
  if rawMessage.has "tool_calls" then do
    let toolCalls ← normalizeToolCalls (rawMessage.get "tool_calls") index
    pure (message.set "tool_calls" toolCalls, mediaBytes)
  else pure (message, mediaBytes)

/-- The message has a chat role and the fields this role may have. -/
structure HeaderAdmitted (raw : Dict) (role : Str) : Prop where
  known : role ∈ roleNames
  field : raw.get "role" = .str role
  toolCalls : raw.has "tool_calls" = true → role = text "assistant"
  content : raw.has "content" = true ∨ raw.has "tool_calls" = true

section Messages

variable {index mediaBytes : Nat} {raw : Dict}

theorem memberOf_roleNames {value : Value} :
    memberOf value roleNames = .ok true ↔ ∃ role ∈ roleNames, value = .str role := by
  rw [memberOf_eq_ok]
  constructor
  · rintro ⟨-, hAny⟩
    cases value <;> simp only [Value.asStr, Option.any_none, Option.any_some, reduceCtorEq] at hAny
    exact ⟨_, List.contains_iff_mem.mp hAny, rfl⟩
  · rintro ⟨role, hRole, rfl⟩
    exact ⟨rfl, by simpa [Value.asStr] using hRole⟩

theorem normalizeContent_eq_ok {role : Str} {content : Value} {out : Value × Nat} :
    normalizeContent index mediaBytes role content = .ok out ↔
      (∃ parts results total, content.asSequence = some parts ∧ role ≠ text "tool" ∧
        parts ≠ [] ∧ parts.length ≤ maxChatContentParts ∧
        pass (normalizeContentPart index) 0 mediaBytes parts = .ok (results, total) ∧
        out = (.tuple results, total)) ∨
      (content.asSequence = none ∧ (content = .none ∨ ∃ s, content = .str s) ∧
        out = (content, mediaBytes)) := by
  unfold normalizeContent
  cases hParts : content.asSequence with
  | some parts =>
      simp only [except_bind_eq_ok, require_eq_ok, Bool.and_eq_true, decide_eq_true_eq,
        Bool.not_eq_true', List.isEmpty_eq_false_iff, Option.some.injEq, reduceCtorEq, false_and,
        or_false]
      constructor
      · rintro ⟨_, ⟨⟨hRole, hSome⟩, hLength⟩, ⟨results, total⟩, hPass, hOut⟩
        cases hOut
        exact ⟨parts, results, total, rfl, hRole, hSome, hLength, hPass, rfl⟩
      · rintro ⟨_, results, total, rfl, hRole, hSome, hLength, hPass, rfl⟩
        exact ⟨(), ⟨⟨hRole, hSome⟩, hLength⟩, _, hPass, rfl⟩
  | none =>
      have hKind : (content.isNone || content.asStr.isSome) = true ↔
          content = .none ∨ ∃ s, content = .str s := by
        cases content <;> simp [Value.isNone, Value.asStr]
      simp only [except_bind_eq_ok, require_eq_ok, hKind, reduceCtorEq, false_and, exists_false,
        false_or, true_and]
      constructor
      · rintro ⟨_, hContent, hOut⟩
        cases hOut
        exact ⟨hContent, rfl⟩
      · rintro ⟨hContent, rfl⟩
        exact ⟨(), hContent, rfl⟩

theorem normalizeHeader_eq_ok {role : Str} :
    normalizeHeader index raw = .ok role ↔ HeaderAdmitted raw role := by
  constructor
  · intro h
    obtain ⟨valid, hValid, hRest⟩ := except_bind_eq_ok.mp h
    obtain ⟨_, hTrue, hCalls⟩ := except_bind_eq_ok.mp hRest
    rw [require_eq_ok] at hTrue
    subst hTrue
    obtain ⟨name, hName, hField⟩ := memberOf_roleNames.mp hValid
    obtain ⟨_, hToolCalls, hContent⟩ := except_bind_eq_ok.mp hCalls
    obtain ⟨_, hSome, hRole⟩ := except_bind_eq_ok.mp hContent
    rw [require_eq_ok, hField] at hToolCalls
    rw [require_eq_ok, Bool.or_eq_true] at hSome
    rw [hField] at hRole
    cases hRole
    refine ⟨hName, hField, fun hHas => ?_, hSome⟩
    rw [hHas] at hToolCalls
    exact of_decide_eq_true hToolCalls
  · rintro ⟨hName, hField, hToolCalls, hContent⟩
    have hValid := memberOf_roleNames.mpr ⟨role, hName, hField⟩
    have hCalls : (!raw.has "tool_calls" || decide (role = text "assistant")) = true := by
      cases hHas : raw.has "tool_calls" with
      | false => rfl
      | true => simpa using hToolCalls hHas
    have hSome : (raw.has "content" || raw.has "tool_calls") = true := by simpa using hContent
    refine except_bind_eq_ok.mpr ⟨true, hValid, except_bind_eq_ok.mpr ⟨(), rfl, ?_⟩⟩
    refine except_bind_eq_ok.mpr ⟨(), require_eq_ok.mpr ?_, except_bind_eq_ok.mpr
      ⟨(), require_eq_ok.mpr hSome, ?_⟩⟩
    · rw [hField]
      exact hCalls
    · rw [hField]
      rfl

end Messages

/-- The provider-neutral chat request. -/
structure NormalizedInferenceRequest where
  model : Str
  messages : List Dict
  stream : Bool
  temperature : Option Float64 := none
  maxTokens : Option Int := none
  tools : List Dict := []
  toolChoice : Option Value := none
  parallelToolCalls : Option Bool := none
  streamOptions : Option Dict := none

/-- The temperature branch of `from_openai`. -/
def normalizeTemperature (value : Value) : Checked (Option Float64) :=
  match value with
  | .none => pure none
  | .int n =>
      match Float64.ofInt n with
      | none => .error .overflowError
      | some x => do
          require (x.between 0 2) "temperature must be between 0 and 2"
          pure (some x)
  | .float x => do
      require (x.between 0 2) "temperature must be between 0 and 2"
      pure (some x)
  | _ => refuse "temperature must be a number"

/-- The token limit branch of `from_openai`. -/
def normalizeMaxTokens (value : Value) : Checked (Option Int) :=
  match value with
  | .none => pure none
  | .int n => do
      require (decide (0 < n)) "max_tokens must be a positive integer"
      pure (some n)
  | _ => refuse "max_tokens must be a positive integer"

namespace NormalizedInferenceRequest

/-- One message of `from_openai`. -/
def readMessage (index mediaBytes : Nat) (rawMessage : Value) : Checked (Dict × Nat) := do
  let message ← expect rawMessage.asDict (text s!"messages[{index}] must be an object")
  normalizeMessage index mediaBytes message

/-- `None if value is None else normalize(value)`. -/
def optional {α : Type} (normalize : Value → Checked α) (value : Value) : Checked (Option α) :=
  if value.isNone then pure none else some <$> normalize value

/-- The fields of `from_openai` after the messages. -/
def readOptions (payload : Dict) (model : Str) (messages : List Dict) :
    Checked NormalizedInferenceRequest := do
  let stream ← expect (payload.getD "stream" (.bool false)).asBool "stream must be a boolean"
  let temperature ← normalizeTemperature (payload.get "temperature")
  let maxTokens ← normalizeMaxTokens (payload.get "max_tokens")
  let rawTools ← expect (payload.getD "tools" (.tuple [])).asSequence "tools must be an array"
  let tools ← each normalizeTool 0 rawTools
  let toolChoice ← optional normalizeToolChoice (payload.get "tool_choice")
  let parallelToolCalls := payload.get "parallel_tool_calls"
  require (parallelToolCalls.isNone || parallelToolCalls.asBool.isSome)
    "parallel_tool_calls must be a boolean"
  let streamOptions ← optional normalizeStreamOptions (payload.get "stream_options")
  require (streamOptions.isNone || stream) "stream_options is only valid when stream is true"
  pure { model := model.strip, messages, stream, temperature, maxTokens, tools, toolChoice,
         parallelToolCalls := parallelToolCalls.asBool, streamOptions }

/-- `NormalizedInferenceRequest.from_openai`. -/
def fromOpenai (payload : Value) : Checked NormalizedInferenceRequest := do
  let payload ← expect payload.asDict "request body must be a JSON object"
  let model ← expect (payload.get "model").asStr "model must be a non-empty string"
  require (!model.isBlank) "model must be a non-empty string"
  let rawMessages ← expect (payload.get "messages").asSequence "messages must be a non-empty array"
  require (!rawMessages.isEmpty) "messages must be a non-empty array"
  let (messages, _) ← pass readMessage 0 0 rawMessages
  readOptions payload model messages

/-- An optional entry of a dictionary display. -/
def entry (key : Str) : Option Value → Dict
  | some value => [(key, value)]
  | none => []

/-- `to_provider_dict`. -/
def toProviderDict (request : NormalizedInferenceRequest) : Dict :=
  [(text "model", .str request.model), (text "messages", .list (request.messages.map .dict)),
    (text "stream", .bool request.stream)] ++
  entry "temperature" (request.temperature.map .float) ++
  entry "max_tokens" (request.maxTokens.map .int) ++
  entry "tools" (if request.tools.isEmpty then none else
    some (.list (request.tools.map .dict))) ++
  entry "tool_choice" request.toolChoice ++
  entry "parallel_tool_calls" (request.parallelToolCalls.map .bool) ++
  entry "stream_options" (request.streamOptions.map .dict)

end NormalizedInferenceRequest

/-- One bounded embedding request. -/
structure NormalizedEmbeddingRequest where
  model : Str
  inputs : List Str
  operation : Str := text "embeddings"
deriving DecidableEq

namespace NormalizedEmbeddingRequest

/-- `input`: one text or a non-empty array of texts. -/
def readInputs (value : Value) : Checked (List Str) :=
  match value with
  | .str s => pure [s]
  | _ => do
      let items ← expect value.asSequence "input must be text or a non-empty array of text"
      require (!items.isEmpty) "input must be text or a non-empty array of text"
      expect (items.mapM Value.asStr) "input must be text or a non-empty array of text"

/-- One item of the input loop, with the bytes so far. -/
def readInput (index totalBytes : Nat) (item : Str) : Checked (Str × Nat) := do
  require (!item.isBlank) (text s!"input[{index}] must be non-empty text")
  require (decide (item.length ≤ 32768)) (text s!"input[{index}] exceeds the maximum text length")
  let size ← encodedLength item
  pure (item, totalBytes + size)

/-- `NormalizedEmbeddingRequest.from_openai`. -/
def fromOpenai (payload : Value) : Checked NormalizedEmbeddingRequest := do
  let payload ← expect payload.asDict "request body must be a JSON object"
  let unknown := payload.unknownKeys ["model", "input", "encoding_format"]
  require unknown.isEmpty
    (text "embeddings request contains unsupported fields: " ++ joinNames unknown)
  let model ← requireNonEmptyString (payload.get "model") "model"
  require (decide (model.length ≤ 256)) "model exceeds the maximum length"
  let inputs ← readInputs (payload.get "input")
  require (decide (inputs.length ≤ 128)) "input must contain at most 128 items"
  let (_, totalBytes) ← pass readInput 0 0 inputs
  require (decide (totalBytes ≤ 1048576)) "input batch exceeds the maximum encoded size"
  require ((payload.getD "encoding_format" (.str "float")).asStr = some (text "float"))
    "encoding_format must be 'float'"
  pure { model, inputs }

end NormalizedEmbeddingRequest

end CyreneExchange.Gateway
