import CyreneExchange.Gateway.DirectPlugin
import CyreneExchange.Gateway.RoundTrip

/-! Which accepted requests a plugin can be given, and that the projection keeps
their messages. -/
namespace CyreneExchange.Gateway
open CyreneExchange.General

section Preservation

def ChatRole.name : ChatRole → Str
  | .system => text "system"
  | .user => text "user"
  | .assistant => text "assistant"
  | .tool => text "tool"

/-- The normalized dictionary of a media part. -/
def mediaEntries (partType mimeType : Str) (data : Option (List UInt8))
    (artifactId filename : Option Str) : Dict :=
  [(text "type", .str partType), (text "mime_type", .str mimeType)] ++
    (data.map fun bytes => (text "data", Value.bytes bytes)).toList ++
    (artifactId.map fun s => (text "artifact_id", Value.str s)).toList ++ filenameEntry filename

/-- The normalized dictionary of a typed content part. -/
def ContentPart.entries : ContentPart → Dict
  | .ofText body => textPart body
  | .ofImage mimeType data artifactId => mediaEntries "image" mimeType data artifactId none
  | .ofAudio mimeType data artifactId => mediaEntries "audio" mimeType data artifactId none
  | .ofFile mimeType data artifactId filename =>
      mediaEntries "file" mimeType data artifactId filename

/-- An optional text as its value. -/
def optionalValue : Option Str → Value
  | some s => .str s
  | none => .none

/-- The projected calls are those of the message, in order. -/
def CallsKept (rawToolCalls : Value) (calls : List ChatToolCall) : Prop :=
  (rawToolCalls = .none ∧ calls = []) ∨ ∃ raws, rawToolCalls = .list raws ∧
    List.Forall₂ (fun raw out => out.type = text "function" ∧ ∃ call function, raw = .dict call ∧
      ToolCallFields call function out.id out.name out.arguments) raws calls

/-- A projected text message keeps its role, its text and its calls; no content
becomes the empty text. -/
structure MessageKept (message : Dict) (out : ChatMessage) : Prop where
  role : message.get "role" = .str out.role.name
  content : message.get "content" = .str out.content ∨
    message.get "content" = .none ∧ out.content = []
  name : message.get "name" = optionalValue out.name
  toolCallId : message.get "tool_call_id" = optionalValue out.toolCallId
  toolCalls : CallsKept (message.get "tool_calls") out.toolCalls

/-- A projected message of typed parts keeps its role, its parts and its calls. -/
structure PartsKept (message : Dict) (out : ChatMessageV3) : Prop where
  role : message.get "role" = .str out.role.name
  content : message.get "content" = .tuple (out.content.map fun part => .dict part.entries)
  name : message.get "name" = optionalValue out.name
  toolCallId : message.get "tool_call_id" = optionalValue out.toolCallId
  toolCalls : CallsKept (message.get "tool_calls") out.toolCalls

/-- The projected request keeps the messages, in order. -/
def Preserves (request : NormalizedInferenceRequest) : TypedRequest → Prop
  | .text out => List.Forall₂ MessageKept request.messages out.messages
  | .parts out => List.Forall₂ PartsKept request.messages out.messages

end Preservation

section Messages

variable {index : Nat} {message : Dict}

theorem need_eq_ok {α : Type} {value : Option α} {reason : Str} {a : α} :
    need value reason = .ok a ↔ value = some a := by
  cases value <;> simp [need]

theorem optional_asStr {value : Value} {out : Option Str} :
    Value.optional Value.asStr value = some out ↔ value = optionalValue out := by
  cases value <;> cases out <;> simp [Value.optional, Value.isNone, Value.asStr, optionalValue]

theorem asFilled_eq_some {value : Value} {s : Str} :
    value.asFilled = some s ↔ value = .str s ∧ s.isBlank = false := by
  simp [Value.asFilled, Option.filter_eq_some_iff]

theorem role_eq_some {value : Value} {role : ChatRole} :
    (value.asStr.bind fun s => roleValues.lookup s) = some role ↔ value = .str role.name := by
  simp only [Option.bind_eq_some_iff, Value.asStr_eq_some]
  constructor
  · rintro ⟨s, rfl, hLookup⟩
    obtain ⟨before, after, hSplit, -⟩ := List.lookup_eq_some_iff.mp hLookup
    have hMem : (s, role) ∈ roleValues := by simp [hSplit]
    simp only [roleValues, List.mem_cons, Prod.mk.injEq, List.not_mem_nil, or_false] at hMem
    rcases hMem with ⟨rfl, rfl⟩ | ⟨rfl, rfl⟩ | ⟨rfl, rfl⟩ | ⟨rfl, rfl⟩ <;> rfl
  · rintro rfl
    exact ⟨role.name, rfl, by cases role <;> rfl⟩

theorem contentText_eq_some {value : Value} {s : Str} :
    contentText value = some s ↔ value = .str s ∨ value = .none ∧ s = [] := by
  cases value <;> simp [contentText, Value.asStr, eq_comm]

/-- What `_to_chat_message` accepts, and what it makes of it. -/
theorem toChatMessage_eq_ok {out : ChatMessage} : toChatMessage index message = .ok out ↔
    message.unknownKeys messageFields = [] ∧ message.get "role" = .str out.role.name ∧
      (message.get "content" = .str out.content ∨
        message.get "content" = .none ∧ out.content = []) ∧
      message.get "name" = optionalValue out.name ∧
      message.get "tool_call_id" = optionalValue out.toolCallId ∧
      toChatToolCalls index (message.get "tool_calls") = .ok out.toolCalls := by
  simp only [toChatMessage, except_bind_eq_ok, need_eq_ok, optional_asStr, role_eq_some,
    contentText_eq_some]
  constructor
  · rintro ⟨_, hKnown, role, hRole, content, hContent, name, hName, callId, hCallId, calls, hCalls,
      hOut⟩
    cases hOut
    refine ⟨?_, hRole, hContent, hName, hCallId, hCalls⟩
    by_contra hUnknown
    simp [hUnknown] at hKnown
  · rintro ⟨hKnown, hRole, hContent, hName, hCallId, hCalls⟩
    exact ⟨(), by simp [hKnown], _, hRole, _, hContent, _, hName, _, hCallId, _, hCalls, rfl⟩

/-- A canonical call is projected as it is. -/
theorem toChatToolCall_canonical {callIndex : Nat} {raw : Value} (h : CanonicalToolCall raw) :
    ∃ out, toChatToolCall index callIndex raw = .ok out ∧ out.type = text "function" ∧
      ∃ call function, raw = .dict call ∧
        ToolCallFields call function out.id out.name out.arguments := by
  obtain ⟨call, function, callId, name, arguments, rfl, hFields⟩ := h
  refine ⟨{ id := callId, type := text "function", name, arguments }, ?_, rfl, call, function, rfl,
    hFields⟩
  have hType : Dict.getD call "type" (.str "function") = .str "function" := by
    rw [Dict.getD_of_get_ne (by rw [hFields.kind]; simp), hFields.kind]
  have hArguments : Dict.getD function "arguments" (.str []) = .str arguments := by
    rw [Dict.getD_of_get_ne (by rw [hFields.arguments]; simp), hFields.arguments]
  obtain ⟨hIdTrimmed, hNameTrimmed, hId, -, hBody, hName, -⟩ := hFields
  simp only [toChatToolCall, except_bind_eq_ok, need_eq_ok, asFilled_eq_some, Value.asDict_eq_some,
    Value.asStr_eq_some]
  exact ⟨call, rfl, callId, ⟨hId, hIdTrimmed.2⟩, text "function", ⟨hType, rfl⟩, function, hBody,
    name, ⟨hName, hNameTrimmed.2⟩, arguments, hArguments, rfl⟩

/-- The calls of a canonical message are projected in order. -/
theorem toChatToolCalls_canonical {raw : Value} (h : raw = .none ∨ CanonicalToolCalls raw) :
    (∃ calls, toChatToolCalls index raw = .ok calls) ∧
      ∀ calls, toChatToolCalls index raw = .ok calls → CallsKept raw calls := by
  rcases h with rfl | ⟨raws, rfl, -, hCalls⟩
  · exact ⟨⟨[], rfl⟩, by rintro calls ⟨⟩; exact .inl ⟨rfl, rfl⟩⟩
  · have hEach : ∀ calls, toChatToolCalls index (.list raws) = .ok calls ↔
        each (toChatToolCall index) 0 raws = .ok calls := fun calls => Iff.rfl
    simp only [hEach]
    refine ⟨(@exists_each_eq_ok _ _ _ _ (fun _ => True) _ ?_ 0).mpr fun _ _ => trivial, ?_⟩
    · intro raw hRaw callIndex
      obtain ⟨out, hOut, -⟩ := @toChatToolCall_canonical index callIndex _
        (hCalls raw hRaw)
      exact iff_of_true ⟨out, hOut⟩ trivial
    · intro calls hOk
      refine .inr ⟨raws, rfl, forall₂_of_each (fun raw hRaw callIndex out hOut => ?_) hOk⟩
      obtain ⟨out', hOut', hKept⟩ := @toChatToolCall_canonical index
        callIndex _ (hCalls raw hRaw)
      rw [hOut'] at hOut
      cases hOut
      exact hKept

theorem optionalValue_of {value : Value} (h : value = .none ∨ ∃ s, value = .str s) :
    ∃ out, value = optionalValue out := by
  rcases h with rfl | ⟨s, rfl⟩
  · exact ⟨none, rfl⟩
  · exact ⟨some s, rfl⟩

theorem toolCalls_canonical {role : Str} {content : Value}
    (h : MessageFields message role content) :
    message.get "tool_calls" = .none ∨ CanonicalToolCalls (message.get "tool_calls") := by
  cases hHas : message.has "tool_calls" with
  | false => exact .inl (Dict.get_of_not_has hHas)
  | true => exact .inr (h.toolCalls hHas).2

/-- A canonical message of canonical fields is projected when its content is
text or null, and it is kept. -/
theorem toChatMessage_canonical {role : Str} {content : Value}
    (h : MessageFields message role content) (hKnown : message.unknownKeys messageFields = []) :
    ((∃ out, toChatMessage index message = .ok out) ↔
        (contentText (message.get "content")).isSome = true) ∧
      ∀ out, toChatMessage index message = .ok out → MessageKept message out := by
  obtain ⟨⟨calls, hCalls⟩, hKept⟩ := @toChatToolCalls_canonical index _ (toolCalls_canonical h)
  simp only [toChatMessage_eq_ok]
  refine ⟨⟨?_, ?_⟩, ?_⟩
  · rintro ⟨out, -, -, hContent, -⟩
    rw [Option.isSome_iff_exists]
    exact ⟨out.content, contentText_eq_some.mpr hContent⟩
  · intro hContent
    obtain ⟨body, hBody⟩ := Option.isSome_iff_exists.mp hContent
    obtain ⟨chatRole, hRole⟩ : ∃ chatRole : ChatRole, role = chatRole.name := by
      have hNames := h.known
      simp only [roleNames, List.mem_cons, List.not_mem_nil, or_false] at hNames
      rcases hNames with rfl | rfl | rfl | rfl
      · exact ⟨.system, rfl⟩
      · exact ⟨.user, rfl⟩
      · exact ⟨.assistant, rfl⟩
      · exact ⟨.tool, rfl⟩
    obtain ⟨name, hName⟩ := optionalValue_of h.name
    obtain ⟨toolCallId, hToolCallId⟩ := optionalValue_of h.toolCallId
    refine ⟨{ role := chatRole, content := body, name, toolCallId, toolCalls := calls }, hKnown,
      ?_, contentText_eq_some.mp hBody, hName, hToolCallId, hCalls⟩
    rw [h.field, hRole]
  · rintro out ⟨-, hRole, hContent, hName, hToolCallId, hToolCalls⟩
    exact ⟨hRole, hContent, hName, hToolCallId, hKept _ hToolCalls⟩

/-- A canonical part is projected as it is. -/
theorem toContentPart_canonical {partIndex : Nat} {part : Value} (h : CanonicalPart part) :
    ∃ out, toContentPart index partIndex part = .ok out ∧ part = .dict out.entries := by
  cases h with
  | ofText body => exact ⟨.ofText body, rfl, rfl⟩
  | ofMedia hType hMime hSource hFilename =>
      rename_i partType mimeType source filename
      have hNone : partType ≠ text "file" → filename = none := by
        intro hOther
        cases filename with
        | none => rfl
        | some name => exact absurd (hFilename name rfl).1 hOther
      simp only [List.mem_cons, List.not_mem_nil, or_false] at hType
      rcases hType with rfl | rfl | rfl
      · cases hNone (by simp)
        cases source with
        | inline data => exact ⟨.ofImage mimeType (some data) none, rfl, rfl⟩
        | artifact artifactId => exact ⟨.ofImage mimeType none (some artifactId), rfl, rfl⟩
      · cases hNone (by simp)
        cases source with
        | inline data => exact ⟨.ofAudio mimeType (some data) none, rfl, rfl⟩
        | artifact artifactId => exact ⟨.ofAudio mimeType none (some artifactId), rfl, rfl⟩
      · cases source with
        | inline data =>
            refine ⟨.ofFile mimeType (some data) none filename, ?_, rfl⟩
            cases filename <;> rfl
        | artifact artifactId =>
            refine ⟨.ofFile mimeType none (some artifactId) filename, ?_, rfl⟩
            cases filename <;> rfl

theorem mem_set {d : Dict} {key : Str} {value : Value} {entry : Str × Value}
    (h : entry ∈ d.set key value) : entry = (key, value) ∨ entry ∈ d := by
  induction d with
  | nil => exact .inl (List.mem_singleton.mp h)
  | cons head rest ih =>
      rw [Dict.set] at h
      split at h
      · rcases List.mem_cons.mp h with h | h
        · exact .inl h
        · exact .inr (List.mem_cons_of_mem _ h)
      · rcases List.mem_cons.mp h with h | h
        · exact .inr (h ▸ List.mem_cons_self)
        · exact (ih h).imp_right (List.mem_cons_of_mem _)

theorem withoutContent_known (h : message.unknownKeys messageFields = []) :
    (withoutContent message).unknownKeys messageFields = [] := by
  rw [Dict.unknownKeys_eq_nil] at h ⊢
  intro entry hMem
  rcases mem_set hMem with rfl | hMem
  · simp [messageFields]
  · exact h entry hMem

theorem withoutContent_get {key : Str} (hKey : key ≠ text "content") :
    (withoutContent message).get key = message.get key := Dict.get_set_of_ne hKey

theorem withoutContent_fields {role : Str} {content : Value}
    (h : MessageFields message role content) :
    MessageFields (withoutContent message) role (.str []) where
  known := h.known
  field := (withoutContent_get (by simp)).trans h.field
  present := Dict.lookup_set_self
  shape := .ofText rfl (Nat.zero_le _)
  name := by
    rw [withoutContent_get (by simp)]
    exact h.name
  toolCallId := by
    rw [withoutContent_get (by simp)]
    exact h.toolCallId
  answers hRole := by
    rw [withoutContent_get (by simp)]
    exact h.answers hRole
  toolCalls hHas := by
    rw [withoutContent_get (by simp)]
    refine h.toolCalls ?_
    rwa [withoutContent, Dict.has_set_of_ne (by simp)] at hHas

theorem toChatMessageV3_eq_ok {out : ChatMessageV3} : toChatMessageV3 index message = .ok out ↔
    ∃ parts, (message.get "content").asSequence = some parts ∧
      each (toContentPart index) 0 parts = .ok out.content ∧
        ∃ normalized, toChatMessage index (withoutContent message) = .ok normalized ∧
          out = { role := normalized.role, content := out.content, name := normalized.name
                  toolCallId := normalized.toolCallId, toolCalls := normalized.toolCalls } := by
  simp only [toChatMessageV3, except_bind_eq_ok, need_eq_ok]
  constructor
  · rintro ⟨parts, hParts, content, hContent, normalized, hNormalized, hOut⟩
    cases hOut
    exact ⟨parts, hParts, hContent, normalized, hNormalized, rfl⟩
  · rintro ⟨parts, hParts, hContent, normalized, hNormalized, hOut⟩
    exact ⟨parts, hParts, out.content, hContent, normalized, hNormalized, congrArg Except.ok hOut.symm⟩

/-- A canonical message of canonical fields is projected with typed parts when
it has them, and it is kept. -/
theorem toChatMessageV3_canonical {role : Str} {content : Value}
    (h : MessageFields message role content) (hKnown : message.unknownKeys messageFields = []) :
    ((∃ out, toChatMessageV3 index message = .ok out) ↔
        (contentText (message.get "content")).isSome = false) ∧
      ∀ out, toChatMessageV3 index message = .ok out → PartsKept message out := by
  have hContent : message.get "content" = content := by
    rw [Dict.get, Dict.getD, h.present]
    rfl
  have hShape := h.shape
  simp only [toChatMessageV3_eq_ok, hContent]
  cases hShape with
  | ofText hEncodes hSize =>
      refine ⟨iff_of_false ?_ (by simp [contentText, Value.asStr]), ?_⟩
      · rintro ⟨out, parts, hParts, -⟩
        cases hParts
      · rintro out ⟨parts, hParts, -⟩
        cases hParts
  | null hRole =>
      refine ⟨iff_of_false ?_ (by simp [contentText]), ?_⟩
      · rintro ⟨out, parts, hParts, -⟩
        cases hParts
      · rintro out ⟨parts, hParts, -⟩
        cases hParts
  | parts hRole hSome hLength hParts =>
      rename_i parts
      obtain ⟨hText, hKept⟩ := @toChatMessage_canonical index _ _ _ (withoutContent_fields h)
        (withoutContent_known hKnown)
      obtain ⟨normalized, hNormalized⟩ :=
        hText.mpr (by simp [withoutContent, contentText, Value.asStr])
      have hEach : (∃ out, each (toContentPart index) 0 parts = .ok out) ↔
          ∀ part ∈ parts, True :=
        exists_each_eq_ok (fun part hPart partIndex => iff_of_true
          ((toContentPart_canonical (hParts part hPart)).imp fun _ => And.left) trivial) 0
      obtain ⟨projected, hProjected⟩ := hEach.mpr fun _ _ => trivial
      refine ⟨iff_of_true ⟨⟨normalized.role, projected, normalized.name, normalized.toolCallId,
        normalized.toolCalls⟩, parts, rfl, hProjected, normalized, hNormalized, rfl⟩ rfl, ?_⟩
      rintro out ⟨_, hSequence, hOut, normalized', hNormalized', hSame⟩
      cases hSequence
      obtain ⟨hRole', -, hName, hToolCallId, hToolCalls⟩ := hKept normalized' hNormalized'
      rw [withoutContent_get (by simp)] at hRole' hName hToolCallId hToolCalls
      have hEntries : List.Forall₂ (fun part out => part = Value.dict (ContentPart.entries out))
          parts out.content := by
        refine forall₂_of_each (fun part hPart partIndex result hResult => ?_) hOut
        obtain ⟨found, hFound, hEntry⟩ := @toContentPart_canonical index
          partIndex _ (hParts part hPart)
        rw [hFound] at hResult
        cases hResult
        exact hEntry
      rw [hSame]
      refine ⟨hRole', ?_, hName, hToolCallId, hToolCalls⟩
      rw [hContent]
      have hParts' := List.forall₂_map_right_iff.mpr hEntries
      rw [List.forall₂_eq_eq_eq] at hParts'
      exact congrArg Value.tuple hParts'

end Messages

section Requests

variable {floatRepr : Float64 → Str} {request : NormalizedInferenceRequest}

/-- The parameters of a tool are absent, or an object that serializes. -/
def ParametersSerialize (floatRepr : Float64 → Str) (tool : Dict) : Prop :=
  ∀ function, tool.get "function" = .dict function →
    ∃ parameters, Dict.getD function "parameters" (.dict []) = .dict parameters ∧
      (jsonDumps floatRepr (.dict parameters)).isSome = true

/-- A canonical tool is projected when its parameters serialize. -/
theorem toChatTool_canonical {index : Nat} {tool : Dict} (h : CanonicalTool tool) :
    (∃ out, toChatTool floatRepr index tool = .ok out) ↔ ParametersSerialize floatRepr tool := by
  obtain ⟨function, name, hFields⟩ := h
  obtain ⟨hTrimmed, hKind, hBody, hName, hDescription, hParameters, hStrict⟩ := hFields
  constructor
  · rintro ⟨out, hOut⟩ other hOther
    rw [hBody] at hOther
    cases hOther
    simp only [toChatTool, except_bind_eq_ok, need_eq_ok, Value.asDict_eq_some] at hOut
    obtain ⟨other, hOther, _, -, parameters, hParameters, _, -, _, -, _, -, hDumps⟩ := hOut
    rw [hBody] at hOther
    cases hOther
    refine ⟨parameters, hParameters, ?_⟩
    split at hDumps
    · rename_i dumped hDumped
      rw [hDumped]
      rfl
    · cases hDumps
  · intro hSerialize
    obtain ⟨parameters, hFound, hDumps⟩ := hSerialize function hBody
    obtain ⟨dumped, hDumped⟩ := Option.isSome_iff_exists.mp hDumps
    obtain ⟨description, hDescription⟩ := optionalValue_of hDescription
    obtain ⟨strict, hStrict⟩ : ∃ strict,
        Value.optional Value.asBool (function.get "strict") = some strict := by
      rcases hStrict with hNone | ⟨b, hBool⟩
      · exact ⟨none, by rw [hNone]; rfl⟩
      · exact ⟨some b, by rw [hBool]; rfl⟩
    refine ⟨{ type := text "function", name, description, parametersJson := dumped, strict }, ?_⟩
    simp only [toChatTool, except_bind_eq_ok, need_eq_ok, Value.asDict_eq_some, asFilled_eq_some,
      optional_asStr]
    refine ⟨function, hBody, name, ⟨hName, hTrimmed.2⟩, parameters, hFound, description,
      hDescription, strict, hStrict, text "function", by rw [hKind]; rfl, ?_⟩
    rw [hDumped]
    rfl

theorem toChatToolChoice_canonical {toolChoice : Option Value}
    (h : ∀ choice, toolChoice = some choice → CanonicalToolChoice choice) :
    ∃ out, toChatToolChoice toolChoice = .ok out := by
  cases toolChoice with
  | none => exact ⟨none, rfl⟩
  | some choice =>
      cases h choice rfl with
      | mode hMode => exact ⟨_, rfl⟩
      | function hName => exact ⟨_, rfl⟩

/-- Every message of the request has canonical fields only. -/
def CanonicalFields (request : NormalizedInferenceRequest) : Prop :=
  ∀ message ∈ request.messages, message.unknownKeys messageFields = []

/-- Either no message has typed parts or all have, and the parameters of every
tool serialize. -/
structure Projectable (floatRepr : Float64 → Str) (request : NormalizedInferenceRequest) : Prop where
  uniform : (∀ message ∈ request.messages,
      (contentText (message.get "content")).isSome = true) ∨
    ∀ message ∈ request.messages, (contentText (message.get "content")).isSome = false
  tools : ∀ tool ∈ request.tools, ParametersSerialize floatRepr tool

theorem toChatRequest_canonical (h : CanonicalRequest request) (hFields : CanonicalFields request) :
    ((∃ out, toChatRequest floatRepr request = .ok out) ↔
      (∀ message ∈ request.messages, (contentText (message.get "content")).isSome = true) ∧
        ∀ tool ∈ request.tools, ParametersSerialize floatRepr tool) ∧
      ∀ out, toChatRequest floatRepr request = .ok out → Preserves request (.text out) := by
  have hMessages : (∃ out, each toChatMessage 0 request.messages = .ok out) ↔
      ∀ message ∈ request.messages, (contentText (message.get "content")).isSome = true := by
    refine exists_each_eq_ok (fun message hMem index => ?_) 0
    obtain ⟨role, content, hMessage⟩ := h.messages message hMem
    exact (toChatMessage_canonical hMessage (hFields message hMem)).1
  have hTools : (∃ out, each (toChatTool floatRepr) 0 request.tools = .ok out) ↔
      ∀ tool ∈ request.tools, ParametersSerialize floatRepr tool := by
    refine exists_each_eq_ok (fun tool hMem index => ?_) 0
    exact toChatTool_canonical (h.tools tool hMem)
  obtain ⟨toolChoice, hChoice⟩ := toChatToolChoice_canonical h.toolChoice
  rw [← hMessages, ← hTools]
  simp only [toChatRequest, except_bind_eq_ok]
  refine ⟨⟨?_, ?_⟩, ?_⟩
  · rintro ⟨out, messages, hOk, tools, hOk', -⟩
    exact ⟨⟨messages, hOk⟩, tools, hOk'⟩
  · rintro ⟨⟨messages, hOk⟩, tools, hOk'⟩
    exact ⟨_, messages, hOk, tools, hOk', toolChoice, hChoice, rfl⟩
  · rintro out ⟨messages, hOk, tools, -, choice, -, hOut⟩
    cases hOut
    refine forall₂_of_each (fun message hMem index result hResult => ?_) hOk
    obtain ⟨role, content, hMessage⟩ := h.messages message hMem
    exact (toChatMessage_canonical hMessage (hFields message hMem)).2 result hResult

theorem toChatRequestV3_canonical (h : CanonicalRequest request)
    (hFields : CanonicalFields request) :
    ((∃ out, toChatRequestV3 floatRepr request = .ok out) ↔
      (∀ message ∈ request.messages, (contentText (message.get "content")).isSome = false) ∧
        ∀ tool ∈ request.tools, ParametersSerialize floatRepr tool) ∧
      ∀ out, toChatRequestV3 floatRepr request = .ok out → Preserves request (.parts out) := by
  have hText : CanonicalRequest
      { request with messages := request.messages.map withoutContent } := by
    refine { h with filled := by simpa using h.filled, messages := ?_ }
    intro message hMem
    obtain ⟨original, hOriginal, rfl⟩ := List.mem_map.mp hMem
    obtain ⟨role, content, hMessage⟩ := h.messages original hOriginal
    exact ⟨role, .str [], withoutContent_fields hMessage⟩
  have hTextFields : CanonicalFields
      { request with messages := request.messages.map withoutContent } := by
    intro message hMem
    obtain ⟨original, hOriginal, rfl⟩ := List.mem_map.mp hMem
    exact withoutContent_known (hFields original hOriginal)
  have hTools : (∃ out, toChatRequest floatRepr
      { request with messages := request.messages.map withoutContent } = .ok out) ↔
        ∀ tool ∈ request.tools, ParametersSerialize floatRepr tool := by
    rw [(toChatRequest_canonical hText hTextFields).1]
    refine and_iff_right ?_
    intro message hMem
    obtain ⟨original, -, rfl⟩ := List.mem_map.mp hMem
    simp [withoutContent, contentText, Value.asStr]
  have hMessages : (∃ out, each toChatMessageV3 0 request.messages = .ok out) ↔
      ∀ message ∈ request.messages, (contentText (message.get "content")).isSome = false := by
    refine exists_each_eq_ok (fun message hMem index => ?_) 0
    obtain ⟨role, content, hMessage⟩ := h.messages message hMem
    exact (toChatMessageV3_canonical hMessage (hFields message hMem)).1
  rw [← hMessages, ← hTools]
  simp only [toChatRequestV3, except_bind_eq_ok]
  refine ⟨⟨?_, ?_⟩, ?_⟩
  · rintro ⟨out, messages, hOk, textRequest, hOk', -⟩
    exact ⟨⟨messages, hOk⟩, textRequest, hOk'⟩
  · rintro ⟨⟨messages, hOk⟩, textRequest, hOk'⟩
    exact ⟨_, messages, hOk, textRequest, hOk', rfl⟩
  · rintro out ⟨messages, hOk, textRequest, -, hOut⟩
    cases hOut
    refine forall₂_of_each (fun message hMem index result hResult => ?_) hOk
    obtain ⟨role, content, hMessage⟩ := h.messages message hMem
    exact (toChatMessageV3_canonical hMessage (hFields message hMem)).2 result hResult

end Requests

/-- A parsed request with canonical message fields is projected, and keeps its
messages, exactly when it is projectable. -/
theorem plugin_projection_iff {floatRepr : Float64 → Str} {payload : Value}
    {request : NormalizedInferenceRequest}
    (hParsed : NormalizedInferenceRequest.fromOpenai payload = .ok request)
    (hFields : CanonicalFields request) :
    (∃ projected, projectRequest floatRepr request = .ok projected ∧ Preserves request projected) ↔
      Projectable floatRepr request := by
  have hCanonical := (fromOpenai_canonical hParsed).1
  have hText := @toChatRequest_canonical floatRepr _ hCanonical hFields
  have hParts := @toChatRequestV3_canonical floatRepr _ hCanonical hFields
  cases hVersion : requiresV3Chat request with
  | false =>
      have hAll : ∀ message ∈ request.messages,
          (contentText (message.get "content")).isSome = true := by
        intro message hMem
        have hNone := List.any_eq_false.mp hVersion message hMem
        simpa [Option.isSome_iff_ne_none] using hNone
      have hProject : ∀ projected, projectRequest floatRepr request = .ok projected ↔
          ∃ out, toChatRequest floatRepr request = .ok out ∧ projected = .text out := by
        intro projected
        rw [projectRequest, hVersion]
        cases toChatRequest floatRepr request <;> simp [Functor.map, Except.map, eq_comm]
      simp only [hProject]
      constructor
      · rintro ⟨_, ⟨out, hOut, rfl⟩, -⟩
        obtain ⟨hUniform, hTools⟩ := hText.1.mp ⟨out, hOut⟩
        exact ⟨.inl hUniform, hTools⟩
      · rintro ⟨-, hTools⟩
        obtain ⟨out, hOut⟩ := hText.1.mpr ⟨hAll, hTools⟩
        exact ⟨.text out, ⟨out, hOut, rfl⟩, hText.2 out hOut⟩
  | true =>
      have hSome : ∃ message ∈ request.messages,
          (contentText (message.get "content")).isSome = false := by
        obtain ⟨message, hMem, hNone⟩ := List.any_eq_true.mp hVersion
        exact ⟨message, hMem, by simpa using hNone⟩
      have hProject : ∀ projected, projectRequest floatRepr request = .ok projected ↔
          ∃ out, toChatRequestV3 floatRepr request = .ok out ∧ projected = .parts out := by
        intro projected
        rw [projectRequest, hVersion]
        cases toChatRequestV3 floatRepr request <;> simp [Functor.map, Except.map, eq_comm]
      simp only [hProject]
      constructor
      · rintro ⟨_, ⟨out, hOut, rfl⟩, -⟩
        obtain ⟨hUniform, hTools⟩ := hParts.1.mp ⟨out, hOut⟩
        exact ⟨.inr hUniform, hTools⟩
      · rintro ⟨hUniform, hTools⟩
        have hAll := hUniform.resolve_left fun hText => by
          obtain ⟨message, hMem, hNone⟩ := hSome
          rw [hText message hMem] at hNone
          cases hNone
        obtain ⟨out, hOut⟩ := hParts.1.mpr ⟨hAll, hTools⟩
        exact ⟨.parts out, ⟨out, hOut, rfl⟩, hParts.2 out hOut⟩

/-- A user text with a tool that has no parameters. -/
def toolPayload : Value :=
  .dict [("model", .str "m"),
    ("messages", .list [.dict [("role", .str "user"), ("content", .str "hi")]]),
    ("tools", .list [.dict [("type", .str "function"), ("function", .dict [("name", .str "f")])]])]

theorem plugin_projection_iff_sample : ∃ request projected,
    NormalizedInferenceRequest.fromOpenai toolPayload = .ok request ∧
      projectRequest (fun _ => []) request = .ok projected ∧ Preserves request projected := by
  have hFields : ∀ request, NormalizedInferenceRequest.fromOpenai toolPayload = .ok request →
      CanonicalFields request := by
    rintro request ⟨⟩ message hMem
    rw [List.mem_singleton] at hMem
    subst hMem
    rfl
  have hProjectable : ∀ request, NormalizedInferenceRequest.fromOpenai toolPayload = .ok request →
      Projectable (fun _ => []) request := by
    rintro request ⟨⟩
    refine ⟨.inl ?_, ?_⟩
    · intro message hMem
      rw [List.mem_singleton] at hMem
      subst hMem
      rfl
    · intro tool hMem
      rw [List.mem_singleton] at hMem
      subst hMem
      rintro function ⟨⟩
      exact ⟨[], rfl, rfl⟩
  obtain ⟨request, hParsed⟩ : ∃ request,
      NormalizedInferenceRequest.fromOpenai toolPayload = .ok request := ⟨_, rfl⟩
  obtain ⟨projected, hProjected⟩ :=
    (plugin_projection_iff hParsed (hFields request hParsed)).mpr (hProjectable request hParsed)
  exact ⟨request, projected, hParsed, hProjected⟩

/-- A plain system message next to a user message with typed parts. -/
def mixedPayload : Value :=
  .dict [("model", .str "m"),
    ("messages", .list [.dict [("role", .str "system"), ("content", .str "be brief")],
      .dict [("role", .str "user"),
        ("content", .list [.dict [("type", .str "text"), ("text", .str "hi")]])]])]

/-- A plain message is refused once another one has typed parts. -/
theorem mixed_messages_refused : ¬ ∀ (floatRepr : Float64 → Str) (payload : Value)
    (request : NormalizedInferenceRequest), payload.isJson = true →
    NormalizedInferenceRequest.fromOpenai payload = .ok request → CanonicalFields request →
    ∃ projected, projectRequest floatRepr request = .ok projected ∧ Preserves request projected := by
  intro h
  obtain ⟨projected, hProjected, -⟩ := h (fun _ => []) mixedPayload _ rfl rfl (by
    intro message hMem
    rcases List.mem_pair.mp hMem with rfl | rfl <;> rfl)
  cases hProjected

end CyreneExchange.Gateway
