import CyreneExchange.Gateway.Protocol

/-! Which payloads make request parsing raise something other than a
ProtocolError: an unhashable role or part type, text with a lone surrogate, an
integer temperature no float can hold. -/
namespace CyreneExchange.Gateway
open CyreneExchange.General

/-- The one exception the parsers document. -/
def Documented : Raised → Prop
  | .protocolError _ => True
  | _ => False

section Checks

variable {α : Type} {value : Value} {field message : Str}

@[simp] theorem settles_refuse : Settles Documented (refuse message : Checked α) := by
  simp [refuse, Documented]

@[simp] theorem settles_require {condition : Bool} :
    Settles Documented (require condition message) := by
  cases condition
  · exact settles_refuse
  · exact settles_ok ()

@[simp] theorem settles_expect {option : Option α} :
    Settles Documented (expect option message) := by
  cases option with
  | none => exact settles_refuse
  | some a => exact settles_ok a

@[simp] theorem settles_memberOf {allowed : List Str} :
    Settles Documented (memberOf value allowed) ↔ value.hashable = true := by
  cases hHash : value.hashable <;> simp [memberOf, hHash, Documented]

@[simp] theorem settles_encodedLength {s : Str} :
    Settles Documented (encodedLength s) ↔ s.hasSurrogate = false := by
  cases hSurrogate : s.hasSurrogate <;> simp [encodedLength, hSurrogate, Documented]

@[simp] theorem settles_requireNonEmptyString :
    Settles Documented (requireNonEmptyString value field) := by
  simp [requireNonEmptyString, settles_bind]

end Checks

section Fields

variable {value : Value} {index : Nat}

/-- A tool either normalizes or is refused. -/
theorem settles_normalizeTool : Settles Documented (normalizeTool index value) := by
  simp [normalizeTool, settles_bind]

theorem settles_normalizeToolChoice : Settles Documented (normalizeToolChoice value) := by
  unfold normalizeToolChoice
  cases value.asStr with
  | some mode => simp
  | none => simp [settles_bind]

theorem settles_normalizeStreamOptions : Settles Documented (normalizeStreamOptions value) := by
  simp [normalizeStreamOptions, settles_bind]

theorem settles_normalizeToolCalls : Settles Documented (normalizeToolCalls value index) := by
  have hCall : ∀ callIndex call, Settles Documented (normalizeToolCall index callIndex call) := by
    intro callIndex call
    simp [normalizeToolCall, settles_bind]
  simp only [normalizeToolCalls, settles_bind, settles_expect, settles_require, settles_pure,
    true_and, implies_true, and_true]
  intro calls _ _ _
  exact settles_each hCall 0 calls

theorem settles_normalizeMediaPart {field partType : Str} {mediaBytes : Nat} {part : Dict} :
    Settles Documented (normalizeMediaPart field mediaBytes part partType) := by
  have hMime : Settles Documented (normalizeMimeType (part.get "mime_type") field) := by
    simp [normalizeMimeType, settles_bind]
  have hSource : Settles Documented (normalizeMediaSource field mediaBytes part) := by
    unfold normalizeMediaSource
    split
    · simp [normalizeInlineMedia, settles_bind]
    · simp [settles_bind]
  have hFilename : Settles Documented (normalizeFilename field partType part) := by
    unfold normalizeFilename
    split
    · simp [settles_bind]
    · simp
  simp [normalizeMediaPart, settles_bind, hMime, hSource, hFilename]

/-- A content part escapes exactly through a type that cannot be hashed. -/
theorem settles_normalizeContentPart {partIndex mediaBytes : Nat} :
    Settles Documented (normalizeContentPart index partIndex mediaBytes value) ↔
      ∀ part, value.asDict = some part → (part.get "type").hashable = true := by
  have hText : ∀ v : Value, v.asStr = some (text "text") → v.hashable = true := by
    intro v hv
    cases v <;> simp_all [Value.asStr, Value.hashable]
  simp only [normalizeContentPart, settles_bind, settles_expect, true_and, expect_eq_ok]
  refine forall₂_congr fun part _ => ?_
  split
  · rename_i hPart
    simp [settles_bind, hText _ hPart]
  · simp [settles_bind, settles_normalizeMediaPart]

theorem settles_checkContentSize : Settles Documented (checkContentSize index value) ↔
    ∀ s, value = .str s → s.hasSurrogate = false := by
  cases value <;> simp [checkContentSize, Value.asStr, settles_bind]

theorem settles_normalizeTemperature : Settles Documented (normalizeTemperature value) ↔
    ∀ n, value = .int n → n.natAbs < Float64.overflowBound := by
  cases value with
  | int n =>
      by_cases hRange : n.natAbs < Float64.overflowBound
      · simp [normalizeTemperature, Float64.ofInt, hRange]
      · simp [normalizeTemperature, Float64.ofInt, hRange, Documented]
  | _ => simp [normalizeTemperature]

theorem settles_normalizeMaxTokens : Settles Documented (normalizeMaxTokens value) := by
  cases value <;> simp [normalizeMaxTokens]

end Fields

/-- The parts before this place are accepted, with so many media bytes after them. -/
def PartsAccepted (index mediaBytes : Nat) (before : List Value) (reached : Nat) : Prop :=
  ∃ results, pass (normalizeContentPart index) 0 mediaBytes before = .ok (results, reached)

/-- Where reading the message gets to, it can hash and encode what it finds. -/
structure MessageReadable (index mediaBytes : Nat) (raw : Dict) : Prop where
  role : (raw.get "role").hashable = true
  parts : ∀ role, HeaderAdmitted raw role → role ≠ text "tool" →
    ∀ parts, (raw.get "content").asSequence = some parts → parts.length ≤ maxChatContentParts →
      ∀ before item after, parts = before ++ item :: after →
        (∃ reached, PartsAccepted index mediaBytes before reached) →
          ∀ part, item.asDict = some part → (part.get "type").hashable = true
  text : ∀ role, HeaderAdmitted raw role →
    ∀ s, raw.get "content" = .str s → s.hasSurrogate = false

section Messages

variable {index mediaBytes : Nat} {raw : Dict}

theorem settles_normalizeContent {role : Str} {content : Value} :
    Settles Documented (normalizeContent index mediaBytes role content) ↔
      (role ≠ text "tool" → ∀ parts, content.asSequence = some parts →
        parts.length ≤ maxChatContentParts →
          ∀ before item after, parts = before ++ item :: after →
            (∃ reached, PartsAccepted index mediaBytes before reached) →
              ∀ part, item.asDict = some part → (part.get "type").hashable = true) := by
  unfold normalizeContent
  cases hParts : content.asSequence with
  | none => simp
  | some parts =>
      simp only [settles_bind, settles_require, require_eq_ok, true_and, settles_pure, implies_true,
        and_true, Bool.and_eq_true, decide_eq_true_eq, Bool.not_eq_true',
        List.isEmpty_eq_false_iff, settles_pass, settles_normalizeContentPart, Option.some.injEq,
        PartsAccepted]
      constructor
      · rintro h hRole _ rfl hLength before item after hSplit ⟨reached, results, hBefore⟩
        exact h () ⟨⟨hRole, by simp [hSplit]⟩, hLength⟩ before item after hSplit results reached
          hBefore
      · rintro h _ ⟨⟨hRole, -⟩, hLength⟩ before item after hSplit results reached hBefore
        exact h hRole parts rfl hLength before item after hSplit ⟨reached, results, hBefore⟩

theorem settles_normalizeHeader : Settles Documented (normalizeHeader index raw) ↔
    (raw.get "role").hashable = true := by
  simp [normalizeHeader, settles_bind]

theorem settles_checkToolCallId {role : Str} {value : Value} :
    Settles Documented (checkToolCallId index role value) := by
  unfold checkToolCallId
  split
  · simp
  · simp

/-- Reading one message settles exactly when the message is readable. -/
theorem settles_normalizeMessage : Settles Documented (normalizeMessage index mediaBytes raw) ↔
    MessageReadable index mediaBytes raw := by
  have hRest : ∀ (message : Dict) (total : Nat), Settles Documented
      (if raw.has "tool_calls" then do
        let toolCalls ← normalizeToolCalls (raw.get "tool_calls") index
        pure (message.set "tool_calls" toolCalls, total)
      else pure (message, total)) := by
    intro message total
    split
    · simp [settles_normalizeToolCalls]
    · simp
  simp only [normalizeMessage, settles_bind, settles_normalizeHeader, settles_normalizeContent,
    settles_require, settles_checkContentSize, settles_checkToolCallId, hRest, true_and,
    implies_true, and_true, normalizeHeader_eq_ok, require_eq_ok]
  constructor
  · rintro ⟨hHash, hBody⟩
    refine ⟨hHash, fun role hHeader => (hBody role hHeader).1, fun role hHeader s hText => ?_⟩
    have hContent : normalizeContent index mediaBytes role (raw.get "content") =
        .ok (.str s, mediaBytes) :=
      normalizeContent_eq_ok.mpr (.inr ⟨by rw [hText]; rfl, .inr ⟨s, hText⟩, by rw [hText]⟩)
    exact (hBody role hHeader).2 _ hContent () rfl s rfl
  · rintro ⟨hHash, hParts, hText⟩
    refine ⟨hHash, fun role hHeader => ⟨hParts role hHeader, ?_⟩⟩
    rintro ⟨content, total⟩ hContent _ - s rfl
    rcases normalizeContent_eq_ok.mp hContent with ⟨_, _, _, -, -, -, -, -, hOut⟩ | ⟨-, -, hOut⟩
    · cases hOut
    · exact hText role hHeader s (Prod.mk.inj hOut).1.symm

theorem settles_readMessage {index mediaBytes : Nat} {item : Value} :
    Settles Documented (NormalizedInferenceRequest.readMessage index mediaBytes item) ↔
      ∀ raw, item = .dict raw → MessageReadable index mediaBytes raw := by
  simp only [NormalizedInferenceRequest.readMessage, settles_bind, settles_expect, true_and,
    expect_eq_ok, settles_normalizeMessage]
  cases item <;> simp [Value.asDict]

end Messages

section ChatRequests

/-- The payload names a model. -/
def ModelNamed (payload : Dict) : Prop :=
  ∃ model, payload.get "model" = .str model ∧ model.isBlank = false

/-- The messages before this place are accepted, with so many media bytes after them. -/
def MessagesAccepted (before : List Value) (reached : Nat) : Prop :=
  ∃ results, pass NormalizedInferenceRequest.readMessage 0 0 before = .ok (results, reached)

/-- Where reading the chat payload gets to, messages are readable and an
integer temperature is inside the range of a float. -/
structure ChatReadable (payload : Dict) : Prop where
  messages : ModelNamed payload → ∀ items, (payload.get "messages").asSequence = some items →
    ∀ before item after, items = before ++ item :: after →
      ∀ reached, MessagesAccepted before reached →
        ∀ raw, item = .dict raw → MessageReadable before.length reached raw
  temperature : ModelNamed payload → ∀ items, (payload.get "messages").asSequence = some items →
    items ≠ [] → (∃ reached, MessagesAccepted items reached) →
      (∃ stream, payload.getD "stream" (.bool false) = .bool stream) →
        ∀ n, payload.get "temperature" = .int n → n.natAbs < Float64.overflowBound

theorem settles_optional {α : Type} {normalize : Value → Checked α} {value : Value}
    (hNormalize : Settles Documented (normalize value)) :
    Settles Documented (NormalizedInferenceRequest.optional normalize value) := by
  unfold NormalizedInferenceRequest.optional
  split
  · simp
  · simpa using hNormalize

theorem settles_readOptions {payload : Dict} {model : Str} {messages : List Dict} :
    Settles Documented (NormalizedInferenceRequest.readOptions payload model messages) ↔
      ((∃ stream, payload.getD "stream" (.bool false) = .bool stream) →
        ∀ n, payload.get "temperature" = .int n → n.natAbs < Float64.overflowBound) := by
  have hTools : ∀ tools, Settles Documented (each normalizeTool 0 tools) :=
    settles_each (fun _ _ => settles_normalizeTool) 0
  have hChoice := settles_optional (@settles_normalizeToolChoice (payload.get "tool_choice"))
  have hOptions :=
    settles_optional (@settles_normalizeStreamOptions (payload.get "stream_options"))
  simp only [NormalizedInferenceRequest.readOptions, settles_bind, settles_expect, expect_eq_ok,
    settles_normalizeTemperature, settles_normalizeMaxTokens, hTools, hChoice, hOptions,
    settles_require, settles_pure, true_and, implies_true, and_true, forall_exists_index]
  cases payload.getD "stream" (.bool false) <;> simp [Value.asBool]

/-- The chat parser settles exactly on readable payloads. -/
theorem settles_chat {payload : Dict} :
    Settles Documented (NormalizedInferenceRequest.fromOpenai (.dict payload)) ↔
      ChatReadable payload := by
  simp only [NormalizedInferenceRequest.fromOpenai, Value.asDict, settles_bind, settles_expect,
    settles_require, expect_eq_ok, require_eq_ok, true_and, settles_pass, settles_readMessage,
    settles_readOptions, Nat.zero_add, Option.some.injEq, Value.asStr_eq_some, Bool.not_eq_true',
    List.isEmpty_eq_false_iff]
  constructor
  · intro h
    refine ⟨?_, ?_⟩
    · rintro ⟨model, hModel, hBlank⟩ items hItems before item after hSplit reached ⟨results, hPass⟩
      exact (h payload rfl model hModel () hBlank items hItems () (by simp [hSplit])).1 before item
        after hSplit results reached hPass
    · rintro ⟨model, hModel, hBlank⟩ items hItems hSome ⟨reached, results, hPass⟩
      exact (h payload rfl model hModel () hBlank items hItems () hSome).2 (results, reached) hPass
  · rintro ⟨hMessages, hTemperature⟩ _ rfl model hModel _ hBlank items hItems _ hSome
    refine ⟨fun before item after hSplit results reached hPass => ?_, ?_⟩
    · exact hMessages ⟨model, hModel, hBlank⟩ items hItems before item after hSplit reached
        ⟨results, hPass⟩
    · rintro ⟨results, reached⟩ hPass
      exact hTemperature ⟨model, hModel, hBlank⟩ items hItems hSome ⟨reached, results, hPass⟩

end ChatRequests

section EmbeddingRequests

/-- An input item inside the shape limits. -/
def InputFits (item : Str) : Prop := item.isBlank = false ∧ item.length ≤ 32768

/-- One text, or a non-empty array of texts. -/
def Inputs (value : Value) (inputs : List Str) : Prop :=
  inputs ≠ [] ∧ (value.asSequence = some (inputs.map .str) ∨ ∃ s, value = .str s ∧ inputs = [s])

/-- Where reading the embedding payload gets to, every text encodes. -/
def EmbeddingReadable (payload : Dict) : Prop :=
  payload.unknownKeys ["model", "input", "encoding_format"] = [] →
    (∃ model, payload.get "model" = .str model ∧ model.isBlank = false ∧
      model.strip.length ≤ 256) →
      ∀ inputs, Inputs (payload.get "input") inputs → inputs.length ≤ 128 →
        ∀ before item after, inputs = before ++ item :: after →
          (∀ s ∈ before ++ [item], InputFits s) → item.hasSurrogate = false

theorem mapM_asStr {items : List Value} {inputs : List Str} :
    items.mapM Value.asStr = some inputs ↔ items = inputs.map .str := by
  induction items generalizing inputs with
  | nil => cases inputs <;> simp
  | cons item rest ih =>
      cases inputs with
      | nil => simp [Option.bind_eq_some_iff]
      | cons s inputs => simp [Option.bind_eq_some_iff, ih]

theorem readInputs_eq_ok {value : Value} {inputs : List Str} :
    NormalizedEmbeddingRequest.readInputs value = .ok inputs ↔ Inputs value inputs := by
  have hItems : ∀ items : List Value, (∃ a, items = a ∧ ∃ _ : Unit, a.isEmpty = false ∧
      a = inputs.map .str) ↔ inputs ≠ [] ∧ items = inputs.map .str := by
    rintro items
    constructor
    · rintro ⟨_, rfl, _, hSome, rfl⟩
      exact ⟨by simpa using hSome, rfl⟩
    · rintro ⟨hSome, rfl⟩
      exact ⟨_, rfl, (), by simpa using hSome, rfl⟩
  unfold NormalizedEmbeddingRequest.readInputs Inputs
  cases value with
  | str s =>
      constructor
      · rintro ⟨⟩
        exact ⟨by simp, .inr ⟨s, rfl, rfl⟩⟩
      · rintro ⟨-, hSequence | ⟨s, hText, rfl⟩⟩
        · cases hSequence
        · cases hText
          rfl
  | _ =>
      simp only [except_bind_eq_ok, expect_eq_ok, require_eq_ok, mapM_asStr, Value.asSequence,
        reduceCtorEq, false_and, exists_false, and_false, or_false, Option.some.injEq,
        Bool.not_eq_true', hItems]

theorem settles_readInput {index total : Nat} {item : Str} :
    Settles Documented (NormalizedEmbeddingRequest.readInput index total item) ↔
      (InputFits item → item.hasSurrogate = false) := by
  simp [NormalizedEmbeddingRequest.readInput, settles_bind, require_eq_ok, InputFits]

theorem readInput_fits {index total : Nat} {item : Str} {out : Str × Nat}
    (h : NormalizedEmbeddingRequest.readInput index total item = .ok out) : InputFits item := by
  obtain ⟨_, hBlank, hRest⟩ := except_bind_eq_ok.mp h
  obtain ⟨_, hLength, -⟩ := except_bind_eq_ok.mp hRest
  exact ⟨by simpa using require_eq_ok.mp hBlank, by simpa using require_eq_ok.mp hLength⟩

theorem readInput_of_fits {index total : Nat} {item : Str} (hFits : InputFits item)
    (hSurrogate : item.hasSurrogate = false) :
    NormalizedEmbeddingRequest.readInput index total item =
      .ok (item, total + (item.map Str.utf8Width).sum) := by
  refine except_bind_eq_ok.mpr ⟨(), require_eq_ok.mpr (by simp [hFits.1]), ?_⟩
  refine except_bind_eq_ok.mpr ⟨(), require_eq_ok.mpr (by simp [hFits.2]), ?_⟩
  exact except_bind_eq_ok.mpr ⟨_, encodedLength_eq_ok.mpr ⟨hSurrogate, rfl⟩, rfl⟩

/-- The input loop settles when no item that it reaches holds a surrogate. -/
theorem settles_readInput_pass {index total : Nat} {inputs : List Str} :
    Settles Documented (pass NormalizedEmbeddingRequest.readInput index total inputs) ↔
      ∀ before item after, inputs = before ++ item :: after →
        (∀ s ∈ before ++ [item], InputFits s) → item.hasSurrogate = false := by
  induction inputs generalizing index total with
  | nil => simp [General.pass]
  | cons first rest ih =>
      rw [General.pass, settles_bind, settles_readInput]
      constructor
      · rintro ⟨hFirst, hRest⟩ before item after hSplit hFits
        cases before with
        | nil =>
            cases hSplit
            exact hFirst (hFits first (by simp))
        | cons head tail =>
            cases hSplit
            have hHead : InputFits first := hFits first (by simp)
            have hTail := (settles_bind.mp (hRest _ (readInput_of_fits hHead (hFirst hHead)))).1
            exact ih.mp hTail tail item after rfl fun s hs => hFits s (by simp_all)
      · intro h
        refine ⟨fun hFits => h [] first rest rfl (by simpa using hFits), fun out hOut => ?_⟩
        refine settles_bind.mpr ⟨ih.mpr ?_, fun _ _ => settles_pure _⟩
        rintro before item after rfl hFits
        refine h (first :: before) item after rfl fun s hs => ?_
        rcases List.mem_cons.mp hs with rfl | hs
        · exact readInput_fits hOut
        · exact hFits s hs

theorem settles_embedding {payload : Dict} :
    Settles Documented (NormalizedEmbeddingRequest.fromOpenai (.dict payload)) ↔
      EmbeddingReadable payload := by
  have hInputs : ∀ value, Settles Documented (NormalizedEmbeddingRequest.readInputs value) := by
    intro value
    unfold NormalizedEmbeddingRequest.readInputs
    split
    · simp
    · simp [settles_bind]
  simp only [NormalizedEmbeddingRequest.fromOpenai, Value.asDict, settles_bind, settles_expect,
    settles_require, settles_requireNonEmptyString, expect_eq_ok, require_eq_ok, true_and,
    hInputs, settles_readInput_pass, settles_pure, implies_true, and_true, Option.some.injEq,
    readInputs_eq_ok, requireNonEmptyString_eq_ok, decide_eq_true_eq, List.isEmpty_iff]
  constructor
  · rintro h hKnown ⟨model, hModel, hBlank, hLength⟩ inputs hInputs hCount
    exact h payload rfl () hKnown _ ⟨model, hModel, hBlank, rfl⟩ () hLength inputs hInputs () hCount
  · rintro h _ rfl _ hKnown _ ⟨model, hModel, hBlank, rfl⟩ _ hLength inputs hInputs _ hCount
    exact h hKnown ⟨model, hModel, hBlank, hLength⟩ inputs hInputs hCount

end EmbeddingRequests

/-- Request parsing returns or raises ProtocolError exactly on readable
payloads; a payload that is no object is refused. -/
theorem request_parsing_settles_iff (payload : Value) :
    (Settles Documented (NormalizedInferenceRequest.fromOpenai payload) ↔
      ∀ body, payload = .dict body → ChatReadable body) ∧
    (Settles Documented (NormalizedEmbeddingRequest.fromOpenai payload) ↔
      ∀ body, payload = .dict body → EmbeddingReadable body) := by
  cases payload with
  | dict body => simp [settles_chat, settles_embedding]
  | _ =>
      simp [NormalizedInferenceRequest.fromOpenai, NormalizedEmbeddingRequest.fromOpenai,
        Value.asDict, settles_bind, expect_eq_ok]

/-- A chat payload of one message. -/
def chatPayload (message : Value) (options : Dict) : Value :=
  .dict ([(text "model", .str "m"), (text "messages", .list [message])] ++ options)

/-- Not every JSON payload is parsed or refused with a ProtocolError. -/
theorem request_parsing_is_partial : ¬ ∀ payload : Value, payload.isJson = true →
    Settles Documented (NormalizedInferenceRequest.fromOpenai payload) ∧
      Settles Documented (NormalizedEmbeddingRequest.fromOpenai payload) := by
  intro h
  have hChat := (h (chatPayload (.dict [("role", .list []), ("content", .str "hi")]) []) rfl).1
  exact hChat .typeError rfl

end CyreneExchange.Gateway
