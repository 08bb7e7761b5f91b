import CyreneExchange.Gateway.Canonical

/-! The provider dictionary of a request without inline media parses back to
that request: parsing returns canonical requests, and those are fixed points. -/
namespace CyreneExchange.Gateway
open CyreneExchange.General

/-- What `from_openai` returns. -/
structure CanonicalRequest (request : NormalizedInferenceRequest) : Prop where
  model : Trimmed request.model
  filled : request.messages ≠ []
  messages : ∀ message ∈ request.messages, CanonicalMessage message
  temperature : ∀ x, request.temperature = some x → x.between 0 2 = true
  maxTokens : ∀ n, request.maxTokens = some n → 0 < n
  tools : ∀ tool ∈ request.tools, CanonicalTool tool
  toolChoice : ∀ choice, request.toolChoice = some choice → CanonicalToolChoice choice
  streamOptions : ∀ options, request.streamOptions = some options → request.stream = true ∧
    ∃ includeUsage, options = [(text "include_usage", .bool includeUsage)]

/-- No message of the request holds media bytes. -/
def NoInlineMedia (request : NormalizedInferenceRequest) : Prop :=
  ∀ message ∈ request.messages, NoBytes (message.get "content")

/-- No content part of the payload holds encoded media. -/
def WithoutInlineMedia (payload : Value) : Prop :=
  ∀ body, payload = .dict body → ∀ items, (Dict.get body "messages").asSequence = some items →
    ∀ raw : Dict, .dict raw ∈ items → NothingEncoded (raw.get "content")

section Options

variable {value : Value}

theorem normalizeTemperature_canonical {out : Option Float64}
    (h : normalizeTemperature value = .ok out) : ∀ x, out = some x → x.between 0 2 = true := by
  unfold normalizeTemperature at h
  rintro x rfl
  split at h
  · cases h
  · split at h
    · cases h
    · obtain ⟨_, hRange, hOut⟩ := except_bind_eq_ok.mp h
      cases hOut
      exact require_eq_ok.mp hRange
  · obtain ⟨_, hRange, hOut⟩ := except_bind_eq_ok.mp h
    cases hOut
    exact require_eq_ok.mp hRange
  · cases h

theorem normalizeMaxTokens_canonical {out : Option Int} (h : normalizeMaxTokens value = .ok out) :
    ∀ n, out = some n → 0 < n := by
  unfold normalizeMaxTokens at h
  rintro n rfl
  split at h
  · cases h
  · obtain ⟨_, hPositive, hOut⟩ := except_bind_eq_ok.mp h
    cases hOut
    exact of_decide_eq_true (require_eq_ok.mp hPositive)
  · cases h

theorem optional_eq_ok {α : Type} {normalize : Value → Checked α} {out : Option α}
    (h : NormalizedInferenceRequest.optional normalize value = .ok out) :
    ∀ a, out = some a → normalize value = .ok a := by
  unfold NormalizedInferenceRequest.optional at h
  rintro a rfl
  split at h
  · cases h
  · cases hRead : normalize value with
    | error e => rw [hRead] at h; cases h
    | ok b => rw [hRead] at h; cases h; rfl

end Options

section Requests

variable {payload : Dict} {model : Str} {messages : List Dict}
  {request : NormalizedInferenceRequest}

/-- The options of a parsed request are canonical. -/
theorem readOptions_canonical (hModel : model.isBlank = false) (hSome : messages ≠ [])
    (hMessages : ∀ message ∈ messages, CanonicalMessage message)
    (h : NormalizedInferenceRequest.readOptions payload model messages = .ok request) :
    CanonicalRequest request ∧ request.messages = messages := by
  obtain ⟨stream, _, hTemperature⟩ := except_bind_eq_ok.mp h
  obtain ⟨temperature, hRange, hTokens⟩ := except_bind_eq_ok.mp hTemperature
  obtain ⟨maxTokens, hPositive, hRaw⟩ := except_bind_eq_ok.mp hTokens
  obtain ⟨rawTools, _, hEach⟩ := except_bind_eq_ok.mp hRaw
  obtain ⟨tools, hTools, hChoice⟩ := except_bind_eq_ok.mp hEach
  obtain ⟨toolChoice, hChosen, hParallel⟩ := except_bind_eq_ok.mp hChoice
  obtain ⟨_, _, hOptions⟩ := except_bind_eq_ok.mp hParallel
  obtain ⟨streamOptions, hStreamed, hOnly⟩ := except_bind_eq_ok.mp hOptions
  obtain ⟨_, hStream, hOut⟩ := except_bind_eq_ok.mp hOnly
  cases hOut
  rw [require_eq_ok] at hStream
  have hItems : List.Forall₂ (fun _ tool => CanonicalTool tool) _ tools :=
    forall₂_of_each (fun _ _ _ _ h => normalizeTool_canonical h) hTools
  refine ⟨?_, rfl⟩
  exact {
    model := trimmed_strip hModel
    filled := hSome
    messages := hMessages
    temperature := normalizeTemperature_canonical hRange
    maxTokens := normalizeMaxTokens_canonical hPositive
    tools := forall_of_forall₂ hItems fun _ _ _ h => h
    toolChoice := fun choice h => normalizeToolChoice_canonical (optional_eq_ok hChosen choice h)
    streamOptions := fun options h =>
      ⟨by simpa [show streamOptions = some options from h] using hStream,
        normalizeStreamOptions_canonical (optional_eq_ok hStreamed options h)⟩ }

/-- Parsing returns canonical requests, without bytes where none were encoded. -/
theorem fromOpenai_canonical {payload : Value}
    (h : NormalizedInferenceRequest.fromOpenai payload = .ok request) :
    CanonicalRequest request ∧ (WithoutInlineMedia payload → NoInlineMedia request) := by
  obtain ⟨body, hBody, hModel⟩ := except_bind_eq_ok.mp h
  obtain ⟨model, _, hBlank⟩ := except_bind_eq_ok.mp hModel
  obtain ⟨_, hNamed, hRaw⟩ := except_bind_eq_ok.mp hBlank
  obtain ⟨items, hItems, hSome⟩ := except_bind_eq_ok.mp hRaw
  obtain ⟨_, hFilled, hPass⟩ := except_bind_eq_ok.mp hSome
  obtain ⟨⟨messages, total⟩, hMessages, hOptions⟩ := except_bind_eq_ok.mp hPass
  rw [expect_eq_ok, Value.asDict_eq_some] at hBody
  rw [expect_eq_ok] at hItems
  rw [require_eq_ok] at hNamed hFilled
  have hRelated := (@forall₂_of_pass _ _ _ _ _ fun item message => CanonicalMessage message ∧
    ((∀ raw : Dict, item = .dict raw → NothingEncoded (raw.get "content")) →
      NoBytes (message.get "content"))) (by
    intro index total item message next hRead
    obtain ⟨raw, hDict, hNormalize⟩ := except_bind_eq_ok.mp hRead
    rw [expect_eq_ok, Value.asDict_eq_some] at hDict
    obtain ⟨role, content, hFields, hBytes⟩ := normalizeMessage_canonical hNormalize
    have hContent : message.get "content" = content := by
      rw [Dict.get, Dict.getD, hFields.present]
      rfl
    exact ⟨⟨role, content, hFields⟩, fun hNone => hContent ▸ (hBytes (hNone raw hDict)).1⟩)
    hMessages
  have hNotEmpty : messages ≠ [] := by
    rintro rfl
    rw [List.forall₂_nil_right_iff.mp hRelated] at hFilled
    cases hFilled
  obtain ⟨hCanonical, hSame⟩ := readOptions_canonical (by simpa using hNamed) hNotEmpty
    (forall_of_forall₂ hRelated fun _ _ _ h => h.1) hOptions
  refine ⟨hCanonical, fun hNone => ?_⟩
  rw [NoInlineMedia, hSame]
  exact forall_of_forall₂ hRelated fun item hItem _ h =>
    h.2 fun raw hDict => hNone body hBody items hItems raw (hDict ▸ hItem)

end Requests

section ProviderDict

open NormalizedInferenceRequest (entry toProviderDict)

variable {request : NormalizedInferenceRequest}

@[simp] theorem lookup_entry {a b : String} {value : Option Value} :
    List.lookup (text a) (entry (text b) value) = if a = b then value else none := by
  cases value with
  | none => simp [entry]
  | some value => simp [entry]

theorem lookup_append {key : Str} {first second : Dict} :
    List.lookup key (first ++ second) = (List.lookup key first).or (List.lookup key second) := by
  induction first with
  | nil => rfl
  | cons head tail ih =>
      obtain ⟨name, value⟩ := head
      simp only [List.cons_append, List.lookup_cons]
      split
      · rfl
      · exact ih

/-- What parsing reads of a provider dictionary. -/
theorem toProviderDict_reads (request : NormalizedInferenceRequest) :
    let d := request.toProviderDict
    d.get "model" = .str request.model ∧
      d.get "messages" = .list (request.messages.map .dict) ∧
      d.getD "stream" (.bool false) = .bool request.stream ∧
      d.get "temperature" = (request.temperature.map Value.float).getD .none ∧
      d.get "max_tokens" = (request.maxTokens.map Value.int).getD .none ∧
      (d.getD "tools" (.tuple [])).asSequence = some (request.tools.map .dict) ∧
      d.get "tool_choice" = request.toolChoice.getD .none ∧
      d.get "parallel_tool_calls" = (request.parallelToolCalls.map Value.bool).getD .none ∧
      d.get "stream_options" = (request.streamOptions.map Value.dict).getD .none := by
  refine ⟨?_, ?_, ?_, ?_, ?_, ?_, ?_, ?_, ?_⟩
  case refine_6 =>
    cases hTools : request.tools with
    | nil => simp [toProviderDict, Dict.getD, lookup_append, hTools, Value.asSequence]
    | cons tool tools => simp [toProviderDict, Dict.getD, lookup_append, hTools, Value.asSequence]
  all_goals simp [toProviderDict, Dict.get, Dict.getD, lookup_append]

theorem optional_of_ne {α : Type} {normalize : Value → Checked α} {value : Value} {a : α}
    (hSome : value ≠ .none) (hFixed : normalize value = .ok a) :
    NormalizedInferenceRequest.optional normalize value = .ok (some a) := by
  have hNone : value.isNone = false := Bool.eq_false_iff.mpr (mt Value.isNone_eq_true.mp hSome)
  rw [NormalizedInferenceRequest.optional, hNone, hFixed]
  rfl

/-- The options of a canonical request are read back from its dictionary. -/
theorem CanonicalRequest.readOptions (h : CanonicalRequest request) :
    NormalizedInferenceRequest.readOptions request.toProviderDict request.model
      request.messages = .ok request := by
  obtain ⟨-, -, hStream, hTemperature, hMaxTokens, hTools, hToolChoice, hParallel, hOptions⟩ :=
    toProviderDict_reads request
  have hRange : normalizeTemperature ((request.temperature.map Value.float).getD .none) =
      .ok request.temperature := by
    cases hSome : request.temperature with
    | none => rfl
    | some x => simp [normalizeTemperature, h.temperature x hSome, require, Functor.map, Except.map]
  have hTokens : normalizeMaxTokens ((request.maxTokens.map Value.int).getD .none) =
      .ok request.maxTokens := by
    cases hSome : request.maxTokens with
    | none => rfl
    | some n => simp [normalizeMaxTokens, h.maxTokens n hSome, require, Functor.map, Except.map]
  have hEach : each normalizeTool 0 (request.tools.map .dict) = .ok request.tools :=
    each_of_forall₂ (List.forall₂_map_left_iff.mpr
      (List.forall₂_same.mpr fun tool hTool => (h.tools tool hTool).fixed)) 0
  have hChoice : NormalizedInferenceRequest.optional normalizeToolChoice
      (request.toolChoice.getD .none) = .ok request.toolChoice := by
    cases hSome : request.toolChoice with
    | none => rfl
    | some choice =>
        have hCanonical := h.toolChoice choice hSome
        exact optional_of_ne (by cases hCanonical <;> simp) hCanonical.fixed
  have hStreamOptions : NormalizedInferenceRequest.optional normalizeStreamOptions
      ((request.streamOptions.map Value.dict).getD .none) = .ok request.streamOptions := by
    cases hSome : request.streamOptions with
    | none => rfl
    | some options =>
        obtain ⟨-, includeUsage, rfl⟩ := h.streamOptions options hSome
        exact optional_of_ne (by simp) (normalizeStreamOptions_fixed includeUsage)
  have hFlag : (((request.parallelToolCalls.map Value.bool).getD .none).isNone ||
      ((request.parallelToolCalls.map Value.bool).getD .none).asBool.isSome) = true ∧
      ((request.parallelToolCalls.map Value.bool).getD .none).asBool =
        request.parallelToolCalls := by
    cases request.parallelToolCalls <;> exact ⟨rfl, rfl⟩
  have hOnly : (request.streamOptions.isNone || request.stream) = true := by
    cases hSome : request.streamOptions with
    | none => rfl
    | some options => simp [(h.streamOptions options hSome).1]
  refine except_bind_eq_ok.mpr ⟨request.stream, by rw [hStream]; rfl, ?_⟩
  refine except_bind_eq_ok.mpr ⟨_, by rw [hTemperature]; exact hRange, ?_⟩
  refine except_bind_eq_ok.mpr ⟨_, by rw [hMaxTokens]; exact hTokens, ?_⟩
  refine except_bind_eq_ok.mpr ⟨_, by rw [hTools]; rfl, ?_⟩
  refine except_bind_eq_ok.mpr ⟨_, hEach, ?_⟩
  refine except_bind_eq_ok.mpr ⟨_, by rw [hToolChoice]; exact hChoice, ?_⟩
  dsimp only
  rw [hParallel]
  refine except_bind_eq_ok.mpr ⟨(), require_eq_ok.mpr hFlag.1, ?_⟩
  refine except_bind_eq_ok.mpr ⟨_, by rw [hOptions]; exact hStreamOptions, ?_⟩
  refine except_bind_eq_ok.mpr ⟨(), require_eq_ok.mpr hOnly, ?_⟩
  rw [hFlag.2, h.model.1]
  rfl

/-- A canonical request without media bytes parses back from its dictionary. -/
theorem CanonicalRequest.fixed (h : CanonicalRequest request) (hBytes : NoInlineMedia request) :
    NormalizedInferenceRequest.fromOpenai (.dict request.toProviderDict) = .ok request := by
  obtain ⟨hModel, hMessages, -⟩ := toProviderDict_reads request
  have hPass : pass NormalizedInferenceRequest.readMessage 0 0 (request.messages.map .dict) =
      .ok (request.messages, 0) := by
    refine pass_of_forall₂ (List.forall₂_map_left_iff.mpr
      (List.forall₂_same.mpr fun message hMessage index => ?_)) 0
    obtain ⟨role, content, hFields⟩ := h.messages message hMessage
    have hContent : message.get "content" = content := by
      rw [Dict.get, Dict.getD, hFields.present]
      rfl
    exact except_bind_eq_ok.mpr
      ⟨message, rfl, hFields.fixed (hContent ▸ hBytes message hMessage)⟩
  refine except_bind_eq_ok.mpr ⟨request.toProviderDict, rfl, ?_⟩
  refine except_bind_eq_ok.mpr ⟨request.model, by rw [hModel]; rfl, ?_⟩
  refine except_bind_eq_ok.mpr ⟨(), require_eq_ok.mpr (by simp [h.model.2]), ?_⟩
  refine except_bind_eq_ok.mpr ⟨request.messages.map .dict, by rw [hMessages]; rfl, ?_⟩
  refine except_bind_eq_ok.mpr ⟨(), require_eq_ok.mpr (by simpa using h.filled), ?_⟩
  exact except_bind_eq_ok.mpr ⟨_, hPass, h.readOptions⟩

end ProviderDict

/-- A request parsed from a payload without inline media is the one its
provider dictionary parses to. -/
theorem provider_dict_round_trips {payload : Value} {request : NormalizedInferenceRequest}
    (hParsed : NormalizedInferenceRequest.fromOpenai payload = .ok request)
    (hMedia : WithoutInlineMedia payload) :
    NormalizedInferenceRequest.fromOpenai (.dict request.toProviderDict) = .ok request := by
  obtain ⟨hCanonical, hBytes⟩ := fromOpenai_canonical hParsed
  exact hCanonical.fixed (hBytes hMedia)

/-- A user message of a text part and an image reference, and a tool. -/
def referencePayload : Value :=
  .dict [("model", .str " m "),
    ("messages", .list [.dict [("role", .str "user"), ("content", .list [
      .dict [("type", .str "text"), ("text", .str "look")],
      .dict [("type", .str "image"), ("mime_type", .str "IMAGE/png"),
        ("artifact_id", .str "a1")]])]]),
    ("temperature", .float (.number 1)), ("stream", .bool true), ("stream_options", .dict []),
    ("tools", .list [.dict [("type", .str "function"),
      ("function", .dict [("name", .str "f")])]])]

theorem provider_dict_round_trips_sample : ∃ request,
    NormalizedInferenceRequest.fromOpenai referencePayload = .ok request ∧
      NormalizedInferenceRequest.fromOpenai (.dict request.toProviderDict) = .ok request := by
  have hMedia : WithoutInlineMedia referencePayload := by
    rintro body ⟨⟩ items ⟨⟩ raw hRaw parts hParts part hPart
    simp only [List.mem_singleton, Value.dict.injEq] at hRaw
    subst hRaw
    cases hParts
    simp only [List.mem_cons, Value.dict.injEq, List.not_mem_nil, or_false] at hPart
    rcases hPart with rfl | rfl <;> rfl
  exact ⟨_, rfl, provider_dict_round_trips rfl hMedia⟩

end CyreneExchange.Gateway
