import CyreneExchange.Gateway.OpenaiProvider

/-! Well-formed chat completions of an upstream, and what of them reaches the
client behind the gateway. -/
namespace CyreneExchange.Gateway
open CyreneExchange.General OpenaiProvider

section Usage

/-- A usage object of an upstream: its three counts, among whatever else it holds. -/
structure UpstreamUsage where
  document : Dict
  promptTokens : Nat
  completionTokens : Nat
  totalTokens : Nat
  promptEntry : document.get "prompt_tokens" = .int promptTokens
  completionEntry : document.get "completion_tokens" = .int completionTokens
  totalEntry : document.get "total_tokens" = .int totalTokens

/-- The value of a `usage` entry. -/
def usageValue (usage : Option UpstreamUsage) : Value :=
  usage.elim .none fun usage => .dict usage.document

/-- The counts as a provider reports them. -/
def UpstreamUsage.facts (usage : UpstreamUsage) : ProviderUsage :=
  { promptTokens := some usage.promptTokens, completionTokens := some usage.completionTokens
    totalTokens := some usage.totalTokens }

/-- The public usage object, entry by entry. -/
def OpenaiUsage.entries (usage : OpenaiUsage) : Dict :=
  let entry (key : Str) (count : Option Nat) : Dict :=
    (count.map fun count => (key, Value.int count)).toList
  entry "prompt_tokens" usage.promptTokens ++ entry "completion_tokens" usage.completionTokens ++
    entry "total_tokens" usage.totalTokens

/-- The public usage is the upstream one: both are absent, or hold the same entries. -/
def SameUsage (reported : Option OpenaiUsage) (usage : Option UpstreamUsage) : Prop :=
  Option.Rel (fun reported usage => ∀ key, reported.entries.lookup key = usage.document.lookup key)
    reported usage

/-- The names of the three counts. -/
def countNames : List Str :=
  [text "prompt_tokens", text "completion_tokens", text "total_tokens"]

/-- The usage has no entry besides its three counts. -/
def OnlyCounts (usage : Option UpstreamUsage) : Prop :=
  ∀ facts ∈ usage, ∀ key, facts.document.has key = true → key ∈ countNames

variable {usage : Option UpstreamUsage}

theorem usage_usageValue : OpenaiProvider.usage (usageValue usage) =
    usage.map UpstreamUsage.facts := by
  cases usage with
  | none => rfl
  | some facts =>
      change some _ = some _
      rw [facts.promptEntry, facts.completionEntry, facts.totalEntry]
      rfl

/-- What the gateway reports of a well-formed usage. -/
theorem serializedUsage_facts (facts : UpstreamUsage) : serializedUsage (some facts.facts) =
    some { promptTokens := some facts.promptTokens
           completionTokens := some facts.completionTokens
           totalTokens := some facts.totalTokens } := rfl

/-- A count of the upstream is the entry of its name. -/
theorem lookup_count {document : Dict} {key : Str} {count : Nat}
    (h : document.get key = .int count) : document.lookup key = some (.int count) := by
  rw [Dict.lookup_eq_of_get_ne (by rw [h]; simp), h]

theorem entries_named (reported : OpenaiUsage) : ∀ entry ∈ reported.entries,
    entry.1 ∈ countNames := by
  intro entry hMem
  simp only [OpenaiUsage.entries, List.mem_append, Option.mem_toList, Option.map_eq_some_iff]
    at hMem
  rcases hMem with (⟨count, -, rfl⟩ | ⟨count, -, rfl⟩) | ⟨count, -, rfl⟩ <;> simp [countNames]

/-- The public usage has no other entries. -/
theorem lookup_entries {reported : OpenaiUsage} {key : Str} (hOther : key ∉ countNames) :
    reported.entries.lookup key = none := by
  rw [List.lookup_eq_none_iff]
  intro entry hMem
  rw [bne_iff_ne]
  rintro rfl
  exact hOther (entries_named reported entry hMem)

/-- The reported usage is the upstream one exactly when that is nothing but counts. -/
theorem sameUsage_iff : SameUsage (serializedUsage (usage.map UpstreamUsage.facts)) usage ↔
    OnlyCounts usage := by
  cases usage with
  | none => exact iff_of_true Option.Rel.none fun facts hMem => by cases hMem
  | some facts =>
      have hPrompt := lookup_count facts.promptEntry
      have hCompletion := lookup_count facts.completionEntry
      have hTotal := lookup_count facts.totalEntry
      rw [Option.map_some, serializedUsage_facts]
      constructor
      · rintro (hSame | _) known hMem key hHas
        obtain rfl : facts = known := Option.some.inj hMem
        by_contra hOther
        rw [Dict.has, ← hSame key, lookup_entries hOther] at hHas
        cases hHas
      · intro hOnly
        refine Option.Rel.some fun key => ?_
        by_cases hKey : key ∈ countNames
        · rw [countNames, List.mem_cons, List.mem_cons, List.mem_singleton] at hKey
          rcases hKey with rfl | rfl | rfl
          · rw [hPrompt]
            rfl
          · rw [hCompletion]
            rfl
          · rw [hTotal]
            rfl
        · have hHas : facts.document.has key = false :=
            Bool.eq_false_of_not_eq_true (mt (hOnly facts rfl key) hKey)
          rw [lookup_entries hKey]
          exact (Option.not_isSome_iff_eq_none.mp (Bool.eq_false_iff.mp hHas)).symm

end Usage

section Unary

/-- The object holds this tool call. -/
structure CallDocument (document : Dict) (call : OpenaiToolCall) : Prop where
  index : document.get "index" = call.index.elim .none fun index => .int index
  id : document.get "id" = call.id.elim .none .str
  type : document.get "type" = call.type.elim .none .str
  function : match call.function with
    | none => document.get "function" = .none
    | some function => ∃ body : Dict, document.get "function" = .dict body ∧
        body.get "name" = function.name.elim .none .str ∧
        body.get "arguments" = function.arguments.elim .none .str

/-- The value of a `tool_calls` entry: it is missing, or lists these calls. -/
def CallsValue (value : Value) (calls : List OpenaiToolCall) : Prop :=
  (value = .none ∧ calls = []) ∨
    ∃ items, value = .list items ∧ List.Forall₂ (fun item call =>
      ∃ document, item = Value.dict document ∧ CallDocument document call) items calls

/-- A well-formed unary answer of an upstream, with its one choice. The request never asks
for more. -/
structure UpstreamBody where
  status : Nat
  document : Dict
  choice : Dict
  message : Dict
  role : Str
  content : Option Str
  toolCalls : List OpenaiToolCall
  finishReason : Str
  usage : Option UpstreamUsage
  accepted : status < 400
  choicesEntry : document.get "choices" = .list [.dict choice]
  messageEntry : choice.get "message" = .dict message
  roleEntry : message.get "role" = .str role
  contentEntry : message.get "content" = content.elim .none .str
  callsEntry : CallsValue (message.get "tool_calls") toolCalls
  reasonEntry : choice.get "finish_reason" = .str finishReason
  usageEntry : document.get "usage" = usageValue usage
  roleFilled : role ≠ []
  reasonFilled : finishReason ≠ []

/-- What the provider's answer to a unary request assembles to is the upstream answer. -/
def UpstreamBody.CarriedBy (body : UpstreamBody)
    (outcome : Except Raise (UnaryAnswer × Option ProviderUsage)) : Prop :=
  ∃ answer recorded, outcome = .ok (answer, recorded) ∧ answer.message.role = body.role ∧
    answer.message.content = body.content ∧ answer.message.toolCalls.getD [] = body.toolCalls ∧
    answer.finishReason = body.finishReason ∧ SameUsage answer.usage body.usage

variable (body : UpstreamBody)

theorem orElse_str {s default : Str} (hFilled : s ≠ []) :
    (Value.str s).orElse (.str default) = .str s := by
  simp [Value.orElse, Value.truthy, hFilled]

theorem orElse_content (content : Option Str) :
    (content.elim Value.none Value.str).orElse (.str []) = .str (content.getD []) := by
  cases content with
  | none => rfl
  | some s =>
      cases s <;> rfl

/-- The chunk of a unary answer. -/
def UpstreamBody.chunk : ProviderChunk :=
  { role := some body.role, delta := body.content.getD [], finishReason := some body.finishReason
    usage := body.usage.map UpstreamUsage.facts }

theorem bodyChunk_eq : bodyChunk (.dict body.document) = .ok body.chunk := by
  have hMessage : (Value.dict body.message).orElse (.dict []) = .dict body.message := by
    cases hEntries : body.message with
    | nil =>
        have hRole := body.roleEntry
        rw [hEntries] at hRole
        cases hRole
    | cons entry rest => rfl
  have hChoices : (Value.list [.dict body.choice]).orElse (.list []) =
      .list [.dict body.choice] := rfl
  have hTruthy : (Value.list [.dict body.choice]).truthy = true := rfl
  simp only [bodyChunk, member, except_ok_bind, body.choicesEntry, hChoices, hTruthy, firstChoice,
    body.messageEntry, hMessage, body.roleEntry, orElse_str body.roleFilled, body.contentEntry,
    orElse_content, body.reasonEntry, orElse_str body.reasonFilled, body.usageEntry, providerChunk,
    optionalText, usage_usageValue, Bool.not_true, Bool.false_eq_true, if_false]
  rfl

/-- What the gateway assembles from that chunk. -/
theorem collectAnswer_chunk : collectAnswer [body.chunk] = .ok
    { message := { role := body.role, content := some (body.content.getD []), toolCalls := none }
      finishReason := body.finishReason
      usage := serializedUsage (body.usage.map UpstreamUsage.facts) } := by
  have hReason : unaryFinishReason [body.chunk] = body.finishReason :=
    unaryFinishReason_of_last rfl body.reasonFilled
  have hUsage : mergeChunkUsage [body.chunk] = body.usage.map UpstreamUsage.facts := by
    change mergeUsage none (body.usage.map UpstreamUsage.facts) = _
    cases body.usage <;> rfl
  have hContent : [body.chunk].flatMap ProviderChunk.delta = body.content.getD [] :=
    List.flatMap_singleton ..
  rw [collectAnswer, assembleMessage, hContent]
  change Except.ok _ = _
  rw [hReason, hUsage]
  simp [UpstreamBody.chunk]

/-- The gateway's answer is the upstream one exactly when that has no tool calls, its content
is a text, and its usage is nothing but the counts. -/
theorem body_carried_iff (env : Collaborators) (attempt : Nat) :
    body.CarriedBy (collectAll env attempt
        (collect false (.response body.status (some (.dict body.document))))) ↔
      body.toolCalls = [] ∧ body.content ≠ none ∧ OnlyCounts body.usage := by
  have hCollected : collect false (.response body.status (some (.dict body.document))) =
      { chunks := [body.chunk] } := by
    rw [collect, if_neg Bool.false_ne_true, responseChunk,
      if_neg (Nat.not_le.mpr body.accepted), bodyChunk_eq]
  have hAnswer : collectAll env attempt { chunks := [body.chunk] } = .ok
      ({ message := { role := body.role, content := some (body.content.getD []), toolCalls := none }
         finishReason := body.finishReason
         usage := serializedUsage (body.usage.map UpstreamUsage.facts) },
        mergeChunkUsage [body.chunk]) := by
    rw [collectAll]
    dsimp only
    rw [collectResponse, collectChunks, except_ok_bind, collectAnswer_chunk]
  rw [hCollected, hAnswer]
  constructor
  · rintro ⟨answer, recorded, hOk, -, hContent, hCalls, -, hUsage⟩
    cases hOk
    refine ⟨hCalls.symm, ?_, sameUsage_iff.mp hUsage⟩
    rw [← hContent]
    exact Option.some_ne_none _
  · rintro ⟨hCalls, hContent, hUsage⟩
    obtain ⟨content, hText⟩ := Option.ne_none_iff_exists'.mp hContent
    refine ⟨_, _, rfl, rfl, ?_, hCalls.symm, rfl, sameUsage_iff.mpr hUsage⟩
    rw [hText]
    rfl

end Unary

section Events

/-- The object holds this delta. A call of a delta always has its index. -/
structure DeltaDocument (document : Dict) (delta : StreamDelta) : Prop where
  role : document.get "role" = delta.role.elim .none .str
  content : document.get "content" = delta.content.elim .none .str
  calls : CallsValue (document.get "tool_calls") (delta.toolCalls.getD [])
  indexed : ∀ call ∈ delta.toolCalls.getD [], call.index.isSome = true

/-- The value of the `choices` entry of an event with at most one choice. -/
def ChoicesValue (value : Value) : Option StreamChoice → Prop
  | none => value = .list []
  | some choice => ∃ document delta : Dict, value = .list [.dict document] ∧
      document.get "delta" = .dict delta ∧ DeltaDocument delta choice.delta ∧
      document.get "finish_reason" = choice.finishReason.elim .none .str

/-- A well-formed event of an upstream stream. -/
structure UpstreamEvent where
  document : Dict
  choice : Option StreamChoice
  usage : Option UpstreamUsage
  choicesEntry : ChoicesValue (document.get "choices") choice
  usageEntry : document.get "usage" = usageValue usage

namespace UpstreamEvent

variable (event : UpstreamEvent)

/-- The event without its usage, as its consumer sees it. -/
def streamed : StreamedEvent := { choice := event.choice, usage := none }

/-- The delta of an event. -/
def delta : StreamDelta := (event.choice.map StreamChoice.delta).getD {}

/-- The tool calls of an event. -/
def toolCalls : List OpenaiToolCall := event.delta.toolCalls.getD []

/-- The chunk of an event. -/
def chunk : ProviderChunk :=
  { role := event.delta.role, delta := event.delta.content.getD []
    finishReason := event.choice.bind StreamChoice.finishReason
    usage := event.usage.map UpstreamUsage.facts }

theorem orElse_object (document : Dict) :
    (Value.dict document).orElse (.dict []) = .dict document := by
  cases document <;> rfl

theorem optionalText_elim (s : Option Str) :
    optionalText (s.elim Value.none Value.str) = .ok s := by
  cases s <;> rfl

theorem asStr_elim (s : Option Str) : (s.elim Value.none Value.str).asStr = s := by
  cases s <;> rfl

theorem eventChunk_eq : eventChunk event.document = .ok event.chunk := by
  have hChoices := event.choicesEntry
  unfold eventChunk chunk delta
  rw [event.usageEntry, usage_usageValue]
  cases hChoice : event.choice with
  | none =>
      rw [hChoice] at hChoices
      rw [show event.document.get "choices" = .list [] from hChoices]
      rfl
  | some choice =>
      rw [hChoice] at hChoices
      obtain ⟨document, delta, hList, hDelta, hHolds, hReason⟩ := hChoices
      have hSome : (Value.list [.dict document]).orElse (.list []) = .list [.dict document] := rfl
      have hTruthy : (Value.list [.dict document]).truthy = true := rfl
      simp only [hList, hSome, hTruthy, firstChoice, member, except_ok_bind, hDelta, orElse_object,
        hHolds.role, hHolds.content, hReason, orElse_content, providerChunk, optionalText_elim,
        asStr_elim, usage_usageValue, Bool.not_true, Bool.false_eq_true, if_false]
      rfl

/-- The calls of an event come with their index. -/
theorem toolCalls_indexed : ∀ call ∈ event.toolCalls, call.index.isSome = true := by
  have hChoices := event.choicesEntry
  unfold toolCalls delta
  cases hChoice : event.choice with
  | none => simp
  | some choice =>
      rw [hChoice] at hChoices
      obtain ⟨document, delta, -, -, hHolds, -⟩ := hChoices
      exact hHolds.indexed

end UpstreamEvent

end Events

section Stream

/-- A line that tells nothing: another field, a comment, or no data. -/
def SilentLine (line : Str) : Prop := line.startsWith "data:" = false ∨ linePayload line = []

variable (loads : Str → Option Value)

/-- A line of a well-formed stream: a silent one, or the data of an event. -/
inductive UpstreamLine where
  | silent (line : Str) (hSilent : SilentLine line)
  | event (line : Str) (event : UpstreamEvent) (hData : line.startsWith "data:" = true)
      (hPayload : linePayload line ≠ [] ∧ linePayload line ≠ text "[DONE]")
      (hLoads : loads (linePayload line) = some (.dict event.document))

variable {loads}

def UpstreamLine.line : UpstreamLine loads → Str
  | .silent line _ => line
  | .event line .. => line

def UpstreamLine.told : UpstreamLine loads → Option UpstreamEvent
  | .silent _ _ => none
  | .event _ holds .. => some holds

variable (loads)

/-- A well-formed stream of an upstream: it gives a finish reason, and no event after "[DONE]". -/
structure UpstreamStream where
  status : Nat
  told : List (UpstreamLine loads)
  closing : List Str
  accepted : status < 400
  closes : ∀ line ∈ closing, SilentLine line ∨ linePayload line = text "[DONE]"
  finished : (receivedReason ((told.filterMap UpstreamLine.told).map
    UpstreamEvent.streamed)).isSome = true

variable {loads}

namespace UpstreamStream

variable (stream : UpstreamStream loads)

/-- The lines as they arrive. -/
def lines : List Str := stream.told.map UpstreamLine.line ++ stream.closing

/-- The events of a stream. -/
def events : List UpstreamEvent := stream.told.filterMap UpstreamLine.told

/-- The tool-call deltas of a stream. -/
def toolCalls : List OpenaiToolCall := stream.events.flatMap UpstreamEvent.toolCalls

/-- The usage that counts for a stream is the last one. -/
def usage : Option UpstreamUsage := (stream.events.filterMap UpstreamEvent.usage).getLast?

/-- The events of the gateway carry what the upstream streamed. -/
structure CarriedBy (includeUsage : Bool) (received : List StreamedEvent) : Prop where
  message : receivedMessage (deltasOf received) =
    receivedMessage (deltasOf (stream.events.map UpstreamEvent.streamed))
  finishReason : receivedReason received =
    receivedReason (stream.events.map UpstreamEvent.streamed)
  usage : includeUsage = true → SameUsage (receivedUsage received) stream.usage

theorem lineChunks_closing {lines : List Str} (index : Nat)
    (h : ∀ line ∈ lines, SilentLine line ∨ linePayload line = text "[DONE]") :
    lineChunks loads (fun _ => false) none index lines = { chunks := [] } := by
  induction lines generalizing index with
  | nil => rfl
  | cons line rest ih =>
      rw [List.forall_mem_cons] at h
      have hNone : streamChunk loads line = .ok none := by
        unfold streamChunk
        rcases h.1 with (hOther | hEmpty) | hDone
        · rw [hOther]
          rfl
        · rw [hEmpty]
          simp
        · rw [hDone]
          simp
      rw [lineChunks, if_neg Bool.false_ne_true, hNone]
      exact ih (index + 1) h.2

theorem streamChunk_told (line : UpstreamLine loads) :
    streamChunk loads line.line = .ok (line.told.map UpstreamEvent.chunk) := by
  unfold streamChunk
  cases line with
  | silent line hSilent =>
      rcases hSilent with hOther | hEmpty
      · simp [UpstreamLine.line, UpstreamLine.told, hOther]
      · simp [UpstreamLine.line, UpstreamLine.told, hEmpty]
  | event line event hData hPayload hLoads =>
      simp [UpstreamLine.line, UpstreamLine.told, hData, hPayload, hLoads, event.eventChunk_eq,
        Except.map]

/-- The chunks of a well-formed stream are those of its events. -/
theorem lineChunks_told (told : List (UpstreamLine loads)) {closing : List Str} (index : Nat)
    (h : ∀ line ∈ closing, SilentLine line ∨ linePayload line = text "[DONE]") :
    lineChunks loads (fun _ => false) none index (told.map UpstreamLine.line ++ closing) =
      { chunks := (told.filterMap UpstreamLine.told).map UpstreamEvent.chunk } := by
  induction told generalizing index with
  | nil => exact lineChunks_closing index h
  | cons line rest ih =>
      rw [List.map_cons, List.cons_append, lineChunks, if_neg Bool.false_ne_true, streamChunk_told,
        ih, List.filterMap_cons]
      cases line.told <;> rfl

theorem stream_eq : OpenaiProvider.stream loads (fun _ => false)
    (.response stream.status stream.lines false) =
      { chunks := stream.events.map UpstreamEvent.chunk } := by
  rw [OpenaiProvider.stream, if_neg (Nat.not_le.mpr stream.accepted), if_neg Bool.false_ne_true]
  exact lineChunks_told stream.told 0 stream.closes

end UpstreamStream

end Stream

section Streamed

variable {loads : Str → Option Value} {events : List UpstreamEvent}

theorem flatMap_streamed {β : Type} (f : StreamDelta → List β) (hEmpty : f {} = []) :
    (deltasOf (events.map UpstreamEvent.streamed)).flatMap f =
      events.flatMap fun event => f event.delta := by
  induction events with
  | nil => rfl
  | cons event rest ih =>
      rw [List.map_cons, deltasOf_cons, List.flatMap_append, ih, List.flatMap_cons]
      refine congrArg (· ++ _) ?_
      unfold UpstreamEvent.streamed UpstreamEvent.delta
      cases event.choice with
      | none => exact hEmpty.symm
      | some choice => exact List.flatMap_singleton ..

theorem findSome_streamed {β : Type} (f : StreamDelta → Option β) (hEmpty : f {} = none) :
    (deltasOf (events.map UpstreamEvent.streamed)).findSome? f =
      events.findSome? fun event => f event.delta := by
  induction events with
  | nil => rfl
  | cons event rest ih =>
      rw [List.map_cons, deltasOf_cons, List.findSome?_append, ih, List.findSome?_cons]
      unfold UpstreamEvent.streamed UpstreamEvent.delta
      cases event.choice with
      | none =>
          dsimp only [Option.map_none, Option.getD_none]
          rw [hEmpty]
          rfl
      | some choice =>
          dsimp only [Option.map_some, Option.getD_some]
          rw [Option.toList_some, List.findSome?_singleton]
          cases f choice.delta <;> rfl

/-- A received call is never taken back. -/
theorem receiveCall_ne_nil {calls : List ReceivedCall} (delta : OpenaiToolCall)
    (h : calls ≠ []) : receiveCall calls delta ≠ [] := by
  unfold receiveCall
  cases delta.index with
  | none => exact h
  | some index =>
      cases calls with
      | nil => exact (h rfl).elim
      | cons call rest =>
          dsimp only
          unfold receiveAt
          split <;> simp

theorem receiveCalls_eq_nil {deltas : List OpenaiToolCall}
    (hIndexed : ∀ delta ∈ deltas, delta.index.isSome = true) :
    deltas.foldl receiveCall [] = [] ↔ deltas = [] := by
  have hKept : ∀ (deltas : List OpenaiToolCall) (calls : List ReceivedCall), calls ≠ [] →
      deltas.foldl receiveCall calls ≠ [] := by
    intro deltas
    induction deltas with
    | nil => exact fun calls h => h
    | cons delta rest ih => exact fun calls h => ih _ (receiveCall_ne_nil delta h)
  cases deltas with
  | nil => simp
  | cons delta rest =>
      obtain ⟨index, hIndex⟩ := Option.isSome_iff_exists.mp (hIndexed delta List.mem_cons_self)
      refine iff_of_false (hKept rest _ ?_) (List.cons_ne_nil delta rest)
      rw [receiveCall, hIndex]
      exact List.cons_ne_nil _ _

/-- The message that the gateway streams: no chunk has tool calls. -/
theorem receivedMessage_chunks (includeUsage : Bool) :
    receivedMessage (deltasOf (eventsOf includeUsage {} (events.map UpstreamEvent.chunk))) =
      { role := (events.findSome? fun event => event.delta.role).getD "assistant"
        content := some (events.flatMap fun event => event.delta.content.getD [])
        toolCalls := none } := by
  refine receivedMessage_eventsOf ?_
  have hCalls : allCalls (events.map UpstreamEvent.chunk) = [] := by
    rw [allCalls, List.flatMap_map, List.flatMap_eq_nil_iff]
    exact fun _ _ => rfl
  rw [assembleMessage, hCalls, List.flatMap_map, List.findSome?_map, mergeCalls, except_ok_bind]
  simp
  rfl

/-- The streamed message is the upstream one exactly when that has no tool calls. -/
theorem receivedMessage_iff {includeUsage : Bool} :
    receivedMessage (deltasOf (eventsOf includeUsage {} (events.map UpstreamEvent.chunk))) =
        receivedMessage (deltasOf (events.map UpstreamEvent.streamed)) ↔
      events.flatMap UpstreamEvent.toolCalls = [] := by
  have hIndexed : ∀ delta ∈ events.flatMap UpstreamEvent.toolCalls,
      delta.index.isSome = true := by
    intro delta hMem
    obtain ⟨event, -, hDelta⟩ := List.mem_flatMap.mp hMem
    exact event.toolCalls_indexed delta hDelta
  rw [← receiveCalls_eq_nil hIndexed, receivedMessage_chunks, receivedMessage,
    flatMap_streamed (fun delta => delta.content.getD []) rfl,
    flatMap_streamed (fun delta => delta.toolCalls.getD []) rfl,
    findSome_streamed StreamDelta.role rfl]
  change _ = AssistantMessage.mk _ (if _ || ((events.flatMap UpstreamEvent.toolCalls).foldl
    receiveCall []).isEmpty then _ else _) (if ((events.flatMap UpstreamEvent.toolCalls).foldl
    receiveCall []).isEmpty then _ else _) ↔ _
  cases (events.flatMap UpstreamEvent.toolCalls).foldl receiveCall [] with
  | nil => simp
  | cons call rest => simp

theorem lastReason_chunks : lastReason (events.map UpstreamEvent.chunk) =
    receivedReason (events.map UpstreamEvent.streamed) := by
  rw [lastReason, receivedReason, List.filterMap_map, List.filterMap_map]
  rfl

/-- The gateway streams the last finish reason of the upstream, where there is one. -/
theorem receivedReason_chunks {includeUsage : Bool}
    (h : (receivedReason (events.map UpstreamEvent.streamed)).isSome = true) :
    receivedReason (eventsOf includeUsage {} (events.map UpstreamEvent.chunk)) =
      receivedReason (events.map UpstreamEvent.streamed) := by
  rw [← lastReason_chunks] at h ⊢
  have hAny : ((events.map UpstreamEvent.chunk).any fun chunk => chunk.finishReason.isSome) =
      true := by
    obtain ⟨reason, hReason⟩ := Option.isSome_iff_exists.mp h
    obtain ⟨chunk, hMem, hChunk⟩ := List.mem_filterMap.mp (List.mem_of_getLast? hReason)
    exact List.any_eq_true.mpr ⟨chunk, hMem, by rw [hChunk]; rfl⟩
  rw [receivedReason, reasons_eventsOf, hAny, Bool.or_true, if_pos rfl, List.append_nil]
  rfl

/-- A complete report replaces what is known. -/
theorem mergeUsage_facts (current : Option ProviderUsage) (usage : UpstreamUsage) :
    mergeUsage current (some usage.facts) = some usage.facts := by
  cases current <;> rfl

theorem mergeChunkUsage_chunks : mergeChunkUsage (events.map UpstreamEvent.chunk) =
    (events.filterMap UpstreamEvent.usage).getLast?.map UpstreamUsage.facts := by
  have hFold : ∀ (events : List UpstreamEvent) (known : Option UpstreamUsage),
      (events.map UpstreamEvent.chunk).foldl (fun usage chunk => mergeUsage usage chunk.usage)
        (known.map UpstreamUsage.facts) =
      ((events.filterMap UpstreamEvent.usage).getLast?.or known).map UpstreamUsage.facts := by
    intro events
    induction events with
    | nil => exact fun known => rfl
    | cons event rest ih =>
        intro known
        rw [List.map_cons, List.foldl_cons, List.filterMap_cons]
        change List.foldl _ (mergeUsage _ (event.usage.map UpstreamUsage.facts)) _ = _
        cases event.usage with
        | none => exact ih known
        | some usage =>
            rw [Option.map_some, mergeUsage_facts, List.getLast?_cons]
            refine (ih (some usage)).trans ?_
            cases (rest.filterMap UpstreamEvent.usage).getLast? <;> rfl
  exact (hFold events none).trans (congrArg _ Option.or_none)

/-- The gateway streams the last usage of the upstream exactly when that is nothing but
counts. -/
theorem receivedUsage_iff {stream : UpstreamStream loads} :
    SameUsage (receivedUsage (eventsOf true {} (stream.events.map UpstreamEvent.chunk)))
      stream.usage ↔ OnlyCounts stream.usage := by
  have hUsage := @usages_eventsOf {} (stream.events.map UpstreamEvent.chunk) rfl
  rw [show serializedUsage ({} : StreamState).usage = none from rfl, Option.or_none] at hUsage
  rw [receivedUsage, hUsage, ← sameUsage_iff]
  change SameUsage (serializedUsage (mergeChunkUsage _)) _ ↔ _
  rw [mergeChunkUsage_chunks]
  rfl

end Streamed

section Carried

variable {loads : Str → Option Value}

/-- The gateway streams what the upstream does exactly when that has no tool calls and, where
usage is asked for, its usage is nothing but the counts. -/
theorem stream_carried_iff (stream : UpstreamStream loads) (env : Collaborators)
    (metadata : RequestMetadata) (includeUsage : Bool) (count : Nat) :
    stream.CarriedBy includeUsage (streamedEvents (StreamBody.drive
        { env, metadata, includeUsage, cancelled := fun _ => false
          steps := answerSteps (OpenaiProvider.stream loads (fun _ => false)
            (.response stream.status stream.lines false)) } .created
        (List.replicate (count + stream.lines.length + 3) .next)).events) ↔
      stream.toolCalls = [] ∧ (includeUsage = true → OnlyCounts stream.usage) := by
  have hLength : stream.events.length ≤ stream.lines.length := by
    rw [UpstreamStream.lines, List.length_append, List.length_map]
    exact Nat.le_add_right_of_le (List.length_filterMap_le _ _)
  have hCount : count + stream.lines.length + 3 =
      count + (stream.lines.length - stream.events.length) +
        (stream.events.map UpstreamEvent.chunk).length + 3 := by
    rw [List.length_map]
    omega
  rw [stream.stream_eq, answerSteps_eq rfl, hCount,
    @streamed_chunks ⟨env, metadata, chunkSteps (stream.events.map UpstreamEvent.chunk),
      includeUsage, fun _ => false⟩ {} _ (fun _ => rfl) 0 (stream.events.map UpstreamEvent.chunk)
      (fun later => by rw [Nat.zero_add]) rfl]
  constructor
  · intro hCarried
    refine ⟨receivedMessage_iff.mp hCarried.message, ?_⟩
    rintro rfl
    exact receivedUsage_iff.mp (hCarried.usage rfl)
  · rintro ⟨hCalls, hUsage⟩
    refine ⟨receivedMessage_iff.mpr hCalls, receivedReason_chunks stream.finished, ?_⟩
    rintro rfl
    exact receivedUsage_iff.mpr (hUsage rfl)

/-- The delta of an upstream that says "Hi" and stops. -/
def sampleDelta : Dict := [(text "role", .str "assistant"), (text "content", .str "Hi")]

def sampleEvent : UpstreamEvent where
  document := [(text "choices", .list [.dict [(text "delta", .dict sampleDelta),
    (text "finish_reason", .str "stop")]])]
  choice := some { delta := { role := some "assistant", content := some "Hi" }
                   finishReason := some "stop" }
  usage := none
  choicesEntry := ⟨_, _, rfl, rfl, ⟨rfl, rfl, .inl ⟨rfl, rfl⟩, by simp⟩, rfl⟩
  usageEntry := rfl

/-- The JSON text of that event. -/
def samplePayload : Str := text
  "\x7b\"choices\":[\x7b\"delta\":\x7b\"role\":\"assistant\",\"content\":\"Hi\"\x7d,\"finish_reason\":\"stop\"\x7d]\x7d"

def sampleLoads (payload : Str) : Option Value :=
  if payload = samplePayload then some (.dict sampleEvent.document) else none

/-- A comment, the event and the end of a stream. -/
def sampleStream : UpstreamStream sampleLoads where
  status := 200
  told := [.silent (text ": ping") (.inl (by decide)),
    .event (text "data: " ++ samplePayload) sampleEvent (by decide) (by decide)
      (if_pos (by decide))]
  closing := [text "data: [DONE]"]
  accepted := by decide
  closes line hLine := by
    rw [List.mem_singleton.mp hLine]
    exact .inr (by decide)
  finished := by decide

example (env : Collaborators) (metadata : RequestMetadata) (count : Nat) :
    sampleStream.CarriedBy true (streamedEvents (StreamBody.drive
      { env, metadata, includeUsage := true, cancelled := fun _ => false
        steps := answerSteps (OpenaiProvider.stream sampleLoads (fun _ => false)
          (.response 200 sampleStream.lines false)) } .created
      (List.replicate (count + sampleStream.lines.length + 3) .next)).events) :=
  (stream_carried_iff sampleStream env metadata true count).mpr
    ⟨rfl, fun _ facts hMem => by cases hMem⟩

end Carried

/-- What the provider yields lets the gateway give the upstream answer exactly when that has no
tool calls, its unary content is a text, and its usage is nothing but the counts. -/
theorem provider_carries_iff (loads : Str → Option Value) (env : Collaborators) :
    (∀ (body : UpstreamBody) (attempt : Nat),
      body.CarriedBy (collectAll env attempt
          (collect false (.response body.status (some (.dict body.document))))) ↔
        body.toolCalls = [] ∧ body.content ≠ none ∧ OnlyCounts body.usage) ∧
    ∀ (stream : UpstreamStream loads) (metadata : RequestMetadata) (includeUsage : Bool)
      (count : Nat),
      stream.CarriedBy includeUsage (streamedEvents (StreamBody.drive
          { env, metadata, includeUsage, cancelled := fun _ => false
            steps := answerSteps (OpenaiProvider.stream loads (fun _ => false)
              (.response stream.status stream.lines false)) } .created
          (List.replicate (count + stream.lines.length + 3) .next)).events) ↔
        stream.toolCalls = [] ∧ (includeUsage = true → OnlyCounts stream.usage) :=
  ⟨fun body => body_carried_iff body env, fun stream metadata includeUsage count =>
    stream_carried_iff stream env metadata includeUsage count⟩

/-- A tool call as an upstream sends it. -/
def sampleCall : Dict :=
  [(text "id", .str "call_1"), (text "type", .str "function"),
    (text "function", .dict [(text "name", .str "lookup"), (text "arguments", .str "[]")])]

/-- An upstream answer that asks for a tool. -/
def sampleMessage : Dict :=
  [(text "role", .str "assistant"), (text "content", .none),
    (text "tool_calls", .list [.dict sampleCall])]

def sampleChoice : Dict :=
  [(text "message", .dict sampleMessage), (text "finish_reason", .str "tool_calls")]

def sampleBody : UpstreamBody where
  status := 200
  document := [(text "choices", .list [.dict sampleChoice])]
  choice := sampleChoice
  message := sampleMessage
  role := "assistant"
  content := none
  toolCalls := [{ id := some "call_1", type := some "function"
                  function := some { name := some "lookup", arguments := some "[]" } }]
  finishReason := "tool_calls"
  usage := none
  accepted := by decide
  choicesEntry := rfl
  messageEntry := rfl
  roleEntry := rfl
  contentEntry := rfl
  callsEntry := .inr ⟨_, rfl, .cons ⟨sampleCall, rfl, rfl, rfl, rfl, _, rfl, rfl, rfl⟩ .nil⟩
  reasonEntry := rfl
  usageEntry := rfl
  roleFilled := by decide
  reasonFilled := by decide

/-- The tool call of this answer is lost. -/
theorem provider_loses_calls : ¬ ∀ (loads : Str → Option Value) (env : Collaborators),
    (∀ (body : UpstreamBody) (attempt : Nat),
      body.CarriedBy (collectAll env attempt
        (collect false (.response body.status (some (.dict body.document)))))) ∧
    ∀ (stream : UpstreamStream loads) (metadata : RequestMetadata) (includeUsage : Bool)
      (count : Nat),
      stream.CarriedBy includeUsage (streamedEvents (StreamBody.drive
        { env, metadata, includeUsage, cancelled := fun _ => false
          steps := answerSteps (OpenaiProvider.stream loads (fun _ => false)
            (.response stream.status stream.lines false)) } .created
        (List.replicate (count + stream.lines.length + 3) .next)).events) := by
  intro h
  have hCalls := ((body_carried_iff sampleBody calmCollaborators 0).mp
    ((h (fun _ => none) calmCollaborators).1 sampleBody 0)).1
  cases hCalls

end CyreneExchange.Gateway
