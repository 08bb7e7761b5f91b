import CyreneExchange.Gateway.RoundTrip
import CyreneExchange.Gateway.UnaryAudit

/-! Two requests that differ only in their media show the router the same. -/
namespace CyreneExchange.Gateway
open CyreneExchange.General

section Relations

/-- The entries of a content part that hold private media. -/
def mediaKeys : List Str := [text "data", text "artifact_id", text "filename"]

/-- Two parts that differ only in inline bytes of one length, in the artifact
identifier or in the file name. -/
structure SamePart (first second : Dict) : Prop where
  rest : ∀ key, key ∉ mediaKeys → first.lookup key = second.lookup key
  data : first.get "data" = second.get "data" ∨ ∃ a b, first.get "data" = .bytes a ∧
    second.get "data" = .bytes b ∧ a.length = b.length
  artifact : first.has "artifact_id" = second.has "artifact_id"

/-- Two contents that differ only in the media of their parts. -/
inductive SameContent : Value → Value → Prop
  | refl (content : Value) : SameContent content content
  | parts {first second : List Dict} (hParts : List.Forall₂ SamePart first second) :
      SameContent (.tuple (first.map .dict)) (.tuple (second.map .dict))

/-- Two messages that differ only in the media of their contents. -/
inductive SameMessage : Dict → Dict → Prop
  | refl (message : Dict) : SameMessage message message
  | content {message : Dict} {content : Value}
      (hContent : SameContent (message.get "content") content) :
      SameMessage message (message.set "content" content)

/-- Two requests that differ only in the media of their messages. -/
structure SameButMedia (first second : NormalizedInferenceRequest) : Prop where
  rest : { first with messages := [] } = { second with messages := [] }
  messages : List.Forall₂ SameMessage first.messages second.messages

end Relations

section Routing

theorem SamePart.get {first second : Dict} (h : SamePart first second) {key : Str}
    (hKey : key ∉ mediaKeys) : first.get key = second.get key := by
  rw [Dict.get, Dict.get, Dict.getD, Dict.getD, h.rest key hKey]

/-- A parsed part of type text has nothing but its text. -/
theorem textPart_of_type {part : Dict} (hPart : CanonicalPart (.dict part))
    (hType : (part.get "type").asStr = some (text "text")) :
    part = textPart ((part.get "text").asStr.getD []) := by
  cases hPart with
  | ofText body => rfl
  | ofMedia hKind hMime hSource hFilename =>
      rename_i partType mimeType source filename
      have hSame : partType = text "text" := Option.some.inj hType
      rw [hSame] at hKind
      simp at hKind

/-- A part that the parser returns shows the router only what is not media. -/
theorem routePart_same {first second : Dict} (hFirst : CanonicalPart (.dict first))
    (hSecond : CanonicalPart (.dict second)) (h : SamePart first second) :
    routePart (.dict first) = routePart (.dict second) := by
  have hType : first.get "type" = second.get "type" := h.get (by decide)
  have hMime : first.get "mime_type" = second.get "mime_type" := h.get (by decide)
  have hText : first.get "text" = second.get "text" := h.get (by decide)
  unfold routePart
  dsimp only [Value.asDict]
  by_cases hKind : (second.get "type").asStr = some (text "text")
  · have hKind' : (first.get "type").asStr = some (text "text") := by rw [hType, hKind]
    rw [if_pos hKind, if_pos hKind', textPart_of_type hFirst hKind',
      textPart_of_type hSecond hKind, hText]
  · rw [hType, hMime, if_neg hKind, if_neg hKind, h.artifact]
    rcases h.data with hData | ⟨a, b, hA, hB, hLength⟩
    · rw [hData]
    · rw [hA, hB]
      dsimp only
      rw [hLength]

theorem routeParts_same {first second : List Dict}
    (hFirst : ∀ part ∈ first, CanonicalPart (.dict part))
    (hSecond : ∀ part ∈ second, CanonicalPart (.dict part))
    (h : List.Forall₂ SamePart first second) :
    (first.map Value.dict).map routePart = (second.map Value.dict).map routePart := by
  induction h with
  | nil => rfl
  | cons hHead hTail ih =>
      rw [List.forall_mem_cons] at hFirst hSecond
      simp only [List.map_cons, routePart_same hFirst.1 hSecond.1 hHead, ih hFirst.2 hSecond.2]

theorem canonicalParts {message : Dict} {parts : List Dict} (h : CanonicalMessage message)
    (hContent : message.get "content" = .tuple (parts.map .dict)) :
    ∀ part ∈ parts, CanonicalPart (.dict part) := by
  obtain ⟨role, content, hFields⟩ := h
  have hSame : message.get "content" = content := by
    rw [Dict.get, Dict.getD, hFields.present]
    rfl
  have hShape := hFields.shape
  rw [← hSame, hContent] at hShape
  cases hShape with
  | parts hRole hSome hLength hParts =>
      intro part hMem
      exact hParts _ (List.mem_map_of_mem hMem)

theorem routeMessage_same {first second : Dict} (hFirst : CanonicalMessage first)
    (hSecond : CanonicalMessage second) (h : SameMessage first second) :
    routeMessage first = routeMessage second := by
  cases h with
  | refl => rfl
  | content hContent =>
      rename_i content
      generalize hGet : first.get "content" = original at hContent
      cases hContent with
      | refl =>
          obtain ⟨role, content, hFields⟩ := hFirst
          have hKept : first.set "content" (first.get "content") = first := by
            rw [Dict.get, Dict.getD, hFields.present]
            exact Dict.set_eq_self hFields.present
          rw [← hGet, hKept]
      | parts hParts =>
          rename_i parts parts'
          have hPartsFirst := canonicalParts hFirst hGet
          have hPartsSecond := canonicalParts hSecond Dict.get_set_self
          unfold routeMessage
          rw [hGet, Dict.get_set_self]
          dsimp only [Value.asSequence]
          rw [Dict.set_set, routeParts_same hPartsFirst hPartsSecond hParts]

/-- The scrubbed request does not depend on the media. -/
theorem requestForRouting_same {first second : NormalizedInferenceRequest}
    (hFirst : CanonicalRequest first) (hSecond : CanonicalRequest second)
    (h : SameButMedia first second) : requestForRouting first = requestForRouting second := by
  have hMessages : ∀ {first second : List Dict}, (∀ message ∈ first, CanonicalMessage message) →
      (∀ message ∈ second, CanonicalMessage message) → List.Forall₂ SameMessage first second →
        first.map routeMessage = second.map routeMessage := by
    intro first second hFirst hSecond hSame
    induction hSame with
    | nil => rfl
    | cons hHead hTail ih =>
        rw [List.forall_mem_cons] at hFirst hSecond
        rw [List.map_cons, List.map_cons, routeMessage_same hFirst.1 hSecond.1 hHead,
          ih hFirst.2 hSecond.2]
  calc requestForRouting first
      = { ({ first with messages := [] } : NormalizedInferenceRequest) with
            messages := first.messages.map routeMessage } := rfl
    _ = { ({ second with messages := [] } : NormalizedInferenceRequest) with
            messages := second.messages.map routeMessage } := by
        rw [h.rest, hMessages hFirst.messages hSecond.messages h.messages]
    _ = requestForRouting second := rfl

end Routing

/-- Two accepted payloads whose requests differ only in their media show the
router the same request, whoever handles them. -/
theorem routing_sees_no_media {payload payload' : Dict}
    {request request' : NormalizedInferenceRequest}
    (hParsed : NormalizedInferenceRequest.fromOpenai (.dict payload) = .ok request)
    (hParsed' : NormalizedInferenceRequest.fromOpenai (.dict payload') = .ok request')
    (hSame : SameButMedia request request') :
    requestForRouting request = requestForRouting request' ∧
      ∀ (env env' : Collaborators) (maxRouteAttempts maxRouteAttempts' : Nat)
        (requestId requestId' : Str) (headers headers' : List (Str × Str))
        (routed routed' : RoutedRequest),
        .planned routed ∈
          (handleOpenaiChat env maxRouteAttempts requestId headers payload).events →
        .planned routed' ∈
          (handleOpenaiChat env' maxRouteAttempts' requestId' headers' payload').events →
        routed = routed' := by
  have hRouted := requestForRouting_same (fromOpenai_canonical hParsed).1
    (fromOpenai_canonical hParsed').1 hSame
  have hPlanned : ∀ {env maxRouteAttempts requestId headers payload routed request},
      NormalizedInferenceRequest.fromOpenai (.dict payload) = .ok request →
      .planned routed ∈ (handleOpenaiChat env maxRouteAttempts requestId headers payload).events →
      routed = .chat (requestForRouting request) := by
    intro env maxRouteAttempts requestId headers payload routed request hParsed hMem
    rcases mem_handleOpenaiChat hMem with h | ⟨found, hFound, h⟩ | ⟨_, h⟩
    · cases h
    · rw [hParsed] at hFound
      cases hFound
      cases h
      rfl
    · cases h
  refine ⟨hRouted, ?_⟩
  intro env env' maxRouteAttempts maxRouteAttempts' requestId requestId' headers headers' routed
    routed' hMem hMem'
  rw [hPlanned hParsed hMem, hPlanned hParsed' hMem', hRouted]

/-- A message with an inline image and a referenced file. -/
def mediaPayload (encoded artifactId filename : String) : Dict :=
  [("model", .str "m"),
    ("messages", .list [.dict [("role", .str "user"), ("content", .list [
      .dict [("type", .str "text"), ("text", .str "look")],
      .dict [("type", .str "image"), ("mime_type", .str "image/png"),
        ("data_base64", .str encoded)],
      .dict [("type", .str "file"), ("mime_type", .str "text/plain"),
        ("artifact_id", .str artifactId), ("filename", .str filename)]])]])]

/-- The parts that this payload is parsed to. -/
def mediaParts (data : List UInt8) (artifactId filename : String) : List Dict :=
  [textPart "look", mediaPart "image" "image/png" (.inline data) none,
    mediaPart "file" "text/plain" (.artifact artifactId) (some filename)]

/-- The message that this payload is parsed to. -/
def mediaMessage (data : List UInt8) (artifactId filename : String) : Dict :=
  [("role", .str "user"), ("content", .tuple ((mediaParts data artifactId filename).map .dict))]

/-- The request that this payload is parsed to. -/
def mediaRequest (data : List UInt8) (artifactId filename : String) : NormalizedInferenceRequest :=
  { model := "m", messages := [mediaMessage data artifactId filename], stream := false }

theorem sameParts {data data' : List UInt8} (hLength : data.length = data'.length)
    (artifactId artifactId' filename filename' : String) :
    List.Forall₂ SamePart (mediaParts data artifactId filename)
      (mediaParts data' artifactId' filename') := by
  refine .cons ⟨fun _ _ => rfl, .inl rfl, rfl⟩ (.cons ⟨?_, ?_, rfl⟩ (.cons ⟨?_, .inl rfl, rfl⟩ .nil))
  · intro key hKey
    simp only [mediaKeys, List.mem_cons, not_or] at hKey
    have hData : (key == text "data") = false := by simpa using hKey.1
    simp [mediaPart, MediaSource.entry, filenameEntry, List.lookup_cons, hData]
  · exact .inr ⟨data, data', rfl, rfl, hLength⟩
  · intro key hKey
    simp only [mediaKeys, List.mem_cons, not_or] at hKey
    have hArtifact : (key == text "artifact_id") = false := by simpa using hKey.2.1
    have hFilename : (key == text "filename") = false := by simpa using hKey.2.2.1
    simp [mediaPart, MediaSource.entry, filenameEntry, List.lookup_cons, hArtifact, hFilename]

theorem routing_sees_no_media_sample :
    requestForRouting (mediaRequest [0, 0, 0] "a1" "x.txt") =
      requestForRouting (mediaRequest [1, 2, 3] "b2" "y.txt") := by
  have hParsed : NormalizedInferenceRequest.fromOpenai (.dict (mediaPayload "AAAA" "a1" "x.txt")) =
      .ok (mediaRequest [0, 0, 0] "a1" "x.txt") := rfl
  have hParsed' : NormalizedInferenceRequest.fromOpenai (.dict (mediaPayload "AQID" "b2" "y.txt")) =
      .ok (mediaRequest [1, 2, 3] "b2" "y.txt") := rfl
  have hLength : ([0, 0, 0] : List UInt8).length = ([1, 2, 3] : List UInt8).length := rfl
  have hMessage : SameMessage (mediaMessage [0, 0, 0] "a1" "x.txt")
      ((mediaMessage [0, 0, 0] "a1" "x.txt").set "content"
        (.tuple ((mediaParts [1, 2, 3] "b2" "y.txt").map .dict))) :=
    .content (.parts (sameParts hLength "a1" "b2" "x.txt" "y.txt"))
  exact (routing_sees_no_media hParsed hParsed' ⟨rfl, .cons hMessage .nil⟩).1

end CyreneExchange.Gateway
