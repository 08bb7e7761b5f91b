import CyreneExchange.Gateway.RoutingPrivacy

/-! Media resolution: what a provider is given once every artifact is read, and
that no provider runs where one cannot be. -/
namespace CyreneExchange.Gateway
open CyreneExchange.General

section Resolved

/-- The media bytes in a content part. -/
def partBytes (part : Value) : Nat :=
  match part.asDict with
  | some d =>
      match d.get "data" with
      | .bytes data => data.length
      | _ => 0
  | none => 0

/-- The media bytes in the parts of a message. -/
def messageBytes (message : Dict) : Nat :=
  match (message.get "content").asSequence with
  | some parts => (parts.map partBytes).sum
  | none => 0

/-- No part of the message refers to an artifact. -/
def FreeOfArtifacts (message : Dict) : Prop :=
  ∀ parts, (message.get "content").asSequence = some parts →
    ∀ part : Dict, .dict part ∈ parts → part.has "artifact_id" = false

variable (env : Collaborators) (principal : RequestPrincipal)

/-- The reference in `part` gives way to what the resolver reads for it, and
nothing else in the part changes. -/
structure Fetched (message index : Nat) (part resolved : Dict)
    (artifact : ResolvedMediaArtifact) : Prop where
  read : ∃ resolver artifactId, env.readArtifact = some resolver ∧
    part.get "artifact_id" = .str artifactId ∧
    resolver message index artifactId principal = .ok (some artifact)
  freed : resolved.has "artifact_id" = false
  data : resolved.get "data" = .bytes artifact.data
  rest : ∀ key, key ≠ text "artifact_id" → key ≠ text "data" →
    resolved.lookup key = part.lookup key
  mimeType : part.get "mime_type" = .str artifact.mimeType
  digest : artifact.sha256 = env.sha256 artifact.data
  size : artifact.size = artifact.data.length

/-- What becomes of a content part. -/
inductive PartResolved (message index : Nat) : Value → Value → Prop
  | kept {part : Dict} (hFree : part.has "artifact_id" = false) :
      PartResolved message index (.dict part) (.dict part)
  | fetched {part resolved : Dict} {artifact : ResolvedMediaArtifact}
      (hReference : part.has "artifact_id" = true)
      (hFetched : Fetched env principal message index part resolved artifact) :
      PartResolved message index (.dict part) (.dict resolved)

/-- What becomes of a message: its parts are resolved in their places. -/
inductive MessageResolved (index : Nat) : Dict → Dict → Prop
  | plain {message : Dict} (hPlain : (message.get "content").asSequence = none) :
      MessageResolved index message message
  | parts {message : Dict} {before after : List Value}
      (hContent : (message.get "content").asSequence = some before)
      (hParts : Placewise (PartResolved env principal index) 0 before after) :
      MessageResolved index message (message.set "content" (.tuple after))

/-- What a provider may be given for this request. -/
structure MediaResolved (request provided : NormalizedInferenceRequest) : Prop where
  rest : { provided with model := request.model, messages := request.messages } = request
  messages : Placewise (MessageResolved env principal) 0 request.messages provided.messages
  free : ∀ message ∈ provided.messages, FreeOfArtifacts message
  bounded : (provided.messages.map messageBytes).sum ≤ maxChatMediaBytes

variable {env principal}

theorem PartResolved.free {message index : Nat} {part resolved : Value}
    (h : PartResolved env principal message index part resolved) :
    ∀ d : Dict, resolved = .dict d → d.has "artifact_id" = false := by
  rintro d rfl
  cases h with
  | kept hFree => exact hFree
  | fetched _ hFetched => exact hFetched.freed

/-- An accepted part is resolved and its bytes are counted. -/
theorem resolvePart_eq_ok {message index total next : Nat} {part : Dict} {resolved : Value}
    (h : resolvePart env principal message index total (.dict part) = .ok (resolved, next)) :
    PartResolved env principal message index (.dict part) resolved ∧
      next = total + partBytes resolved ∧ (total ≤ maxChatMediaBytes → next ≤ maxChatMediaBytes) := by
  unfold resolvePart at h
  dsimp only [Value.asDict] at h
  cases hReference : part.has "artifact_id" with
  | false =>
      rw [hReference, if_neg Bool.false_ne_true] at h
      split at h
      · rename_i data hData
        split at h
        · rename_i hFits
          cases h
          refine ⟨.kept hReference, ?_, fun _ => hFits⟩
          simp only [partBytes, Value.asDict, hData]
        · cases h
      · rename_i hData
        cases h
        refine ⟨.kept hReference, ?_, id⟩
        cases hGet : part.get "data" with
        | bytes data => exact (hData data hGet).elim
        | _ => simp only [partBytes, Value.asDict, hGet, Nat.add_zero]
  | true =>
      rw [hReference, if_pos rfl] at h
      split at h
      · cases h
      split at h
      · cases h
      · cases h
      rename_i resolver artifactId hResolver hArtifactId
      split at h
      · cases h
      · split at h <;> cases h
      rename_i found hFound
      split at h
      · cases h
      split at h
      · cases h
      rename_i artifact
      split at h
      · rename_i hChecks
        obtain ⟨hMime, -, hSize, -, hDigest, hFits⟩ := hChecks
        cases h
        refine ⟨.fetched hReference ⟨⟨resolver, artifactId, hResolver,
          Value.asStr_eq_some.mp hArtifactId, hFound⟩, ?_, Dict.get_set_self, ?_,
          Value.asStr_eq_some.mp hMime, hDigest, hSize⟩, ?_, fun _ => hFits⟩
        · rw [Dict.has_set_of_ne (by decide), Dict.has, Dict.lookup_dropped]
          rfl
        · intro key hArtifact hData
          rw [Dict.lookup_set_of_ne hData, Dict.lookup_kept hArtifact]
        · simp only [partBytes, Value.asDict, Dict.get_set_self]
      · cases h

/-- The parts that the parser leaves in a message are dictionaries. -/
theorem canonicalDicts {message : Dict} {parts : List Value} (h : CanonicalMessage message)
    (hContent : (message.get "content").asSequence = some parts) :
    ∀ part ∈ parts, ∃ d, part = .dict d := by
  obtain ⟨role, content, hFields⟩ := h
  have hSame : message.get "content" = content := by
    rw [Dict.get, Dict.getD, hFields.present]
    rfl
  have hShape := hFields.shape
  rw [hSame] at hContent
  cases hShape with
  | parts hRole hSome hLength hParts =>
      cases hContent
      intro part hMem
      cases hParts part hMem with
      | ofText body => exact ⟨_, rfl⟩
      | ofMedia => exact ⟨_, rfl⟩
  | ofText => cases hContent
  | null => cases hContent

/-- The parts of an accepted message are free, and its bytes are counted. -/
theorem resolveMessage_eq_ok {index total next : Nat} {message resolved : Dict}
    (hCanonical : CanonicalMessage message)
    (h : resolveMessage env principal index total message = .ok (resolved, next)) :
    (MessageResolved env principal index message resolved ∧ FreeOfArtifacts resolved) ∧
      next = total + messageBytes resolved ∧
        (total ≤ maxChatMediaBytes → next ≤ maxChatMediaBytes) := by
  unfold resolveMessage at h
  split at h
  · rename_i hPlain
    cases h
    refine ⟨⟨.plain hPlain, fun parts hParts => ?_⟩, ?_, id⟩
    · rw [hPlain] at hParts
      cases hParts
    · simp only [messageBytes, hPlain, Nat.add_zero]
  · rename_i parts hContent
    obtain ⟨⟨after, reached⟩, hPass, hOut⟩ := except_bind_eq_ok.mp h
    cases hOut
    have hDicts : ∀ part ∈ parts, ∃ d, part = .dict d := canonicalDicts hCanonical hContent
    have hPart : ∀ part ∈ parts, ∀ place before result after,
        resolvePart env principal index place before part = .ok (result, after) →
        PartResolved env principal index place part result ∧ after = before + partBytes result ∧
          (before ≤ maxChatMediaBytes → after ≤ maxChatMediaBytes) := by
      intro part hMem place before result after hResolved
      obtain ⟨d, rfl⟩ := hDicts part hMem
      exact resolvePart_eq_ok hResolved
    obtain ⟨hPlaces, hTotal, hBounded⟩ := placewise_of_pass hPart hPass
    refine ⟨⟨.parts hContent hPlaces, ?_⟩, ?_, hBounded⟩
    · intro found hFound part hMem
      rw [Dict.get_set_self] at hFound
      cases hFound
      obtain ⟨place, source, hResolved⟩ := hPlaces.of_mem hMem
      exact hResolved.free part rfl
    · refine hTotal.trans ?_
      simp only [messageBytes, Dict.get_set_self, Value.asSequence]

/-- Resolved media is what a provider may be given. -/
theorem resolveMediaArtifacts_eq_ok {request resolved : NormalizedInferenceRequest}
    (hCanonical : CanonicalRequest request)
    (h : resolveMediaArtifacts env request principal = .ok resolved) :
    MediaResolved env principal request resolved := by
  obtain ⟨⟨messages, total⟩, hPass, hOut⟩ := except_bind_eq_ok.mp h
  cases hOut
  have hMessage : ∀ message ∈ request.messages, ∀ place before result after,
      resolveMessage env principal place before message = .ok (result, after) →
      (MessageResolved env principal place message result ∧ FreeOfArtifacts result) ∧
        after = before + messageBytes result ∧
          (before ≤ maxChatMediaBytes → after ≤ maxChatMediaBytes) :=
    fun message hMem _ _ _ _ => resolveMessage_eq_ok (hCanonical.messages message hMem)
  obtain ⟨hPlaces, hTotal, hBounded⟩ := placewise_of_pass hMessage hPass
  refine ⟨rfl, hPlaces.imp fun _ _ _ => And.left, ?_, ?_⟩
  · intro message hMem
    obtain ⟨_, _, -, hFree⟩ := hPlaces.of_mem hMem
    exact hFree
  · have hFits := hBounded (Nat.zero_le _)
    rwa [hTotal, Nat.zero_add] at hFits

/-- The target may name the model, and nothing else. -/
theorem MediaResolved.renamed {request provided : NormalizedInferenceRequest}
    (h : MediaResolved env principal request provided) (target : RouteTarget) :
    MediaResolved env principal request (chatProviderRequest provided target) := by
  unfold chatProviderRequest
  split
  · exact ⟨h.rest, h.messages, h.free, h.bounded⟩
  · exact h

end Resolved

section Handling

variable {env : Collaborators} {requestId : Str} {headers : List (Str × Str)} {payload : Dict}
  {principal : RequestPrincipal} {request : NormalizedInferenceRequest} {maxRouteAttempts : Nat}

/-- The candidate loop asks its collaborators only for the cancellation event
and the observer. -/
theorem attempts_congr {env' : Collaborators} {clauses : Bool → Raise → Handled}
    {metadata : RouteTarget → RequestMetadata} {rejection : Str → Str → Rejection}
    {call call' : Nat → RouteTarget → RequestMetadata → Handling GatewayResponse}
    (hCancelled : env'.cancelled = env.cancelled) (hObserver : env'.observer = env.observer)
    (hCall : ∀ attempt target metadata, call' attempt target metadata = call attempt target metadata)
    (attempt : Nat) (targets : List RouteTarget) :
    attempts env' clauses metadata rejection call' attempt targets =
      attempts env clauses metadata rejection call attempt targets := by
  obtain rfl : call' = call := by
    funext attempt target metadata
    exact hCall attempt target metadata
  have hObserve : observe env' = observe env := by
    funext made
    rw [observe, observe, hObserver]
  induction targets generalizing attempt with
  | nil => rfl
  | cons target rest ih =>
      rw [attempts_cons, attempts_cons, ih]
      simp only [guarded, reject, conclude, hObserve, hCancelled]

/-- A provider call depends on what the provider answers to the request it is given. -/
theorem chatCall_congr {env' : Collaborators} {target : RouteTarget} {metadata : RequestMetadata}
    {attempt : Nat} (hProvider : env'.provider = env.provider)
    (hCancelled : env'.cancelled = env.cancelled)
    (hComplete : env'.complete attempt target.providerRef (chatProviderRequest request target) =
      env.complete attempt target.providerRef (chatProviderRequest request target))
    (hStream : env'.completeStream attempt target.providerRef (chatProviderRequest request target) =
      env.completeStream attempt target.providerRef (chatProviderRequest request target)) :
    chatCall env' attempt request target metadata = chatCall env attempt request target metadata := by
  have hChunks : ∀ ending rest collected, collectChunks env' attempt ending collected rest =
      collectChunks env attempt ending collected rest := by
    intro ending rest
    induction rest with
    | nil => intro collected; rfl
    | cons chunk rest ih =>
        intro collected
        rw [collectChunks, collectChunks, hCancelled, ih]
  have hCollect : ∀ first rest ending, collectResponse env' attempt first rest ending =
      collectResponse env attempt first rest ending := by
    intro first rest ending
    rw [collectResponse, collectResponse, hChunks]
  simp only [chatCall, resolveProvider, hProvider, hComplete, hStream, hCollect]

theorem admitted_unique {found : RequestPrincipal} (hFound : Admits env headers found)
    (hAdmits : Admits env headers principal) : found = principal :=
  Except.ok.inj (hFound.authenticated.symm.trans hAdmits.authenticated)

/-- No provider runs where the media cannot be resolved. -/
theorem unresolved_raises {e : Raise} (hAdmits : Admits env headers principal)
    (hParsed : NormalizedInferenceRequest.fromOpenai (.dict payload) = .ok request)
    (hMedia : resolveMediaArtifacts env request principal = .error e) :
    (∃ raised, (handleOpenaiChat env maxRouteAttempts requestId headers payload).result =
        .error raised) ∧
      ∀ providerRef, Event.invoked providerRef ∉
        (handleOpenaiChat env maxRouteAttempts requestId headers payload).events := by
  have hStopped : ∀ rejection resolved,
      (guarded env (resolveMediaArtifacts env request principal) (reportMedia rejection)).result ≠
        .ok resolved := by
    intro rejection resolved hResolved
    rw [guarded_result, hMedia] at hResolved
    cases hResolved
  rw [handleOpenaiChat_eq]
  constructor
  · cases hResult : (admission env requestId headers (payloadModel payload) (payloadStream payload) >>=
        fun principal => _).result with
    | error raised => exact ⟨raised, rfl⟩
    | ok response =>
        simp only [Traced.result_bind_eq_ok, admission_result, parsed_result, runChat] at hResult
        obtain ⟨found, hFound, parsed, hSame, _, -, _, -, resolved, hResolved, -⟩ := hResult
        obtain rfl := admitted_unique hFound hAdmits
        rw [hParsed] at hSame
        cases hSame
        exact (hStopped _ _ hResolved).elim
  · intro providerRef hMem
    simp only [Traced.mem_events_bind, admission_result, parsed_result, runChat] at hMem
    rcases hMem with hMem | ⟨found, hFound, hMem | ⟨parsed, hSame, hMem | ⟨_, -, hMem |
      ⟨_, -, hMem | ⟨resolved, hResolved, -⟩⟩⟩⟩⟩
    · exact admission_not_invoked providerRef hMem
    · exact guarded_not_invoked providerRef hMem
    · exact guarded_not_invoked providerRef hMem
    · exact route_not_invoked providerRef hMem
    · exact guarded_not_invoked providerRef hMem
    · obtain rfl := admitted_unique hFound hAdmits
      rw [hParsed] at hSame
      cases hSame
      exact hStopped _ _ hResolved

/-- Only the answers to requests with resolved media matter. -/
theorem providers_given_resolved (hAdmits : Admits env headers principal)
    (hParsed : NormalizedInferenceRequest.fromOpenai (.dict payload) = .ok request)
    {complete : Nat → Str → NormalizedInferenceRequest → Except Raise ProviderAnswer}
    {completeStream : Nat → Str → NormalizedInferenceRequest →
      Except Raise (Nat → ProviderStep)}
    (hAgree : ∀ attempt providerRef provided, MediaResolved env principal request provided →
      complete attempt providerRef provided = env.complete attempt providerRef provided ∧
        completeStream attempt providerRef provided =
          env.completeStream attempt providerRef provided) :
    handleOpenaiChat { env with complete, completeStream } maxRouteAttempts requestId headers
        payload =
      handleOpenaiChat env maxRouteAttempts requestId headers payload := by
  rw [handleOpenaiChat_eq, handleOpenaiChat_eq]
  refine Traced.bind_congr fun found hFound => ?_
  refine Traced.bind_congr fun parsed hSame => ?_
  refine Traced.bind_congr fun _ _ => ?_
  refine Traced.bind_congr fun candidates _ => ?_
  refine Traced.bind_congr fun resolved hResolved => ?_
  -- none of the stages before the attempts asks a provider
  have hAdmitted : (admission env requestId headers (payloadModel payload)
      (payloadStream payload)).result = .ok found := hFound
  have hMedia : (guarded env (resolveMediaArtifacts env parsed found) (reportMedia
      (requestRejection requestId found (some parsed.model) (some parsed.stream)))).result =
        .ok resolved := hResolved
  obtain rfl := admitted_unique (admission_result.mp hAdmitted) hAdmits
  rw [parsed_result, hParsed] at hSame
  cases hSame
  have hGiven := resolveMediaArtifacts_eq_ok (fromOpenai_canonical hParsed).1
    (guarded_result.mp hMedia)
  apply attempts_congr
  · rfl
  · rfl
  intro attempt target metadata
  obtain ⟨hComplete, hStream⟩ := hAgree attempt target.providerRef
    (chatProviderRequest resolved target) (hGiven.renamed target)
  apply chatCall_congr
  · rfl
  · rfl
  · exact hComplete
  · exact hStream

end Handling

/-- Once a request is admitted and parsed, a provider is only ever given it with
its media resolved; where that fails the handler raises and no provider runs. -/
theorem media_resolved_first (env : Collaborators) (maxRouteAttempts : Nat) (requestId : Str)
    (headers : List (Str × Str)) (payload : Dict) (principal : RequestPrincipal)
    (request : NormalizedInferenceRequest) (hAdmits : Admits env headers principal)
    (hParsed : NormalizedInferenceRequest.fromOpenai (.dict payload) = .ok request) :
    match resolveMediaArtifacts env request principal with
    | .ok resolved => MediaResolved env principal request resolved ∧
        ∀ complete completeStream,
          (∀ attempt providerRef provided, MediaResolved env principal request provided →
            complete attempt providerRef provided = env.complete attempt providerRef provided ∧
              completeStream attempt providerRef provided =
                env.completeStream attempt providerRef provided) →
          handleOpenaiChat { env with complete, completeStream } maxRouteAttempts requestId headers
              payload =
            handleOpenaiChat env maxRouteAttempts requestId headers payload
    | .error _ =>
        (∃ raised, (handleOpenaiChat env maxRouteAttempts requestId headers payload).result =
          .error raised) ∧
        ∀ providerRef, Event.invoked providerRef ∉
          (handleOpenaiChat env maxRouteAttempts requestId headers payload).events := by
  cases hMedia : resolveMediaArtifacts env request principal with
  | ok resolved =>
      exact ⟨resolveMediaArtifacts_eq_ok (fromOpenai_canonical hParsed).1 hMedia,
        fun _ _ hAgree => providers_given_resolved hAdmits hParsed hAgree⟩
  | error e => exact unresolved_raises hAdmits hParsed hMedia

/-- `hashlib.sha256(b"a").hexdigest()`. -/
def letterDigest : Str := "ca978112ca1bbdcafac231b39a23dc4da786eff8147c4e72b9807785afee48bb"

/-- The actor that these collaborators admit. -/
def calmPrincipal : RequestPrincipal :=
  { actorId := "a", workspaceId := "w", credentialRef := "c" }

/-- Collaborators with a store of one text file. -/
def mediaCollaborators : Collaborators :=
  { calmCollaborators with
    readArtifact := some fun _ _ artifactId _ => .ok (if artifactId = text "a1" then
      some { mimeType := "text/plain", data := [97], sha256 := letterDigest, size := 1 } else none)
    sha256 := fun data => if data = [97] then letterDigest else [] }

/-- The sample request with its file read in. -/
def resolvedRequest : NormalizedInferenceRequest :=
  { model := "m", stream := false
    messages := [[("role", .str "user"), ("content", .tuple [.dict (textPart "look"),
      .dict (mediaPart "image" "image/png" (.inline [0, 0, 0]) none),
      .dict [("type", .str "file"), ("mime_type", .str "text/plain"), ("filename", .str "x.txt"),
        ("data", .bytes [97])]])]] }

theorem media_resolved_first_sample :
    resolveMediaArtifacts mediaCollaborators (mediaRequest [0, 0, 0] "a1" "x.txt") calmPrincipal =
      .ok resolvedRequest ∧
    MediaResolved mediaCollaborators calmPrincipal (mediaRequest [0, 0, 0] "a1" "x.txt")
      resolvedRequest := by
  have hResolved : resolveMediaArtifacts mediaCollaborators (mediaRequest [0, 0, 0] "a1" "x.txt")
      calmPrincipal = .ok resolvedRequest := rfl
  have hAdmits : Admits mediaCollaborators [("Authorization", "Bearer t")] calmPrincipal :=
    ⟨rfl, rfl, rfl⟩
  have h := media_resolved_first mediaCollaborators 1 "r" [("Authorization", "Bearer t")]
    (mediaPayload "AAAA" "a1" "x.txt") calmPrincipal (mediaRequest [0, 0, 0] "a1" "x.txt") hAdmits rfl
  rw [hResolved] at h
  exact ⟨hResolved, h.1⟩

end CyreneExchange.Gateway
