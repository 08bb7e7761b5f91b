import CyreneExchange.Product.Reactor

/-! What the two checks of a Reactor source ask of its documents: what both ask,
what only the draft asks and what only the publication asks. -/
namespace CyreneExchange.Product.Reactor

open CyreneExchange.General CyreneExchange.Gateway
open CyreneExchange.Integrations.Graph (IsCanonicalGuid uuidText_canonical
  uuidText_of_canonical isGuid isHexDigit length_of_isGuid isLowerGuid_eq_true)

section Urls

variable {origin : Origin} {rest s : Str}

/-- A source that admits its URI has its scheme in lower case. -/
theorem scheme_of_resourceUri (h : isResourceUri (origin.text ++ rest) = true) :
    origin.scheme = text "https" ∨ origin.scheme = text "http" := by
  simp only [isResourceUri, Str.startsWith, Origin.text, Bool.and_eq_true, Bool.or_eq_true,
    List.isPrefixOf_iff_prefix, List.append_assoc] at h
  obtain ⟨hLead, -⟩ := h
  have hSecure := origin.secure
  generalize origin.scheme = scheme at hSecure hLead ⊢
  generalize origin.netloc ++ rest = after at hLead
  have hTake : ∀ lead : Str, lead <+: scheme ++ (text "://" ++ after) →
      scheme.length ≤ lead.length → scheme = lead.take scheme.length := by
    intro lead hPrefix hLe
    have hScheme := List.prefix_append scheme (text "://" ++ after)
    exact List.prefix_iff_eq_take.mp (List.prefix_of_prefix_length_le hScheme hPrefix hLe)
  -- A scheme of five letters is no lead of `http://`, whose fifth character is the colon.
  rcases hSecure with hLower | hLower
  · have hLength : scheme.length = 5 :=
      (List.length_map Str.lowerChar).symm.trans (congrArg List.length hLower)
    rcases hLead with hLead | hLead
    · rw [hTake _ hLead (by rw [hLength]; decide), hLength] at hLower
      exact absurd hLower (by decide)
    · exact .inl (by rw [hTake _ hLead (by rw [hLength]; decide), hLength]; rfl)
  · have hLength : scheme.length = 4 :=
      (List.length_map Str.lowerChar).symm.trans (congrArg List.length hLower)
    rcases hLead with hLead | hLead
    · exact .inr (by rw [hTake _ hLead (by rw [hLength]; decide), hLength]; rfl)
    · exact .inr (by rw [hTake _ hLead (by rw [hLength]; decide), hLength]; rfl)

theorem splitScheme_text (h : s = text "https" ∨ s = text "http") :
    splitScheme (s ++ text "://" ++ rest) = (s, text "//" ++ rest) := by
  rcases h with rfl | rfl
  · rfl
  · rfl

/-- A path that holds no mark of a query or a fragment. -/
def IsPath (path : Str) : Prop :=
  (∀ c ∈ path, c.val ≠ 63 ∧ c.val ≠ 35 ∧ c.val ≠ 9 ∧ c.val ≠ 10 ∧ c.val ≠ 13) ∧
    ∀ c ∈ path.head?, c.val = 47

theorem cut_eq_self {c : Nat} (h : ∀ d ∈ s, d.val ≠ c) : cut c s = (s, []) := by
  have hAll : ∀ d ∈ s, (d.val != c) = true := by
    intro d hMem
    exact bne_iff_ne.mpr (h d hMem)
  rw [cut, List.takeWhile_eq_self_iff.mpr hAll, List.dropWhile_eq_nil_iff.mpr hAll,
    List.drop_nil]

/-- A path behind an origin. -/
theorem urlsplit_text (hScheme : origin.scheme = text "https" ∨ origin.scheme = text "http")
    (hPath : IsPath s) :
    urlsplit (origin.text ++ s) =
      { scheme := origin.scheme, netloc := origin.netloc, path := s, query := [], fragment := [] } := by
  obtain ⟨hPlain, hSlash⟩ := hPath
  have hDrop : (origin.text ++ s).dropWhile (fun c => decide (c.val ≤ 32)) = origin.text ++ s := by
    rw [Origin.text]
    rcases hScheme with hScheme | hScheme
    · rw [hScheme]
      rfl
    · rw [hScheme]
      rfl
  have hKept : ∀ c ∈ origin.text ++ s, (c.val != 9 && c.val != 10 && c.val != 13) = true := by
    intro c hMem
    rw [Origin.text, List.mem_append, List.mem_append, List.mem_append] at hMem
    rcases hMem with ((hMem | hMem) | hMem) | hMem
    · have hAll : (text "https" ++ text "http").all
          (fun c => c.val != 9 && c.val != 10 && c.val != 13) = true := by rfl
      refine List.all_eq_true.mp hAll c (List.mem_append.mpr ?_)
      rcases hScheme with hScheme | hScheme
      · exact .inl (hScheme ▸ hMem)
      · exact .inr (hScheme ▸ hMem)
    · have hAll : (text "://").all
          (fun c => c.val != 9 && c.val != 10 && c.val != 13) = true := by rfl
      exact List.all_eq_true.mp hAll c hMem
    · have hSpace := (origin.plain c hMem).1
      simp only [Str.isSpace, Bool.or_eq_false_iff, Bool.and_eq_false_iff, decide_eq_false_iff_not,
        beq_eq_false_iff_ne] at hSpace
      simp only [Bool.and_eq_true, bne_iff_ne]
      omega
    · obtain ⟨-, -, h9, h10, h13⟩ := hPlain c hMem
      simp [h9, h10, h13]
  have hNetloc : ∀ c ∈ origin.netloc, (c.val != 47 && c.val != 63 && c.val != 35) = true := by
    intro c hMem
    obtain ⟨-, hNotSlash, hNotMark, hNotHash⟩ := origin.plain c hMem
    simp [hNotSlash, hNotMark, hNotHash]
  have hTake : s.takeWhile (fun c => c.val != 47 && c.val != 63 && c.val != 35) = [] := by
    cases s with
    | nil => rfl
    | cons c rest => simp [hSlash c rfl]
  have hRest : s.dropWhile (fun c => c.val != 47 && c.val != 63 && c.val != 35) = s := by
    cases s with
    | nil => rfl
    | cons c rest => simp [hSlash c rfl]
  unfold urlsplit
  dsimp only
  rw [hDrop, List.filter_eq_self.mpr hKept, Origin.text, List.append_assoc _ origin.netloc,
    splitScheme_text hScheme]
  dsimp only
  rw [if_pos (by rfl)]
  have hBehind : (text "//" ++ (origin.netloc ++ s)).drop 2 = origin.netloc ++ s := rfl
  dsimp only
  rw [hBehind, List.takeWhile_append_of_pos hNetloc, List.dropWhile_append_of_pos hNetloc, hTake,
    hRest, List.append_nil, cut_eq_self fun c hMem => (hPlain c hMem).2.1]
  dsimp only
  rw [cut_eq_self fun c hMem => (hPlain c hMem).1]

/-- The characters of a canonical UUID. -/
theorem guid_char (h : IsCanonicalGuid s) {c : CodePoint} (hMem : c ∈ s) :
    isLowerHex c = true ∨ c.val = 45 := by
  obtain ⟨hGuid, hLower⟩ := h
  have hFixed : Str.lowerChar c = c :=
    List.map_inj_left.mp ((hLower.symm.trans (List.map_id' s).symm : s.map Str.lowerChar = _)) c hMem
  obtain ⟨index, hIndex⟩ := List.getElem?_of_mem hMem
  simp only [isGuid, Bool.and_eq_true, List.all_eq_true] at hGuid
  have hAt := hGuid.2 (c, index) (List.mk_mem_zipIdx_iff_getElem?.mpr hIndex)
  dsimp only at hAt
  split at hAt
  · exact .inr (beq_iff_eq.mp hAt)
  · left
    simp only [Str.lowerChar] at hFixed
    simp only [isHexDigit, Bool.or_eq_true, Bool.and_eq_true, decide_eq_true_eq] at hAt
    simp only [isLowerHex, Bool.or_eq_true, Bool.and_eq_true, decide_eq_true_eq]
    split at hFixed
    · have := congrArg Fin.val hFixed
      dsimp only at this
      omega
    · omega

theorem isResourceId_of_canonical (h : IsCanonicalGuid s) : isResourceId s = true := by
  rw [isResourceId, length_of_isGuid h.1, Bool.and_eq_true, List.all_eq_true]
  refine ⟨rfl, fun c hMem => ?_⟩
  rcases guid_char h hMem with hHex | hHyphen
  · rw [hHex, Bool.true_or]
  · rw [hHyphen, BEq.rfl, Bool.or_true]

/-- No identifier holds what separates the parts of a URL. -/
theorem guid_plain (h : IsCanonicalGuid s) {c : CodePoint} (hMem : c ∈ s) :
    45 ≤ c.val ∧ c.val ≠ 47 ∧ c.val ≠ 63 := by
  rcases guid_char h hMem with hHex | hHyphen
  · simp only [isLowerHex, Bool.or_eq_true, Bool.and_eq_true, decide_eq_true_eq] at hHex
    omega
  · omega

def endpointPath (endpointId : Str) : Str := text "/api/v1/endpoints/" ++ endpointId

theorem isPath_endpointPath (h : IsCanonicalGuid s) : IsPath (endpointPath s) := by
  refine ⟨fun c hMem => ?_, fun c hHead => ?_⟩
  · rw [endpointPath, List.mem_append] at hMem
    rcases hMem with hMem | hMem
    · have hAll : (text "/api/v1/endpoints/").all (fun c => decide (45 ≤ c.val ∧ c.val ≠ 63)) =
          true := by rfl
      have hChar := of_decide_eq_true (List.all_eq_true.mp hAll c hMem)
      omega
    · have hChar := guid_plain h hMem
      omega
  · rw [show (endpointPath s).head? = some (47 : CodePoint) from rfl] at hHead
    cases hHead
    rfl

/-- The publication takes the identifier of an endpoint from the URI that the draft made. -/
theorem lastSegment_endpointPath (h : IsCanonicalGuid s) : lastSegment (endpointPath s) = s := by
  have hReverse : (text "/api/v1/endpoints/").reverse =
      (47 : CodePoint) :: (text "/api/v1/endpoints").reverse := rfl
  have hPlain : ∀ c ∈ s.reverse, (c.val != 47) = true := by
    intro c hMem
    exact bne_iff_ne.mpr (guid_plain h (List.mem_reverse.mp hMem)).2.1
  rw [lastSegment, endpointPath, List.reverse_append, List.takeWhile_append_of_pos hPlain, hReverse,
    List.takeWhile_cons_of_neg (by simp), List.append_nil, List.reverse_reverse]

end Urls

section Reading

variable {reactor : State} {url : Str} {document payload : Dict} {name id : Str} {value : Value}

/-- A GET of a URL ends in a JSON object. -/
def Reads (reactor : State) (url : Str) (document : Dict) : Prop :=
  ∃ response, reactor url = some response ∧ 200 ≤ response.status ∧ response.status < 300 ∧
    response.json = some (.dict document)

/-- `_get_json` takes what a URL answers: its status, its media type and its size. -/
def ReadsStrictly (reactor : State) (url : Str) : Prop :=
  ∀ response, reactor url = some response → response.status = 200 ∧
    response.isJsonMedia = true ∧ response.size ≤ maxReactorDocumentBytes

/-- Two reads of an unchanged document are one. -/
theorem Reads.unique {document' : Dict} (h : Reads reactor url document)
    (h' : Reads reactor url document') : document = document' := by
  obtain ⟨response, hAt, -, -, hJson⟩ := h
  obtain ⟨response', hAt', -, -, hJson'⟩ := h'
  obtain rfl := Option.some.inj (hAt.symm.trans hAt')
  exact Value.dict.inj (Option.some.inj (hJson.symm.trans hJson'))

theorem getJson_eq_ok : getJson reactor url = .ok document ↔
    Reads reactor url document ∧ ReadsStrictly reactor url := by
  unfold getJson Reads ReadsStrictly
  cases hAt : reactor url with
  | none => simp
  | some response =>
      simp only [Option.some.injEq, forall_eq', exists_eq_left', sourceConflict]
      by_cases hStatus : response.status = 200
      · by_cases hMedia : response.isJsonMedia = true
        · by_cases hSize : response.size ≤ maxReactorDocumentBytes
          · rw [if_neg (by omega), if_neg (by omega), if_neg (by simp [hMedia]),
              if_neg (by omega)]
            cases response.json with
            | none => simp
            | some value => cases value <;> simp [hStatus, hMedia, hSize]
          · simp [hStatus, hMedia, hSize, Nat.lt_of_not_le hSize]
        · simp [hStatus, hMedia]
      · by_cases hGone : response.status = 404
        · simp [hGone]
        · simp [hStatus, hGone]

theorem readJson_eq_dict :
    readJson reactor url = .ok (.dict document) ↔ Reads reactor url document := by
  unfold readJson Reads
  cases hAt : reactor url with
  | none => simp
  | some response =>
      simp only [Option.some.injEq, exists_eq_left', invalid]
      by_cases hStatus : 200 ≤ response.status ∧ response.status < 300
      · rw [if_pos hStatus]
        cases response.json <;> simp [hStatus]
      · rw [if_neg hStatus]
        constructor
        · intro hValue
          split at hValue
          · cases hValue
          · split at hValue <;> cases hValue
        · rintro ⟨hLow, hHigh, -⟩
          exact absurd ⟨hLow, hHigh⟩ hStatus

@[simp] theorem agree_eq_ok {condition : Bool} {detail : String} {u : Unit} :
    agree condition detail = .ok u ↔ condition = true := by
  unfold agree
  cases condition <;> simp [sourceConflict]

@[simp] theorem ensure_eq_ok {condition : Bool} {code : String} {status : Nat} {u : Unit} :
    ensure condition code status = .ok u ↔ condition = true := by
  unfold ensure
  cases condition <;> simp

@[simp] theorem orInvalid_eq_ok {α : Type} {o : Option α} {a : α} :
    orInvalid o = .ok a ↔ o = some a := by
  cases o <;> simp [orInvalid, invalid]

theorem identifierText_eq_some (h : identifierText value = some id) : value ≠ .none := by
  rintro rfl
  cases h

theorem get_eq_of_lookup (h : payload.lookup name = some value) : payload.get name = value := by
  rw [Dict.get, Dict.getD, h, Option.getD_some]

/-- A value other than None is there. -/
theorem lookup_of_get (h : payload.get name = value) (hSome : value ≠ .none) :
    payload.lookup name = some value := by
  rw [Dict.get, Dict.getD] at h
  cases hAt : payload.lookup name with
  | none =>
      rw [hAt, Option.getD_none] at h
      exact absurd h.symm hSome
  | some found => rw [← h, hAt, Option.getD_some]

/-- An identifier is read the same from an entry and from what `get` returns. -/
theorem lookup_uuidOf : (payload.lookup name).bind uuidOf = some id ↔
    uuidOf (payload.get name) = some id := by
  rw [Dict.get, Dict.getD]
  cases payload.lookup name with
  | none =>
      constructor
      · rintro ⟨⟩
      · rintro ⟨⟩
  | some found => rw [Option.getD_some, Option.bind_some]

theorem uuidField_eq_ok :
    uuidField payload name = .ok id ↔ uuidOf (payload.get name) = some id := by
  rw [← lookup_uuidOf]
  unfold uuidField
  cases (payload.lookup name).bind uuidOf <;> simp [sourceConflict]

theorem integerField_eq_ok {n : Int} :
    integerField payload name = .ok n ↔ payload.get name = .int n := by
  unfold integerField
  cases payload.get name <;> simp [sourceConflict]

/-- What `UUID` writes it reads again. -/
theorem uuidOf_canonical (h : uuidOf value = some id) : IsCanonicalGuid id := by
  obtain ⟨s, -, hText⟩ := Option.bind_eq_some_iff.mp h
  exact uuidText_canonical hText

end Reading

section Checks

variable (reactor : State) (origin : Origin) (selector : WorkspaceReactorEndpointSelector)
  (targetModel : Str)

/-- What both make sure of, of the endpoint and of the deployment it names. -/
structure SharedChecks (endpoint deployment : Dict) (deploymentId : Str) : Prop where
  uri : isResourceUri (endpointUri origin selector.endpointId.text) = true
  endpointRead : Reads reactor (endpointUri origin selector.endpointId.text) endpoint
  endpointId : uuidOf (endpoint.get "id") = some selector.endpointId.text
  version : equalsInt (endpoint.get "resourceVersion") selector.resourceVersion = true
  state : endpoint.get "state" = .str (text "READY")
  protocol : endpoint.get "protocol" = .str (text "openai.chat.v1")
  model : endpoint.get "model" = .str targetModel
  deploymentNamed : uuidOf (endpoint.get "deploymentId") = some deploymentId
  deploymentRead : Reads reactor (deploymentUri origin deploymentId) deployment
  deploymentIdentity : uuidOf (deployment.get "id") = some deploymentId
  digest : (nestedField deployment "modelArtifact" "digest").asStr.any isDigest = true
  modelVersion : nestedField deployment "modelVersion" "id" = .none ∨
    (nestedField deployment "modelVersion" "id").asStr.any isModelVersion = true
  composition : deployment.get "composition" = .str (text "BASE_PLUS_LORA") →
    nestedField deployment "modelVersion" "id" ≠ .none

/-- What only the draft makes sure of. -/
structure DraftChecks (endpoint deployment : Dict) (deploymentId : Str) : Prop where
  endpointStrictly : ReadsStrictly reactor (endpointUri origin selector.endpointId.text)
  deploymentStrictly : ReadsStrictly reactor (deploymentUri origin deploymentId)
  version : ∃ n, endpoint.get "resourceVersion" = .int n
  back : uuidOf (deployment.get "endpointId") = some selector.endpointId.text
  observedState : deployment.get "observedState" = .str (text "READY")
  modelVersion : deployment.get "modelVersion" = .none ∨
    nestedField deployment "modelVersion" "id" ≠ .none

/-- What only the publication makes sure of: the identifier is written canonically. -/
def PublishChecks (endpoint : Dict) (deploymentId : Str) : Prop :=
  identifierText (endpoint.get "deploymentId") = some deploymentId

/-- A source of the digest and the model version that a deployment has. -/
structure SourceOf (deployment : Dict) (source : RouteSource) : Prop where
  digest : nestedField deployment "modelArtifact" "digest" = .str source.artifactDigest
  modelVersionId :
    nestedField deployment "modelVersion" "id" = source.modelVersionId.elim .none .str

/-- A source that names the endpoint of a selector at its version. -/
def Names (source : RouteSource) : Prop :=
  source.resourceUri = endpointUri origin selector.endpointId.text ∧
    source.resourceVersion = selector.resourceVersion

variable {reactor origin selector targetModel} {endpoint deployment endpoint' deployment' : Dict}
  {deploymentId deploymentId' : Str} {source : RouteSource}

theorem SharedChecks.unique
    (h : SharedChecks reactor origin selector targetModel endpoint deployment deploymentId)
    (h' : SharedChecks reactor origin selector targetModel endpoint' deployment' deploymentId') :
    endpoint = endpoint' ∧ deployment = deployment' ∧ deploymentId = deploymentId' := by
  obtain rfl := h.endpointRead.unique h'.endpointRead
  obtain rfl := Option.some.inj (h.deploymentNamed.symm.trans h'.deploymentNamed)
  exact ⟨rfl, h.deploymentRead.unique h'.deploymentRead, rfl⟩

/-- Documents that pass what both check have a source. -/
theorem SharedChecks.exists_source
    (h : SharedChecks reactor origin selector targetModel endpoint deployment deploymentId) :
    ∃ source, Names origin selector source ∧ SourceOf deployment source := by
  obtain ⟨digest, hDigest, hForm⟩ := (Option.any_eq_true _ _).mp h.digest
  rcases h.modelVersion with hNone | hSome
  · exact ⟨{ resourceUri := endpointUri origin selector.endpointId.text
             resourceVersion := selector.resourceVersion
             artifactDigest := digest
             modelVersionId := none
             uriAdmitted := h.uri
             versionAdmitted := selector.versionAdmitted
             digestAdmitted := hForm
             modelVersionAdmitted := fun _ hId => by cases hId }, ⟨rfl, rfl⟩,
      Value.asStr_eq_some.mp hDigest, hNone⟩
  · obtain ⟨id, hId, hIdForm⟩ := (Option.any_eq_true _ _).mp hSome
    exact ⟨{ resourceUri := endpointUri origin selector.endpointId.text
             resourceVersion := selector.resourceVersion
             artifactDigest := digest
             modelVersionId := some id
             uriAdmitted := h.uri
             versionAdmitted := selector.versionAdmitted
             digestAdmitted := hForm
             modelVersionAdmitted := fun _ hOf => Option.some.inj hOf ▸ hIdForm }, ⟨rfl, rfl⟩,
      Value.asStr_eq_some.mp hDigest, Value.asStr_eq_some.mp hId⟩

theorem nestedField_eq_none {name : Str} (h : deployment.get name = .none) (field : Str) :
    nestedField deployment name field = .none := by
  rw [nestedField, h]

/-- A composed deployment has its model version. -/
theorem composed_iff : (!((deployment.get "composition").asStr == some (text "BASE_PLUS_LORA") &&
      (nestedField deployment "modelVersion" "id").isNone)) = true ↔
    (deployment.get "composition" = .str (text "BASE_PLUS_LORA") →
      nestedField deployment "modelVersion" "id" ≠ .none) := by
  rw [Bool.not_eq_true', Bool.and_eq_false_iff, beq_eq_false_iff_ne, Ne, Value.asStr_eq_some,
    Bool.eq_false_iff, Ne, Value.isNone_eq_true, imp_iff_not_or]

/-- The draft takes over what it made sure of. -/
theorem modelVersionId_elim {value : Value}
    (h : value = .none ∨ value.asStr.any isModelVersion = true) :
    value = (value.asStr.filter isModelVersion).elim .none .str := by
  rcases h with rfl | hSome
  · rfl
  · obtain ⟨id, hId, hForm⟩ := (Option.any_eq_true _ _).mp hSome
    rw [hId, Option.filter_some_pos hForm]
    exact Value.asStr_eq_some.mp hId

theorem resolve_eq_ok : resolve reactor origin selector targetModel = .ok source ↔
    Names origin selector source ∧ ∃ endpoint deployment deploymentId,
      SharedChecks reactor origin selector targetModel endpoint deployment deploymentId ∧
        DraftChecks reactor origin selector endpoint deployment deploymentId ∧
          SourceOf deployment source := by
  unfold resolve
  simp only [except_bind_eq_ok, getJson_eq_ok, uuidField_eq_ok, integerField_eq_ok, agree_eq_ok,
    Bool.and_eq_true, beq_iff_eq, Value.asStr_eq_some]
  constructor
  · rintro ⟨endpoint, ⟨hRead, hStrict⟩, id, hId, -, rfl, version, hVersion, -, rfl, -,
      ⟨⟨hState, hProtocol⟩, hModel⟩, deploymentId, hNamed, deployment, ⟨hReadBack, hStrictBack⟩,
      id', hIdentity, -, hSame, back, hBack, -, rfl, -, hObserved, hRest⟩
    obtain rfl := hSame.symm
    split at hRest
    · cases hRest
    next digest hDigest =>
      split at hRest
      next hForm =>
        simp only [except_bind_eq_ok, agree_eq_ok] at hRest
        obtain ⟨-, hModelVersion, -, hComposition, hRest⟩ := hRest
        split at hRest
        next hUri =>
          obtain rfl := Except.ok.inj hRest
          rw [Bool.or_eq_true, Value.isNone_eq_true] at hModelVersion
          have hEither := hModelVersion.imp_left fun hNone => nestedField_eq_none hNone "id"
          refine ⟨⟨rfl, rfl⟩, endpoint, deployment, deploymentId, ?_, ?_,
            Value.asStr_eq_some.mp hDigest, modelVersionId_elim hEither⟩
          · exact {
              uri := hUri
              endpointRead := hRead
              endpointId := hId
              version := by rw [hVersion, equalsInt, BEq.rfl]
              state := hState
              protocol := hProtocol
              model := hModel
              deploymentNamed := hNamed
              deploymentRead := hReadBack
              deploymentIdentity := hIdentity
              digest := by rw [hDigest, Option.any_some, hForm]
              modelVersion := hEither
              composition := composed_iff.mp hComposition }
          · exact {
              endpointStrictly := hStrict
              deploymentStrictly := hStrictBack
              version := ⟨_, hVersion⟩
              back := hBack
              observedState := hObserved
              modelVersion := hModelVersion.imp_right fun hAny hNone => by
                rw [hNone] at hAny
                cases hAny }
        · cases hRest
      · cases hRest
  · rintro ⟨⟨hUri, hAt⟩, endpoint, deployment, deploymentId, hShared, hDraft, hDigest, hId⟩
    obtain ⟨version, hVersion⟩ := hDraft.version
    have hSame : version = selector.resourceVersion := by
      have hEqual := hShared.version
      rw [hVersion, equalsInt] at hEqual
      exact beq_iff_eq.mp hEqual
    refine ⟨endpoint, ⟨hShared.endpointRead, hDraft.endpointStrictly⟩, _, hShared.endpointId, (),
      rfl, version, hVersion, (), hSame, (), ⟨⟨hShared.state, hShared.protocol⟩, hShared.model⟩,
      deploymentId, hShared.deploymentNamed, deployment,
      ⟨hShared.deploymentRead, hDraft.deploymentStrictly⟩, deploymentId,
      hShared.deploymentIdentity, (), rfl, _, hDraft.back, (), rfl, (), hDraft.observedState, ?_⟩
    obtain ⟨resourceUri, resourceVersion, artifactDigest, modelVersionId, hUriAdmitted,
      hVersionAdmitted, hDigestAdmitted, hIdAdmitted⟩ := source
    dsimp only at hUri hAt hDigest hId
    subst hUri hAt
    have hKept : (nestedField deployment "modelVersion" "id").asStr.filter isModelVersion =
        modelVersionId := by
      rw [hId]
      cases modelVersionId with
      | none => rfl
      | some id => exact Option.filter_some_pos (hIdAdmitted id rfl)
    have hModelVersion : ((deployment.get "modelVersion").isNone ||
        (nestedField deployment "modelVersion" "id").asStr.any isModelVersion) = true := by
      rw [Bool.or_eq_true, Value.isNone_eq_true]
      rcases hDraft.modelVersion with hNone | hSome
      · exact .inl hNone
      · exact .inr (hShared.modelVersion.resolve_left hSome)
    rw [hDigest]
    change (if hForm : isDigest artifactDigest = true then _ else _) = _
    rw [dif_pos hDigestAdmitted, hModelVersion, composed_iff.mpr hShared.composition]
    change (if hForm : _ then _ else _) = _
    rw [dif_pos hShared.uri]
    simp only [hKept]

/-- A URI that the draft made is inside the scope of the publication. -/
theorem scope_of_names (h : Names origin selector source) :
    ((urlsplit source.resourceUri).scheme == (urlsplit origin.text).scheme &&
      (urlsplit source.resourceUri).netloc == (urlsplit origin.text).netloc &&
      (urlsplit source.resourceUri).query.isEmpty &&
      (urlsplit source.resourceUri).fragment.isEmpty &&
      (urlsplit source.resourceUri).path.startsWith "/api/v1/endpoints/" &&
      isResourceId ((urlsplit source.resourceUri).path.drop 18)) = true ∧
    lastSegment (urlsplit source.resourceUri).path = selector.endpointId.text := by
  have hCanonical := selector.endpointId.canonical
  have hUri : source.resourceUri = origin.text ++ endpointPath selector.endpointId.text := by
    rw [h.1, endpointUri, List.append_assoc, endpointPath]
  have hScheme := scheme_of_resourceUri (hUri ▸ source.uriAdmitted)
  have hEmpty : IsPath [] := by simp [IsPath]
  have hOrigin := urlsplit_text hScheme hEmpty
  rw [List.append_nil] at hOrigin
  rw [hUri, urlsplit_text hScheme (isPath_endpointPath hCanonical), hOrigin]
  refine ⟨?_, lastSegment_endpointPath hCanonical⟩
  have hLead : (endpointPath selector.endpointId.text).startsWith "/api/v1/endpoints/" = true :=
    List.isPrefixOf_iff_prefix.mpr (List.prefix_append _ _)
  have hDrop : (endpointPath selector.endpointId.text).drop 18 = selector.endpointId.text :=
    List.drop_left' rfl
  dsimp only
  rw [BEq.rfl, BEq.rfl, hLead, hDrop, isResourceId_of_canonical hCanonical]
  rfl

/-- A nested text is there under both its names. -/
theorem nestedField_eq_str {name field : Str} {s : Str} :
    nestedField deployment name field = .str s ↔ ∃ nested, deployment.lookup name =
      some (.dict nested) ∧ List.lookup field nested = some (.str s) := by
  constructor
  · intro h
    unfold nestedField at h
    split at h
    next nested hNested =>
      exact ⟨nested, lookup_of_get hNested (by rintro ⟨⟩), lookup_of_get h (by rintro ⟨⟩)⟩
    next => cases h
  · rintro ⟨nested, hNested, hField⟩
    rw [nestedField, get_eq_of_lookup hNested]
    exact get_eq_of_lookup hField

/-- The publication compares the model version with that of its source. -/
theorem modelVersionId_iff {value : Value} {id : Option Str} :
    (match id with
      | some id => value.asStr == some id
      | none => value.isNone) = true ↔ value = id.elim .none .str := by
  cases id with
  | none => exact Value.isNone_eq_true
  | some id => rw [beq_iff_eq, Value.asStr_eq_some, Option.elim_some]

/-- What a source has of a model version is None just when the deployment has none. -/
theorem SourceOf.isNone (h : SourceOf deployment source) :
    (nestedField deployment "modelVersion" "id").isNone = source.modelVersionId.isNone := by
  rw [h.modelVersionId]
  cases source.modelVersionId <;> rfl

theorem SourceOf.modelVersion (h : SourceOf deployment source) :
    nestedField deployment "modelVersion" "id" = .none ∨
      (nestedField deployment "modelVersion" "id").asStr.any isModelVersion = true := by
  rw [h.modelVersionId]
  cases hId : source.modelVersionId with
  | none => exact .inl rfl
  | some id => exact .inr (source.modelVersionAdmitted id hId)

theorem admitSource_eq_ok (hNames : Names origin selector source) :
    admitSource reactor origin source (some targetModel) = .ok () ↔
      ∃ endpoint deployment deploymentId,
        SharedChecks reactor origin selector targetModel endpoint deployment deploymentId ∧
          PublishChecks endpoint deploymentId ∧ SourceOf deployment source := by
  obtain ⟨hScope, hLast⟩ := scope_of_names hNames
  obtain ⟨hUri, hAt⟩ := hNames
  unfold admitSource
  simp only [except_bind_eq_ok, hScope, hLast, item, asObject, ensure_eq_ok, orInvalid_eq_ok,
    Bool.and_eq_true, beq_iff_eq, Value.asStr_eq_some, Value.asDict_eq_some]
  constructor
  · rintro ⟨-, -, body, hBody, endpoint, rfl, id, hId, -, hSelf, -, hVersion, -, hProtocol, -,
      hState, -, hModel, named, hNamed, deploymentId, hText, -, -, back, hBack, deployment, rfl,
      identity, hIdentity, id', hIdentityText, -, hSame, artifact, hArtifact, model, rfl, digest,
      hDigest, -, rfl, hModelVersion, hComposition⟩
    subst hSelf hSame
    have hSource : SourceOf deployment source :=
      ⟨nestedField_eq_str.mpr ⟨model, hArtifact, hDigest⟩, modelVersionId_iff.mp hModelVersion⟩
    rw [← hSource.isNone] at hComposition
    refine ⟨endpoint, deployment, id', ?_, ?_, hSource⟩
    · exact {
        uri := hUri ▸ source.uriAdmitted
        endpointRead := hUri ▸ readJson_eq_dict.mp hBody
        endpointId := hId
        version := hAt ▸ hVersion
        state := hState
        protocol := hProtocol
        model := hModel
        deploymentNamed := by
          rw [get_eq_of_lookup hNamed, uuidOf, hText, Option.bind_some,
            uuidText_of_canonical (uuidOf_canonical hIdentityText)]
        deploymentRead := readJson_eq_dict.mp hBack
        deploymentIdentity := by rw [get_eq_of_lookup hIdentity, hIdentityText]
        digest := by
          rw [hSource.digest]
          exact source.digestAdmitted
        modelVersion := hSource.modelVersion
        composition := composed_iff.mp hComposition }
    · rw [PublishChecks, get_eq_of_lookup hNamed, hText]
  · rintro ⟨endpoint, deployment, deploymentId, hShared, hPublish, hSource⟩
    obtain ⟨artifact, hArtifact, hDigest⟩ := nestedField_eq_str.mp hSource.digest
    have hIdentity := lookup_uuidOf.mpr hShared.deploymentIdentity
    obtain ⟨identity, hIdentity, hIdentityText⟩ := Option.bind_eq_some_iff.mp hIdentity
    have hCanonical := uuidOf_canonical hShared.deploymentNamed
    have hComposition := composed_iff.mpr hShared.composition
    rw [hSource.isNone] at hComposition
    refine ⟨(), trivial, .dict endpoint, readJson_eq_dict.mpr (hUri ▸ hShared.endpointRead), endpoint,
      rfl, _, hShared.endpointId, (), rfl, (), hAt ▸ hShared.version, (), hShared.protocol, (),
      hShared.state, (), hShared.model, _,
      lookup_of_get rfl (identifierText_eq_some hPublish), deploymentId, hPublish, (),
      isResourceId_of_canonical hCanonical, .dict deployment,
      readJson_eq_dict.mpr hShared.deploymentRead, deployment, rfl, identity, hIdentity, deploymentId,
      hIdentityText, (), rfl, .dict artifact, hArtifact, artifact, rfl, _, hDigest, (), rfl,
      modelVersionId_iff.mpr hSource.modelVersionId, hComposition⟩

end Checks

section Agreement

/-- What the draft resolves can be published, and what can be published the draft resolves. -/
def Agree (reactor : State) (origin : Origin) (selector : WorkspaceReactorEndpointSelector)
    (targetModel : Str) : Prop :=
  (∀ source, resolve reactor origin selector targetModel = .ok source →
    admitSource reactor origin source (some targetModel) = .ok ()) ∧
  ∀ source, Names origin selector source →
    admitSource reactor origin source (some targetModel) = .ok () →
      ∃ resolved, resolve reactor origin selector targetModel = .ok resolved ∧
        resolved.resourceUri = source.resourceUri ∧
        resolved.resourceVersion = source.resourceVersion ∧
        resolved.artifactDigest = source.artifactDigest ∧
        resolved.modelVersionId = source.modelVersionId

/-- The two checks agree where documents that pass what both check pass the rest of the
draft just when their deployment is named canonically. -/
theorem source_checks_agree_iff (reactor : State) (origin : Origin)
    (selector : WorkspaceReactorEndpointSelector) (targetModel : Str) :
    Agree reactor origin selector targetModel ↔ ∀ endpoint deployment deploymentId,
      SharedChecks reactor origin selector targetModel endpoint deployment deploymentId →
        (DraftChecks reactor origin selector endpoint deployment deploymentId ↔
          PublishChecks endpoint deploymentId) := by
  constructor
  · rintro ⟨hPublished, hResolved⟩ endpoint deployment deploymentId hShared
    obtain ⟨source, hNames, hSource⟩ := hShared.exists_source
    constructor
    · intro hDraft
      have hResolve := resolve_eq_ok.mpr
        ⟨hNames, endpoint, deployment, deploymentId, hShared, hDraft, hSource⟩
      obtain ⟨endpoint', deployment', deploymentId', hShared', hPublish, -⟩ :=
        (admitSource_eq_ok hNames).mp (hPublished source hResolve)
      obtain ⟨rfl, rfl, rfl⟩ := hShared.unique hShared'
      exact hPublish
    · intro hPublish
      have hAdmit := (admitSource_eq_ok hNames).mpr
        ⟨endpoint, deployment, deploymentId, hShared, hPublish, hSource⟩
      obtain ⟨resolved, hResolve, -⟩ := hResolved source hNames hAdmit
      obtain ⟨-, endpoint', deployment', deploymentId', hShared', hDraft, -⟩ :=
        resolve_eq_ok.mp hResolve
      obtain ⟨rfl, rfl, rfl⟩ := hShared.unique hShared'
      exact hDraft
  · intro hSame
    refine ⟨fun source hResolve => ?_, fun source hNames hAdmit => ?_⟩
    · obtain ⟨hNames, endpoint, deployment, deploymentId, hShared, hDraft, hSource⟩ :=
        resolve_eq_ok.mp hResolve
      have hPublish := (hSame endpoint deployment deploymentId hShared).mp hDraft
      exact (admitSource_eq_ok hNames).mpr
        ⟨endpoint, deployment, deploymentId, hShared, hPublish, hSource⟩
    · obtain ⟨endpoint, deployment, deploymentId, hShared, hPublish, hSource⟩ :=
        (admitSource_eq_ok hNames).mp hAdmit
      have hDraft := (hSame endpoint deployment deploymentId hShared).mpr hPublish
      exact ⟨source, resolve_eq_ok.mpr
        ⟨hNames, endpoint, deployment, deploymentId, hShared, hDraft, hSource⟩, rfl, rfl, rfl, rfl⟩

def sampleOrigin : Origin where
  scheme := "https"
  netloc := "reactor.example"
  secure := .inl (by decide +kernel)
  plain := by
    have hAll : (text "reactor.example").all (fun c => !Str.isSpace c && c.val != 47 &&
        c.val != 63 && c.val != 35) = true := by rfl
    intro c hMem
    simpa [and_assoc] using List.all_eq_true.mp hAll c hMem

def sampleEndpointId : Str := text "11111111-1111-4111-8111-111111111111"

def sampleDeploymentId : Str := text "22222222-2222-4222-8222-222222222222"

def sampleSelector : WorkspaceReactorEndpointSelector where
  endpointId := ⟨sampleEndpointId, isLowerGuid_eq_true.mp (by decide +kernel)⟩
  resourceVersion := 3
  versionAdmitted := by decide

def sampleDigest : Str := text "sha256:" ++ List.replicate 64 (97 : CodePoint)

def sampleSource : RouteSource where
  resourceUri := endpointUri sampleOrigin sampleEndpointId
  resourceVersion := 3
  artifactDigest := sampleDigest
  modelVersionId := none
  uriAdmitted := by decide +kernel
  versionAdmitted := by decide
  digestAdmitted := by decide +kernel
  modelVersionAdmitted := fun _ hId => by cases hId

def sampleResponse (document : Dict) : Response where
  status := 200
  contentType := "application/json"
  size := 512
  json := some (.dict document)

/-- A Reactor whose endpoint is ready while its deployment has failed. -/
def failedDeployment : State := fun url =>
  if url = endpointUri sampleOrigin sampleEndpointId then
    some (sampleResponse
      [(text "id", .str sampleEndpointId), (text "resourceVersion", .int 3),
        (text "state", .str (text "READY")), (text "protocol", .str (text "openai.chat.v1")),
        (text "model", .str (text "model-a")), (text "deploymentId", .str sampleDeploymentId)])
  else if url = deploymentUri sampleOrigin sampleDeploymentId then
    some (sampleResponse
      [(text "id", .str sampleDeploymentId), (text "endpointId", .str sampleEndpointId),
        (text "observedState", .str (text "FAILED")),
        (text "modelArtifact", .dict [(text "digest", .str sampleDigest)])])
  else none

/-- A route is published whose source no draft would take. -/
theorem failed_deployment_published : ¬ ∀ (reactor : State) (origin : Origin)
    (selector : WorkspaceReactorEndpointSelector) (targetModel : Str),
    Agree reactor origin selector targetModel := by
  intro h
  obtain ⟨-, hResolved⟩ := h failedDeployment sampleOrigin sampleSelector (text "model-a")
  have hAdmit : admitSource failedDeployment sampleOrigin sampleSource (some (text "model-a")) =
      .ok () := by rfl
  obtain ⟨resolved, hResolve, -⟩ := hResolved sampleSource ⟨rfl, rfl⟩ hAdmit
  have hRefused : resolve failedDeployment sampleOrigin sampleSelector (text "model-a") =
      sourceConflict "Reactor returned an incompatible Deployment identity." := by rfl
  rw [hRefused] at hResolve
  cases hResolve

end Agreement

end CyreneExchange.Product.Reactor
