import CyreneExchange.Integrations.Graph.Identity

/-! The two checks of a Reactor source: what the draft of a route reads of an
Endpoint and its Deployment, and what its publication does. Identifiers and
digests are texts as JSON documents hold them. -/
namespace CyreneExchange.Product.Reactor

open CyreneExchange.General CyreneExchange.Gateway
open CyreneExchange.Integrations.Graph (IsCanonicalGuid uuidText)

section Urls

structure SplitResult where
  scheme : Str
  netloc : Str
  path : Str
  query : Str
  fragment : Str
deriving DecidableEq

/-- `scheme_chars`. -/
def isSchemeChar (c : CodePoint) : Bool :=
  Integrations.Graph.isAlphanumeric c || c.val == 43 || c.val == 45 || c.val == 46

/-- The scheme in front of a colon, and what follows it. -/
def splitScheme (url : Str) : Str × Str :=
  let scheme := url.takeWhile fun c => c.val != 58
  let isScheme := decide (scheme.length < url.length) && scheme.all isSchemeChar &&
    match scheme with
    | [] => false
    | c :: _ => isSchemeChar c && decide (65 ≤ c.val)
  if isScheme then (Str.lower scheme, url.drop (scheme.length + 1)) else ([], url)

/-- `url.split(c, 1)`: what stands before the first `c`, and what follows it. -/
def cut (c : Nat) (url : Str) : Str × Str :=
  (url.takeWhile fun d => d.val != c, (url.dropWhile fun d => d.val != c).drop 1)

/-- `urlsplit`. What it refuses of a netloc, it refuses of the origin's as well. -/
def urlsplit (url : Str) : SplitResult :=
  let kept := (url.dropWhile fun c => decide (c.val ≤ 32)).filter fun c =>
    c.val != 9 && c.val != 10 && c.val != 13
  let (scheme, rest) := splitScheme kept
  let inNetloc (c : CodePoint) : Bool := c.val != 47 && c.val != 63 && c.val != 35
  let (netloc, rest) := if rest.startsWith "//" then
      ((rest.drop 2).takeWhile inNetloc, (rest.drop 2).dropWhile inNetloc)
    else ([], rest)
  let (rest, fragment) := cut 35 rest
  let (path, query) := cut 63 rest
  { scheme, netloc, path, query, fragment }

/-- An origin that both constructors accept, without its last slashes. -/
structure Origin where
  scheme : Str
  netloc : Str
  secure : scheme.lower = text "https" ∨ scheme.lower = text "http"
  plain : ∀ c ∈ netloc, Str.isSpace c = false ∧ c.val ≠ 47 ∧ c.val ≠ 63 ∧ c.val ≠ 35

def Origin.text (origin : Origin) : Str := origin.scheme ++ Gateway.text "://" ++ origin.netloc

end Urls

section Documents

/-- A UUID, by its text. -/
structure Identifier where
  text : Str
  canonical : IsCanonicalGuid text

/-- `str(value)`, of a value that an identifier can be read from. The text of any other
value is no identifier. -/
def identifierText : Value → Option Str
  | .str s => some s
  | .int n => some (text (toString n))
  | _ => none

/-- `str(UUID(str(value)))`, or None for the ValueError. -/
def uuidOf (value : Value) : Option Str := (identifierText value).bind uuidText

/-- `value == n`: a flag or a float may equal a number. -/
def equalsInt (value : Value) (n : Int) : Bool :=
  match value with
  | .int m => m == n
  | .bool flag => (if flag then 1 else 0) == n
  | .float (.number q) => q == n
  | .float .negativeZero => n == 0
  | _ => false

/-- `[0-9a-f]`. -/
def isLowerHex (c : CodePoint) : Bool :=
  (decide (48 ≤ c.val) && decide (c.val ≤ 57)) || (decide (97 ≤ c.val) && decide (c.val ≤ 102))

/-- `lead` and then 64 lower-case hexadecimal digits. -/
def isDigestRef (lead s : Str) : Bool :=
  s.startsWith lead && decide (s.length = lead.length + 64) && (s.drop lead.length).all isLowerHex

def isDigest : Str → Bool := isDigestRef "sha256:"
def isModelVersion : Str → Bool := isDigestRef "model-version://sha256/"

/-- `^https?://`, of at most 2000 characters. -/
def isResourceUri (s : Str) : Bool :=
  (s.startsWith "http://" || s.startsWith "https://") && decide (s.length ≤ 2000)

/-- `RouteSource`, with what its fields admit. -/
structure RouteSource where
  resourceUri : Str
  resourceVersion : Nat
  artifactDigest : Str
  modelVersionId : Option Str
  uriAdmitted : isResourceUri resourceUri = true
  versionAdmitted : 1 ≤ resourceVersion
  digestAdmitted : isDigest artifactDigest = true
  modelVersionAdmitted : ∀ id ∈ modelVersionId, isModelVersion id = true

structure WorkspaceReactorEndpointSelector where
  endpointId : Identifier
  resourceVersion : Nat
  versionAdmitted : 1 ≤ resourceVersion

/-- A response of Reactor; its body is kept by its size and what JSON it holds. -/
structure Response where
  status : Nat
  contentType : Str
  size : Nat
  json : Option Value

/-- What Reactor answers to a GET of a URL, unless the transport fails. -/
abbrev State := Str → Option Response

def endpointUri (origin : Origin) (endpointId : Str) : Str :=
  origin.text ++ text "/api/v1/endpoints/" ++ endpointId

def deploymentUri (origin : Origin) (deploymentId : Str) : Str :=
  origin.text ++ text "/api/v1/deployments/" ++ deploymentId

end Documents

section Draft

/-- An ExchangeProductError of the resolver, or a ValidationError of RouteSource. -/
inductive SourceError where
  | conflict (detail : String)
  | unavailable
  | validation
deriving DecidableEq, Repr

abbrev Resolved := Except SourceError

def sourceConflict {α : Type} (detail : String) : Resolved α := .error (.conflict detail)

/-- Go on, unless the source conflicts. -/
def agree (condition : Bool) (detail : String) : Resolved Unit :=
  if condition then .ok () else sourceConflict detail

def maxReactorDocumentBytes : Nat := 1024 * 1024

/-- The media type of a response is JSON. -/
def Response.isJsonMedia (response : Response) : Bool :=
  (Str.strip (response.contentType.takeWhile fun c => c.val != 59)).lower == text "application/json"

/-- `_get_json`. -/
def getJson (reactor : State) (url : Str) : Resolved Dict :=
  match reactor url with
  | none => .error .unavailable
  | some response =>
      if response.status = 404 then sourceConflict "The selected Reactor resource is unavailable."
      else if response.status ≠ 200 then .error .unavailable
      else if !response.isJsonMedia then .error .unavailable
      else if maxReactorDocumentBytes < response.size then .error .unavailable
      else
        match response.json with
        | some (.dict document) => .ok document
        | _ => .error .unavailable

/-- `_uuid_field`. -/
def uuidField (payload : Dict) (name : Str) : Resolved Str :=
  match (payload.lookup name).bind uuidOf with
  | some id => .ok id
  | none => sourceConflict "Reactor returned an incompatible source identity."

/-- `_integer_field`. -/
def integerField (payload : Dict) (name : Str) : Resolved Int :=
  match payload.get name with
  | .int n => .ok n
  | _ => sourceConflict "Reactor returned an incompatible source version."

/-- `model_artifact.get("digest") if isinstance(model_artifact, dict) else None`, and the same
of `modelVersion` and its `id`. -/
def nestedField (payload : Dict) (name field : Str) : Value :=
  match payload.get name with
  | .dict nested => Dict.get nested field
  | _ => .none

/-- `ReactorWorkspaceSourceResolver.resolve`. -/
def resolve (reactor : State) (origin : Origin) (selector : WorkspaceReactorEndpointSelector)
    (targetModel : Str) : Resolved RouteSource := do
  let endpointId := selector.endpointId.text
  let endpoint ← getJson reactor (endpointUri origin endpointId)
  let id ← uuidField endpoint "id"
  agree (id == endpointId) "Reactor returned a different Endpoint identity."
  let version ← integerField endpoint "resourceVersion"
  agree (version == selector.resourceVersion) "The selected Reactor Endpoint version is stale."
  agree ((endpoint.get "state").asStr == some (text "READY") &&
      (endpoint.get "protocol").asStr == some (text "openai.chat.v1") &&
      (endpoint.get "model").asStr == some targetModel)
    "The selected Reactor Endpoint is not ready for this model."
  let deploymentId ← uuidField endpoint "deploymentId"
  let deployment ← getJson reactor (deploymentUri origin deploymentId)
  let incompatible := "Reactor returned an incompatible Deployment identity."
  let id ← uuidField deployment "id"
  agree (id == deploymentId) incompatible
  let back ← uuidField deployment "endpointId"
  agree (back == endpointId) incompatible
  agree ((deployment.get "observedState").asStr == some (text "READY")) incompatible
  let modelVersionId := nestedField deployment "modelVersion" "id"
  match (nestedField deployment "modelArtifact" "digest").asStr with
  | none => sourceConflict "Reactor returned an invalid model artifact digest."
  | some digest =>
      if hDigest : isDigest digest = true then do
        agree ((deployment.get "modelVersion").isNone || modelVersionId.asStr.any isModelVersion)
          "Reactor returned an invalid ModelVersion identity."
        agree (!((deployment.get "composition").asStr == some (text "BASE_PLUS_LORA") &&
          modelVersionId.isNone)) "Reactor omitted the required composed ModelVersion."
        if hUri : isResourceUri (endpointUri origin endpointId) = true then
          .ok
            { resourceUri := endpointUri origin endpointId
              resourceVersion := selector.resourceVersion
              artifactDigest := digest
              modelVersionId := modelVersionId.asStr.filter isModelVersion
              uriAdmitted := hUri
              versionAdmitted := selector.versionAdmitted
              digestAdmitted := hDigest
              modelVersionAdmitted := fun _ hId => (Option.mem_filter_iff.mp hId).2 }
        else .error .validation
      else sourceConflict "Reactor returned an invalid model artifact digest."

end Draft

section Publication

/-- How a publication is refused: by the code and the status of its error. -/
structure Refusal where
  code : String
  status : Nat := 409
deriving DecidableEq, Repr

abbrev Admitted := Except Refusal

/-- Go on, or `_reject`. -/
def ensure (condition : Bool) (code : String) (status : Nat) : Admitted Unit :=
  if condition then .ok () else .error ⟨code, status⟩

/-- `except (ValueError, KeyError, TypeError)`. -/
def invalid {α : Type} : Admitted α := .error ⟨"EXCHANGE_SOURCE_RESPONSE_INVALID", 409⟩

/-- `client.get(url)`, `raise_for_status()` and `json()`, with the errors they end in. -/
def readJson (reactor : State) (url : Str) : Admitted Value :=
  match reactor url with
  | none => .error ⟨"EXCHANGE_SOURCE_UNREACHABLE", 503⟩
  | some response =>
      if 200 ≤ response.status ∧ response.status < 300 then
        match response.json with
        | none => invalid
        | some document => .ok document
      else if response.status = 401 ∨ response.status = 403 then
        .error ⟨"EXCHANGE_SOURCE_PERMISSION_DENIED", 403⟩
      else if response.status = 404 then .error ⟨"EXCHANGE_SOURCE_NOT_FOUND", 404⟩
      else .error ⟨"EXCHANGE_SOURCE_UNREACHABLE", 503⟩

/-- A value that is read, unless reading it raises. -/
def orInvalid {α : Type} : Option α → Admitted α
  | some value => .ok value
  | none => invalid

/-- `[0-9a-f-]{36}`. -/
def isResourceId (s : Str) : Bool :=
  decide (s.length = 36) && s.all fun c => isLowerHex c || c.val == 45

/-- `path.rsplit("/", 1)[1]`. -/
def lastSegment (path : Str) : Str := (path.reverse.takeWhile fun c => c.val != 47).reverse

/-- A document that is indexed: no other value has entries by name. -/
def asObject (value : Value) : Admitted Dict := orInvalid value.asDict

/-- `value[key]`. -/
def item (d : Dict) (key : Str) : Admitted Value := orInvalid (d.lookup key)

/-- The source checks of `ReactorRouteAdmission.__call__`. -/
def admitSource (reactor : State) (origin : Origin) (source : RouteSource)
    (targetModel : Option Str) : Admitted Unit := do
  let parsed := urlsplit source.resourceUri
  let admitted := urlsplit origin.text
  ensure (parsed.scheme == admitted.scheme && parsed.netloc == admitted.netloc &&
      parsed.query.isEmpty && parsed.fragment.isEmpty &&
      parsed.path.startsWith "/api/v1/endpoints/" && isResourceId (parsed.path.drop 18))
    "EXCHANGE_SOURCE_PERMISSION_DENIED" 403
  let endpoint ← asObject (← readJson reactor source.resourceUri)
  let endpointId ← orInvalid (uuidOf (endpoint.get "id"))
  ensure (endpointId == lastSegment parsed.path) "EXCHANGE_SOURCE_RESPONSE_INVALID" 409
  ensure (equalsInt (endpoint.get "resourceVersion") source.resourceVersion)
    "EXCHANGE_SOURCE_VERSION_CONFLICT" 409
  ensure ((endpoint.get "protocol").asStr == some (text "openai.chat.v1"))
    "EXCHANGE_SOURCE_PROTOCOL_INCOMPATIBLE" 409
  ensure ((endpoint.get "state").asStr == some (text "READY")) "EXCHANGE_SOURCE_NOT_READY" 409
  ensure (match targetModel with
    | some model => (endpoint.get "model").asStr == some model
    | none => (endpoint.get "model").isNone) "EXCHANGE_SOURCE_MODEL_MISMATCH" 409
  let deploymentId ← orInvalid (identifierText (← item endpoint "deploymentId"))
  ensure (isResourceId deploymentId) "EXCHANGE_SOURCE_RESPONSE_INVALID" 409
  let deployment ← asObject (← readJson reactor (deploymentUri origin deploymentId))
  let id ← orInvalid (uuidOf (← item deployment "id"))
  ensure (id == deploymentId) "EXCHANGE_SOURCE_RESPONSE_INVALID" 409
  let artifact ← asObject (← item deployment "modelArtifact")
  let digest ← item artifact "digest"
  ensure (digest.asStr == some source.artifactDigest) "EXCHANGE_SOURCE_ARTIFACT_MISMATCH" 409
  let versionId := nestedField deployment "modelVersion" "id"
  ensure ((match source.modelVersionId with
      | some id => versionId.asStr == some id
      | none => versionId.isNone) &&
    !((deployment.get "composition").asStr == some (text "BASE_PLUS_LORA") &&
      source.modelVersionId.isNone)) "EXCHANGE_SOURCE_MODEL_VERSION_MISMATCH" 409

end Publication

end CyreneExchange.Product.Reactor
