import CyreneExchange.Product.Lifecycle
import CyreneExchange.Product.Routing

/-! From a planned target to its provider. The resolver knows a target by its
binding id only and finds a route, and through it a source, again. -/
namespace CyreneExchange.Product

open Gateway (Str RequestPrincipal)
open Machine

section Resolver

/-- The messages of a `ProviderUnavailableError`. -/
inductive ProviderUnavailableError where
  | unsupportedCapability (capabilityId : Str)
  | noActiveRoute (bindingId : Str)
  | noSourceEndpoint
  | sourceEndpoint (detail : String)
deriving DecidableEq

structure OpenAICompatibleProvider where
  baseUrl : String
deriving DecidableEq

/-- `OpenAICompatibleProvider(url)`: the URL without its last slashes. -/
def OpenAICompatibleProvider.ofUrl (url : HttpUrl) : OpenAICompatibleProvider where
  baseUrl := String.ofList (url.text.toList.reverse.dropWhile (· == '/')).reverse

/-- `MODEL_PROVIDER_CAPABILITY`. -/
def modelProviderCapability : Str := Gateway.text "model.provider.v1"

/-- What `_source_endpoint_url` reads at a URI at some moment. -/
abbrev SourceEndpoints : Type := String → Except ProviderUnavailableError HttpUrl

/-- `cache_key`. -/
def RouteSource.cacheKey (source : RouteSource) : String × Nat :=
  (source.resourceUri.text, source.resourceVersion)

structure RouteSourceProviderResolver where
  providers : List ((String × Nat) × OpenAICompatibleProvider) := []
deriving DecidableEq

namespace RouteSourceProviderResolver

variable (endpoints : SourceEndpoints) (resolver : RouteSourceProviderResolver)

/-- `_provider_for`: a provider is built once for each source version. -/
def providerFor (source : RouteSource) :
    Except ProviderUnavailableError OpenAICompatibleProvider × RouteSourceProviderResolver :=
  match resolver.providers.lookup source.cacheKey with
  | some cached => (.ok cached, resolver)
  | none =>
      match endpoints source.resourceUri.text with
      | .error failure => (.error failure, resolver)
      | .ok url => (.ok (.ofUrl url),
          { providers := (source.cacheKey, .ofUrl url) :: resolver.providers })

/-- The route that `resolve` finds again for a binding id. -/
def routeFor (s : ExchangeStore) (bindingId : Str) : Option GatewayRoute :=
  s.listActiveRoutes.find? fun item => decide (Gateway.text item.targetBindingId.text = bindingId)

def resolve (s : ExchangeStore) (capabilityId : Str) (implementationRef : Option Str) :
    Except ProviderUnavailableError OpenAICompatibleProvider × RouteSourceProviderResolver :=
  if capabilityId ≠ modelProviderCapability then
    (.error (.unsupportedCapability capabilityId), resolver)
  else
    match (routeFor s (implementationRef.getD [])).bind GatewayRoute.source with
    | none => (.error (.noActiveRoute (implementationRef.getD [])), resolver)
    | some source => resolver.providerFor endpoints source

/-- `validate_route`: a draft is tried through its own source. -/
def validateRoute (route : GatewayRoute) :
    Except ProviderUnavailableError Unit × RouteSourceProviderResolver :=
  match route.source with
  | none => (.error .noSourceEndpoint, resolver)
  | some source =>
      ((resolver.providerFor endpoints source).1.map fun _ => (),
        (resolver.providerFor endpoints source).2)

end RouteSourceProviderResolver

/-- The calls that a resolver gets, each over its own moment of the network. -/
inductive ResolverCall where
  | resolve (endpoints : SourceEndpoints) (s : ExchangeStore) (capabilityId : Str)
      (implementationRef : Option Str)
  | validateRoute (endpoints : SourceEndpoints) (route : GatewayRoute)

def resolverStep : ResolverCall → RouteSourceProviderResolver → Unit × RouteSourceProviderResolver
  | .resolve endpoints s capabilityId implementationRef, resolver =>
      ((), (resolver.resolve endpoints s capabilityId implementationRef).2)
  | .validateRoute endpoints route, resolver => ((), (resolver.validateRoute endpoints route).2)

end Resolver

section Cache

variable {endpoints : SourceEndpoints} {resolver : RouteSourceProviderResolver}
  {source source' : RouteSource} {provider : OpenAICompatibleProvider} {key : String × Nat}

theorem providerFor_cached (h : resolver.providers.lookup source.cacheKey = some provider)
    (endpoints : SourceEndpoints) :
    resolver.providerFor endpoints source = (.ok provider, resolver) := by
  rw [RouteSourceProviderResolver.providerFor, h]

/-- Sources of one URI and version have one provider. -/
theorem providerFor_congr (h : source.cacheKey = source'.cacheKey) :
    resolver.providerFor endpoints source = resolver.providerFor endpoints source' := by
  have hUri : source.resourceUri.text = source'.resourceUri.text := congrArg Prod.fst h
  unfold RouteSourceProviderResolver.providerFor
  rw [h, hUri]

/-- A provider that was given is kept under its source. -/
theorem providerFor_remembers (h : (resolver.providerFor endpoints source).1 = .ok provider) :
    (resolver.providerFor endpoints source).2.providers.lookup source.cacheKey = some provider := by
  unfold RouteSourceProviderResolver.providerFor at h ⊢
  cases hCached : resolver.providers.lookup source.cacheKey with
  | some cached =>
      simp only [hCached, Except.ok.injEq] at h ⊢
      rw [h]
  | none =>
      cases hUrl : endpoints source.resourceUri.text with
      | error failure => simp [hCached, hUrl] at h
      | ok url =>
          simp only [hCached, hUrl, Except.ok.injEq] at h ⊢
          rw [List.lookup_cons_self, h]

/-- No call forgets or exchanges a provider. -/
theorem providerFor_keeps (h : resolver.providers.lookup key = some provider) :
    (resolver.providerFor endpoints source).2.providers.lookup key = some provider := by
  unfold RouteSourceProviderResolver.providerFor
  cases hCached : resolver.providers.lookup source.cacheKey with
  | some cached => exact h
  | none =>
      cases endpoints source.resourceUri.text with
      | error failure => exact h
      | ok url =>
          have hOther : key ≠ source.cacheKey := by
            rintro rfl
            rw [hCached] at h
            cases h
          simp [List.lookup_cons, beq_eq_false_iff_ne.mpr hOther, h]

theorem resolverStep_keeps (call : ResolverCall) (h : resolver.providers.lookup key = some provider) :
    (resolverStep call resolver).2.providers.lookup key = some provider := by
  cases call with
  | resolve endpoints s capabilityId implementationRef =>
      show (resolver.resolve endpoints s capabilityId implementationRef).2.providers.lookup key = _
      unfold RouteSourceProviderResolver.resolve
      split
      · exact h
      · split
        · exact h
        · exact providerFor_keeps h
  | validateRoute endpoints route =>
      show (resolver.validateRoute endpoints route).2.providers.lookup key = _
      unfold RouteSourceProviderResolver.validateRoute
      split
      · exact h
      · exact providerFor_keeps h

theorem run_keeps (calls : List ResolverCall) (h : resolver.providers.lookup key = some provider) :
    (run resolverStep calls resolver).providers.lookup key = some provider := by
  induction calls generalizing resolver with
  | nil => exact h
  | cons call rest ih => exact ih (resolverStep_keeps call h)

end Cache

section Served

variable {s : ExchangeStore} {route : GatewayRoute} {source own : RouteSource}

/-- The resolver after some calls. -/
abbrev resolverAfter (calls : List ResolverCall) : RouteSourceProviderResolver :=
  run resolverStep calls {}

/-- Resolving the target built from the route is asking for the provider of the
route's own source, and answers with the one that its validation built. -/
structure Served (s : ExchangeStore) (route : GatewayRoute) : Prop where
  own : ∃ source, route.source = some source ∧ ∀ calls endpoints,
    (resolverAfter calls).resolve endpoints s modelProviderCapability
        (some route.target.providerRef) =
      (resolverAfter calls).providerFor endpoints source
  validated : ∀ source, route.source = some source → ∀ calls endpoints provider,
    ((resolverAfter calls).providerFor endpoints source).1 = .ok provider →
      ∀ later endpoints',
        ((run resolverStep later ((resolverAfter calls).validateRoute endpoints route).2).resolve
          endpoints' s modelProviderCapability (some route.target.providerRef)).1 = .ok provider

/-- An active route without an organization under the binding id of the route. -/
def RouteRow.sharesBinding (row : RouteRow) (route : GatewayRoute) : Bool :=
  decide (row.state = .active) && row.organizationId.isNone &&
    decide (row.document.targetBindingId = route.targetBindingId)

/-- Of the active routes without an organization under its binding id, the first
by priority and id has a source of the URI and version of the route's own. -/
structure SourceFirst (s : ExchangeStore) (route : GatewayRoute) (row : RouteRow) : Prop where
  stored : row ∈ s.routes
  shares : row.sharesBinding route = true
  first : ∀ other ∈ s.routes, other.sharesBinding route = true → row.order ≤ other.order
  source : ∃ source own, row.document.source = some source ∧ route.source = some own ∧
    source.cacheKey = own.cacheKey

theorem text_eq_iff {least most : Nat} {binding binding' : Text least most} :
    Gateway.text binding.text = Gateway.text binding'.text ↔ binding = binding' := by
  obtain ⟨text, hText⟩ := binding
  obtain ⟨text', hText'⟩ := binding'
  simp

/-- What the resolver searches: active, without an organization, of the binding. -/
theorem searched_iff {row : RouteRow} :
    (row ∈ s.routes.filter (fun row => decide (row.state = .active) && row.organizationId.isNone) ∧
      decide (Gateway.text row.route.targetBindingId.text = route.target.providerRef) = true) ↔
        row ∈ s.routes ∧ row.sharesBinding route = true := by
  have hText : Gateway.text row.route.targetBindingId.text = route.target.providerRef ↔
      row.document.targetBindingId = route.targetBindingId := text_eq_iff
  simp only [List.mem_filter, RouteRow.sharesBinding, Bool.and_eq_true, decide_eq_true_eq, hText,
    and_assoc]

/-- The resolver finds the first of the routes that share the binding id. -/
theorem routeFor_eq_some {found : GatewayRoute}
    (h : RouteSourceProviderResolver.routeFor s route.target.providerRef = some found) :
    ∃ row ∈ s.routes, row.route = found ∧ row.sharesBinding route = true ∧
      ∀ other ∈ s.routes, other.sharesBinding route = true → row.order ≤ other.order := by
  unfold RouteSourceProviderResolver.routeFor ExchangeStore.listActiveRoutes
    ExchangeStore.selectRoutes at h
  rw [List.find?_map] at h
  obtain ⟨row, hFind, rfl⟩ := Option.map_eq_some_iff.mp h
  obtain ⟨hMem, hBinding, hLeast⟩ := Table.find_orderBy hFind
  obtain ⟨hRow, hShares⟩ := searched_iff.mp ⟨hMem, hBinding⟩
  refine ⟨row, hRow, rfl, hShares, ?_⟩
  intro other hOther hOtherShares
  obtain ⟨hOtherMem, hOtherBinding⟩ := searched_iff.mpr ⟨hOther, hOtherShares⟩
  exact hLeast other hOtherMem hOtherBinding

theorem routeFor_eq_none
    (h : RouteSourceProviderResolver.routeFor s route.target.providerRef = none) :
    ∀ row ∈ s.routes, row.sharesBinding route = false := by
  unfold RouteSourceProviderResolver.routeFor ExchangeStore.listActiveRoutes
    ExchangeStore.selectRoutes at h
  rw [List.find?_map, Option.map_eq_none_iff, List.find?_eq_none] at h
  intro row hRow
  by_contra hShares
  obtain ⟨hMem, hBinding⟩ := searched_iff.mpr ⟨hRow, Bool.not_eq_false _ ▸ hShares⟩
  exact h row (Table.mem_orderBy.mpr hMem) hBinding

theorem SourceFirst.routeFor {row : RouteRow} (h : SourceFirst s route row)
    (hUnique : Table.KeysUnique RouteRow.id s.routes) :
    RouteSourceProviderResolver.routeFor s route.target.providerRef = some row.route := by
  cases hFind : RouteSourceProviderResolver.routeFor s route.target.providerRef with
  | none =>
      have hShares := h.shares
      rw [routeFor_eq_none hFind row h.stored] at hShares
      cases hShares
  | some found =>
      obtain ⟨row', hRow', rfl, hShares', hFirst'⟩ := routeFor_eq_some hFind
      have hOrder : row'.order = row.order :=
        le_antisymm (hFirst' row h.stored h.shares) (h.first row' hRow' hShares')
      rw [(order_unique hUnique).eq hRow' h.stored hOrder]

theorem resolve_target (resolver : RouteSourceProviderResolver) (endpoints : SourceEndpoints) :
    resolver.resolve endpoints s modelProviderCapability (some route.target.providerRef) =
      match (RouteSourceProviderResolver.routeFor s route.target.providerRef).bind
        GatewayRoute.source with
      | none => (.error (.noActiveRoute route.target.providerRef), resolver)
      | some source => resolver.providerFor endpoints source := by
  simp [RouteSourceProviderResolver.resolve]

theorem served_of_first {row : RouteRow} (h : SourceFirst s route row)
    (hUnique : Table.KeysUnique RouteRow.id s.routes) : Served s route := by
  obtain ⟨source, own, hSource, hOwn, hKey⟩ := h.source
  have hResolve (resolver : RouteSourceProviderResolver) (endpoints : SourceEndpoints) :
      resolver.resolve endpoints s modelProviderCapability (some route.target.providerRef) =
        resolver.providerFor endpoints own := by
    have hFound : (RouteSourceProviderResolver.routeFor s route.target.providerRef).bind
        GatewayRoute.source = some source := by
      rw [h.routeFor hUnique]
      exact hSource
    rw [resolve_target, hFound]
    exact providerFor_congr hKey
  refine ⟨⟨own, hOwn, fun calls endpoints => hResolve (resolverAfter calls) endpoints⟩, ?_⟩
  intro validated hValidated calls endpoints provider hProvider later endpoints'
  rw [hOwn] at hValidated
  cases hValidated
  have hKept : ((resolverAfter calls).validateRoute endpoints route).2.providers.lookup
      own.cacheKey = some provider := by
    unfold RouteSourceProviderResolver.validateRoute
    rw [hOwn]
    exact providerFor_remembers hProvider
  rw [hResolve, providerFor_cached (run_keeps later hKept) endpoints']

/-- Two URLs that sources may publish. -/
def firstUrl : HttpUrl := ⟨"https://first.example", by decide +kernel⟩

def secondUrl : HttpUrl := ⟨"https://second.example", by decide +kernel⟩

/-- Once the route was validated, only its own source has its provider. -/
theorem first_of_served (h : Served s route) : ∃ row, SourceFirst s route row := by
  obtain ⟨own, hOwn, hServed⟩ := h.own
  -- validated while the source publishes one URL, resolved while all publish another
  have hAnswer := hServed [.validateRoute (fun _ => .ok firstUrl) route] fun _ => .ok secondUrl
  have hAfter : resolverAfter [.validateRoute (fun _ => .ok firstUrl) route] =
      { providers := [(own.cacheKey, .ofUrl firstUrl)] } := by
    simp [resolverAfter, run, resolverStep, RouteSourceProviderResolver.validateRoute, hOwn,
      RouteSourceProviderResolver.providerFor]
  rw [hAfter, resolve_target] at hAnswer
  have hKnown : ({ providers := [(own.cacheKey, .ofUrl firstUrl)] } :
      RouteSourceProviderResolver).providerFor (fun _ => .ok secondUrl) own =
        (.ok (.ofUrl firstUrl), { providers := [(own.cacheKey, .ofUrl firstUrl)] }) :=
    providerFor_cached (List.lookup_cons_self ..) _
  rw [hKnown] at hAnswer
  cases hFind : RouteSourceProviderResolver.routeFor s route.target.providerRef with
  | none =>
      rw [hFind] at hAnswer
      cases hAnswer
  | some found =>
      obtain ⟨row, hRow, rfl, hShares, hFirst⟩ := routeFor_eq_some hFind
      have hBind : (some row.route).bind GatewayRoute.source = row.document.source := rfl
      rw [hFind, hBind] at hAnswer
      cases hSource : row.document.source with
      | none =>
          rw [hSource] at hAnswer
          cases hAnswer
      | some source =>
          refine ⟨row, hRow, hShares, hFirst, source, own, hSource, hOwn, ?_⟩
          by_contra hOther
          rw [hSource] at hAnswer
          simp [RouteSourceProviderResolver.providerFor, List.lookup_cons,
            beq_eq_false_iff_ne.mpr hOther] at hAnswer

/-- A target is served by its own route's provider exactly if the first of the
active routes without an organization under its binding id has the same source. -/
theorem target_served_iff (hUnique : Table.KeysUnique RouteRow.id s.routes) (route : GatewayRoute) :
    Served s route ↔ ∃ row, SourceFirst s route row :=
  ⟨first_of_served, fun ⟨_, h⟩ => served_of_first h hUnique⟩

end Served

section Sample

def sampleTenant : ProductPrincipal where
  actorId := "tenant"
  workspaceId := "workspace"
  credentialRef := "cred://tenant"
  organizationId := some "organization"
  nonempty := by decide +kernel

def sampleTenantSource : RouteSource :=
  { sampleSource with resourceUri := ⟨"https://reactor.example/endpoints/2", by decide +kernel⟩ }

def sampleTenantRequest : CreateWorkspaceRouteDraftRequest where
  endpointId := sampleUuid 'e'
  modelPattern := sampleDraftRequest.modelPattern
  targetBindingId := sampleDraftRequest.targetBindingId
  targetModel := sampleDraftRequest.targetModel
  priority := sampleDraftRequest.priority
  sourceEndpoint := ⟨sampleUuid 's', 1⟩

def sampleGrant (digit : Char) : EndpointGrant where
  endpointId := sampleUuid digit
  organizationId := "organization"
  workspaceId := "workspace"
  nonempty := by decide +kernel

/-- The operator and a tenant publish a route each, under one binding id. -/
def sampleSharedBinding : List ServiceInput := sampleCreation ++ [
  sampleArrival (.confirmRouteDraft (sampleUuid 'r') 1),
  sampleAdvance 2 'x', sampleAdvance 2 'x', sampleAdvance 2 'x', sampleAdvance 2 'x',
  .operate (.configureWorkspaceEndpointGrants [sampleGrant 'e']),
  .operate (.configureWorkspaceReactorEndpointGrants [sampleGrant 's']),
  .arrive ⟨sampleTenant, .createDraft (.scopedRouteDraft
    { sampleDraftRequest with source := sampleTenantSource } sampleTenantRequest (sampleUuid 's'))
    "scoped"⟩,
  sampleAdvance 3 'w',
  .arrive ⟨sampleTenant, .confirmWorkspaceRouteDraft (sampleUuid 'w') 1⟩,
  sampleAdvance 4 'x', sampleAdvance 4 'x', sampleAdvance 4 'x', sampleAdvance 4 'x',
  sampleAdvance 4 'x']

def sampleSharedStore : ExchangeStore :=
  (run (serviceStep sampleHost) sampleSharedBinding { store := {} }).store

/-- The row of the tenant's published route. -/
def sampleTenantRow : RouteRow :=
  (((DraftCommand.scopedRouteDraft { sampleDraftRequest with source := sampleTenantSource }
    sampleTenantRequest (sampleUuid 's')).route sampleTenant
    { draw := sampleUuid 'w' }).published 1 0).row

theorem target_served_sample : Served sampleSharedStore sampleActiveRow.route :=
  (target_served_iff (routingSound_reached sampleHost sampleSharedBinding).unique _).mpr
    ⟨sampleActiveRow, by decide +kernel, by decide +kernel, by decide +kernel, sampleSource,
      sampleSource, by decide +kernel, by decide +kernel, rfl⟩

/-- The tenant's target is served by the provider of the operator's source. -/
theorem shared_binding_serves_other_source : ¬ ∀ host inputs planner principal model (row : RouteRow),
    row.Offered (run (serviceStep host) inputs { store := {} }).store planner principal model →
      Served (run (serviceStep host) inputs { store := {} }).store row.route := by
  intro h
  have hOffered : sampleTenantRow.Offered sampleSharedStore ⟨sampleUuid 'e'⟩
      (sampleTenant.credentialRow "" 0).requestPrincipal (Gateway.text "model-1") := by
    exact ⟨by decide +kernel, ⟨_, rfl, by decide +kernel⟩, by decide +kernel, by decide +kernel,
      by decide +kernel, by decide +kernel, by decide +kernel⟩
  obtain ⟨source, hSource, hServed⟩ := (h _ _ _ _ _ _ hOffered).own
  have hOwn : source = sampleTenantSource := by
    have hStored : sampleTenantRow.route.source = some sampleTenantSource := by decide +kernel
    exact Option.some.inj (hSource.symm.trans hStored)
  subst hOwn
  have hAnswer := congrArg Prod.fst (hServed [] fun uri =>
    if uri = sampleSource.resourceUri.text then .ok firstUrl else .ok secondUrl)
  revert hAnswer
  decide +kernel

end Sample

end CyreneExchange.Product
