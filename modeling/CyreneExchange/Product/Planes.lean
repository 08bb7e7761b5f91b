import CyreneExchange.Product.Revocation

/-! The two planes of one process. Control credentials, Gateway credentials and
API keys share a table; the configuration decides which of them each plane
accepts. -/
namespace CyreneExchange.Product

open Integrations (UUID CollisionFree)
open Machine Transaction

section Configuration

/-- The credentials, grants and endpoint given to `build_product_app`. The maps
are dictionaries, so each token occurs once. -/
structure ProductConfiguration where
  controlCredentials : Option CredentialMap := none
  controlOnlyCredentials : CredentialMap := []
  gatewayCredentials : CredentialMap := []
  workspaceEndpointGrants : List EndpointGrant := []
  workspaceReactorEndpointGrants : List EndpointGrant := []
  endpointId : Option UUID := none
  controlUnique : Table.KeysUnique Prod.fst (controlCredentials.getD [])

/-- `control_credentials or {}`. -/
def ProductConfiguration.controlMap (config : ProductConfiguration) : CredentialMap :=
  config.controlCredentials.getD []

/-- `credentials.get(token)`. -/
def CredentialMap.principalOf (credentials : CredentialMap) (token : String) :
    Option ProductPrincipal :=
  (credentials.find? fun entry => decide (entry.1 = token)).map Prod.snd

/-- `token in credentials`. -/
def CredentialMap.hasToken (credentials : CredentialMap) (token : String) : Bool :=
  credentials.any fun entry => decide (entry.1 = token)

/-- The round of the loop that admits one configured Gateway credential. -/
def admitGateway (control effective : CredentialMap) (entry : String × ProductPrincipal) :
    Except Failure CredentialMap :=
  if (control.principalOf entry.1).any fun principal => principal.organizationId.isSome then
    .error (.valueError "a Workspace control credential cannot also be a Gateway credential")
  else match effective.principalOf entry.1 with
    | some existing =>
        if existing ≠ entry.2 then
          .error (.valueError "a Gateway credential has conflicting configured identities")
        else .ok effective
    | none => .ok (effective ++ [entry])

/-- `effective_gateway_credentials`. -/
def ProductConfiguration.effectiveGatewayCredentials (config : ProductConfiguration) :
    Except Failure CredentialMap :=
  if config.controlOnlyCredentials.any fun entry =>
      decide (config.controlMap.principalOf entry.1 ≠ some entry.2) then
    .error (.valueError "control-only credentials must be present in control_credentials")
  else config.gatewayCredentials.foldlM (admitGateway config.controlMap)
    (config.controlMap.filter fun entry =>
      entry.2.organizationId.isNone && !config.controlOnlyCredentials.hasToken entry.1)

/-- `_select_endpoint`. -/
def selectEndpoint (endpointId : Option UUID) : StoreTransaction UUID :=
  match endpointId with
  | some endpointId => pure endpointId
  | none => do
      let endpoints ← fetch ExchangeStore.endpoints
      match endpoints.filter fun row => decide (row.document.state = .active) with
      | [row] => pure row.document.id
      | _ => reject (.valueError ("EXCHANGE_ENDPOINT_AMBIGUOUS: select --endpoint-id when the " ++
          "store does not hold exactly one ACTIVE gateway endpoint"))

/-- What both planes remember of the configuration. -/
structure ProductApp where
  endpointId : UUID
  controlRefs : Option (List String)
  configuredDigests : List String
deriving DecidableEq

/-- The control credentials, as `create_app` installs them. -/
def configureControl (host : Host) (now : Int) : Option CredentialMap → StoreTransaction Unit
  | none => pure ()
  | some credentials => configureCredentials host now credentials

/-- `build_product_app`, as far as it reads and writes the store; its calls
read the clock at their own times. -/
def buildProductApp (host : Host) (controlNow gatewayNow : Int) (config : ProductConfiguration) :
    StoreTransaction ProductApp :=
  match config.effectiveGatewayCredentials with
  | .error failure => reject failure
  | .ok effective => do
      let endpointId ← selectEndpoint config.endpointId
      configureControl host controlNow config.controlCredentials
      configureWorkspaceEndpointGrants config.workspaceEndpointGrants
      configureWorkspaceReactorEndpointGrants config.workspaceReactorEndpointGrants
      configureCredentials host gatewayNow effective
      pure { endpointId := endpointId
             controlRefs := config.controlCredentials.map fun credentials =>
               credentials.map fun entry => entry.2.credentialRef
             configuredDigests := effective.map fun entry => host.hexdigest entry.1 }

/-- The identity of an unprotected control API. -/
def defaultPrincipal : ProductPrincipal where
  actorId := "actor-default"
  workspaceId := "workspace-default"
  credentialRef := "cred://exchange/default"
  nonempty := by decide +kernel

/-- `principal`: the identity of a control request with this bearer. -/
def ProductApp.controlPrincipal (app : ProductApp) (host : Host) (now : Int) (s : ExchangeStore)
    (token : String) : Option ProductPrincipal :=
  match app.controlRefs with
  | none => some defaultPrincipal
  | some refs => (s.resolveProductCredential host now token).filter fun identity =>
      refs.contains identity.credentialRef

/-- `data_plane_principal_resolver`. -/
def ProductApp.dataPlanePrincipal (app : ProductApp) (host : Host) (now : Int) (s : ExchangeStore)
    (token : String) : Option Gateway.RequestPrincipal :=
  s.resolveDataPlaneCredential host now token app.configuredDigests

/-- A control credential that the data plane is to refuse. -/
def ProductConfiguration.controlOnly (config : ProductConfiguration)
    (entry : String × ProductPrincipal) : Bool :=
  entry.2.organizationId.isSome || config.controlOnlyCredentials.hasToken entry.1

/-- The control API is protected, no control-only token is given to the Gateway
as well, and no credential kept from the data plane names a stored API key. -/
def ProductConfiguration.separates (config : ProductConfiguration) (s : ExchangeStore) : Bool :=
  config.controlCredentials.isSome &&
    config.controlOnlyCredentials.all (fun entry => !config.gatewayCredentials.hasToken entry.1) &&
    config.controlMap.all fun entry => !config.controlOnly entry ||
      s.credentials.all fun row =>
        decide (row.identity.credentialRef ≠ entry.2.credentialRef) || row.apiKeyId.isNone

end Configuration

section Effective

variable {config : ProductConfiguration} {control effective : CredentialMap}

theorem admitGateway_mem {entry g : String × ProductPrincipal} {next : CredentialMap}
    (h : admitGateway control effective entry = .ok next) (hMem : g ∈ next) :
    g ∈ effective ∨ (g = entry ∧
      ∀ principal, control.principalOf entry.1 = some principal → principal.organizationId = none) := by
  unfold admitGateway at h
  split at h
  · cases h
  · next hScope =>
      split at h
      · split at h
        · cases h
        · cases h
          exact Or.inl hMem
      · cases h
        rcases List.mem_append.mp hMem with hOld | hNew
        · exact Or.inl hOld
        · refine Or.inr ⟨List.mem_singleton.mp hNew, ?_⟩
          intro principal hPrincipal
          rw [hPrincipal] at hScope
          simpa using hScope

/-- Every Gateway credential was admitted from one of the two maps. -/
theorem foldlM_admitGateway_mem {gateway : CredentialMap} {g : String × ProductPrincipal}
    {final : CredentialMap}
    (h : gateway.foldlM (admitGateway control) effective = .ok final) (hMem : g ∈ final) :
    g ∈ effective ∨ (g ∈ gateway ∧
      ∀ principal, control.principalOf g.1 = some principal → principal.organizationId = none) := by
  induction gateway generalizing effective with
  | nil =>
      cases h
      exact Or.inl hMem
  | cons entry rest ih =>
      rw [List.foldlM_cons] at h
      cases hFirst : admitGateway control effective entry with
      | error failure =>
          rw [hFirst] at h
          cases h
      | ok next =>
          rw [hFirst] at h
          rcases ih h with hNext | ⟨hRest, hScope⟩
          · rcases admitGateway_mem hFirst hNext with hOld | ⟨rfl, hScope⟩
            · exact Or.inl hOld
            · exact Or.inr ⟨List.mem_cons_self, hScope⟩
          · exact Or.inr ⟨List.mem_cons_of_mem _ hRest, hScope⟩

theorem principalOf_of_mem (hUnique : Table.KeysUnique Prod.fst control)
    {entry : String × ProductPrincipal} (hMem : entry ∈ control) :
    control.principalOf entry.1 = some entry.2 := by
  have hFind := (hUnique.find_eq_some entry.1).mpr ⟨hMem, rfl⟩
  rw [CredentialMap.principalOf, hFind]
  rfl

/-- A token that is kept from the data plane is no Gateway token. -/
theorem controlOnly_not_effective {s : ExchangeStore} {entry : String × ProductPrincipal}
    (hEffective : config.effectiveGatewayCredentials = .ok effective)
    (hSeparates : config.separates s = true) (hMem : entry ∈ config.controlMap)
    (hOnly : config.controlOnly entry = true) : ∀ g ∈ effective, g.1 ≠ entry.1 := by
  intro g hg hSame
  have hPrincipal := principalOf_of_mem config.controlUnique hMem
  unfold ProductConfiguration.effectiveGatewayCredentials at hEffective
  split at hEffective
  · cases hEffective
  · rcases foldlM_admitGateway_mem hEffective hg with hControl | ⟨hGateway, hScope⟩
    · obtain ⟨hMap, hAdmitted⟩ := List.mem_filter.mp hControl
      obtain rfl := config.controlUnique.eq hMap hMem hSame
      unfold ProductConfiguration.controlOnly at hOnly
      cases hScope : g.2.organizationId <;> simp [hScope] at hAdmitted hOnly
      rw [hOnly] at hAdmitted
      cases hAdmitted
    · have hUnscoped := hScope entry.2 (by rw [hSame]; exact hPrincipal)
      have hToken : config.controlOnlyCredentials.hasToken entry.1 = true := by
        simpa [ProductConfiguration.controlOnly, hUnscoped] using hOnly
      obtain ⟨found, hFound, hFoundToken⟩ := List.any_eq_true.mp hToken
      simp only [ProductConfiguration.separates, Bool.and_eq_true, List.all_eq_true] at hSeparates
      have hApart := hSeparates.1.2 found hFound
      rw [of_decide_eq_true hFoundToken, ← hSame] at hApart
      have hGatewayToken : config.gatewayCredentials.hasToken g.1 = true :=
        List.any_eq_true.mpr ⟨g, hGateway, decide_eq_true rfl⟩
      rw [hGatewayToken] at hApart
      cases hApart

end Effective

section Build

variable {host : Host} {now : Int} {s t : ExchangeStore} {u : Unit}

/-- No API key is stored under the reference. -/
def NoKeyUnder (ref : String) (rows : List CredentialRow) : Prop :=
  ∀ row ∈ rows, row.identity.credentialRef = ref → row.apiKeyId = none

theorem configureCredential_noKey {token ref : String} {principal : ProductPrincipal}
    (h : configureCredential host now token principal s = .ok (u, t))
    (hNone : NoKeyUnder ref s.credentials) : NoKeyUnder ref t.credentials := by
  have hRows := (configureCredential_eq_ok h).1
  generalize t.credentials = rows at hRows
  intro row hRow hRef
  cases hRows with
  | updated found hFound hFoundRef hDigest =>
      obtain ⟨old, hOld, ⟨hWhere, rfl⟩ | ⟨-, rfl⟩⟩ := Table.mem_updateWhere.mp hRow
      · exact hNone old hOld ((of_decide_eq_true hWhere).trans hRef)
      · exact hNone row hOld hRef
  | inserted hFreshRef hFreshDigest =>
      rcases List.mem_append.mp hRow with hOld | hNew
      · exact hNone row hOld hRef
      · rw [List.mem_singleton.mp hNew]
        rfl

/-- The credential is stored, and is no API key. -/
def Stored (host : Host) (entry : String × ProductPrincipal) (rows : List CredentialRow) : Prop :=
  ∃ row ∈ rows, row.identity.credentialRef = entry.2.credentialRef ∧
    row.tokenDigest = host.hexdigest entry.1 ∧ row.apiKeyId = none

theorem Stored.kept {entry : String × ProductPrincipal} {installed : String → Prop}
    {rows rows' : List CredentialRow} (h : Stored host entry rows)
    (hKept : CredentialsKept installed rows rows') : Stored host entry rows' := by
  obtain ⟨row, hRow, hRef, hDigest, hKey⟩ := h
  obtain ⟨later, hLater, hRel⟩ := hKept row hRow
  exact ⟨later, hLater, hRel.ref.trans hRef, hRel.digest.trans hDigest, hRel.apiKeyId.trans hKey⟩

theorem configureCredential_stored {token : String} {principal : ProductPrincipal}
    (h : configureCredential host now token principal s = .ok (u, t))
    (hNone : NoKeyUnder principal.credentialRef s.credentials) :
    Stored host (token, principal) t.credentials := by
  have hNext := configureCredential_noKey h hNone
  have hRows := (configureCredential_eq_ok h).1
  generalize t.credentials = rows at hRows hNext
  cases hRows with
  | updated found hFound hRef hDigest =>
      have hMem := Table.mem_updateWhere_of_pos
        (f := fun row : CredentialRow => { row with
          identity := principal
          tokenDigest := host.hexdigest token
          enabled := true }) hFound
        (p := fun row => decide (row.identity.credentialRef = principal.credentialRef))
        (decide_eq_true hRef)
      exact ⟨_, hMem, rfl, rfl, hNext _ hMem rfl⟩
  | inserted hFreshRef hFreshDigest =>
      exact ⟨_, List.mem_append_right _ (List.mem_singleton.mpr rfl), rfl, rfl, rfl⟩

/-- Every configured credential is stored once all of them are. -/
theorem configureAll_stored {credentials : CredentialMap} {entry : String × ProductPrincipal}
    (h : configureAll host now credentials s = .ok (u, t)) (hSound : CredentialsSound s.credentials)
    (hNone : NoKeyUnder entry.2.credentialRef s.credentials) (hMem : entry ∈ credentials) :
    Stored host entry t.credentials := by
  induction credentials generalizing s with
  | nil => cases hMem
  | cons first rest ih =>
      obtain ⟨_, middle, hFirst, hRest⟩ := bind_eq_ok.mp h
      obtain ⟨hMiddle, -⟩ := configureCredential_kept hFirst hSound
      rcases List.mem_cons.mp hMem with rfl | hLater
      · exact (configureCredential_stored hFirst hNone).kept (configureAll_kept hRest hMiddle).2
      · exact ih hRest hMiddle (configureCredential_noKey hFirst hNone) hLater

theorem selectEndpoint_eq_ok {endpointId : Option UUID} {found : UUID}
    (h : selectEndpoint endpointId s = .ok (found, t)) : t = s := by
  cases endpointId with
  | some endpointId =>
      cases h
      rfl
  | none =>
      simp only [selectEndpoint, fetch_bind] at h
      generalize s.endpoints.filter _ = active at h
      rcases active with _ | ⟨row, _ | ⟨other, rest⟩⟩
      · cases h
      · cases h
        rfl
      · cases h

theorem configureControl_eq_ok {control : Option CredentialMap}
    (h : configureControl host now control s = .ok (u, t)) :
    configureAll host now (control.getD []) s = .ok (u, t) := by
  cases control with
  | none => exact h
  | some credentials => exact (configureCredentials_eq_ok h).2

/-- What an accepted configuration leaves: a sound table that holds every
control credential, and what the planes compare with. -/
theorem buildProductApp_eq_ok {controlNow gatewayNow : Int} {config : ProductConfiguration}
    {app : ProductApp}
    (h : buildProductApp host controlNow gatewayNow config s = .ok (app, t))
    (hSound : CredentialsSound s.credentials) :
    CredentialsSound t.credentials ∧
      (∃ effective, config.effectiveGatewayCredentials = .ok effective ∧
        app.configuredDigests = effective.map fun entry => host.hexdigest entry.1) ∧
      app.controlRefs = config.controlCredentials.map (fun credentials =>
        credentials.map fun entry => entry.2.credentialRef) ∧
      ∀ entry ∈ config.controlMap, NoKeyUnder entry.2.credentialRef s.credentials →
        Stored host entry t.credentials := by
  unfold buildProductApp at h
  cases hEffective : config.effectiveGatewayCredentials with
  | error failure =>
      rw [hEffective] at h
      cases h
  | ok effective =>
      rw [hEffective] at h
      obtain ⟨endpointId, _, hSelect, h⟩ := bind_eq_ok.mp h
      cases selectEndpoint_eq_ok hSelect
      obtain ⟨_, s₁, hControl, h⟩ := bind_eq_ok.mp h
      obtain ⟨_, s₂, hGrants, h⟩ := bind_eq_ok.mp h
      obtain ⟨_, s₃, hSources, h⟩ := bind_eq_ok.mp h
      obtain ⟨_, s₄, hGateway, hPure⟩ := bind_eq_ok.mp h
      cases hGrants
      cases hSources
      cases hPure
      have hFirst := configureControl_eq_ok hControl
      have hLast := (configureCredentials_eq_ok hGateway).2
      obtain ⟨hSound₁, -⟩ := configureAll_kept hFirst hSound
      obtain ⟨hSound₄, hKept⟩ := configureAll_kept hLast hSound₁
      refine ⟨hSound₄, ⟨effective, rfl, rfl⟩, rfl, ?_⟩
      intro entry hMem hNone
      exact (configureAll_stored hFirst hSound hNone hMem).kept hKept

end Build

/-- The planes of a process accept no credential of the other one, and an
accepted identity is the one stored for its token. -/
structure PlanesSeparate (host : Host) (config : ProductConfiguration) (app : ProductApp)
    (s : ExchangeStore) : Prop where
  control : ∀ entry ∈ config.controlMap, config.controlOnly entry = true →
    ∀ now, app.dataPlanePrincipal host now s entry.1 = none
  apiKeys : ∀ row ∈ s.credentials, row.apiKeyId.isSome = true →
    ∀ token, host.hexdigest token = row.tokenDigest →
      ∀ now, app.controlPrincipal host now s token = none
  dataPlane : ∀ token now principal, app.dataPlanePrincipal host now s token = some principal →
    ∃ row ∈ s.credentials, row.tokenDigest = host.hexdigest token ∧
      principal = row.requestPrincipal
  controlPlane : ∀ token now principal, app.controlPrincipal host now s token = some principal →
    ∃ row ∈ s.credentials, row.tokenDigest = host.hexdigest token ∧ principal = row.identity

section Runs

variable {host : Host} {now : Int} {s : ExchangeStore} {token : String}

theorem resolveToken_eq_some {admits : CredentialRow → Bool} {row : CredentialRow}
    (h : s.resolveToken host now token admits = some row) :
    row ∈ s.credentials ∧ row.tokenDigest = host.hexdigest token ∧ admits row = true := by
  unfold ExchangeStore.resolveToken at h
  split at h
  · cases h
  · have hFound := List.find?_some h
    simp only [Bool.and_eq_true, decide_eq_true_eq] at hFound
    exact ⟨List.mem_of_find?_eq_some h, hFound.1.1.1, hFound.2⟩

theorem dataPlanePrincipal_eq_some {app : ProductApp} {principal : Gateway.RequestPrincipal}
    (h : app.dataPlanePrincipal host now s token = some principal) :
    ∃ row ∈ s.credentials, row.tokenDigest = host.hexdigest token ∧
      (row.apiKeyId.isSome = true ∨ host.hexdigest token ∈ app.configuredDigests) ∧
      principal = row.requestPrincipal := by
  obtain ⟨row, hRow, rfl⟩ := Option.map_eq_some_iff.mp h
  obtain ⟨hResolved, hAccepted⟩ := Option.filter_eq_some_iff.mp hRow
  obtain ⟨hMem, hDigest, -⟩ := resolveToken_eq_some hResolved
  simp only [Bool.or_eq_true, List.contains_iff_mem] at hAccepted
  exact ⟨row, hMem, hDigest, hAccepted, rfl⟩

theorem controlPrincipal_eq_some {app : ProductApp} {principal : ProductPrincipal}
    (hProtected : app.controlRefs.isSome = true)
    (h : app.controlPrincipal host now s token = some principal) :
    ∃ row ∈ s.credentials, row.tokenDigest = host.hexdigest token ∧ row.apiKeyId = none ∧
      principal = row.identity := by
  unfold ProductApp.controlPrincipal at h
  cases hRefs : app.controlRefs with
  | none =>
      rw [hRefs] at hProtected
      cases hProtected
  | some refs =>
      rw [hRefs] at h
      obtain ⟨row, hRow, rfl⟩ := Option.map_eq_some_iff.mp (Option.filter_eq_some_iff.mp h).1
      obtain ⟨hMem, hDigest, hKey⟩ := resolveToken_eq_some hRow
      exact ⟨row, hMem, hDigest, Option.isNone_iff_eq_none.mp hKey, rfl⟩

/-- The tokens of a configuration. -/
def ProductConfiguration.tokens (config : ProductConfiguration) : List String :=
  (config.controlMap ++ config.gatewayCredentials).map Prod.fst

theorem effective_token {config : ProductConfiguration} {effective : CredentialMap}
    (hEffective : config.effectiveGatewayCredentials = .ok effective)
    {g : String × ProductPrincipal} (hg : g ∈ effective) : g.1 ∈ config.tokens := by
  unfold ProductConfiguration.effectiveGatewayCredentials at hEffective
  split at hEffective
  · cases hEffective
  · apply List.mem_map_of_mem
    rcases foldlM_admitGateway_mem hEffective hg with hControl | ⟨hGateway, -⟩
    · exact List.mem_append_left _ (List.mem_filter.mp hControl).1
    · exact List.mem_append_right _ hGateway

/-- The planes of an accepted configuration stay separate, whatever calls reach
the store afterwards. -/
theorem planes_separate (host : Host) (before after : List StoreCall)
    (controlNow gatewayNow : Int) (config : ProductConfiguration) (app : ProductApp)
    (s : ExchangeStore)
    (hBuilt : buildProductApp host controlNow gatewayNow config
      (run (storeStep host) before {}) = .ok (app, s))
    (hSeparates : config.separates (run (storeStep host) before {}) = true)
    (hFree : CollisionFree host.hexdigest config.tokens) :
    PlanesSeparate host config app (run (storeStep host) after s) := by
  obtain ⟨hSound, ⟨effective, hEffective, hDigests⟩, hRefs, hStored⟩ :=
    buildProductApp_eq_ok hBuilt (credentialsSound_run host before)
  have hAdmitted : Admitted (storeStep host) (fun _ _ => True) after s :=
    admitted_of_forall (fun _ _ => trivial) after s
  have hFinal := (credentialsSound_preserved host).run hSound hAdmitted
  obtain ⟨⟨hProtected, -⟩, hKeys⟩ : (config.controlCredentials.isSome = true ∧ _) ∧ _ := by
    simpa only [ProductConfiguration.separates, Bool.and_eq_true] using hSeparates
  have hRefsSome : app.controlRefs.isSome = true := by
    rw [hRefs, Option.isSome_map]
    exact hProtected
  refine ⟨?_, ?_, ?_, ?_⟩
  · intro entry hMem hOnly now
    have hNoKey : NoKeyUnder entry.2.credentialRef
        (run (storeStep host) before {}).credentials := by
      intro row hRow hRef
      have hEntry := List.all_eq_true.mp hKeys entry hMem
      rw [hOnly, Bool.not_true, Bool.false_or] at hEntry
      have hApart := List.all_eq_true.mp hEntry row hRow
      simpa [hRef] using hApart
    have hEntryStored : Stored host entry (run (storeStep host) after s).credentials := by
      have hPreserved : Preserves (storeStep host) (fun _ _ => True)
          fun s => CredentialsSound s.credentials ∧ Stored host entry s.credentials :=
        fun s call h _ => by
          obtain ⟨hNext, hKept⟩ := storeStep_credentials host call h.1
          exact ⟨hNext, h.2.kept hKept⟩
      exact (hPreserved.run ⟨hSound, hStored entry hMem hNoKey⟩ hAdmitted).2
    cases hResolved : app.dataPlanePrincipal host now (run (storeStep host) after s) entry.1 with
    | none => rfl
    | some principal =>
        obtain ⟨row, hRow, hDigest, hAccepted, -⟩ := dataPlanePrincipal_eq_some hResolved
        obtain ⟨stored, hStoredRow, -, hStoredDigest, hStoredKey⟩ := hEntryStored
        obtain rfl := hFinal.digests.eq hRow hStoredRow (hDigest.trans hStoredDigest.symm)
        rcases hAccepted with hKey | hConfigured
        · rw [hStoredKey] at hKey
          cases hKey
        · rw [hDigests] at hConfigured
          obtain ⟨g, hg, hSame⟩ := List.mem_map.mp hConfigured
          have hToken : entry.1 ∈ config.tokens :=
            List.mem_map_of_mem (List.mem_append_left _ hMem)
          exact absurd (hFree _ (effective_token hEffective hg) _ hToken hSame)
            (controlOnly_not_effective hEffective hSeparates hMem hOnly g hg)
  · intro row hRow hKey token hDigest now
    cases hResolved : app.controlPrincipal host now (run (storeStep host) after s) token with
    | none => rfl
    | some principal =>
        obtain ⟨found, hFound, hFoundDigest, hNone, -⟩ :=
          controlPrincipal_eq_some hRefsSome hResolved
        obtain rfl := hFinal.digests.eq hFound hRow (hFoundDigest.trans hDigest)
        rw [hNone] at hKey
        cases hKey
  · intro token now principal hResolved
    obtain ⟨row, hRow, hDigest, -, hPrincipal⟩ := dataPlanePrincipal_eq_some hResolved
    exact ⟨row, hRow, hDigest, hPrincipal⟩
  · intro token now principal hResolved
    obtain ⟨row, hRow, hDigest, -, hPrincipal⟩ := controlPrincipal_eq_some hRefsSome hResolved
    exact ⟨row, hRow, hDigest, hPrincipal⟩

end Runs

section Sample

def sampleGateway : ProductPrincipal where
  actorId := "client"
  workspaceId := "workspace"
  credentialRef := "cred://client"
  nonempty := by decide +kernel

/-- A control-only bearer and the Gateway bearers of a process. -/
def sampleConfiguration (gateway : CredentialMap) : ProductConfiguration where
  controlCredentials := some [("control", sampleOperator)]
  controlOnlyCredentials := [("control", sampleOperator)]
  gatewayCredentials := gateway
  endpointId := some (sampleUuid 'e')
  controlUnique := List.nodup_singleton _

/-- The process with one bearer for each plane, and its store. -/
def sampleApp : ProductApp where
  endpointId := sampleUuid 'e'
  controlRefs := some ["cred://operator"]
  configuredDigests := [sampleHost.hexdigest "client"]

def sampleAppStore : ExchangeStore where
  credentials := [sampleOperator.credentialRow (sampleHost.hexdigest "control") 0,
    sampleGateway.credentialRow (sampleHost.hexdigest "client") 0]

theorem planes_separate_sample : PlanesSeparate sampleHost
    (sampleConfiguration [("client", sampleGateway)]) sampleApp
    (run (storeStep sampleHost) [sampleDisable] sampleAppStore) :=
  planes_separate sampleHost [] [sampleDisable] 0 0 _ sampleApp sampleAppStore
    (by decide +kernel) (by decide +kernel) (by unfold CollisionFree; decide +kernel)

theorem control_only_bearer_reaches_gateway : ¬ ∀ host before after controlNow gatewayNow config
    app s, buildProductApp host controlNow gatewayNow config
      (run (storeStep host) before {}) = .ok (app, s) →
    CollisionFree host.hexdigest config.tokens →
      PlanesSeparate host config app (run (storeStep host) after s) := by
  intro h
  have hPlanes := h sampleHost [] [] 0 0 (sampleConfiguration [("control", sampleOperator)])
    { sampleApp with configuredDigests := [sampleHost.hexdigest "control"] }
    { credentials := [sampleOperator.credentialRow (sampleHost.hexdigest "control") 0] }
    (by decide +kernel) (by unfold CollisionFree; decide +kernel)
  have hNone := hPlanes.control ("control", sampleOperator) (by decide +kernel) (by decide +kernel) 0
  revert hNone
  decide +kernel

end Sample

end CyreneExchange.Product
