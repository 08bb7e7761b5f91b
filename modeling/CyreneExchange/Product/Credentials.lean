import CyreneExchange.Product.Store

/-! Credentials: the four methods that write them and the resolvers that read
them. A bearer token is stored only as its digest. -/
namespace CyreneExchange.Product

open Integrations (UUID Timestamp)
open Transaction

/-- A configured mapping from bearer tokens to principals. -/
abbrev CredentialMap : Type := List (String × ProductPrincipal)

/-- The row a configured credential is inserted as. -/
def ProductPrincipal.credentialRow (principal : ProductPrincipal) (tokenDigest : String)
    (now : Int) : CredentialRow where
  identity := principal
  tokenDigest := tokenDigest
  enabled := true
  createdAt := now

/-- One round of the loop of `configure_credentials`: an upsert that binds a
reference to one token and a token to one reference. -/
def configureCredential (host : Host) (now : Int) (token : String)
    (principal : ProductPrincipal) : StoreTransaction Unit := do
  let rows ← fetch ExchangeStore.credentials
  let digest := host.hexdigest token
  let byRef := rows.find? fun row => decide (row.identity.credentialRef = principal.credentialRef)
  require (byRef.all fun row => row.tokenDigest == digest)
    (.valueError "credential_ref is already bound to a different token")
  let byDigest := rows.find? fun row => decide (row.tokenDigest = digest)
  require (byDigest.all fun row => row.identity.credentialRef == principal.credentialRef)
    (.valueError "token is already bound to a different credential_ref")
  if byRef.isSome then
    store fun s => { s with
      credentials := Table.updateWhere
        (fun row => decide (row.identity.credentialRef = principal.credentialRef))
        (fun row => { row with identity := principal, tokenDigest := digest, enabled := true })
        s.credentials }
  else
    store fun s => { s with
      credentials := s.credentials ++ [principal.credentialRow digest now] }

def configureAll (host : Host) (now : Int) : CredentialMap → StoreTransaction Unit
  | [] => pure ()
  | (token, principal) :: rest => do
      configureCredential host now token principal
      configureAll host now rest

/-- `configure_credentials`. -/
def configureCredentials (host : Host) (now : Int) (credentials : CredentialMap) :
    StoreTransaction Unit := do
  require (credentials.all fun entry => nonblank entry.1)
    (.valueError "credential token must be non-empty text")
  configureAll host now credentials

/-- `disable_credential`: whether an enabled credential was there. -/
def disableCredential (credentialRef : String) : StoreTransaction Bool := do
  let rows ← fetch ExchangeStore.credentials
  store fun s => { s with
    credentials := Table.updateWhere
      (fun row => decide (row.identity.credentialRef = credentialRef) && row.enabled)
      (fun row => { row with enabled := false }) s.credentials }
  pure (rows.any fun row => decide (row.identity.credentialRef = credentialRef) && row.enabled)

/-- `row["revoked_at"]`, as a truth value. -/
def CredentialRow.isRevoked (row : CredentialRow) : Bool := row.revokedAt.any (· != 0)

/-- `ApiKeyState.REVOKED if row["revoked_at"] else ApiKeyState.ACTIVE`. -/
def CredentialRow.apiKeyState (row : CredentialRow) : ApiKeyState :=
  if row.isRevoked then .revoked else .active

/-- The length bounds that the `ApiKey` model puts on its owner. -/
def fitsApiKey (identity : ProductPrincipal) : Bool :=
  decide (identity.actorId.length ≤ 300) && decide (identity.workspaceId.length ≤ 300)

/-- `_api_key_from_row` of a row with this id. -/
def CredentialRow.apiKey (host : Host) (apiKeyId : UUID) (row : CredentialRow) : ApiKey where
  id := apiKeyId
  name := row.name.getD "None"
  identity := row.identity
  state := row.apiKeyState
  modelScope := row.modelScope.getD []
  createdAt := host.fromUnixMs row.createdAt
  updatedAt := host.fromUnixMs ((row.revokedAt.filter (· != 0)).getD row.createdAt)
  expiresAt := row.expiresAt.map host.fromUnixMs
  revokedAt := row.revokedAt.map host.fromUnixMs
  resourceVersion := row.resourceVersion

def ExchangeStore.findApiKey (s : ExchangeStore) (apiKeyId : UUID) : Option CredentialRow :=
  s.credentials.find? fun row => decide (row.apiKeyId = some apiKeyId)

/-- `get_api_key`: nothing, the key, or a row the model does not admit. -/
def readApiKey (host : Host) (apiKeyId : UUID) : StoreTransaction (Option ApiKey) := do
  match ← fetch fun s => s.findApiKey apiKeyId with
  | none => pure none
  | some row =>
      require (fitsApiKey row.identity) .validationError
      pure (some (row.apiKey host apiKeyId))

/-- The row a server-generated key is inserted as. -/
def ApiKey.credentialRow (host : Host) (apiKey : ApiKey) (secretDigest : String) (now : Int) :
    CredentialRow where
  identity := apiKey.identity
  tokenDigest := secretDigest
  enabled := true
  createdAt := now
  apiKeyId := some apiKey.id
  name := some apiKey.name
  expiresAt := apiKey.expiresAt.map host.toUnixMs
  modelScope := some apiKey.modelScope
  resourceVersion := apiKey.resourceVersion

/-- `INSERT INTO api_credentials`, under its three uniqueness constraints. -/
def insertCredential (row : CredentialRow) : StoreTransaction Unit := do
  let rows ← fetch ExchangeStore.credentials
  require (rows.all fun found =>
      decide (found.identity.credentialRef ≠ row.identity.credentialRef) &&
        decide (found.tokenDigest ≠ row.tokenDigest) &&
        (found.apiKeyId.isNone || decide (found.apiKeyId ≠ row.apiKeyId)))
    .integrityError
  store fun s => { s with credentials := s.credentials ++ [row] }

/-- The key a recorded creation stands for. -/
def replayApiKey (host : Host) (apiKeyId : UUID) : StoreTransaction ApiKey := do
  match ← readApiKey host apiKeyId with
  | none => reject (.runtimeError "api-key idempotency points to an absent key")
  | some existing => pure existing

/-- `create_api_key`: the stored key and whether this call created it. -/
def createApiKey (host : Host) (apiKey : ApiKey) (secretDigest : String) (key : Option String)
    (requestDigest : String) (scope : IdempotencyScope) (now : Int) :
    StoreTransaction (ApiKey × Bool) := do
  match ← resolveIdempotency scope key requestDigest with
  | some replay =>
      let existing ← replayApiKey host replay
      pure (existing, false)
  | none =>
      insertCredential (apiKey.credentialRow host secretDigest now)
      rememberIdempotency scope key requestDigest apiKey.id
      pure (apiKey, true)

/-- The columns a revocation writes. -/
def CredentialRow.revoked (row : CredentialRow) (now : Int) : CredentialRow :=
  { row with
    enabled := false
    revokedAt := some now
    resourceVersion := row.resourceVersion + 1 }

/-- `revoke_api_key`: a key already marked revoked is answered as it stands. -/
def revokeApiKey (host : Host) (apiKeyId : UUID) (now : Int) :
    StoreTransaction (Option ApiKey) := do
  match ← readApiKey host apiKeyId with
  | none => pure none
  | some existing =>
      if existing.state = .revoked then pure (some existing)
      else
        store fun s => { s with
          credentials := Table.updateWhere (fun row => decide (row.apiKeyId = some apiKeyId))
            (fun row => row.revoked now) s.credentials }
        readApiKey host apiKeyId

section Resolvers

/-- The row a token resolves to: its digest, enabled, and not expired. -/
def ExchangeStore.resolveToken (s : ExchangeStore) (host : Host) (now : Int) (token : String)
    (admits : CredentialRow → Bool) : Option CredentialRow :=
  if token = "" then none
  else s.credentials.find? fun row =>
    decide (row.tokenDigest = host.hexdigest token) && row.enabled &&
      row.expiresAt.all (fun expiry => decide (now < expiry)) && admits row

/-- The request principal of a row. -/
def CredentialRow.requestPrincipal (row : CredentialRow) : Gateway.RequestPrincipal where
  actorId := Gateway.text row.identity.actorId
  workspaceId := Gateway.text row.identity.workspaceId
  credentialRef := Gateway.text row.identity.credentialRef
  modelScope := (row.modelScope.getD []).map Gateway.text
  organizationId := row.identity.organizationId.map Gateway.text

/-- `resolve_credential`. -/
def ExchangeStore.resolveCredential (s : ExchangeStore) (host : Host) (now : Int)
    (token : String) : Option Gateway.RequestPrincipal :=
  (s.resolveToken host now token fun _ => true).map CredentialRow.requestPrincipal

/-- `resolve_data_plane_credential`: an API key, or a configured Gateway token. -/
def ExchangeStore.resolveDataPlaneCredential (s : ExchangeStore) (host : Host) (now : Int)
    (token : String) (configuredGatewayDigests : List String) :
    Option Gateway.RequestPrincipal :=
  ((s.resolveToken host now token fun _ => true).filter fun row =>
    row.apiKeyId.isSome || configuredGatewayDigests.contains (host.hexdigest token)).map
      CredentialRow.requestPrincipal

/-- `resolve_product_credential`: never an API key. -/
def ExchangeStore.resolveProductCredential (s : ExchangeStore) (host : Host) (now : Int)
    (token : String) : Option ProductPrincipal :=
  (s.resolveToken host now token fun row => row.apiKeyId.isNone).map CredentialRow.identity

end Resolvers

section Statements

variable {host : Host} {now : Int} {s t : ExchangeStore} {u : Unit}

/-- The rows with this credential's row rewritten, or added. -/
inductive ConfiguredRow (host : Host) (now : Int) (token : String) (principal : ProductPrincipal)
    (rows : List CredentialRow) : List CredentialRow → Prop
  | updated (row : CredentialRow) (hMem : row ∈ rows)
      (hRef : row.identity.credentialRef = principal.credentialRef)
      (hDigest : row.tokenDigest = host.hexdigest token) :
      ConfiguredRow host now token principal rows
        (Table.updateWhere
          (fun row => decide (row.identity.credentialRef = principal.credentialRef))
          (fun row => { row with
            identity := principal
            tokenDigest := host.hexdigest token
            enabled := true }) rows)
  | inserted (hRef : ∀ row ∈ rows, row.identity.credentialRef ≠ principal.credentialRef)
      (hDigest : ∀ row ∈ rows, row.tokenDigest ≠ host.hexdigest token) :
      ConfiguredRow host now token principal rows
        (rows ++ [principal.credentialRow (host.hexdigest token) now])

theorem configureCredential_eq_ok {token : String} {principal : ProductPrincipal}
    (h : configureCredential host now token principal s = .ok (u, t)) :
    ConfiguredRow host now token principal s.credentials t.credentials ∧
      t = { s with credentials := t.credentials } := by
  simp only [configureCredential, fetch_bind] at h
  obtain ⟨_, _, hRequire, h⟩ := bind_eq_ok.mp h
  obtain ⟨hRef, rfl⟩ := require_eq_ok.mp hRequire
  obtain ⟨_, _, hRequire', h⟩ := bind_eq_ok.mp h
  obtain ⟨hDigest, rfl⟩ := require_eq_ok.mp hRequire'
  cases hFind : s.credentials.find? fun row =>
      decide (row.identity.credentialRef = principal.credentialRef) with
  | some row =>
      simp only [hFind, Option.isSome_some, if_true] at h
      cases h
      refine ⟨.updated row (List.mem_of_find?_eq_some hFind) ?_ ?_, rfl⟩
      · simpa using List.find?_some hFind
      · simpa [hFind] using hRef
  | none =>
      simp only [hFind, Option.isSome_none, Bool.false_eq_true, if_false] at h
      cases h
      refine ⟨.inserted ?_ ?_, rfl⟩
      · intro row hRow
        simpa using List.find?_eq_none.mp hFind row hRow
      · intro row hRow hSame
        cases hOther : s.credentials.find? fun row =>
            decide (row.tokenDigest = host.hexdigest token) with
        | none => simpa [hSame] using List.find?_eq_none.mp hOther row hRow
        | some other =>
            have hOtherRef : other.identity.credentialRef = principal.credentialRef := by
              simpa [hOther] using hDigest
            have hNone := List.find?_eq_none.mp hFind other (List.mem_of_find?_eq_some hOther)
            simp [hOtherRef] at hNone

theorem configureAll_keeps {Part : Type} {part : ExchangeStore → Part}
    (hPart : ∀ s rows, part { s with credentials := rows } = part s) (credentials : CredentialMap) :
    Keeps part (configureAll host now credentials) := by
  induction credentials with
  | nil =>
      intro s t u h
      cases h
      rfl
  | cons entry rest ih =>
      intro s t u h
      obtain ⟨_, middle, hFirst, hRest⟩ := bind_eq_ok.mp h
      have hMiddle := (configureCredential_eq_ok hFirst).2
      exact (ih hRest).trans (hMiddle ▸ hPart s middle.credentials)

theorem configureCredentials_eq_ok {credentials : CredentialMap}
    (h : configureCredentials host now credentials s = .ok (u, t)) :
    (∀ entry ∈ credentials, nonblank entry.1 = true) ∧
      configureAll host now credentials s = .ok (u, t) := by
  obtain ⟨_, _, hRequire, hAll⟩ := bind_eq_ok.mp h
  obtain ⟨hTokens, rfl⟩ := require_eq_ok.mp hRequire
  exact ⟨List.all_eq_true.mp hTokens, hAll⟩

theorem disableCredential_eq_ok {credentialRef : String} {found : Bool}
    (h : disableCredential credentialRef s = .ok (found, t)) :
    (found = true ↔ ∃ row ∈ s.credentials, row.identity.credentialRef = credentialRef ∧
        row.enabled = true) ∧
      t = { s with
        credentials := Table.updateWhere
          (fun row => decide (row.identity.credentialRef = credentialRef) && row.enabled)
          (fun row => { row with enabled := false }) s.credentials } := by
  cases h
  exact ⟨by simp, rfl⟩

theorem readApiKey_eq_ok {apiKeyId : UUID} {answer : Option ApiKey}
    (h : readApiKey host apiKeyId s = .ok (answer, t)) :
    t = s ∧ answer = (s.findApiKey apiKeyId).map (CredentialRow.apiKey host apiKeyId) := by
  simp only [readApiKey, fetch_bind] at h
  cases hFind : s.findApiKey apiKeyId with
  | none =>
      rw [hFind] at h
      cases h
      exact ⟨rfl, rfl⟩
  | some row =>
      simp only [hFind] at h
      obtain ⟨_, _, hFits, hPure⟩ := bind_eq_ok.mp h
      obtain ⟨-, rfl⟩ := require_eq_ok.mp hFits
      cases hPure
      exact ⟨rfl, rfl⟩

/-- A new credential shares no reference, digest or key id with a stored one. -/
theorem insertCredential_eq_ok {row : CredentialRow} (h : insertCredential row s = .ok (u, t)) :
    (∀ found ∈ s.credentials, found.identity.credentialRef ≠ row.identity.credentialRef ∧
        found.tokenDigest ≠ row.tokenDigest ∧
        (found.apiKeyId = none ∨ found.apiKeyId ≠ row.apiKeyId)) ∧
      t = { s with credentials := s.credentials ++ [row] } := by
  simp only [insertCredential, fetch_bind] at h
  obtain ⟨_, _, hRequire, hStore⟩ := bind_eq_ok.mp h
  obtain ⟨hUnique, rfl⟩ := require_eq_ok.mp hRequire
  cases hStore
  refine ⟨?_, rfl⟩
  intro found hFound
  have hApart := List.all_eq_true.mp hUnique found hFound
  simp only [Bool.and_eq_true, Bool.or_eq_true, decide_eq_true_eq,
    Option.isNone_iff_eq_none] at hApart
  exact ⟨hApart.1.1, hApart.1.2, hApart.2⟩

theorem replayApiKey_eq_ok {apiKeyId : UUID} {answer : ApiKey}
    (h : replayApiKey host apiKeyId s = .ok (answer, t)) :
    t = s ∧ ∃ row, s.findApiKey apiKeyId = some row ∧ answer = row.apiKey host apiKeyId := by
  obtain ⟨existing, s, hRead, h⟩ := bind_eq_ok.mp h
  obtain ⟨rfl, hExisting⟩ := readApiKey_eq_ok hRead
  cases hFind : s.findApiKey apiKeyId with
  | none =>
      rw [hFind] at hExisting
      subst hExisting
      cases h
  | some row =>
      rw [hFind] at hExisting
      subst hExisting
      cases h
      exact ⟨rfl, row, rfl, rfl⟩

/-- What a committed key creation did: replay the key of the recorded
request, or insert the new one, recording it if there is an idempotency key. -/
theorem createApiKey_eq_ok {apiKey : ApiKey} {secretDigest requestDigest : String}
    {key : Option String} {scope : IdempotencyScope} {answer : ApiKey} {created : Bool}
    (h : createApiKey host apiKey secretDigest key requestDigest scope now s =
      .ok ((answer, created), t)) :
    (created = false ∧ t = s ∧ ∃ text row found, key = some text ∧
        s.findIdempotency scope text = some row ∧ row.requestHash = requestDigest ∧
        s.findApiKey row.resourceId = some found ∧
        answer = found.apiKey host row.resourceId) ∨
      (created = true ∧ answer = apiKey ∧
        (∀ text, key = some text → s.findIdempotency scope text = none) ∧
        (∀ found ∈ s.credentials,
          found.identity.credentialRef ≠ apiKey.identity.credentialRef ∧
            found.tokenDigest ≠ secretDigest ∧
            (found.apiKeyId = none ∨ found.apiKeyId ≠ some apiKey.id)) ∧
        t = { s with
          credentials := s.credentials ++ [apiKey.credentialRow host secretDigest now]
          idempotency := s.idempotency ++
            (key.map fun text => ⟨scope, text, requestDigest, apiKey.id⟩).toList }) := by
  obtain ⟨replay, _, hResolve, h⟩ := bind_eq_ok.mp h
  cases key with
  | none =>
      cases hResolve
      obtain ⟨_, _, hInsert, h⟩ := bind_eq_ok.mp h
      obtain ⟨hApart, rfl⟩ := insertCredential_eq_ok hInsert
      obtain ⟨_, _, hRemember, hPure⟩ := bind_eq_ok.mp h
      cases hRemember
      cases hPure
      refine Or.inr ⟨rfl, rfl, ?_, hApart, ?_⟩
      · rintro _ ⟨⟩
      · simp
  | some text =>
      obtain ⟨rfl, hReplay⟩ := resolveIdempotency_eq_ok hResolve
      cases replay with
      | some resourceId =>
          obtain ⟨row, hFind, hHash, rfl⟩ := hReplay
          obtain ⟨existing, _, hExisting, hPure⟩ := bind_eq_ok.mp h
          obtain ⟨rfl, found, hFound, rfl⟩ := replayApiKey_eq_ok hExisting
          cases hPure
          exact Or.inl ⟨rfl, rfl, text, row, found, rfl, hFind, hHash, hFound, rfl⟩
      | none =>
          obtain ⟨_, _, hInsert, h⟩ := bind_eq_ok.mp h
          obtain ⟨hApart, rfl⟩ := insertCredential_eq_ok hInsert
          obtain ⟨_, _, hRemember, hPure⟩ := bind_eq_ok.mp h
          obtain ⟨-, rfl⟩ := insertIdempotency_eq_ok hRemember
          cases hPure
          refine Or.inr ⟨rfl, rfl, ?_, hApart, rfl⟩
          rintro _ ⟨⟩
          exact hReplay

/-- A credential of the store with the reference, digest or key id of another. -/
def CredentialRow.Clashes (row found : CredentialRow) : Prop :=
  found.identity.credentialRef = row.identity.credentialRef ∨
    found.tokenDigest = row.tokenDigest ∨ (found.apiKeyId.isSome ∧ found.apiKeyId = row.apiKeyId)

theorem insertCredential_of_apart {row : CredentialRow}
    (hApart : ∀ found ∈ s.credentials, ¬ row.Clashes found) :
    insertCredential row s = .ok ((), { s with credentials := s.credentials ++ [row] }) := by
  unfold insertCredential
  rw [fetch_bind, bind_of_ok (require_of_true ?_ _ s)]
  · rfl
  · rw [List.all_eq_true]
    intro found hFound
    have hNone := hApart found hFound
    simp only [CredentialRow.Clashes, not_or, not_and] at hNone
    obtain ⟨hRef, hDigest, hId⟩ := hNone
    simp only [Bool.and_eq_true, Bool.or_eq_true, decide_eq_true_eq, Option.isNone_iff_eq_none]
    refine ⟨⟨hRef, hDigest⟩, ?_⟩
    cases hFoundId : found.apiKeyId with
    | none => exact Or.inl rfl
    | some apiKeyId =>
        rw [hFoundId] at hId
        exact Or.inr (hId rfl)

/-- A key that clashes with no credential is inserted under an open
idempotency key together with it. -/
theorem createApiKey_of_open {apiKey : ApiKey} {secretDigest text : String}
    {scope : IdempotencyScope} (requestDigest : String)
    (hOpen : s.findIdempotency scope text = none)
    (hApart : ∀ found ∈ s.credentials,
      ¬ (apiKey.credentialRow host secretDigest now).Clashes found) :
    createApiKey host apiKey secretDigest (some text) requestDigest scope now s =
      .ok ((apiKey, true), { s with
        credentials := s.credentials ++ [apiKey.credentialRow host secretDigest now]
        idempotency := s.idempotency ++ [⟨scope, text, requestDigest, apiKey.id⟩] }) := by
  unfold createApiKey
  rw [bind_of_ok (resolveIdempotency_of_open hOpen)]
  dsimp only
  rw [bind_of_ok (insertCredential_of_apart hApart), rememberIdempotency]
  have hStillOpen : ({ s with credentials := s.credentials ++
      [apiKey.credentialRow host secretDigest now] } : ExchangeStore).findIdempotency scope text =
        none := hOpen
  rw [bind_of_ok (insertIdempotency_of_open hStillOpen)]
  rfl

/-- What a committed revocation did. -/
theorem revokeApiKey_eq_ok {apiKeyId : UUID} {answer : Option ApiKey}
    (h : revokeApiKey host apiKeyId now s = .ok (answer, t)) :
    (t = s ∧ (answer = none ∧ s.findApiKey apiKeyId = none ∨
        ∃ row, s.findApiKey apiKeyId = some row ∧ row.isRevoked = true ∧
          answer = some (row.apiKey host apiKeyId))) ∨
      ((∃ row, s.findApiKey apiKeyId = some row ∧ row.isRevoked = false) ∧
        t = { s with
          credentials := Table.updateWhere (fun row => decide (row.apiKeyId = some apiKeyId))
            (fun row => row.revoked now) s.credentials } ∧
        answer = (t.findApiKey apiKeyId).map (CredentialRow.apiKey host apiKeyId)) := by
  obtain ⟨existing, s, hRead, h⟩ := bind_eq_ok.mp h
  obtain ⟨rfl, hExisting⟩ := readApiKey_eq_ok hRead
  cases hFind : s.findApiKey apiKeyId with
  | none =>
      rw [hFind] at hExisting
      subst hExisting
      cases h
      exact Or.inl ⟨rfl, Or.inl ⟨rfl, rfl⟩⟩
  | some row =>
      rw [hFind] at hExisting
      subst hExisting
      cases hRevoked : row.isRevoked with
      | true =>
          have hState : (row.apiKey host apiKeyId).state = .revoked := by
            simp [CredentialRow.apiKey, CredentialRow.apiKeyState, hRevoked]
          simp only [Option.map_some, hState, if_true] at h
          cases h
          exact Or.inl ⟨rfl, Or.inr ⟨row, rfl, hRevoked, rfl⟩⟩
      | false =>
          have hState : (row.apiKey host apiKeyId).state ≠ .revoked := by
            simp [CredentialRow.apiKey, CredentialRow.apiKeyState, hRevoked]
          simp only [Option.map_some, hState, if_false] at h
          obtain ⟨_, _, hStore, hAgain⟩ := bind_eq_ok.mp h
          cases hStore
          obtain ⟨rfl, hAnswer⟩ := readApiKey_eq_ok hAgain
          exact Or.inr ⟨⟨row, rfl, hRevoked⟩, rfl, hAnswer⟩

end Statements

end CyreneExchange.Product
