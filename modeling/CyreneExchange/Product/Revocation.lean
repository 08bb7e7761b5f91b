import CyreneExchange.Product.Service

/-! Credentials over whole runs of the store. References and digests stay
unique and bound to each other, and only an installation under a reference
enables its credential again. -/
namespace CyreneExchange.Product

open Integrations (UUID)
open Machine Transaction

/-- Every reference and every digest has one row. -/
structure CredentialsSound (rows : List CredentialRow) : Prop where
  refs : Table.KeysUnique (fun row : CredentialRow => row.identity.credentialRef) rows
  digests : Table.KeysUnique CredentialRow.tokenDigest rows

/-- A later state of a credential. It stays disabled unless it is installed again. -/
structure CredentialRow.Later (installed : Prop) (row later : CredentialRow) : Prop where
  ref : later.identity.credentialRef = row.identity.credentialRef
  digest : later.tokenDigest = row.tokenDigest
  apiKeyId : later.apiKeyId = row.apiKeyId
  disabled : row.enabled = false → later.enabled = false ∨ installed

theorem CredentialRow.Later.refl (installed : Prop) (row : CredentialRow) :
    row.Later installed row :=
  ⟨rfl, rfl, rfl, Or.inl⟩

theorem CredentialRow.Later.trans {installed installed' : Prop} {row later last : CredentialRow}
    (h : row.Later installed later) (h' : later.Later installed' last) :
    row.Later (installed ∨ installed') last := by
  refine ⟨h'.ref.trans h.ref, h'.digest.trans h.digest, h'.apiKeyId.trans h.apiKeyId, ?_⟩
  intro hDisabled
  rcases h.disabled hDisabled with hStill | hInstalled
  · exact (h'.disabled hStill).imp_right Or.inr
  · exact Or.inr (Or.inl hInstalled)

theorem CredentialRow.Later.mono {installed installed' : Prop} {row later : CredentialRow}
    (h : row.Later installed later) (hSub : installed → installed') : row.Later installed' later :=
  ⟨h.ref, h.digest, h.apiKeyId, fun hDisabled => (h.disabled hDisabled).imp_right hSub⟩

/-- Every credential is still there, in a later state. -/
def CredentialsKept (installed : String → Prop) (rows rows' : List CredentialRow) : Prop :=
  ∀ row ∈ rows, ∃ later ∈ rows', row.Later (installed row.identity.credentialRef) later

theorem CredentialsKept.refl (installed : String → Prop) (rows : List CredentialRow) :
    CredentialsKept installed rows rows :=
  fun row hRow => ⟨row, hRow, .refl _ _⟩

theorem CredentialsKept.trans {installed installed' : String → Prop}
    {rows rows' rows'' : List CredentialRow} (h : CredentialsKept installed rows rows')
    (h' : CredentialsKept installed' rows' rows'') :
    CredentialsKept (fun ref => installed ref ∨ installed' ref) rows rows'' := by
  intro row hRow
  obtain ⟨later, hLater, hRel⟩ := h row hRow
  obtain ⟨last, hLast, hRel'⟩ := h' later hLater
  refine ⟨last, hLast, ?_⟩
  rw [hRel.ref] at hRel'
  exact hRel.trans hRel'

section Rows

variable {rows : List CredentialRow} {installed : String → Prop}

/-- Rewriting rows in place keeps their references, digests and ids. -/
theorem CredentialsSound.updateWhere (hSound : CredentialsSound rows) (p : CredentialRow → Bool)
    (f : CredentialRow → CredentialRow)
    (h : ∀ row ∈ rows, p row = true → row.Later (installed row.identity.credentialRef) (f row)) :
    CredentialsSound (Table.updateWhere p f rows) ∧
      CredentialsKept installed rows (Table.updateWhere p f rows) := by
  refine ⟨⟨?_, ?_⟩, ?_⟩
  · exact hSound.refs.updateWhere fun row hRow hp => (h row hRow hp).ref
  · exact hSound.digests.updateWhere fun row hRow hp => (h row hRow hp).digest
  · intro row hRow
    cases hp : p row with
    | true => exact ⟨f row, Table.mem_updateWhere_of_pos hRow hp, h row hRow hp⟩
    | false => exact ⟨row, Table.mem_updateWhere_of_neg hRow hp, .refl _ _⟩

theorem CredentialsSound.append (hSound : CredentialsSound rows) (added : CredentialRow)
    (hRef : ∀ row ∈ rows, row.identity.credentialRef ≠ added.identity.credentialRef)
    (hDigest : ∀ row ∈ rows, row.tokenDigest ≠ added.tokenDigest) :
    CredentialsSound (rows ++ [added]) ∧ CredentialsKept installed rows (rows ++ [added]) := by
  refine ⟨⟨?_, ?_⟩, ?_⟩
  · exact hSound.refs.append_singleton hRef
  · exact hSound.digests.append_singleton hDigest
  · intro row hRow
    exact ⟨row, List.mem_append_left _ hRow, .refl _ _⟩

end Rows

section Configure

variable {host : Host} {now : Int} {s t : ExchangeStore} {u : Unit}

/-- One round of `configure_credentials` installs its own reference only. -/
theorem configureCredential_kept {token : String} {principal : ProductPrincipal}
    (h : configureCredential host now token principal s = .ok (u, t))
    (hSound : CredentialsSound s.credentials) :
    CredentialsSound t.credentials ∧
      CredentialsKept (principal.credentialRef = ·) s.credentials t.credentials := by
  have hRows := (configureCredential_eq_ok h).1
  generalize t.credentials = rows at hRows
  cases hRows with
  | updated found hFound hRef hDigest =>
      apply hSound.updateWhere
      intro row hRow hp
      have hRowRef : row.identity.credentialRef = principal.credentialRef := of_decide_eq_true hp
      obtain rfl := hSound.refs.eq hRow hFound (hRowRef.trans hRef.symm)
      exact ⟨hRef.symm, hDigest.symm, rfl, fun _ => Or.inr hRef.symm⟩
  | inserted hRef hDigest =>
      exact hSound.append (principal.credentialRow (host.hexdigest token) now) hRef hDigest

theorem configureAll_kept {credentials : CredentialMap}
    (h : configureAll host now credentials s = .ok (u, t))
    (hSound : CredentialsSound s.credentials) :
    CredentialsSound t.credentials ∧ CredentialsKept
      (fun ref => ∃ entry ∈ credentials, entry.2.credentialRef = ref)
      s.credentials t.credentials := by
  induction credentials generalizing s with
  | nil =>
      cases h
      exact ⟨hSound, .refl _ _⟩
  | cons entry rest ih =>
      obtain ⟨_, middle, hFirst, hRest⟩ := bind_eq_ok.mp h
      obtain ⟨hMiddle, hKept⟩ := configureCredential_kept hFirst hSound
      obtain ⟨hLast, hKept'⟩ := ih hRest hMiddle
      refine ⟨hLast, ?_⟩
      intro row hRow
      obtain ⟨later, hLater, hRel⟩ := hKept.trans hKept' row hRow
      refine ⟨later, hLater, hRel.mono ?_⟩
      rintro (hHead | ⟨entry', hMem, hTail⟩)
      · exact ⟨entry, List.mem_cons_self, hHead⟩
      · exact ⟨entry', List.mem_cons_of_mem _ hMem, hTail⟩

end Configure

/-- This call commits the installation of a credential under the reference. -/
def Installs (host : Host) (s : ExchangeStore) (call : StoreCall) (ref : String) : Prop :=
  (∃ answer, (storeStep host call s).1 = .ok answer) ∧
    ∃ now credentials, call = .operator (.configureCredentials now credentials) ∧
      ∃ entry ∈ credentials, entry.2.credentialRef = ref

/-- The four writers of credentials, and everyone else. -/
theorem storeStep_credentials (host : Host) (call : StoreCall) {s : ExchangeStore}
    (hSound : CredentialsSound s.credentials) :
    CredentialsSound (storeStep host call s).2.credentials ∧
      CredentialsKept (Installs host s call) s.credentials (storeStep host call s).2.credentials := by
  have hKept (h : StoreTable.credentials ∉ call.tables) :
      CredentialsSound (storeStep host call s).2.credentials ∧
        CredentialsKept (Installs host s call) s.credentials (storeStep host call s).2.credentials := by
    rw [storeStep_keeps_credentials host h]
    exact ⟨hSound, .refl _ _⟩
  rcases commit_cases (storeBody host call) s with ⟨answer, t, hBody, hStep⟩ | ⟨e, -, hStep⟩
  · cases call with
    | operator call =>
        cases call with
        | configureCredentials now credentials =>
            have hAnswer : (storeStep host (.operator (.configureCredentials now credentials)) s).1 =
                .ok answer := by
              rw [storeStep, hStep]
            rw [storeStep, hStep]
            obtain ⟨_, _, hConfigure, hPure⟩ := bind_eq_ok.mp hBody
            cases hPure
            obtain ⟨hNext, hRows⟩ :=
              configureAll_kept (configureCredentials_eq_ok hConfigure).2 hSound
            refine ⟨hNext, ?_⟩
            intro row hRow
            obtain ⟨later, hLater, hRel⟩ := hRows row hRow
            exact ⟨later, hLater, hRel.mono fun hEntry =>
              ⟨⟨_, hAnswer⟩, now, credentials, rfl, hEntry⟩⟩
        | disableCredential ref =>
            rw [storeStep, hStep]
            obtain ⟨_, _, hDisable, hPure⟩ := bind_eq_ok.mp hBody
            cases hPure
            rw [(disableCredential_eq_ok hDisable).2]
            exact hSound.updateWhere _ _ fun row _ _ => ⟨rfl, rfl, rfl, fun _ => Or.inl rfl⟩
        | restart | configureWorkspaceEndpointGrants | configureWorkspaceReactorEndpointGrants
        | saveTenantQuota | beginRequest | recordRejection | finishRequest =>
            exact hKept (by simp [StoreCall.tables])
    | createApiKey apiKey secretDigest key requestDigest scope now =>
        rw [storeStep, hStep]
        obtain ⟨⟨answer, created⟩, _, hCreate, hPure⟩ := bind_eq_ok.mp hBody
        cases hPure
        rcases createApiKey_eq_ok hCreate with ⟨-, rfl, -⟩ | ⟨-, -, -, hApart, rfl⟩
        · exact ⟨hSound, .refl _ _⟩
        · exact hSound.append (apiKey.credentialRow host secretDigest now)
            (fun row hRow => (hApart row hRow).1) (fun row hRow => (hApart row hRow).2.1)
    | revokeApiKey apiKeyId now =>
        rw [storeStep, hStep]
        obtain ⟨_, _, hRevoke, hPure⟩ := bind_eq_ok.mp hBody
        cases hPure
        rcases revokeApiKey_eq_ok hRevoke with ⟨rfl, -⟩ | ⟨-, rfl, -⟩
        · exact ⟨hSound, .refl _ _⟩
        · exact hSound.updateWhere _ _ fun row _ _ => ⟨rfl, rfl, rfl, fun _ => Or.inl rfl⟩
    | saveEndpoint | saveRoute | createRouteDraft | replaceRouteVersion | rememberIdempotency =>
        exact hKept (by simp [StoreCall.tables])
  · rw [storeStep, hStep]
    exact ⟨hSound, .refl _ _⟩

section Runs

variable {host : Host} {s : ExchangeStore} {row : CredentialRow} {token : String}

theorem credentialsSound_preserved (host : Host) :
    Preserves (storeStep host) (fun _ _ => True) fun s => CredentialsSound s.credentials :=
  fun _ call hSound _ => (storeStep_credentials host call hSound).1

theorem credentialsSound_run (host : Host) (calls : List StoreCall) :
    CredentialsSound (run (storeStep host) calls {}).credentials := by
  have hStart : CredentialsSound ({} : ExchangeStore).credentials :=
    ⟨List.nodup_nil, List.nodup_nil⟩
  exact (credentialsSound_preserved host).run hStart (admitted_of_forall (fun _ _ => trivial) _ _)

/-- A call that revokes the credential of a row and says so. A key that is
marked revoked already is answered as it stands, so it counts only if it is
still disabled. -/
inductive Revokes (host : Host) (s : ExchangeStore) (row : CredentialRow) : StoreCall → Prop
  | disabled (hRow : row ∈ s.credentials)
      (hAnswer : (storeStep host (.operator (.disableCredential row.identity.credentialRef)) s).1 =
        .ok (.disabled true)) :
      Revokes host s row (.operator (.disableCredential row.identity.credentialRef))
  | revoked (apiKeyId : UUID) (now : Int) (apiKey : ApiKey)
      (hFind : s.findApiKey apiKeyId = some row)
      (hAnswer : (storeStep host (.revokeApiKey apiKeyId now) s).1 = .ok (.revoked (some apiKey)))
      (hStill : row.isRevoked = true → row.enabled = false) :
      Revokes host s row (.revokeApiKey apiKeyId now)

/-- The credential with this reference and digest is disabled. -/
def Disabled (ref digest : String) (s : ExchangeStore) : Prop :=
  ∃ row ∈ s.credentials, row.identity.credentialRef = ref ∧ row.tokenDigest = digest ∧
    row.enabled = false

/-- A revocation leaves the credential disabled. -/
theorem Revokes.disables {call : StoreCall} (h : Revokes host s row call) :
    Disabled row.identity.credentialRef row.tokenDigest (storeStep host call s).2 := by
  cases h with
  | disabled hRow hAnswer =>
      have hBody := commit_eq_ok hAnswer
      obtain ⟨found, t, hDisable, hPure⟩ := bind_eq_ok.mp hBody
      have hStore : (storeStep host (.operator (.disableCredential row.identity.credentialRef))
          s).2 = t := by
        cases hPure
        rfl
      rw [hStore, (disableCredential_eq_ok hDisable).2]
      cases hEnabled : row.enabled with
      | true =>
          refine ⟨{ row with enabled := false }, ?_, rfl, rfl, rfl⟩
          exact Table.mem_updateWhere_of_pos hRow (by simp [hEnabled])
      | false =>
          exact ⟨row, Table.mem_updateWhere_of_neg hRow (by simp [hEnabled]), rfl, rfl, hEnabled⟩
  | revoked apiKeyId now apiKey hFind hAnswer hStill =>
      have hBody := commit_eq_ok hAnswer
      obtain ⟨answer, t, hRevoke, hPure⟩ := bind_eq_ok.mp hBody
      have hStore : (storeStep host (.revokeApiKey apiKeyId now) s).2 = t := by
        cases hPure
        rfl
      have hRow : row ∈ s.credentials := List.mem_of_find?_eq_some hFind
      rw [hStore]
      rcases revokeApiKey_eq_ok hRevoke with ⟨rfl, ⟨-, hNone⟩ | ⟨found, hFound, hRevoked, -⟩⟩ |
        ⟨-, rfl, -⟩
      · rw [hFind] at hNone
        cases hNone
      · obtain rfl := Option.some.inj (hFind.symm.trans hFound)
        exact ⟨row, hRow, rfl, rfl, hStill hRevoked⟩
      · have hId := List.find?_some hFind
        exact ⟨row.revoked now, Table.mem_updateWhere_of_pos hRow hId, rfl, rfl, rfl⟩

/-- A disabled credential stays so until its reference is installed again. -/
theorem disabled_stays {ref digest : String} (hSound : CredentialsSound s.credentials)
    (h : Disabled ref digest s) {call : StoreCall} (hNot : ¬ Installs host s call ref) :
    Disabled ref digest (storeStep host call s).2 := by
  obtain ⟨row, hRow, rfl, rfl, hDisabled⟩ := h
  obtain ⟨later, hLater, hRel⟩ := (storeStep_credentials host call hSound).2 row hRow
  exact ⟨later, hLater, hRel.ref, hRel.digest, (hRel.disabled hDisabled).resolve_right hNot⟩

/-- The token of a disabled credential resolves to no row. -/
theorem resolveToken_of_disabled {ref : String} (hSound : CredentialsSound s.credentials)
    (h : Disabled ref (host.hexdigest token) s) (now : Int) (admits : CredentialRow → Bool) :
    s.resolveToken host now token admits = none := by
  obtain ⟨row, hRow, -, hDigest, hDisabled⟩ := h
  unfold ExchangeStore.resolveToken
  split
  · rfl
  · apply List.find?_eq_none.mpr
    intro other hOther hFound
    simp only [Bool.and_eq_true, decide_eq_true_eq] at hFound
    obtain ⟨⟨⟨hSame, hEnabled⟩, -⟩, -⟩ := hFound
    obtain rfl := hSound.digests.eq hOther hRow (hSame.trans hDigest.symm)
    rw [hDisabled] at hEnabled
    cases hEnabled

/-- No resolver returns a principal for the token, at any time. -/
structure Unresolved (host : Host) (token : String) (s : ExchangeStore) : Prop where
  credential : ∀ now, s.resolveCredential host now token = none
  dataPlane : ∀ now digests, s.resolveDataPlaneCredential host now token digests = none
  product : ∀ now, s.resolveProductCredential host now token = none

theorem unresolved_of_disabled {ref : String} (hSound : CredentialsSound s.credentials)
    (h : Disabled ref (host.hexdigest token) s) : Unresolved host token s := by
  refine ⟨?_, ?_, ?_⟩
  · intro now
    rw [ExchangeStore.resolveCredential, resolveToken_of_disabled hSound h]
    rfl
  · intro now digests
    rw [ExchangeStore.resolveDataPlaneCredential, resolveToken_of_disabled hSound h]
    rfl
  · intro now
    rw [ExchangeStore.resolveProductCredential, resolveToken_of_disabled hSound h]
    rfl

/-- After a revocation, and until its reference is installed again, no resolver
returns a principal for the token of a credential. -/
theorem revocation_permanent (host : Host) (before : List StoreCall) (call : StoreCall)
    (after : List StoreCall) (row : CredentialRow) (token : String)
    (hRevokes : Revokes host (run (storeStep host) before {}) row call)
    (hToken : row.tokenDigest = host.hexdigest token)
    (hNotInstalled : Admitted (storeStep host)
      (fun s next => ¬ Installs host s next row.identity.credentialRef) after
      (run (storeStep host) (before ++ [call]) {})) :
    Unresolved host token (run (storeStep host) (before ++ call :: after) {}) := by
  have hSplit : before ++ call :: after = (before ++ [call]) ++ after := by simp
  rw [hSplit, run_append]
  have hKept : Preserves (storeStep host)
      (fun s next => ¬ Installs host s next row.identity.credentialRef)
      fun s => CredentialsSound s.credentials ∧
        Disabled row.identity.credentialRef (host.hexdigest token) s :=
    fun s next h hNot =>
      ⟨(storeStep_credentials host next h.1).1, disabled_stays h.1 h.2 hNot⟩
  have hRevoked : Disabled row.identity.credentialRef (host.hexdigest token)
      (run (storeStep host) (before ++ [call]) {}) := by
    rw [run_append, ← hToken]
    exact hRevokes.disables
  obtain ⟨hSound, hDisabled⟩ :=
    hKept.run ⟨credentialsSound_run host (before ++ [call]), hRevoked⟩ hNotInstalled
  exact unresolved_of_disabled hSound hDisabled

end Runs

section Sample

/-- A start of the process with one configured credential. -/
def sampleConfigure : StoreCall :=
  .operator (.configureCredentials 0 [("secret", sampleOperator)])

def sampleDisable : StoreCall := .operator (.disableCredential sampleOperator.credentialRef)

/-- The row of that credential. -/
def sampleCredentialRow : CredentialRow :=
  sampleOperator.credentialRow (sampleHost.hexdigest "secret") 0

theorem sample_revokes : Revokes sampleHost (run (storeStep sampleHost) [sampleConfigure] {})
    sampleCredentialRow sampleDisable :=
  .disabled (by decide +kernel) (by decide +kernel)

theorem revocation_permanent_sample : Unresolved sampleHost "secret"
    (run (storeStep sampleHost) [sampleConfigure, sampleDisable, .operator .restart] {}) := by
  refine revocation_permanent sampleHost [sampleConfigure] sampleDisable [.operator .restart]
    sampleCredentialRow "secret" sample_revokes rfl ⟨?_, trivial⟩
  rintro ⟨-, now, credentials, ⟨⟩, -⟩

theorem configured_again_resolves : ¬ ∀ host before call after row token,
    Revokes host (run (storeStep host) before {}) row call →
      row.tokenDigest = host.hexdigest token →
        Unresolved host token (run (storeStep host) (before ++ call :: after) {}) := by
  intro h
  have hUnresolved := h sampleHost [sampleConfigure] sampleDisable [sampleConfigure]
    sampleCredentialRow "secret" sample_revokes rfl
  have hResolves : (run (storeStep sampleHost)
      [sampleConfigure, sampleDisable, sampleConfigure] {}).resolveProductCredential sampleHost 0
        "secret" = some sampleOperator := by
    decide +kernel
  have hNone := hUnresolved.product 0
  rw [List.singleton_append, hResolves] at hNone
  cases hNone

end Sample

end CyreneExchange.Product
