import CyreneExchange.General.Documents
import CyreneExchange.General.Fallible
import CyreneExchange.Gateway.Values
import CyreneExchange.Integrations.Connector.Verifier

/-! What a provider answers, and what of it may leave the connector: no credential
under any key, and from a vendor CLI no captured output either. -/
namespace CyreneExchange.Integrations
open CyreneExchange.General GrantVerifier
open CyreneExchange.Gateway (Str text)

/-- A key of a mapping: text, or any other hashable value. -/
inductive ResultKey (Other : Type) where
  | str (value : Str)
  | other (value : Other)
deriving DecidableEq

/-- A value that is neither a mapping nor a list. -/
inductive ResultLeaf (Other : Type) where
  | bool (value : Bool)
  | other (value : Other)

/-- What a provider answers, decoded. -/
abbrev ProviderValue (Other : Type) := Document (ResultKey Other) (ResultLeaf Other)

/-- The entries of a mapping in such an answer. -/
abbrev ProviderEntries (Other : Type) := List (ResultKey Other × ProviderValue Other)

variable {Other : Type}

section Inspection

/-- `key.lower().replace("_", "").replace("-", "")`. -/
def normalizedKey (key : Str) : Str := key.lower.filter fun c => c ≠ 95 ∧ c ≠ 45

/-- The names `_safe_provider_result` refuses. -/
def credentialNames : List Str :=
  ["accesstoken", "apikey", "authorization", "bearertoken", "clientsecret", "credential",
    "credentialvalue", "idtoken", "password", "privatekey", "refreshtoken", "secret",
    "token"].map text

def isCredentialKey : ResultKey Other → Bool
  | .str key => credentialNames.contains (normalizedKey key)
  | .other _ => credentialNames.contains []

def providerResponseInvalid (detail : String) : ExchangeProductError where
  code := "EXCHANGE_CONNECTOR_PROVIDER_RESPONSE_INVALID"
  title := "Provider response invalid"
  detail := detail
  status := 502

def credentialReturned : ExchangeProductError :=
  providerResponseInvalid "The provider attempted to return credential material."

def providerResponseTooLarge : ExchangeProductError where
  code := "EXCHANGE_CONNECTOR_PROVIDER_RESPONSE_TOO_LARGE"
  title := "Provider response is too large"
  detail := "The provider result exceeds Exchange's bounded response size."
  status := 502

mutual

/-- `inspect`: a mapping key by key, each before the value under it. -/
def inspect : ProviderValue Other → Except ExchangeProductError Unit
  | .mapping entries => inspectEntries entries
  | .list items => inspectItems items
  | .leaf _ => .ok ()

def inspectEntries : ProviderEntries Other → Except ExchangeProductError Unit
  | [] => .ok ()
  | (key, child) :: rest => do
      check (!isCredentialKey key) credentialReturned
      inspect child
      inspectEntries rest

def inspectItems : List (ProviderValue Other) → Except ExchangeProductError Unit
  | [] => .ok ()
  | child :: rest => do
      inspect child
      inspectItems rest

end

/-- `_safe_provider_result`, over RFC 8785 serialization, which may refuse a value. -/
def safeProviderResult (canonicalJson : ProviderValue Other → Option (List UInt8))
    (result : ProviderValue Other) : Except ExchangeProductError (ProviderEntries Other) :=
  match result with
  | .mapping entries => do
      inspect result
      let encoded ← present (canonicalJson (.mapping entries))
        (providerResponseInvalid "The provider result is outside the RFC 8785 JSON domain.")
      check (decide (encoded.length ≤ 1100000)) providerResponseTooLarge
      .ok entries
  | _ => .error (providerResponseInvalid "The provider must return one structured JSON object.")

end Inspection

section Output

/-- The names `_without_cli_output` drops. -/
def cliOutputNames : List Str :=
  ["stdout", "stderr", "rawoutput", "commandoutput"].map text

def isCliOutputKey : ResultKey Other → Bool
  | .str key => cliOutputNames.contains (normalizedKey key)
  | .other _ => false

/-- `_without_cli_output`: a mapping stays one, so nothing is refused. -/
def withoutCliOutput (value : ProviderEntries Other) : ProviderEntries Other :=
  Document.pruneEntries isCliOutputKey value

/-- The three vendor CLI operations. -/
def cliOperations : List String :=
  ["cloud.vendor.cli.execute", "github.vendor.cli.execute", "huggingface.vendor.cli.execute"]

def stdoutSuppressed : ResultKey Other := .str (text "stdout_suppressed")

def stderrSuppressed : ResultKey Other := .str (text "stderr_suppressed")

def suppressed : ProviderValue Other := .leaf (.bool true)

variable [DecidableEq Other]

/-- The end of `invoke`: what is returned of the provider's result. -/
def releaseResult (canonicalJson : ProviderValue Other → Option (List UInt8))
    (operationId : String) (result : ProviderValue Other) :
    Except ExchangeProductError (ProviderEntries Other) := do
  let safeResult ← safeProviderResult canonicalJson result
  if cliOperations.contains operationId then
    let projected := withoutCliOutput safeResult
    .ok (Document.setEntry (Document.setEntry projected stdoutSuppressed suppressed)
      stderrSuppressed suppressed)
  else .ok safeResult

end Output

section Requirement

variable [DecidableEq Other]

/-- The path goes through one of the two flags at the top. -/
def throughFlag : List (Document.Step (ResultKey Other)) → Bool
  | .key name :: _ => name = stdoutSuppressed ∨ name = stderrSuppressed
  | _ => false

/-- What a vendor CLI operation returns of a provider's tree: the tree without
its captured output, and two flags that say so. -/
structure CliProjection (tree result : ProviderValue Other) : Prop where
  flagged : ∀ name, name = stdoutSuppressed ∨ name = stderrSuppressed →
    result.find [.key name] = some suppressed
  kept : ∀ path, Document.enters isCliOutputKey path = false → throughFlag path = false →
    (result.find path).map Document.look = (tree.find path).map Document.look
  added : ∀ path c, result.find path = some c → throughFlag path = false →
    ∃ c', tree.find path = some c'
  hidden : ∀ name, isCliOutputKey name = true → ¬ result.HasKey name

/-- What may leave the connector of a provider's tree. -/
structure Released (operationId : String) (tree result : ProviderValue Other) : Prop where
  clean : ∀ name, isCredentialKey name = true → ¬ result.HasKey name
  whole : operationId ∉ cliOperations → result = tree
  projected : operationId ∈ cliOperations → CliProjection tree result

end Requirement

section Inspecting

mutual

/-- Inspection refuses exactly the trees with a credential key. -/
theorem inspect_eq : (v : ProviderValue Other) →
    inspect v = check (!Document.anyKey isCredentialKey v) credentialReturned
  | .leaf _ => rfl
  | .list items => by rw [inspect, Document.anyKey, inspectItems_eq items]
  | .mapping entries => by rw [inspect, Document.anyKey, inspectEntries_eq entries]

theorem inspectEntries_eq : (entries : ProviderEntries Other) →
    inspectEntries entries =
      check (!Document.anyKeyEntries isCredentialKey entries) credentialReturned
  | [] => rfl
  | (key, child) :: rest => by
      rw [inspectEntries, Document.anyKeyEntries, inspect_eq child, inspectEntries_eq rest]
      cases isCredentialKey key with
      | true => rfl
      | false => cases Document.anyKey isCredentialKey child <;> rfl

theorem inspectItems_eq : (items : List (ProviderValue Other)) →
    inspectItems items = check (!Document.anyKeyItems isCredentialKey items) credentialReturned
  | [] => rfl
  | child :: rest => by
      rw [inspectItems, Document.anyKeyItems, inspect_eq child, inspectItems_eq rest]
      cases Document.anyKey isCredentialKey child <;> rfl

end

variable {canonicalJson : ProviderValue Other → Option (List UInt8)}
  {result : ProviderValue Other} {entries : ProviderEntries Other}

/-- What passes is a mapping without credential keys, and is handed on as it is. -/
theorem safeProviderResult_ok (h : safeProviderResult canonicalJson result = .ok entries) :
    result = .mapping entries ∧ Document.anyKey isCredentialKey result = false := by
  cases result with
  | leaf value => cases h
  | list items => cases h
  | mapping entries' =>
      rw [safeProviderResult, except_bind_eq_ok] at h
      obtain ⟨_, hInspect, h⟩ := h
      obtain ⟨encoded, -, h⟩ := except_bind_eq_ok.mp h
      obtain ⟨-, -, h⟩ := except_bind_eq_ok.mp h
      cases h
      refine ⟨rfl, ?_⟩
      rw [inspect_eq] at hInspect
      cases hKeys : Document.anyKey isCredentialKey (Document.mapping entries) with
      | false => rfl
      | true =>
          rw [hKeys] at hInspect
          cases hInspect

variable [DecidableEq Other]

/-- A credential key anywhere in the tree is refused. -/
theorem releaseResult_credential {operationId : String} {name : ResultKey Other}
    (hName : isCredentialKey name = true) (hKey : result.HasKey name) :
    ∃ e, releaseResult canonicalJson operationId result = .error e := by
  cases hResult : releaseResult canonicalJson operationId result with
  | error e => exact ⟨e, rfl⟩
  | ok released =>
      obtain ⟨safeResult, hSafe, -⟩ := except_bind_eq_ok.mp hResult
      exact (Document.not_hasKey_of_anyKey (safeProviderResult_ok hSafe).2 hName hKey).elim

end Inspecting

section Flags

variable {name : ResultKey Other}

theorem stdoutSuppressed_ne : (stdoutSuppressed : ResultKey Other) ≠ stderrSuppressed := by
  intro h
  have hText : text "stdout_suppressed" = text "stderr_suppressed" := ResultKey.str.inj h
  exact absurd hText (by decide)

theorem isCredentialKey_flag (hName : name = stdoutSuppressed ∨ name = stderrSuppressed) :
    isCredentialKey name = false := by
  rcases hName with rfl | rfl <;> rfl

theorem isCliOutputKey_flag (hName : name = stdoutSuppressed ∨ name = stderrSuppressed) :
    isCliOutputKey name = false := by
  rcases hName with rfl | rfl <;> rfl

end Flags

section Releasing

variable [DecidableEq Other] {entries : ProviderEntries Other} {name : ResultKey Other}
  {path : List (Document.Step (ResultKey Other))}

/-- The mapping that `invoke` returns for a vendor CLI operation. -/
def flaggedOutput (entries : ProviderEntries Other) : ProviderValue Other :=
  .mapping (Document.setEntry (Document.setEntry (withoutCliOutput entries) stdoutSuppressed
    suppressed) stderrSuppressed suppressed)

theorem find_flaggedOutput_flag (hName : name = stdoutSuppressed ∨ name = stderrSuppressed) :
    (flaggedOutput entries).find (.key name :: path) = suppressed.find path := by
  have hChild : (flaggedOutput entries).child (.key name) = some suppressed := by
    rcases hName with rfl | rfl
    · exact (Document.lookup_setEntry_of_ne stdoutSuppressed_ne).trans
        Document.lookup_setEntry_self
    · exact Document.lookup_setEntry_self
  rw [Document.find_cons, hChild, Option.bind_some]

/-- Away from the flags the returned mapping is the pruned tree. -/
theorem find_flaggedOutput (hPath : throughFlag path = false) (hNil : path ≠ []) :
    (flaggedOutput entries).find path =
      (Document.prune isCliOutputKey (.mapping entries)).find path := by
  cases path with
  | nil => exact (hNil rfl).elim
  | cons step path =>
      cases step with
      | index place => rfl
      | key name =>
          simp only [throughFlag, decide_eq_false_iff_not, not_or] at hPath
          have hLookup : (flaggedOutput entries).child (.key name) =
              (withoutCliOutput entries).lookup name :=
            (Document.lookup_setEntry_of_ne hPath.2).trans
              (Document.lookup_setEntry_of_ne hPath.1)
          rw [Document.find_cons, Document.find_cons, hLookup]
          rfl

theorem find_suppressed {found : ProviderValue Other}
    (h : (suppressed : ProviderValue Other).find path = some found) : path = [] := by
  cases path with
  | nil => rfl
  | cons step path =>
      cases step <;> cases h

/-- A key of the returned mapping is a flag, or a key of the tree that was not pruned. -/
theorem hasKey_flaggedOutput (h : (flaggedOutput entries).HasKey name) :
    (name = stdoutSuppressed ∨ name = stderrSuppressed) ∨
      (isCliOutputKey name = false ∧ (Document.mapping entries).HasKey name) := by
  obtain ⟨path, found, hFound⟩ := h
  cases hFlag : throughFlag (path ++ [.key name]) with
  | true =>
      left
      cases path with
      | nil => simpa [throughFlag] using hFlag
      | cons step path =>
          cases step with
          | index place => cases hFlag
          | key first =>
              have hFirst : first = stdoutSuppressed ∨ first = stderrSuppressed := by
                simpa [throughFlag] using hFlag
              rw [List.cons_append, find_flaggedOutput_flag hFirst] at hFound
              simpa using find_suppressed hFound
  | false =>
      right
      rw [find_flaggedOutput hFlag (by simp), Document.find_prune] at hFound
      cases hEnters : Document.enters isCliOutputKey (path ++ [.key name]) with
      | true =>
          rw [hEnters] at hFound
          cases hFound
      | false =>
          rw [hEnters, if_neg Bool.false_ne_true, Option.map_eq_some_iff] at hFound
          obtain ⟨c, hc, -⟩ := hFound
          rw [Document.enters_append, Bool.or_eq_false_iff] at hEnters
          exact ⟨by simpa [Document.enters] using hEnters.2, path, c, hc⟩

theorem cliProjection (entries : ProviderEntries Other) :
    CliProjection (.mapping entries) (flaggedOutput entries) where
  flagged := fun name hName => find_flaggedOutput_flag hName
  kept := by
    intro path hEnters hFlag
    cases path with
    | nil => rfl
    | cons step path =>
        rw [find_flaggedOutput hFlag (by simp), Document.find_prune, hEnters,
          if_neg Bool.false_ne_true, Option.map_map]
        congr 1
        funext c
        exact Document.look_prune
  added := by
    intro path c hFound hFlag
    cases path with
    | nil => exact ⟨.mapping entries, rfl⟩
    | cons step path =>
        rw [find_flaggedOutput hFlag (by simp), Document.find_prune] at hFound
        split at hFound
        · cases hFound
        · obtain ⟨c', hc', -⟩ := Option.map_eq_some_iff.mp hFound
          exact ⟨c', hc'⟩
  hidden := by
    intro name hName hKey
    rcases hasKey_flaggedOutput hKey with hFlag | ⟨hKept, -⟩
    · rw [isCliOutputKey_flag hFlag] at hName
      cases hName
    · rw [hKept] at hName
      cases hName

variable {canonicalJson : ProviderValue Other → Option (List UInt8)} {operationId : String}
  {tree : ProviderValue Other}

/-- What is returned of a provider's tree is what may be. -/
theorem released_of_releaseResult
    (h : releaseResult canonicalJson operationId tree = .ok entries) :
    Released operationId tree (.mapping entries) := by
  obtain ⟨safeResult, hSafe, hRest⟩ := except_bind_eq_ok.mp h
  obtain ⟨rfl, hClean⟩ := safeProviderResult_ok hSafe
  split at hRest
  · next hCli =>
      have hCli : operationId ∈ cliOperations := by simpa using hCli
      obtain rfl := Except.ok.inj hRest
      refine ⟨fun name hName hKey => ?_, fun hPlain => (hPlain hCli).elim,
        fun _ => cliProjection safeResult⟩
      rcases hasKey_flaggedOutput hKey with hFlag | ⟨-, hTree⟩
      · rw [isCredentialKey_flag hFlag] at hName
        cases hName
      · exact Document.not_hasKey_of_anyKey hClean hName hTree
  · next hPlain =>
      have hPlain : operationId ∉ cliOperations := by simpa using hPlain
      obtain rfl := Except.ok.inj hRest
      exact ⟨fun name hName => Document.not_hasKey_of_anyKey hClean hName, fun _ => rfl,
        fun hCli => (hPlain hCli).elim⟩

end Releasing

end CyreneExchange.Integrations
