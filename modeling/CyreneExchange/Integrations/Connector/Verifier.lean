import Mathlib
import CyreneExchange.Integrations.Connector.Grants

/-! The verifier between the connector routes and the grant registry. The wire
format, the digest and the signature scheme are parameters. A reference is the
digest of the whole grant, so the verifier registers it with one expiry only,
and each grant it lets through is used once. -/
namespace CyreneExchange.Integrations

open Machine

/-- `int(x)` of a float: the fraction is cut off. -/
def truncate (x : ℚ) : Int := if 0 ≤ x then ⌊x⌋ else ⌈x⌉

theorem truncate_mono {x y : ℚ} (h : x ≤ y) : truncate x ≤ truncate y := by
  unfold truncate
  split
  · rename_i hx
    rw [if_pos (hx.trans h)]
    exact Int.floor_le_floor h
  · rename_i hx
    split
    · rename_i hy
      exact (Int.ceil_le_ceil (le_of_lt (not_le.mp hx))).trans
        ((Int.ceil_zero (R := ℚ)).le.trans (Int.floor_nonneg.mpr hy))
    · exact Int.ceil_le_ceil h

/-- The signed fields of a ConnectorOperationGrantV1. -/
structure GrantContent where
  requestId : String
  audience : String
  organizationId : String
  workspaceId : String
  principalIssuer : String
  principalSubject : String
  connectionRef : String
  providerId : String
  profileRef : String
  operationId : String
  resourceRef : String
  argumentsDigestSha256 : List UInt8
  issuedAt : Option Timestamp
  expiresAt : Option Timestamp
  signingKeyId : String
deriving DecidableEq, Repr

structure ConnectorOperationGrant where
  content : GrantContent
  grantRef : String
  authoritySignature : List UInt8
deriving DecidableEq, Repr

/-- One exact action and verified caller scope carried by an Authority grant. -/
structure ConnectorGrantClaims where
  content : GrantContent
  issuedAt : Timestamp
  expiresAt : Timestamp
  grantRef : String
deriving DecidableEq, Repr

/-- The claims a route expects of the grant it is shown. -/
structure ExpectedClaims where
  requestId : String
  organizationId : String
  workspaceId : String
  principalIssuer : String
  principalSubject : String
  connectionRef : String
  providerId : String
  profileRef : String
  operationId : String
  resourceRef : String
  argumentsDigestSha256 : List UInt8
deriving DecidableEq, Repr

/-- The parts of the verifier that live outside this code: the protobuf
parser, the digest of the deterministic serialization without reference and
signature, the keyring, the signature check and the hash of the raw bytes. -/
structure AuthorityWire where
  parse : List UInt8 → Option ConnectorOperationGrant
  digest : GrantContent → String
  keyring : String → Except ExchangeProductError Unit
  signed : String → String → List UInt8 → Bool
  encodedSha256 : List UInt8 → String

/-- `ConnectorOperationGrantVerifier`: an audience, when a keyring is pinned. -/
structure GrantVerifier where
  wire : AuthorityWire
  keyringPinned : Bool
  expectedAudience : String

namespace GrantVerifier

variable (verifier : GrantVerifier)

/-- Refuse with `error` unless the condition holds. -/
def check (condition : Bool) (error : ExchangeProductError) : Except ExchangeProductError Unit :=
  if condition then .ok () else .error error

/-- Refuse with `error` when a value is missing. -/
def present {α : Type} (value : Option α) (error : ExchangeProductError) :
    Except ExchangeProductError α :=
  match value with
  | some a => .ok a
  | none => .error error

/-- `_parse_and_verify`. -/
def parseAndVerify (encoded : List UInt8) : Except ExchangeProductError ConnectorGrantClaims := do
  check (verifier.keyringPinned && verifier.expectedAudience != "")
    (notConfigured "connector_authority_verifier_not_configured")
  check (encoded ≠ [] && decide (encoded.length ≤ 64 * 1024)) (forbidden "connector_grant_invalid")
  let grant ← present (verifier.wire.parse encoded) (forbidden "connector_grant_invalid")
  let content := grant.content
  check (grant.grantRef != "" && content.signingKeyId != "" &&
    decide (grant.authoritySignature.length = 64) &&
    decide (content.argumentsDigestSha256.length = 32)) (forbidden "connector_grant_invalid")
  match content.issuedAt, content.expiresAt with
  | some issuedAt, some expiresAt =>
      verifier.wire.keyring content.signingKeyId
      check (grant.grantRef == "sha256:" ++ verifier.wire.digest content)
        (forbidden "connector_grant_digest_invalid")
      check (verifier.wire.signed content.signingKeyId (verifier.wire.digest content)
        grant.authoritySignature) (forbidden "connector_grant_signature_invalid")
      check (content.audience == verifier.expectedAudience)
        (forbidden "connector_grant_audience_invalid")
      check (decide (0 < expiresAt - issuedAt) && decide (expiresAt - issuedAt ≤ seconds 15))
        (forbidden "connector_grant_ttl_invalid")
      .ok ⟨content, issuedAt, expiresAt, grant.grantRef⟩
  | _, _ => .error (forbidden "connector_grant_invalid")

/-- `_match_expected`. -/
def matchExpected (claims : ConnectorGrantClaims) (expected : ExpectedClaims) :
    Except ExchangeProductError Unit := do
  let content := claims.content
  check (content.requestId == expected.requestId &&
    content.organizationId == expected.organizationId &&
    content.workspaceId == expected.workspaceId &&
    content.principalIssuer == expected.principalIssuer &&
    content.principalSubject == expected.principalSubject &&
    content.connectionRef == expected.connectionRef &&
    content.providerId == expected.providerId && content.profileRef == expected.profileRef &&
    content.operationId == expected.operationId && content.resourceRef == expected.resourceRef)
    (forbidden "connector_grant_scope_mismatch")
  check (content.argumentsDigestSha256 == expected.argumentsDigestSha256)
    (forbidden "connector_grant_arguments_mismatch")

/-- A timestamp as the float `.timestamp()` gives. -/
def epoch (moment : Timestamp) : ℚ := (moment : ℚ) / 1000000

/-- `inspect`, without a pardon for expired grants. -/
def inspect (encoded : List UInt8) (expected : Option ExpectedClaims) (clock : ℚ) :
    Except ExchangeProductError ConnectorGrantClaims := do
  let claims ← verifier.parseAndVerify encoded
  check (decide (clock < epoch claims.expiresAt)) (forbidden "connector_grant_expired")
  match expected with
  | none => .ok claims
  | some expected => do
      matchExpected claims expected
      .ok claims

/-- The registration `validate_authority_response` attempts at `clock`. -/
def registration (encoded : List UInt8) (expected : ExpectedClaims) (clock : ℚ) :
    Except ExchangeProductError (ConnectorGrantClaims × GrantCall) := do
  let claims ← verifier.parseAndVerify encoded
  matchExpected claims expected
  let nowEpoch := truncate clock
  check (decide ((nowEpoch : ℚ) < epoch claims.expiresAt)) (forbidden "connector_grant_expired")
  check (decide (epoch claims.issuedAt ≤ (nowEpoch : ℚ) + 5))
    (forbidden "connector_grant_issue_time_invalid")
  .ok (claims, .register claims.grantRef (verifier.wire.encodedSha256 encoded)
    (truncate (epoch claims.expiresAt)) nowEpoch)

/-- The consumption `consume` attempts at `clock`. -/
def consumption (encoded : List UInt8) (expected : ExpectedClaims) (clock : ℚ) :
    Except ExchangeProductError (ConnectorGrantClaims × GrantCall) := do
  let claims ← verifier.parseAndVerify encoded
  matchExpected claims expected
  check (decide (clock < epoch claims.expiresAt)) (forbidden "connector_grant_expired")
  .ok (claims, .consume claims.grantRef (verifier.wire.encodedSha256 encoded) (truncate clock))

/-- Attempt a registry call; a refusal is a replay. -/
def attempt (call : Except ExchangeProductError (ConnectorGrantClaims × GrantCall))
    (reasonCode : String) (s : ConnectorStore) :
    Except ExchangeProductError ConnectorGrantClaims × ConnectorStore :=
  match call with
  | .error e => (.error e, s)
  | .ok (claims, call) => match performGrant call s with
    | (true, t) => (.ok claims, t)
    | (false, t) => (.error (replayed reasonCode), t)

/-- `validate_authority_response`, with the durable registry. -/
def validateAuthorityResponse (encoded : List UInt8) (expected : ExpectedClaims) (clock : ℚ)
    (s : ConnectorStore) : Except ExchangeProductError ConnectorGrantClaims × ConnectorStore :=
  attempt (verifier.registration encoded expected clock)
    "connector_grant_ref_replayed_or_registry_full" s

/-- `consume`, with the durable registry. -/
def consume (encoded : List UInt8) (expected : ExpectedClaims) (clock : ℚ)
    (s : ConnectorStore) : Except ExchangeProductError ConnectorGrantClaims × ConnectorStore :=
  attempt (verifier.consumption encoded expected clock)
    "connector_grant_not_minted_here_or_replayed" s

end GrantVerifier

/-- A call of the verifier. -/
inductive VerifierCall where
  | issue (encoded : List UInt8) (expected : ExpectedClaims) (clock : ℚ)
  | consume (encoded : List UInt8) (expected : ExpectedClaims) (clock : ℚ)

def VerifierCall.encoded : VerifierCall → List UInt8
  | .issue encoded _ _ | .consume encoded _ _ => encoded

def VerifierCall.clock : VerifierCall → ℚ
  | .issue _ _ clock | .consume _ _ clock => clock

namespace GrantVerifier

variable (verifier : GrantVerifier)

/-- What the checks before the registry leave of a call. -/
def verify : VerifierCall → Except ExchangeProductError (ConnectorGrantClaims × GrantCall)
  | .issue encoded expected clock => verifier.registration encoded expected clock
  | .consume encoded expected clock => verifier.consumption encoded expected clock

/-- `validate_authority_response` and `consume`, with the durable registry. -/
def durableStep : VerifierCall → ConnectorStore →
    Except ExchangeProductError ConnectorGrantClaims × ConnectorStore
  | .issue encoded expected clock => verifier.validateAuthorityResponse encoded expected clock
  | .consume encoded expected clock => verifier.consume encoded expected clock

/-- The digest tells the grants of these encodings apart. -/
def DigestsApart (encodings : List (List UInt8)) : Prop :=
  ∀ encoded ∈ encodings, ∀ encoded' ∈ encodings, ∀ claims claims',
    verifier.parseAndVerify encoded = .ok claims →
    verifier.parseAndVerify encoded' = .ok claims' →
    verifier.wire.digest claims.content = verifier.wire.digest claims'.content →
    claims.content = claims'.content

section Digests

variable {verifier} {encoded : List UInt8} {expected : ExpectedClaims} {clock : ℚ}
  {claims : ConnectorGrantClaims} {call : GrantCall}

theorem bind_eq_ok {α β : Type} {x : Except ExchangeProductError α}
    {f : α → Except ExchangeProductError β} {b : β} :
    (x >>= f) = .ok b ↔ ∃ a, x = .ok a ∧ f a = .ok b := by
  cases x with
  | error e =>
      constructor
      · intro h
        cases h
      · rintro ⟨_, h, _⟩
        cases h
  | ok a =>
      constructor
      · intro h
        exact ⟨a, rfl, h⟩
      · rintro ⟨_, ha, h⟩
        cases ha
        exact h

theorem check_eq_ok {condition : Bool} {error : ExchangeProductError} {u : Unit} :
    check condition error = .ok u ↔ condition = true := by
  cases condition <;> simp [check]

/-- What the verifier has checked of the claims it returns. -/
structure Vouched (verifier : GrantVerifier) (claims : ConnectorGrantClaims) : Prop where
  digest : claims.grantRef = "sha256:" ++ verifier.wire.digest claims.content
  expiry : claims.content.expiresAt = some claims.expiresAt
  ttl : claims.expiresAt - claims.issuedAt ≤ seconds 15

/-- An accepted grant carries the digest of its content and its own expiry, and
it lives for at most fifteen seconds. -/
theorem parseAndVerify_vouched (h : verifier.parseAndVerify encoded = .ok claims) :
    Vouched verifier claims := by
  unfold parseAndVerify at h
  obtain ⟨_, _, h⟩ := bind_eq_ok.mp h
  obtain ⟨_, _, h⟩ := bind_eq_ok.mp h
  obtain ⟨grant, _, h⟩ := bind_eq_ok.mp h
  obtain ⟨_, _, h⟩ := bind_eq_ok.mp h
  cases hIssued : grant.content.issuedAt with
  | none => simp [hIssued] at h
  | some issuedAt =>
      cases hExpires : grant.content.expiresAt with
      | none => simp [hIssued, hExpires] at h
      | some expiresAt =>
          simp only [hIssued, hExpires] at h
          obtain ⟨_, _, h⟩ := bind_eq_ok.mp h
          obtain ⟨_, hDigest, h⟩ := bind_eq_ok.mp h
          obtain ⟨_, _, h⟩ := bind_eq_ok.mp h
          obtain ⟨_, _, h⟩ := bind_eq_ok.mp h
          obtain ⟨_, hTtl, h⟩ := bind_eq_ok.mp h
          cases h
          rw [check_eq_ok, Bool.and_eq_true, decide_eq_true_eq, decide_eq_true_eq] at hTtl
          exact ⟨beq_iff_eq.mp (check_eq_ok.mp hDigest), hExpires, hTtl.2⟩

theorem registration_eq_ok (h : verifier.registration encoded expected clock = .ok (claims, call)) :
    verifier.parseAndVerify encoded = .ok claims ∧
      call = .register claims.grantRef (verifier.wire.encodedSha256 encoded)
        (truncate (epoch claims.expiresAt)) (truncate clock) ∧
      (truncate clock : ℚ) < epoch claims.expiresAt ∧
      epoch claims.issuedAt ≤ (truncate clock : ℚ) + 5 := by
  unfold registration at h
  obtain ⟨_, hClaims, h⟩ := bind_eq_ok.mp h
  obtain ⟨_, _, h⟩ := bind_eq_ok.mp h
  obtain ⟨_, hExpires, h⟩ := bind_eq_ok.mp h
  obtain ⟨_, hIssued, h⟩ := bind_eq_ok.mp h
  cases h
  rw [check_eq_ok, decide_eq_true_eq] at hExpires hIssued
  exact ⟨hClaims, rfl, hExpires, hIssued⟩

theorem consumption_eq_ok (h : verifier.consumption encoded expected clock = .ok (claims, call)) :
    verifier.parseAndVerify encoded = .ok claims ∧
      call = .consume claims.grantRef (verifier.wire.encodedSha256 encoded) (truncate clock) ∧
      clock < epoch claims.expiresAt := by
  unfold consumption at h
  obtain ⟨_, hClaims, h⟩ := bind_eq_ok.mp h
  obtain ⟨_, _, h⟩ := bind_eq_ok.mp h
  obtain ⟨_, hExpires, h⟩ := bind_eq_ok.mp h
  cases h
  rw [check_eq_ok, decide_eq_true_eq] at hExpires
  exact ⟨hClaims, rfl, hExpires⟩

/-- Because references are digests of whole grants, the registrations the
verifier attempts for one reference carry one expiry. -/
theorem registration_keeps_expiry {encodings : List (List UInt8)}
    (hDigest : verifier.DigestsApart encodings) (grantRef : String) :
    ∃ expiry : Int, ∀ encoded ∈ encodings, ∀ expected clock claims call,
      verifier.registration encoded expected clock = .ok (claims, call) →
      call.Keeps grantRef expiry := by
  by_cases hSome : ∃ encoded ∈ encodings, ∃ claims,
      verifier.parseAndVerify encoded = .ok claims ∧ claims.grantRef = grantRef
  · obtain ⟨first, hFirst, known, hKnown, hKnownRef⟩ := hSome
    refine ⟨truncate (epoch known.expiresAt), ?_⟩
    intro encoded hEncoded expected clock claims call h
    obtain ⟨hClaims, rfl, _⟩ := registration_eq_ok h
    intro hRef
    obtain ⟨hDigested, hExpiry, _⟩ := parseAndVerify_vouched hClaims
    obtain ⟨hKnownDigested, hKnownExpiry, _⟩ := parseAndVerify_vouched hKnown
    have hTexts : "sha256:" ++ verifier.wire.digest claims.content =
        "sha256:" ++ verifier.wire.digest known.content := by
      rw [← hDigested, ← hKnownDigested, hRef, hKnownRef]
    have hContent : claims.content = known.content := by
      apply hDigest encoded hEncoded first hFirst claims known hClaims hKnown
      have hLists := congrArg String.toList hTexts
      simpa [String.toList_inj] using hLists
    rw [hContent, hKnownExpiry] at hExpiry
    rw [Option.some.inj hExpiry]
  · refine ⟨0, ?_⟩
    intro encoded hEncoded expected clock claims call h
    obtain ⟨hClaims, rfl, _⟩ := registration_eq_ok h
    intro hRef
    exact absurd ⟨encoded, hEncoded, claims, hClaims, hRef⟩ hSome

end Digests

end GrantVerifier

abbrev VerifierEvent :=
  Event ConnectorStore VerifierCall (Except ExchangeProductError ConnectorGrantClaims)

/-- The verifier let its caller use the grant. -/
def VerifierEvent.consumed (grantRef : String) (e : VerifierEvent) : Bool :=
  match e.input, e.output with
  | .consume .., .ok claims => claims.grantRef == grantRef
  | _, _ => false

section Runs

variable {verifier : GrantVerifier} {call : VerifierCall} {calls : List VerifierCall}
  {s : ConnectorStore} {grantRef : String}

/-- The registry calls that the checks let through. -/
def GrantVerifier.registryCalls (verifier : GrantVerifier) (calls : List VerifierCall) :
    List GrantCall :=
  calls.filterMap fun call => (verifier.verify call).toOption.map Prod.snd

theorem durableStep_of_error {error : ExchangeProductError}
    (h : verifier.verify call = .error error) :
    verifier.durableStep call s = (.error error, s) := by
  cases call with
  | issue encoded expected clock =>
      simp only [GrantVerifier.verify] at h
      simp [GrantVerifier.durableStep, GrantVerifier.validateAuthorityResponse,
        GrantVerifier.attempt, h]
  | consume encoded expected clock =>
      simp only [GrantVerifier.verify] at h
      simp [GrantVerifier.durableStep, GrantVerifier.consume, GrantVerifier.attempt, h]

/-- A call that passes the checks is its registry call. -/
theorem durableStep_of_verified {claims : ConnectorGrantClaims} {grantCall : GrantCall}
    (s : ConnectorStore) (grantRef : String) (h : verifier.verify call = .ok (claims, grantCall)) :
    (verifier.durableStep call s).2 = (performGrant grantCall s).2 ∧
      VerifierEvent.consumed grantRef ⟨s, call, (verifier.durableStep call s).1,
          (verifier.durableStep call s).2⟩ =
        GrantEvent.consumed grantRef ⟨s, grantCall, (performGrant grantCall s).1,
          (performGrant grantCall s).2⟩ := by
  cases call with
  | issue encoded expected clock =>
      simp only [GrantVerifier.verify] at h
      obtain ⟨_, rfl, _⟩ := GrantVerifier.registration_eq_ok h
      simp only [GrantVerifier.durableStep, GrantVerifier.validateAuthorityResponse,
        GrantVerifier.attempt, h, VerifierEvent.consumed, GrantEvent.consumed, Bool.and_false,
        and_true]
      split
      · rename_i hPerformed
        rw [hPerformed]
      · rename_i hPerformed
        rw [hPerformed]
  | consume encoded expected clock =>
      simp only [GrantVerifier.verify] at h
      obtain ⟨_, rfl, _⟩ := GrantVerifier.consumption_eq_ok h
      simp only [GrantVerifier.durableStep, GrantVerifier.consume, GrantVerifier.attempt, h,
        VerifierEvent.consumed, GrantEvent.consumed]
      split
      · rename_i hPerformed
        simp [hPerformed]
      · rename_i hPerformed
        simp [hPerformed]

/-- The verifier's calls act on the registry as the calls it lets through. -/
theorem countP_verified (calls : List VerifierCall) (s : ConnectorStore) :
    (trace verifier.durableStep calls s).countP (VerifierEvent.consumed grantRef) =
      (trace performGrant (verifier.registryCalls calls) s).countP
        (GrantEvent.consumed grantRef) := by
  induction calls generalizing s with
  | nil => rfl
  | cons call rest ih =>
      cases hVerified : verifier.verify call with
      | error error =>
          have hSkipped : verifier.registryCalls (call :: rest) = verifier.registryCalls rest := by
            simp [GrantVerifier.registryCalls, hVerified, Except.toOption]
          have hSilent : VerifierEvent.consumed grantRef ⟨s, call, .error error, s⟩ = false := by
            cases call <;> rfl
          rw [hSkipped, ← ih s]
          simp only [trace, durableStep_of_error hVerified, List.countP_cons, hSilent]
          rfl
      | ok verified =>
          obtain ⟨claims, grantCall⟩ := verified
          have hPassed : verifier.registryCalls (call :: rest) =
              grantCall :: verifier.registryCalls rest := by
            simp [GrantVerifier.registryCalls, hVerified, Except.toOption]
          obtain ⟨hAfter, hEvent⟩ := durableStep_of_verified s grantRef hVerified
          rw [hPassed]
          simp only [trace, List.countP_cons]
          rw [hEvent, hAfter, ih]

/-- The registry reads the clock of the call. -/
theorem nowEpoch_of_verified {claims : ConnectorGrantClaims} {grantCall : GrantCall}
    (h : verifier.verify call = .ok (claims, grantCall)) :
    grantCall.nowEpoch = truncate call.clock := by
  cases call with
  | issue encoded expected clock =>
      obtain ⟨_, rfl, _⟩ := GrantVerifier.registration_eq_ok h
      rfl
  | consume encoded expected clock =>
      obtain ⟨_, rfl, _⟩ := GrantVerifier.consumption_eq_ok h
      rfl

theorem passed_iff {grantCall : GrantCall} :
    (verifier.verify call).toOption.map Prod.snd = some grantCall ↔
      ∃ claims, verifier.verify call = .ok (claims, grantCall) := by
  cases verifier.verify call with
  | error error => simp [Except.toOption]
  | ok verified => simp [Except.toOption, Prod.ext_iff]

theorem registryCalls_clock (hClock : calls.Pairwise fun c d => c.clock ≤ d.clock) :
    (verifier.registryCalls calls).Pairwise fun c d => c.nowEpoch ≤ d.nowEpoch := by
  unfold GrantVerifier.registryCalls
  rw [List.pairwise_filterMap]
  refine hClock.imp ?_
  intro call call' hLater grantCall hCall grantCall' hCall'
  obtain ⟨claims, hVerified⟩ := passed_iff.mp hCall
  obtain ⟨claims', hVerified'⟩ := passed_iff.mp hCall'
  rw [nowEpoch_of_verified hVerified, nowEpoch_of_verified hVerified']
  exact truncate_mono hLater

/-- The registrations of a run of the verifier give each reference one expiry. -/
theorem registryCalls_keep (hDigest : verifier.DigestsApart (calls.map VerifierCall.encoded))
    (grantRef : String) :
    ∃ expiry, ∀ grantCall ∈ verifier.registryCalls calls, grantCall.Keeps grantRef expiry := by
  obtain ⟨expiry, hExpiry⟩ := GrantVerifier.registration_keeps_expiry hDigest grantRef
  refine ⟨expiry, ?_⟩
  intro grantCall hCall
  obtain ⟨call, hMem, hSome⟩ := List.mem_filterMap.mp hCall
  obtain ⟨claims, hVerified⟩ := passed_iff.mp hSome
  cases call with
  | issue encoded expected clock =>
      exact hExpiry encoded (List.mem_map_of_mem hMem) expected clock claims _ hVerified
  | consume encoded expected clock =>
      obtain ⟨_, rfl, _⟩ := GrantVerifier.consumption_eq_ok hVerified
      trivial

end Runs

/-- For every interleaving of registrations and consumptions under a clock
that never runs back: a grant whose registrations carry one expiry is consumed
at most once; a consumption presents the encoding and precedes the expiry the
grant was registered with, and pruning and registering it again makes it
consumable again no sooner than that expiry. The verifier's registrations do
carry one expiry, so what it lets through is used at most once. -/
theorem grants_are_one_use (grantRef : String) :
    (∀ calls : List GrantCall, (calls.Pairwise fun c d => c.nowEpoch ≤ d.nowEpoch) →
      (∀ expiry, (∀ call ∈ calls, call.Keeps grantRef expiry) →
        (trace performGrant calls {}).countP (GrantEvent.consumed grantRef) ≤ 1) ∧
      ∀ earlier e later, trace performGrant calls {} = earlier ++ e :: later →
        GrantEvent.consumed grantRef e = true →
        ∃ encodedSha256 expiresAt nowEpoch, e.input = .consume grantRef encodedSha256 nowEpoch ∧
          nowEpoch < expiresAt ∧
          (∃ r ∈ earlier, GrantEvent.registered grantRef encodedSha256 expiresAt r) ∧
          ∀ f ∈ later, GrantEvent.consumed grantRef f = true → expiresAt ≤ f.input.nowEpoch) ∧
    ∀ (verifier : GrantVerifier) (calls : List VerifierCall),
      (calls.Pairwise fun c d => c.clock ≤ d.clock) →
      verifier.DigestsApart (calls.map VerifierCall.encoded) →
      (trace verifier.durableStep calls {}).countP (VerifierEvent.consumed grantRef) ≤ 1 := by
  refine ⟨fun calls hClock => ⟨?_, ?_⟩, ?_⟩
  · exact fun expiry hKeeps => consumed_at_most_once expiry hKeeps hClock
  · intro earlier e later hTrace hConsumed
    exact consumption_of_registered calls hClock grantRef hTrace hConsumed
  · intro verifier calls hClock hDigest
    obtain ⟨expiry, hKeeps⟩ := registryCalls_keep hDigest grantRef
    rw [countP_verified]
    exact consumed_at_most_once expiry hKeeps (registryCalls_clock hClock)

def sampleEncodedSha256 : String := String.ofList (List.replicate 64 'a')

/-- A grant registered, consumed, presented again, pruned and refused. -/
def sampleGrantCalls : List GrantCall := [
  .register "sha256:grant" sampleEncodedSha256 15 0,
  .consume "sha256:grant" sampleEncodedSha256 14,
  .consume "sha256:grant" sampleEncodedSha256 14,
  .register "sha256:grant" sampleEncodedSha256 15 15,
  .consume "sha256:grant" sampleEncodedSha256 15]

/-- A grant valid from second 100 to second 110. -/
def openContent : GrantContent where
  requestId := "request-1"
  audience := "exchange"
  organizationId := "org"
  workspaceId := "ws"
  principalIssuer := "issuer"
  principalSubject := "subject"
  connectionRef := "connection-1"
  providerId := "gh"
  profileRef := "gh-profile-1"
  operationId := "github.issue.get"
  resourceRef := "resource-1"
  argumentsDigestSha256 := List.replicate 32 0
  issuedAt := some (seconds 100)
  expiresAt := some (seconds 110)
  signingKeyId := "key"

def hexDigits (digit : Char) : String := String.ofList (List.replicate 64 digit)

/-- Two encodings of one signed grant. -/
def twoEncodings : GrantVerifier where
  wire := {
    parse := fun encoded =>
      if encoded = [1] ∨ encoded = [1, 0] then
        some ⟨openContent, "sha256:" ++ hexDigits 'c', List.replicate 64 0⟩
      else none
    digest := fun _ => hexDigits 'c'
    keyring := fun _ => .ok ()
    signed := fun _ _ _ => true
    encodedSha256 := fun encoded => hexDigits (if encoded = [1] then 'a' else 'b') }
  keyringPinned := true
  expectedAudience := "exchange"

def openClaims : ExpectedClaims where
  requestId := "request-1"
  organizationId := "org"
  workspaceId := "ws"
  principalIssuer := "issuer"
  principalSubject := "subject"
  connectionRef := "connection-1"
  providerId := "gh"
  profileRef := "gh-profile-1"
  operationId := "github.issue.get"
  resourceRef := "resource-1"
  argumentsDigestSha256 := List.replicate 32 0

/-- A grant issued, consumed and presented again. -/
def ownCalls : List VerifierCall :=
  [.issue [1] openClaims 101, .consume [1] openClaims 102, .consume [1] openClaims 103]

theorem ownCalls_apart : twoEncodings.DigestsApart (ownCalls.map VerifierCall.encoded) := by
  intro encoded hEncoded encoded' hEncoded' claims claims' hClaims hClaims' _
  have hOne : ∀ encoded ∈ ownCalls.map VerifierCall.encoded, encoded = [1] := by decide
  rw [hOne encoded hEncoded] at hClaims
  rw [hOne encoded' hEncoded'] at hClaims'
  rw [Except.ok.inj (hClaims.symm.trans hClaims')]

theorem grants_are_one_use_sample :
    (trace performGrant sampleGrantCalls {}).map Event.output =
      [true, true, false, false, false] ∧
    (trace performGrant sampleGrantCalls {}).countP (GrantEvent.consumed "sha256:grant") ≤ 1 ∧
    (trace twoEncodings.durableStep ownCalls {}).map (fun e => e.output.toOption.isSome) =
      [true, true, false] ∧
    (trace twoEncodings.durableStep ownCalls {}).countP
      (VerifierEvent.consumed ("sha256:" ++ hexDigits 'c')) ≤ 1 :=
  ⟨by decide, ((grants_are_one_use "sha256:grant").1 sampleGrantCalls (by decide)).1 15 (by decide),
    by decide +kernel,
    (grants_are_one_use _).2 twoEncodings ownCalls (by decide +kernel) ownCalls_apart⟩

/-- A reference registered with a later expiry once its first one has passed. -/
def reregisteredGrantCalls : List GrantCall := [
  .register "sha256:grant" sampleEncodedSha256 15 0,
  .consume "sha256:grant" sampleEncodedSha256 14,
  .register "sha256:grant" sampleEncodedSha256 35 16,
  .consume "sha256:grant" sampleEncodedSha256 20]

/-- The registry itself lets a reference that is registered anew be used anew. -/
theorem reregistered_grant_consumed_again : ¬ ∀ calls : List GrantCall,
    (calls.Pairwise fun c d => c.nowEpoch ≤ d.nowEpoch) → ∀ grantRef,
      (trace performGrant calls {}).countP (GrantEvent.consumed grantRef) ≤ 1 := by
  intro h
  have hTwice : (trace performGrant reregisteredGrantCalls {}).countP
      (GrantEvent.consumed "sha256:grant") = 2 := by decide
  have hOnce := h reregisteredGrantCalls (by decide) "sha256:grant"
  omega

end CyreneExchange.Integrations
