import CyreneExchange.Integrations.Connector.Verifier
import Mathlib

/-! The grant registry a verifier keeps in memory when it has no durable one,
beside the durable one under the same calls. The two accept the same grants as
long as nobody presents other bytes for a grant that is still open: the attempt
is refused by both, but the registry in memory has already let the grant go. -/
namespace CyreneExchange.Integrations

open Machine GrantVerifier

/-- An entry of `_issued`, under the reference of its claims. -/
structure IssuedGrant where
  encoded : List UInt8
  claims : ConnectorGrantClaims
deriving DecidableEq, Repr

def IssuedGrant.grantRef (grant : IssuedGrant) : String := grant.claims.grantRef

/-- An entry of `_consumed`. -/
structure SpentGrant where
  grantRef : String
  expiresAt : ℚ
deriving DecidableEq, Repr

/-- The dictionaries `_issued` and `_consumed`. -/
structure MemoryRegistry where
  issued : List IssuedGrant := []
  consumed : List SpentGrant := []
deriving DecidableEq, Repr

namespace MemoryRegistry

/-- `_prune`. -/
def prune (nowEpoch : ℚ) (registry : MemoryRegistry) : MemoryRegistry where
  issued := Table.deleteWhere (fun grant => decide (epoch grant.claims.expiresAt ≤ nowEpoch))
    registry.issued
  consumed := Table.deleteWhere (fun spent => decide (spent.expiresAt ≤ nowEpoch))
    registry.consumed

/-- `len(self._issued) + len(self._consumed) >= 8192`. -/
def full (registry : MemoryRegistry) : Bool :=
  decide (8192 ≤ registry.issued.length + registry.consumed.length)

/-- `grant_ref in self._consumed`. -/
def spent (registry : MemoryRegistry) (grantRef : String) : Bool :=
  registry.consumed.any fun spent => spent.grantRef == grantRef

/-- `self._issued.pop(grant_ref, None)`. -/
def pop (registry : MemoryRegistry) (grantRef : String) : Option IssuedGrant × MemoryRegistry :=
  (registry.issued.find? fun grant => grant.grantRef == grantRef,
    { registry with
      issued := Table.deleteWhere (fun grant => grant.grantRef == grantRef) registry.issued })

/-- The rest of `validate_authority_response` once the grant is verified. -/
def issue (encoded : List UInt8) (claims : ConnectorGrantClaims) (registry : MemoryRegistry) :
    Except ExchangeProductError ConnectorGrantClaims × MemoryRegistry :=
  if (registry.issued.any fun grant => grant.grantRef == claims.grantRef) ||
      registry.spent claims.grantRef then
    (.error (replayed "connector_grant_ref_replayed"), registry)
  else if registry.full then (.error (notConfigured "connector_grant_registry_full"), registry)
  else (.ok claims, { registry with issued := registry.issued ++ [⟨encoded, claims⟩] })

/-- The rest of `consume` once the grant is verified. -/
def redeem (encoded : List UInt8) (claims : ConnectorGrantClaims) (registry : MemoryRegistry) :
    Except ExchangeProductError ConnectorGrantClaims × MemoryRegistry :=
  let (issued, left) := registry.pop claims.grantRef
  if issued.map IssuedGrant.encoded ≠ some encoded then
    (.error (forbidden "connector_grant_not_minted_here"), left)
  else if left.spent claims.grantRef then (.error (replayed "connector_grant_replayed"), left)
  else if left.full then (.error (notConfigured "connector_grant_registry_full"), left)
  else (.ok claims,
    { left with consumed := left.consumed ++ [⟨claims.grantRef, epoch claims.expiresAt⟩] })

end MemoryRegistry

namespace GrantVerifier

variable (verifier : GrantVerifier)

/-- The same without a durable registry. -/
def memoryStep : VerifierCall → MemoryRegistry →
    Except ExchangeProductError ConnectorGrantClaims × MemoryRegistry
  | .issue encoded expected clock, registry =>
      match verifier.registration encoded expected clock with
      | .error e => (.error e, registry)
      | .ok (claims, _) => (registry.prune (truncate clock)).issue encoded claims
  | .consume encoded expected clock, registry =>
      match verifier.consumption encoded expected clock with
      | .error e => (.error e, registry)
      | .ok (claims, _) => (registry.prune clock).redeem encoded claims

/-- Both registries under the same calls. -/
abbrev registries : VerifierCall → MemoryRegistry × ConnectorStore →
    (Except ExchangeProductError ConnectorGrantClaims ×
      Except ExchangeProductError ConnectorGrantClaims) × MemoryRegistry × ConnectorStore :=
  both verifier.memoryStep verifier.durableStep

end GrantVerifier

/-- A grant that is issued expires at a whole second. -/
def VerifierCall.wholeSecond (verifier : GrantVerifier) : VerifierCall → Bool
  | .issue encoded expected clock => match verifier.registration encoded expected clock with
      | .ok (claims, _) => claims.expiresAt % 1000000 == 0
      | .error _ => true
  | .consume .. => true

/-- A verified attempt on a grant that is open in memory presents its bytes. -/
def VerifierCall.genuine (verifier : GrantVerifier) (registry : MemoryRegistry) :
    VerifierCall → Bool
  | .issue .. => true
  | .consume encoded expected clock => match verifier.consumption encoded expected clock with
      | .ok (claims, _) => (registry.prune clock).issued.all fun grant =>
          grant.grantRef != claims.grantRef || grant.encoded == encoded
      | .error _ => true

/-- A call within the capacities, on a clock that counts from the epoch. -/
structure VerifierCall.Ordinary (verifier : GrantVerifier) (s : MemoryRegistry × ConnectorStore)
    (call : VerifierCall) : Prop where
  wholeSecond : call.wholeSecond verifier = true
  clock : 0 ≤ call.clock
  memoryRoom : s.1.full = false
  durableRoom : s.2.grantReplays.length < 8192

/-- The durable row of a grant that is open in memory. -/
structure IssuedGrant.Opens (verifier : GrantVerifier) (grant : IssuedGrant) (row : GrantReplay) :
    Prop where
  grantRef : row.grantRef = grant.grantRef
  encoded : row.encodedSha256 = verifier.wire.encodedSha256 grant.encoded
  expires : (row.expiresAt : ℚ) = epoch grant.claims.expiresAt
  unconsumed : row.consumedAt = none

/-- The durable row of a grant that is spent in memory. -/
structure SpentGrant.Marks (spent : SpentGrant) (row : GrantReplay) : Prop where
  grantRef : row.grantRef = spent.grantRef
  expires : (row.expiresAt : ℚ) = spent.expiresAt
  consumed : row.consumedAt.isSome = true

/-- The registries hold the same grants, open and spent. -/
structure Mirrors (verifier : GrantVerifier) (encodings : List (List UInt8))
    (registry : MemoryRegistry) (s : ConnectorStore) : Prop where
  keyed : s.GrantsKeyed
  issuedKeyed : Table.KeysUnique IssuedGrant.grantRef registry.issued
  issued : ∀ grant ∈ registry.issued, ∃ row ∈ s.grantReplays, grant.Opens verifier row
  unconsumed : ∀ row ∈ s.grantReplays, row.consumedAt = none →
    ∃ grant ∈ registry.issued, grant.Opens verifier row
  spent : ∀ spent ∈ registry.consumed, ∃ row ∈ s.grantReplays, spent.Marks row
  consumed : ∀ row ∈ s.grantReplays, row.consumedAt.isSome = true →
    ∃ spent ∈ registry.consumed, spent.Marks row
  verified : ∀ grant ∈ registry.issued, grant.encoded ∈ encodings ∧
    verifier.parseAndVerify grant.encoded = .ok grant.claims

section Mirrored

variable {verifier : GrantVerifier} {encodings : List (List UInt8)} {registry : MemoryRegistry}
  {s : ConnectorStore} {encoded : List UInt8} {claims : ConnectorGrantClaims} {grantRef : String}
  {nowEpoch : Int}

/-- The store with its live rows. -/
def ConnectorStore.pruned (nowEpoch : Int) (s : ConnectorStore) : ConnectorStore :=
  { s with grantReplays := s.live nowEpoch }

theorem mirrors_empty (verifier : GrantVerifier) (encodings : List (List UInt8)) :
    Mirrors verifier encodings {} {} where
  keyed := List.nodup_nil
  issuedKeyed := List.nodup_nil
  issued := fun _ h => nomatch h
  unconsumed := fun _ h => nomatch h
  spent := fun _ h => nomatch h
  consumed := fun _ h => nomatch h
  verified := fun _ h => nomatch h

/-- A whole second has passed when its integer part has. -/
theorem mem_pruned {row : GrantReplay} {clock : ℚ} :
    row ∈ (s.pruned ⌊clock⌋).grantReplays ↔ row ∈ s.grantReplays ∧ clock < row.expiresAt := by
  show row ∈ s.live ⌊clock⌋ ↔ _
  rw [mem_live, Int.floor_lt]

theorem Mirrors.prune (h : Mirrors verifier encodings registry s) (clock : ℚ) :
    Mirrors verifier encodings (registry.prune clock) (s.pruned ⌊clock⌋) where
  keyed := Table.KeysUnique.deleteWhere h.keyed
  issuedKeyed := h.issuedKeyed.deleteWhere
  issued := by
    intro grant hGrant
    obtain ⟨hOld, hLive⟩ := Table.mem_deleteWhere.mp hGrant
    obtain ⟨row, hRow, hOpens⟩ := h.issued grant hOld
    refine ⟨row, mem_pruned.mpr ⟨hRow, ?_⟩, hOpens⟩
    rw [hOpens.expires]
    simpa using hLive
  unconsumed := by
    intro row hRow hOpen
    obtain ⟨hOld, hLive⟩ := mem_pruned.mp hRow
    obtain ⟨grant, hGrant, hOpens⟩ := h.unconsumed row hOld hOpen
    refine ⟨grant, Table.mem_deleteWhere.mpr ⟨hGrant, ?_⟩, hOpens⟩
    rw [← hOpens.expires]
    simpa using hLive
  spent := by
    intro spent hSpent
    obtain ⟨hOld, hLive⟩ := Table.mem_deleteWhere.mp hSpent
    obtain ⟨row, hRow, hMarks⟩ := h.spent spent hOld
    refine ⟨row, mem_pruned.mpr ⟨hRow, ?_⟩, hMarks⟩
    rw [hMarks.expires]
    simpa using hLive
  consumed := by
    intro row hRow hConsumed
    obtain ⟨hOld, hLive⟩ := mem_pruned.mp hRow
    obtain ⟨spent, hSpent, hMarks⟩ := h.consumed row hOld hConsumed
    refine ⟨spent, Table.mem_deleteWhere.mpr ⟨hSpent, ?_⟩, hMarks⟩
    rw [← hMarks.expires]
    simpa using hLive
  verified := fun grant hGrant => h.verified grant (Table.mem_deleteWhere.mp hGrant).1

/-- A reference is known to both or to neither. -/
theorem Mirrors.known (h : Mirrors verifier encodings registry s) (grantRef : String) :
    ((registry.issued.any fun grant => grant.grantRef == grantRef) || registry.spent grantRef) =
      s.grantReplays.any fun row => row.grantRef == grantRef := by
  rw [Bool.eq_iff_iff]
  simp only [MemoryRegistry.spent, Bool.or_eq_true, List.any_eq_true, beq_iff_eq]
  constructor
  · rintro (⟨grant, hGrant, hRef⟩ | ⟨spent, hSpent, hRef⟩)
    · obtain ⟨row, hRow, hOpens⟩ := h.issued grant hGrant
      exact ⟨row, hRow, hOpens.grantRef.trans hRef⟩
    · obtain ⟨row, hRow, hMarks⟩ := h.spent spent hSpent
      exact ⟨row, hRow, hMarks.grantRef.trans hRef⟩
  · rintro ⟨row, hRow, hRef⟩
    cases hMark : row.consumedAt with
    | none =>
        obtain ⟨grant, hGrant, hOpens⟩ := h.unconsumed row hRow hMark
        exact Or.inl ⟨grant, hGrant, hOpens.grantRef.symm.trans hRef⟩
    | some moment =>
        obtain ⟨spent, hSpent, hMarks⟩ := h.consumed row hRow (by rw [hMark]; rfl)
        exact Or.inr ⟨spent, hSpent, hMarks.grantRef.symm.trans hRef⟩

/-- A fresh grant is entered into both. -/
theorem Mirrors.enter {expiresAt : Int} (h : Mirrors verifier encodings registry s)
    (hFresh : ∀ row ∈ s.grantReplays, row.grantRef ≠ claims.grantRef)
    (hEncoded : encoded ∈ encodings) (hClaims : verifier.parseAndVerify encoded = .ok claims)
    (hExpires : (expiresAt : ℚ) = epoch claims.expiresAt) :
    Mirrors verifier encodings { registry with issued := registry.issued ++ [⟨encoded, claims⟩] }
      { s with grantReplays := s.grantReplays ++
        [⟨claims.grantRef, verifier.wire.encodedSha256 encoded, expiresAt, none⟩] } where
  keyed := Table.KeysUnique.append_singleton h.keyed hFresh
  issuedKeyed := by
    apply h.issuedKeyed.append_singleton
    intro grant hGrant hRef
    obtain ⟨row, hRow, hOpens⟩ := h.issued grant hGrant
    exact hFresh row hRow (hOpens.grantRef.trans hRef)
  issued := by
    intro grant hGrant
    rcases List.mem_append.mp hGrant with hOld | hNew
    · obtain ⟨row, hRow, hOpens⟩ := h.issued grant hOld
      exact ⟨row, List.mem_append_left _ hRow, hOpens⟩
    · rw [List.mem_singleton.mp hNew]
      exact ⟨_, List.mem_append_right _ List.mem_cons_self, rfl, rfl, hExpires, rfl⟩
  unconsumed := by
    intro row hRow hOpen
    rcases List.mem_append.mp hRow with hOld | hNew
    · obtain ⟨grant, hGrant, hOpens⟩ := h.unconsumed row hOld hOpen
      exact ⟨grant, List.mem_append_left _ hGrant, hOpens⟩
    · rw [List.mem_singleton.mp hNew]
      exact ⟨⟨encoded, claims⟩, List.mem_append_right _ List.mem_cons_self, rfl, rfl, hExpires,
        rfl⟩
  spent := by
    intro spent hSpent
    obtain ⟨row, hRow, hMarks⟩ := h.spent spent hSpent
    exact ⟨row, List.mem_append_left _ hRow, hMarks⟩
  consumed := by
    intro row hRow hConsumed
    rcases List.mem_append.mp hRow with hOld | hNew
    · exact h.consumed row hOld hConsumed
    · rw [List.mem_singleton.mp hNew] at hConsumed
      cases hConsumed
  verified := by
    intro grant hGrant
    rcases List.mem_append.mp hGrant with hOld | hNew
    · exact h.verified grant hOld
    · rw [List.mem_singleton.mp hNew]
      exact ⟨hEncoded, hClaims⟩

/-- An open grant is spent in both. -/
theorem Mirrors.spend {grant : IssuedGrant} (h : Mirrors verifier encodings registry s)
    (hGrant : grant ∈ registry.issued) (nowEpoch : Int) :
    Mirrors verifier encodings
      { issued := Table.deleteWhere (fun other => other.grantRef == grant.grantRef)
          registry.issued
        consumed := registry.consumed ++ [⟨grant.grantRef, epoch grant.claims.expiresAt⟩] }
      { s with
        grantReplays := Table.updateWhere (fun row => row.grantRef == grant.grantRef)
          (fun row => { row with consumedAt := some nowEpoch }) s.grantReplays } where
  keyed := Table.KeysUnique.updateWhere h.keyed fun _ _ _ => rfl
  issuedKeyed := h.issuedKeyed.deleteWhere
  issued := by
    intro other hOther
    obtain ⟨hOld, hRef⟩ := Table.mem_deleteWhere.mp hOther
    obtain ⟨row, hRow, hOpens⟩ := h.issued other hOld
    refine ⟨row, Table.mem_updateWhere_of_neg hRow ?_, hOpens⟩
    rw [hOpens.grantRef]
    exact hRef
  unconsumed := by
    intro row hRow hOpen
    obtain ⟨before, hBefore, ⟨_, rfl⟩ | ⟨hRef, rfl⟩⟩ := Table.mem_updateWhere.mp hRow
    · cases hOpen
    · obtain ⟨other, hOther, hOpens⟩ := h.unconsumed row hBefore hOpen
      refine ⟨other, Table.mem_deleteWhere.mpr ⟨hOther, ?_⟩, hOpens⟩
      rw [← hOpens.grantRef]
      exact hRef
  spent := by
    intro spent hSpent
    rcases List.mem_append.mp hSpent with hOld | hNew
    · obtain ⟨row, hRow, hMarks⟩ := h.spent spent hOld
      cases hRef : row.grantRef == grant.grantRef with
      | true => exact ⟨_, Table.mem_updateWhere_of_pos hRow hRef, hMarks.grantRef,
          hMarks.expires, rfl⟩
      | false => exact ⟨row, Table.mem_updateWhere_of_neg hRow hRef, hMarks⟩
    · rw [List.mem_singleton.mp hNew]
      obtain ⟨row, hRow, hOpens⟩ := h.issued grant hGrant
      exact ⟨_, Table.mem_updateWhere_of_pos hRow (beq_iff_eq.mpr hOpens.grantRef),
        hOpens.grantRef, hOpens.expires, rfl⟩
  consumed := by
    intro row hRow hConsumed
    obtain ⟨before, hBefore, ⟨hRef, rfl⟩ | ⟨_, rfl⟩⟩ := Table.mem_updateWhere.mp hRow
    · obtain ⟨opened, hOpened, hOpens⟩ := h.issued grant hGrant
      have hSame : before = opened :=
        h.keyed.eq hBefore hOpened ((beq_iff_eq.mp hRef).trans hOpens.grantRef.symm)
      refine ⟨_, List.mem_append_right _ List.mem_cons_self, beq_iff_eq.mp hRef, ?_, rfl⟩
      rw [hSame]
      exact hOpens.expires
    · obtain ⟨spent, hSpent, hMarks⟩ := h.consumed row hBefore hConsumed
      exact ⟨spent, List.mem_append_left _ hSpent, hMarks⟩
  verified := fun other hOther => h.verified other (Table.mem_deleteWhere.mp hOther).1

/-- The digests the presented encodings are compared by. -/
def Distinguishes (verifier : GrantVerifier) (encodings : List (List UInt8)) : Prop :=
  ∀ a ∈ encodings, ∀ b ∈ encodings,
    verifier.wire.encodedSha256 a = verifier.wire.encodedSha256 b → a = b

instance (verifier : GrantVerifier) (encodings : List (List UInt8)) :
    Decidable (Distinguishes verifier encodings) :=
  inferInstanceAs (Decidable (∀ a ∈ encodings, ∀ b ∈ encodings, _ → _))

/-- The row of an open grant is consumable by its own bytes, and no other row is. -/
theorem Mirrors.consumable_of_own {grant : IssuedGrant}
    (h : Mirrors verifier encodings registry s) (hGrant : grant ∈ registry.issued)
    (hLive : ∀ row ∈ s.grantReplays, nowEpoch < row.expiresAt) :
    ∀ row ∈ s.grantReplays, GrantReplay.consumable grant.grantRef
      (verifier.wire.encodedSha256 grant.encoded) nowEpoch row =
        (row.grantRef == grant.grantRef) := by
  obtain ⟨opened, hOpened, hOpens⟩ := h.issued grant hGrant
  intro row hRow
  rw [Bool.eq_iff_iff, GrantReplay.consumable_iff, beq_iff_eq]
  constructor
  · exact fun hConsumable => hConsumable.1
  · intro hRef
    have hSame : row = opened := h.keyed.eq hRow hOpened (hRef.trans hOpens.grantRef.symm)
    exact ⟨hRef, hSame ▸ hOpens.encoded, hLive row hRow, hSame ▸ hOpens.unconsumed⟩

/-- No row is consumable by bytes that open no grant in memory. -/
theorem Mirrors.not_consumable (h : Mirrors verifier encodings registry s)
    (hDistinct : Distinguishes verifier encodings) (hEncoded : encoded ∈ encodings)
    (hForeign : ∀ grant ∈ registry.issued, grant.grantRef = grantRef → grant.encoded ≠ encoded) :
    ∀ row ∈ s.grantReplays, GrantReplay.consumable grantRef (verifier.wire.encodedSha256 encoded)
      nowEpoch row = false := by
  intro row hRow
  rw [Bool.eq_false_iff]
  intro hConsumable
  obtain ⟨hRef, hSha, _, hOpen⟩ := GrantReplay.consumable_iff.mp hConsumable
  obtain ⟨grant, hGrant, hOpens⟩ := h.unconsumed row hRow hOpen
  apply hForeign grant hGrant (hOpens.grantRef.symm.trans hRef)
  exact hDistinct _ (h.verified grant hGrant).1 _ hEncoded (hOpens.encoded.symm.trans hSha)

/-- A well-formed consumption. -/
theorem consume_wellFormed {encodedSha256 : String} (hRef : grantRef ≠ "")
    (hLength : encodedSha256.length = 64) :
    consumeConnectorGrant grantRef encodedSha256 nowEpoch s =
      ((s.live nowEpoch).countP (GrantReplay.consumable grantRef encodedSha256 nowEpoch) == 1,
        { s with
          grantReplays := Table.updateWhere
            (GrantReplay.consumable grantRef encodedSha256 nowEpoch)
            (fun row => { row with consumedAt := some nowEpoch }) (s.live nowEpoch) }) := by
  unfold consumeConnectorGrant
  rw [if_neg (by simp [hRef, hLength])]
  rfl

/-- An open grant is not spent. -/
theorem Mirrors.unspent {grant : IssuedGrant} (h : Mirrors verifier encodings registry s)
    (hGrant : grant ∈ registry.issued) : registry.spent grant.grantRef = false := by
  rw [Bool.eq_false_iff]
  intro hSpent
  obtain ⟨spent, hMem, hRef⟩ := List.any_eq_true.mp hSpent
  obtain ⟨row, hRow, hMarks⟩ := h.spent spent hMem
  obtain ⟨opened, hOpened, hOpens⟩ := h.issued grant hGrant
  have hSame : row = opened := h.keyed.eq hRow hOpened
    (hMarks.grantRef.trans ((beq_iff_eq.mp hRef).trans hOpens.grantRef.symm))
  have hConsumed := hMarks.consumed
  rw [hSame, hOpens.unconsumed] at hConsumed
  cases hConsumed

theorem durable_refuses {encodedSha256 : String} (hRef : grantRef ≠ "")
    (hLength : encodedSha256.length = 64)
    (hNone : ∀ row ∈ s.live nowEpoch,
      GrantReplay.consumable grantRef encodedSha256 nowEpoch row = false) :
    consumeConnectorGrant grantRef encodedSha256 nowEpoch s = (false, s.pruned nowEpoch) := by
  have hCount : (s.live nowEpoch).countP
      (GrantReplay.consumable grantRef encodedSha256 nowEpoch) = 0 :=
    List.countP_eq_zero.mpr fun row hRow => by simp [hNone row hRow]
  rw [consume_wellFormed hRef hLength, hCount, Table.updateWhere_of_none hNone]
  rfl

theorem durable_accepts {encodedSha256 : String} {row : GrantReplay} (hRef : grantRef ≠ "")
    (hLength : encodedSha256.length = 64)
    (hKeyed : Table.KeysUnique GrantReplay.grantRef (s.live nowEpoch))
    (hRow : row ∈ s.live nowEpoch) (hRowRef : row.grantRef = grantRef)
    (hOwn : ∀ row ∈ s.live nowEpoch, GrantReplay.consumable grantRef encodedSha256 nowEpoch row =
      (row.grantRef == grantRef)) :
    consumeConnectorGrant grantRef encodedSha256 nowEpoch s = (true,
      { s with
        grantReplays := Table.updateWhere (fun row => row.grantRef == grantRef)
          (fun row => { row with consumedAt := some nowEpoch }) (s.live nowEpoch) }) := by
  have hCount : (s.live nowEpoch).countP
      (GrantReplay.consumable grantRef encodedSha256 nowEpoch) = 1 := by
    apply hKeyed.countP_eq_one hRow
    intro other hOther
    rw [hOwn other hOther, hRowRef]
  rw [consume_wellFormed hRef hLength, hCount, Table.updateWhere_congr hOwn fun _ _ _ => rfl]
  rfl

/-- Bytes that open no grant of the reference are refused, and the grant is let
go. -/
theorem redeem_foreign
    (h : ∀ grant ∈ registry.issued, grant.grantRef = claims.grantRef → grant.encoded ≠ encoded) :
    registry.redeem encoded claims = (.error (forbidden "connector_grant_not_minted_here"),
      (registry.pop claims.grantRef).2) := by
  unfold MemoryRegistry.redeem MemoryRegistry.pop
  dsimp only
  rw [if_pos]
  intro hSome
  obtain ⟨grant, hFind, hEncoded⟩ := Option.map_eq_some_iff.mp hSome
  exact h grant (List.mem_of_find?_eq_some hFind) (by simpa using List.find?_some hFind) hEncoded

/-- The bytes of an open grant are accepted. -/
theorem redeem_own {grant : IssuedGrant}
    (hKeyed : Table.KeysUnique IssuedGrant.grantRef registry.issued)
    (hGrant : grant ∈ registry.issued) (hRef : grant.grantRef = claims.grantRef)
    (hUnspent : registry.spent claims.grantRef = false) (hRoom : registry.full = false) :
    registry.redeem grant.encoded claims = (.ok claims, {
      issued := Table.deleteWhere (fun other => other.grantRef == claims.grantRef) registry.issued
      consumed := registry.consumed ++ [⟨claims.grantRef, epoch claims.expiresAt⟩] }) := by
  have hFind : registry.issued.find? (fun other => other.grantRef == claims.grantRef) =
      some grant := (hKeyed.find_eq_some claims.grantRef).mpr ⟨hGrant, hRef⟩
  have hFull : (registry.pop claims.grantRef).2.full = false := by
    have hFewer : (Table.deleteWhere (fun other : IssuedGrant => other.grantRef == claims.grantRef)
        registry.issued).length ≤ registry.issued.length := List.length_filter_le _ _
    rw [MemoryRegistry.full, decide_eq_false_iff_not] at hRoom ⊢
    show ¬ 8192 ≤ (Table.deleteWhere (fun other : IssuedGrant => other.grantRef ==
      claims.grantRef) registry.issued).length + registry.consumed.length
    omega
  have hUnspent' : (registry.pop claims.grantRef).2.spent claims.grantRef = false := hUnspent
  have hPopped : (registry.pop claims.grantRef).1.map IssuedGrant.encoded = some grant.encoded := by
    unfold MemoryRegistry.pop
    rw [hFind]
    rfl
  unfold MemoryRegistry.redeem
  dsimp only
  rw [hPopped, if_neg (by simp), if_neg (by simp [hUnspent']), if_neg (by simp [hFull])]
  rfl

end Mirrored

section Steps

variable {verifier : GrantVerifier} {encodings : List (List UInt8)} {registry : MemoryRegistry}
  {s : ConnectorStore} {encoded : List UInt8} {expected : ExpectedClaims} {clock : ℚ}
  {claims : ConnectorGrantClaims} {grantCall : GrantCall} {call : VerifierCall}

/-- SHA-256 in lowercase hexadecimal has 64 digits. -/
structure DigestsInHex (verifier : GrantVerifier) : Prop where
  content : ∀ content, (verifier.wire.digest content).length = 64
  encoded : ∀ encoded, (verifier.wire.encodedSha256 encoded).length = 64

theorem truncate_of_nonneg (h : 0 ≤ clock) : truncate clock = ⌊clock⌋ := if_pos h

theorem grantRef_of_verified (hHex : DigestsInHex verifier)
    (h : verifier.parseAndVerify encoded = .ok claims) :
    startsWith claims.grantRef "sha256:" = true ∧ claims.grantRef.length ≤ 80 ∧
      claims.grantRef ≠ "" := by
  have hRef := (parseAndVerify_vouched h).digest
  have hLength := hHex.content claims.content
  rw [hRef]
  refine ⟨?_, ?_, ?_⟩
  · unfold startsWith
    rw [String.toList_append]
    exact List.isPrefixOf_iff_prefix.mpr (List.prefix_append _ _)
  · rw [String.length_append, hLength]
    decide
  · intro hEmpty
    have hSize := congrArg String.length hEmpty
    rw [String.length_append, hLength] at hSize
    exact absurd hSize (by decide)

theorem truncate_intCast (n : Int) : truncate (n : ℚ) = n := by
  unfold truncate
  split
  · exact Int.floor_intCast n
  · exact Int.ceil_intCast n

theorem epoch_of_wholeSecond {moment : Int} (h : moment % 1000000 = 0) :
    epoch moment = ((moment / 1000000 : Int) : ℚ) := by
  have hSplit : moment = 1000000 * (moment / 1000000) := by omega
  unfold epoch
  generalize moment / 1000000 = whole at hSplit ⊢
  rw [hSplit]
  push_cast
  ring

/-- Issued at most five seconds from now for at most fifteen. -/
theorem expires_soon {issuedAt expiresAt now : Int} (hTtl : expiresAt - issuedAt ≤ seconds 15)
    (hIssued : issuedAt ≤ 1000000 * (now + 5)) : expiresAt / 1000000 - now ≤ 20 := by
  unfold seconds at hTtl
  omega

/-- A registration that verified is well formed for the durable store. -/
theorem register_wellFormed (hHex : DigestsInHex verifier)
    (h : verifier.registration encoded expected clock = .ok (claims, grantCall))
    (hWhole : claims.expiresAt % 1000000 = 0) :
    (truncate (epoch claims.expiresAt) : ℚ) = epoch claims.expiresAt ∧
      ¬ (startsWith claims.grantRef "sha256:" = false ∨ 80 < claims.grantRef.length ∨
        (verifier.wire.encodedSha256 encoded).length ≠ 64 ∨
        truncate (epoch claims.expiresAt) ≤ truncate clock ∨
        20 < truncate (epoch claims.expiresAt) - truncate clock) := by
  obtain ⟨hClaims, _, hExpires, hIssued⟩ := registration_eq_ok h
  obtain ⟨hStarts, hLength, _⟩ := grantRef_of_verified hHex hClaims
  have hEpoch := epoch_of_wholeSecond hWhole
  have hTruncated : truncate (epoch claims.expiresAt) = claims.expiresAt / 1000000 := by
    rw [hEpoch, truncate_intCast]
  have hLater : truncate clock < claims.expiresAt / 1000000 := by
    rw [hEpoch] at hExpires
    exact_mod_cast hExpires
  have hIssuedAt : (claims.issuedAt : Int) ≤ 1000000 * (truncate clock + 5) := by
    unfold epoch at hIssued
    have hScaled : (claims.issuedAt : ℚ) ≤ 1000000 * ((truncate clock : ℚ) + 5) := by
      linarith
    exact_mod_cast hScaled
  have hSoon := expires_soon (parseAndVerify_vouched hClaims).ttl hIssuedAt
  refine ⟨by rw [hTruncated, hEpoch], ?_⟩
  rw [hTruncated, hStarts, hHex.encoded]
  simp only [Bool.true_eq_false, ne_eq, not_true_eq_false, false_or, not_or]
  exact ⟨Nat.not_lt.mpr hLength, Int.not_le.mpr hLater, Int.not_lt.mpr hSoon⟩

/-- Pruning makes room. -/
theorem full_prune (h : registry.full = false) : (registry.prune clock).full = false := by
  have hIssued : (registry.prune clock).issued.length ≤ registry.issued.length :=
    List.length_filter_le _ _
  have hConsumed : (registry.prune clock).consumed.length ≤ registry.consumed.length :=
    List.length_filter_le _ _
  rw [MemoryRegistry.full, decide_eq_false_iff_not] at h ⊢
  omega

/-- The durable registration of a verified grant. -/
theorem durable_register (hHex : DigestsInHex verifier)
    (h : verifier.registration encoded expected clock = .ok (claims, grantCall))
    (hWhole : claims.expiresAt % 1000000 = 0) (hRoom : s.grantReplays.length < 8192) :
    performGrant grantCall s =
      if (s.pruned (truncate clock)).grantReplays.any (fun row => row.grantRef == claims.grantRef)
      then (false, s.pruned (truncate clock))
      else (true, { s with grantReplays := (s.pruned (truncate clock)).grantReplays ++
        [⟨claims.grantRef, verifier.wire.encodedSha256 encoded,
          truncate (epoch claims.expiresAt), none⟩] }) := by
  obtain ⟨_, rfl, _⟩ := registration_eq_ok h
  have hLive : (s.live (truncate clock)).length ≤ s.grantReplays.length :=
    List.length_filter_le _ _
  have hFew : ¬ 8192 ≤ (s.live (truncate clock)).length := by omega
  show registerConnectorGrant _ _ _ _ s = _
  unfold registerConnectorGrant
  rw [if_neg (register_wellFormed hHex h hWhole).2]
  show (if 8192 ≤ (s.live (truncate clock)).length ∨ _ then _ else _) = _
  simp only [hFew, false_or]
  rfl

theorem issue_step (hHex : DigestsInHex verifier)
    (hMirrors : Mirrors verifier encodings registry s)
    (hOrdinary : (VerifierCall.issue encoded expected clock).Ordinary verifier (registry, s))
    (hEncoded : encoded ∈ encodings) :
    let memory := verifier.memoryStep (.issue encoded expected clock) registry
    let durable := verifier.durableStep (.issue encoded expected clock) s
    memory.1.toOption = durable.1.toOption ∧ Mirrors verifier encodings memory.2 durable.2 := by
  simp only [memoryStep, durableStep, validateAuthorityResponse, attempt]
  cases hVerified : verifier.registration encoded expected clock with
  | error e => exact ⟨rfl, hMirrors⟩
  | ok verified =>
      obtain ⟨claims, grantCall⟩ := verified
      have hWhole : claims.expiresAt % 1000000 = 0 := by
        have hWhole := hOrdinary.wholeSecond
        simp only [VerifierCall.wholeSecond, hVerified, beq_iff_eq] at hWhole
        exact hWhole
      have hPruned := hMirrors.prune (truncate clock)
      rw [Int.floor_intCast] at hPruned
      have hKnown := hPruned.known claims.grantRef
      dsimp only
      rw [durable_register hHex hVerified hWhole hOrdinary.durableRoom]
      unfold MemoryRegistry.issue
      rw [hKnown, full_prune hOrdinary.memoryRoom]
      cases hFound : (s.pruned (truncate clock)).grantReplays.any
          fun row => row.grantRef == claims.grantRef with
      | true => exact ⟨rfl, hPruned⟩
      | false =>
          refine ⟨rfl, hPruned.enter ?_ hEncoded (registration_eq_ok hVerified).1
            (register_wellFormed hHex hVerified hWhole).1⟩
          intro row hRow hRef
          exact List.any_eq_false.mp hFound row hRow (beq_iff_eq.mpr hRef)

theorem pruned_later {row : GrantReplay} (h : row ∈ (s.pruned nowEpoch).grantReplays) :
    nowEpoch < row.expiresAt := (mem_live.mp h).2

/-- The claims of an open grant are those its bytes verify to. -/
theorem claims_of_open {grant : IssuedGrant} (hMirrors : Mirrors verifier encodings registry s)
    (hGrant : grant ∈ registry.issued)
    (hVerified : verifier.consumption grant.encoded expected clock = .ok (claims, grantCall)) :
    claims = grant.claims := by
  have hParsed := (hMirrors.verified grant hGrant).2
  rw [(consumption_eq_ok hVerified).1] at hParsed
  exact Except.ok.inj hParsed

/-- The durable registry accepts the bytes of an open grant. -/
theorem durable_own {grant : IssuedGrant} (hHex : DigestsInHex verifier)
    (hMirrors : Mirrors verifier encodings registry s)
    (hGrant : grant ∈ (registry.prune clock).issued)
    (hVerified : verifier.consumption grant.encoded expected clock = .ok (claims, grantCall)) :
    consumeConnectorGrant grant.grantRef (verifier.wire.encodedSha256 grant.encoded) ⌊clock⌋ s =
      (true, { s with
        grantReplays := Table.updateWhere (fun row => row.grantRef == grant.grantRef)
          (fun row => { row with consumedAt := some ⌊clock⌋ }) (s.live ⌊clock⌋) }) := by
  have hPruned := hMirrors.prune clock
  obtain ⟨row, hRow, hOpens⟩ := hPruned.issued grant hGrant
  have hNonempty : grant.grantRef ≠ "" := by
    rw [IssuedGrant.grantRef, ← claims_of_open hPruned hGrant hVerified]
    exact (grantRef_of_verified hHex (consumption_eq_ok hVerified).1).2.2
  exact durable_accepts hNonempty (hHex.encoded grant.encoded) hPruned.keyed hRow
    hOpens.grantRef (hPruned.consumable_of_own hGrant fun row hRow => pruned_later hRow)

/-- The bytes of an open grant are accepted by both. -/
theorem own_step {grant : IssuedGrant} (hHex : DigestsInHex verifier)
    (hMirrors : Mirrors verifier encodings registry s) (hClock : 0 ≤ clock)
    (hRoom : registry.full = false) (hGrant : grant ∈ (registry.prune clock).issued)
    (hVerified : verifier.consumption grant.encoded expected clock = .ok (claims, grantCall)) :
    let memory := verifier.memoryStep (.consume grant.encoded expected clock) registry
    let durable := verifier.durableStep (.consume grant.encoded expected clock) s
    memory.1 = .ok claims ∧ durable.1 = .ok claims ∧
      Mirrors verifier encodings memory.2 durable.2 := by
  have hPruned := hMirrors.prune clock
  have hClaims := claims_of_open hPruned hGrant hVerified
  have hRef : grant.grantRef = claims.grantRef := by rw [hClaims, IssuedGrant.grantRef]
  have hRedeem := redeem_own hPruned.issuedKeyed hGrant hRef
    (hRef ▸ hPruned.unspent hGrant) (full_prune hRoom)
  have hAccepts := durable_own hHex hMirrors hGrant hVerified
  have hSpend := hPruned.spend hGrant ⌊clock⌋
  obtain ⟨_, rfl, _⟩ := consumption_eq_ok hVerified
  rw [hRef, ← hClaims] at hSpend
  rw [hRef] at hAccepts
  simp only [memoryStep, durableStep, consume, attempt, performGrant, hVerified, hRedeem,
    truncate_of_nonneg hClock, hAccepts, true_and]
  exact hSpend

/-- An attempt on a reference that is not open is refused by both. -/
theorem closed_step (hHex : DigestsInHex verifier) (hDistinct : Distinguishes verifier encodings)
    (hMirrors : Mirrors verifier encodings registry s) (hClock : 0 ≤ clock)
    (hEncoded : encoded ∈ encodings)
    (hClosed : ∀ grant ∈ (registry.prune clock).issued, grant.grantRef ≠ claims.grantRef)
    (hVerified : verifier.consumption encoded expected clock = .ok (claims, grantCall)) :
    let memory := verifier.memoryStep (.consume encoded expected clock) registry
    let durable := verifier.durableStep (.consume encoded expected clock) s
    memory.1.toOption = none ∧ durable.1.toOption = none ∧
      Mirrors verifier encodings memory.2 durable.2 := by
  have hPruned := hMirrors.prune clock
  obtain ⟨hClaims, rfl, _⟩ := consumption_eq_ok hVerified
  have hForeign : ∀ grant ∈ (registry.prune clock).issued, grant.grantRef = claims.grantRef →
      grant.encoded ≠ encoded := fun grant hGrant hRef => absurd hRef (hClosed grant hGrant)
  have hRedeem := redeem_foreign hForeign
  have hNone : ∀ row ∈ s.live ⌊clock⌋, GrantReplay.consumable claims.grantRef
      (verifier.wire.encodedSha256 encoded) ⌊clock⌋ row = false :=
    hPruned.not_consumable hDistinct hEncoded hForeign
  have hRefuses := durable_refuses (grantRef_of_verified hHex hClaims).2.2
    (hHex.encoded encoded) hNone
  have hPopped : ((registry.prune clock).pop claims.grantRef).2 = registry.prune clock := by
    unfold MemoryRegistry.pop
    rw [Table.deleteWhere_of_none fun grant hGrant => by simpa using hClosed grant hGrant]
  simp only [memoryStep, durableStep, consume, attempt, performGrant, hVerified, hRedeem,
    truncate_of_nonneg hClock, hRefuses, hPopped]
  exact ⟨rfl, rfl, hPruned⟩

theorem consume_step (hHex : DigestsInHex verifier) (hDistinct : Distinguishes verifier encodings)
    (hMirrors : Mirrors verifier encodings registry s)
    (hOrdinary : (VerifierCall.consume encoded expected clock).Ordinary verifier (registry, s))
    (hGenuine : (VerifierCall.consume encoded expected clock).genuine verifier registry = true)
    (hEncoded : encoded ∈ encodings) :
    let memory := verifier.memoryStep (.consume encoded expected clock) registry
    let durable := verifier.durableStep (.consume encoded expected clock) s
    memory.1.toOption = durable.1.toOption ∧ Mirrors verifier encodings memory.2 durable.2 := by
  have hClock : 0 ≤ clock := hOrdinary.clock
  cases hVerified : verifier.consumption encoded expected clock with
  | error e =>
      simp only [memoryStep, durableStep, consume, attempt, hVerified, true_and]
      exact hMirrors
  | ok verified =>
      obtain ⟨claims, grantCall⟩ := verified
      by_cases hOpen : ∃ grant ∈ (registry.prune clock).issued, grant.grantRef = claims.grantRef
      · obtain ⟨grant, hGrant, hRef⟩ := hOpen
        simp only [VerifierCall.genuine, hVerified, List.all_eq_true] at hGenuine
        have hSame : grant.encoded = encoded := by simpa [hRef] using hGenuine grant hGrant
        rw [← hSame] at hVerified ⊢
        obtain ⟨hMemory, hDurable, hAfter⟩ := own_step hHex hMirrors hClock
          hOrdinary.memoryRoom hGrant hVerified
        exact ⟨by rw [hMemory, hDurable], hAfter⟩
      · obtain ⟨hMemory, hDurable, hAfter⟩ := closed_step hHex hDistinct hMirrors hClock
          hEncoded (fun grant hGrant hRef => hOpen ⟨grant, hGrant, hRef⟩) hVerified
        exact ⟨by rw [hMemory, hDurable], hAfter⟩

/-- A call that presents no other bytes for an open grant is answered alike. -/
theorem registries_step {t : MemoryRegistry × ConnectorStore} (hHex : DigestsInHex verifier)
    (hDistinct : Distinguishes verifier encodings) (hMirrors : Mirrors verifier encodings t.1 t.2)
    (hOrdinary : call.Ordinary verifier t) (hGenuine : call.genuine verifier t.1 = true)
    (hEncoded : call.encoded ∈ encodings) :
    (verifier.registries call t).1.1.toOption = (verifier.registries call t).1.2.toOption ∧
      Mirrors verifier encodings (verifier.registries call t).2.1
        (verifier.registries call t).2.2 := by
  cases call with
  | issue encoded expected clock => exact issue_step hHex hMirrors hOrdinary hEncoded
  | consume encoded expected clock =>
      exact consume_step hHex hDistinct hMirrors hOrdinary hGenuine hEncoded

/-- Other bytes for an open grant are refused by both, and after that only the
durable registry accepts the grant itself. -/
theorem foreign_then_own {grant : IssuedGrant} {expected' : ExpectedClaims}
    {claims' : ConnectorGrantClaims} {grantCall' : GrantCall} (hHex : DigestsInHex verifier)
    (hMirrors : Mirrors verifier encodings registry s) (hClock : 0 ≤ clock)
    (hGrant : grant ∈ registry.issued)
    (hOther : verifier.wire.encodedSha256 encoded ≠ verifier.wire.encodedSha256 grant.encoded)
    (hRef : grant.grantRef = claims.grantRef)
    (hVerified : verifier.consumption encoded expected clock = .ok (claims, grantCall))
    (hOwn : verifier.consumption grant.encoded expected' clock = .ok (claims', grantCall')) :
    let after := (verifier.registries (.consume encoded expected clock) (registry, s)).2
    let answers := (verifier.registries (.consume grant.encoded expected' clock) after).1
    answers.1.toOption = none ∧ answers.2 = .ok claims' := by
  have hPruned := hMirrors.prune clock
  have hLive : grant ∈ (registry.prune clock).issued := by
    apply Table.mem_deleteWhere.mpr
    have hClaims := claims_of_open hMirrors hGrant hOwn
    have hExpires := (consumption_eq_ok hOwn).2.2
    rw [hClaims] at hExpires
    exact ⟨hGrant, by simpa using hExpires⟩
  obtain ⟨opened, hOpened, hOpens⟩ := hPruned.issued grant hLive
  obtain ⟨hClaims, rfl, _⟩ := consumption_eq_ok hVerified
  -- the other bytes open nothing, but the grant is popped
  have hForeign : ∀ other ∈ (registry.prune clock).issued, other.grantRef = claims.grantRef →
      other.encoded ≠ encoded := by
    intro other hMem hSameRef hSame
    rw [hPruned.issuedKeyed.eq hMem hLive (hSameRef.trans hRef.symm)] at hSame
    exact hOther (by rw [hSame])
  have hNone : ∀ row ∈ s.live ⌊clock⌋, GrantReplay.consumable claims.grantRef
      (verifier.wire.encodedSha256 encoded) ⌊clock⌋ row = false := by
    intro row hRow
    rw [Bool.eq_false_iff]
    intro hConsumable
    obtain ⟨hRowRef, hSha, _⟩ := GrantReplay.consumable_iff.mp hConsumable
    have hSame : row = opened :=
      hPruned.keyed.eq hRow hOpened (hRowRef.trans (hRef.symm.trans hOpens.grantRef.symm))
    rw [hSame, hOpens.encoded] at hSha
    exact hOther hSha.symm
  have hAfter : (verifier.registries (.consume encoded expected clock) (registry, s)).2 =
      (((registry.prune clock).pop claims.grantRef).2, s.pruned ⌊clock⌋) := by
    simp only [registries, both, memoryStep, durableStep, consume, attempt, performGrant,
      hVerified, redeem_foreign hForeign, truncate_of_nonneg hClock,
      durable_refuses (grantRef_of_verified hHex hClaims).2.2 (hHex.encoded encoded) hNone]
  rw [hAfter]
  obtain ⟨hClaims', rfl, _⟩ := consumption_eq_ok hOwn
  have hRef' : claims'.grantRef = grant.grantRef := by
    rw [claims_of_open hMirrors hGrant hOwn, IssuedGrant.grantRef]
  have hGone : ∀ other ∈ (((registry.prune clock).pop claims.grantRef).2.prune clock).issued,
      other.grantRef = claims'.grantRef → other.encoded ≠ grant.encoded := by
    intro other hMem hSameRef
    have hLeft := (Table.mem_deleteWhere.mp (Table.mem_deleteWhere.mp hMem).1).2
    rw [hSameRef, hRef', hRef] at hLeft
    simp at hLeft
  have hAccepts := durable_own hHex hPruned
    (Table.mem_deleteWhere.mpr ⟨hLive, (Table.mem_deleteWhere.mp hLive).2⟩) hOwn
  simp only [registries, both, memoryStep, durableStep, consume, attempt, performGrant, hOwn,
    redeem_foreign hGone, truncate_of_nonneg hClock, hRef', hAccepts]
  exact ⟨rfl, trivial⟩

end Steps

section Runs

variable {verifier : GrantVerifier}

/-- The promise under which the registries agree. -/
def KeepsOpenGrants (verifier : GrantVerifier) (s : MemoryRegistry × ConnectorStore)
    (call : VerifierCall) : Prop :=
  call.Ordinary verifier s ∧ call.genuine verifier s.1 = true

instance (verifier : GrantVerifier) (s : MemoryRegistry × ConnectorStore) (call : VerifierCall) :
    Decidable (call.Ordinary verifier s) :=
  decidable_of_iff (call.wholeSecond verifier = true ∧ 0 ≤ call.clock ∧ s.1.full = false ∧
      s.2.grantReplays.length < 8192)
    ⟨fun ⟨hWhole, hClock, hMemory, hDurable⟩ => ⟨hWhole, hClock, hMemory, hDurable⟩,
      fun ⟨hWhole, hClock, hMemory, hDurable⟩ => ⟨hWhole, hClock, hMemory, hDurable⟩⟩

instance (verifier : GrantVerifier) (s : MemoryRegistry × ConnectorStore) (call : VerifierCall) :
    Decidable (KeepsOpenGrants verifier s call) :=
  inferInstanceAs (Decidable (_ ∧ _))

/-- The answers of both registries accept the same grant, or neither does. -/
def AnswerAlike (e : Event (MemoryRegistry × ConnectorStore) VerifierCall
    (Except ExchangeProductError ConnectorGrantClaims ×
      Except ExchangeProductError ConnectorGrantClaims)) : Prop :=
  e.output.1.toOption = e.output.2.toOption

theorem registries_mirror {encodings : List (List UInt8)} (hHex : DigestsInHex verifier)
    (hDistinct : Distinguishes verifier encodings) :
    Preserves verifier.registries
      (fun s call => KeepsOpenGrants verifier s call ∧ call.encoded ∈ encodings)
      fun s => Mirrors verifier encodings s.1 s.2 :=
  fun _ _ hMirrors hPromise => (registries_step hHex hDistinct hMirrors hPromise.1.1
    hPromise.1.2 hPromise.2).2

/-- While nobody presents other bytes for an open grant, both registries accept
the same grants. Whoever does makes the one in memory refuse the grant itself,
which the durable one goes on to accept. -/
theorem registries_agree (hHex : DigestsInHex verifier) (calls : List VerifierCall)
    (hDistinct : Distinguishes verifier (calls.map VerifierCall.encoded))
    (hKeeps : Admitted verifier.registries (KeepsOpenGrants verifier) calls ({}, {})) :
    (∀ e ∈ trace verifier.registries calls ({}, {}), AnswerAlike e) ∧
      let t := run verifier.registries calls ({}, {})
      ∀ grant ∈ t.1.issued, ∀ encoded expected expected' clock claims call claims' call', 0 ≤ clock →
        verifier.wire.encodedSha256 encoded ≠ verifier.wire.encodedSha256 grant.encoded →
        grant.grantRef = claims.grantRef →
        verifier.consumption encoded expected clock = .ok (claims, call) →
        verifier.consumption grant.encoded expected' clock = .ok (claims', call') →
        let after := (verifier.registries (.consume encoded expected clock) t).2
        let answers := (verifier.registries (.consume grant.encoded expected' clock) after).1
        answers.1.toOption = none ∧ answers.2 = .ok claims' := by
  have hEncodings : ∀ call ∈ calls, call.encoded ∈ calls.map VerifierCall.encoded :=
    fun call hCall => List.mem_map_of_mem hCall
  have hAdmitted := hKeeps.and_of_mem hEncodings
  have hStart := mirrors_empty verifier (calls.map VerifierCall.encoded)
  constructor
  · intro e he
    obtain ⟨hMirrors, hPromise, hOutput, _⟩ :=
      (registries_mirror hHex hDistinct).trace hStart hAdmitted e he
    unfold AnswerAlike
    rw [hOutput]
    exact (registries_step hHex hDistinct hMirrors hPromise.1.1 hPromise.1.2 hPromise.2).1
  · intro t grant hGrant encoded expected expected' clock claims call claims' call' hClock hOther
      hRef hVerified hOwn
    exact foreign_then_own hHex ((registries_mirror hHex hDistinct).run hStart hAdmitted) hClock
      hGrant hOther hRef hVerified hOwn

end Runs

section Samples

theorem twoEncodings_inHex : DigestsInHex twoEncodings :=
  ⟨fun _ => by
    show (hexDigits 'c').length = 64
    decide, fun encoded => by
    show (hexDigits (if encoded = [1] then 'a' else 'b')).length = 64
    split <;> decide⟩

theorem registries_agree_sample :
    (∀ e ∈ trace twoEncodings.registries ownCalls ({}, {}), AnswerAlike e) ∧
    ((trace twoEncodings.registries ownCalls ({}, {})).map fun e =>
      (e.output.1.toOption.isSome, e.output.2.toOption.isSome)) =
        [(true, true), (true, true), (false, false)] :=
  ⟨(registries_agree twoEncodings_inHex ownCalls (by decide +kernel) (by decide +kernel)).1,
    by decide +kernel⟩

/-- The grant is presented in another encoding before its own. -/
def foreignCalls : List VerifierCall :=
  [.issue [1] openClaims 101, .consume [1, 0] openClaims 102, .consume [1] openClaims 103]

/-- The registry in memory refuses a grant that another encoding was presented
for; the durable one accepts it. -/
theorem foreign_encoding_spends_grant : ¬ ∀ (verifier : GrantVerifier) (calls : List VerifierCall),
    DigestsInHex verifier → Distinguishes verifier (calls.map VerifierCall.encoded) →
    (calls.Pairwise fun c d => c.clock ≤ d.clock) →
    Admitted verifier.registries (fun s call => call.Ordinary verifier s) calls ({}, {}) →
    ∀ e ∈ trace verifier.registries calls ({}, {}), AnswerAlike e := by
  intro h
  have hAlike := h twoEncodings foreignCalls twoEncodings_inHex (by decide +kernel)
    (by decide +kernel) (by decide +kernel)
  have hApart : ∃ e ∈ trace twoEncodings.registries foreignCalls ({}, {}),
      ¬ e.output.1.toOption = e.output.2.toOption := by decide +kernel
  obtain ⟨e, he, hDiffer⟩ := hApart
  exact hDiffer (hAlike e he)

end Samples

end CyreneExchange.Integrations
