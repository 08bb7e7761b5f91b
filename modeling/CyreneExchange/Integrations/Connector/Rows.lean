import CyreneExchange.Integrations.Connector.Ledger

/-! What each ledger method does to the rows. Pruning, eviction and trimming
take away terminal rows only; the other columns of a row are written by its
own completion and by a reconciliation. -/
namespace CyreneExchange.Integrations

open Transaction

/-- Rows that differ at most in the grant and the receipt they record. -/
structure ConnectorInvocation.Agrees (row row' : ConnectorInvocation) : Prop where
  key : row'.key = row.key
  signed : row'.signed = row.signed
  state : row'.state = row.state
  operationRef : row'.operationRef = row.operationRef
  expiresAt : row'.expiresAt = row.expiresAt

/-- A row whose outcome is not final. -/
def ConnectorInvocation.stands (row : ConnectorInvocation) : Bool := !row.state.terminal

/-- A row that pruning at `nowEpoch` leaves alone. -/
def ConnectorInvocation.unexpired (nowEpoch : Int) (row : ConnectorInvocation) : Bool :=
  !row.expired nowEpoch

/-- Agreement keeps a row among the kept ones. -/
def Respected (kept : ConnectorInvocation → Bool) : Prop :=
  ∀ row row', row.Agrees row' → kept row = true → kept row' = true

/-- The ledger `rows'` holds nothing but rows of `rows`, among them every kept
one, each up to its grant and receipt. -/
structure Carries (kept : ConnectorInvocation → Bool)
    (rows rows' : List ConnectorInvocation) : Prop where
  keeps : ∀ row ∈ rows, kept row = true → ∃ row' ∈ rows', row.Agrees row'
  origin : ∀ row' ∈ rows', ∃ row ∈ rows, row.Agrees row'
  unique : Table.KeysUnique ConnectorInvocation.key rows →
    Table.KeysUnique ConnectorInvocation.key rows'

section Carrying

variable {kept kept' : ConnectorInvocation → Bool} {rows rows' rows'' : List ConnectorInvocation}
  {row row' row'' : ConnectorInvocation} {nowEpoch : Int}

theorem ConnectorInvocation.Agrees.refl (row : ConnectorInvocation) : row.Agrees row :=
  ⟨rfl, rfl, rfl, rfl, rfl⟩

theorem ConnectorInvocation.Agrees.trans (h : row.Agrees row') (h' : row'.Agrees row'') :
    row.Agrees row'' where
  key := h'.key.trans h.key
  signed := h'.signed.trans h.signed
  state := h'.state.trans h.state
  operationRef := h'.operationRef.trans h.operationRef
  expiresAt := h'.expiresAt.trans h.expiresAt

theorem stands_respected : Respected ConnectorInvocation.stands := by
  intro row row' hAgrees hStands
  unfold ConnectorInvocation.stands at hStands ⊢
  rw [hAgrees.state]
  exact hStands

theorem expired_of_agrees (h : row.Agrees row') : row'.expired nowEpoch = row.expired nowEpoch := by
  unfold ConnectorInvocation.expired
  rw [h.state, h.expiresAt]

theorem unexpired_respected : Respected (ConnectorInvocation.unexpired nowEpoch) := by
  intro row row' hAgrees hUnexpired
  unfold ConnectorInvocation.unexpired at hUnexpired ⊢
  rw [expired_of_agrees hAgrees]
  exact hUnexpired

/-- Only terminal rows expire. -/
theorem unexpired_of_stands (h : row.stands = true) : row.unexpired nowEpoch = true := by
  have hTerminal : row.state.terminal = false := by
    simpa [ConnectorInvocation.stands] using h
  simp [ConnectorInvocation.unexpired, ConnectorInvocation.expired, hTerminal]

theorem Carries.refl (rows : List ConnectorInvocation) : Carries kept rows rows where
  keeps := fun row hRow _ => ⟨row, hRow, .refl row⟩
  origin := fun row hRow => ⟨row, hRow, .refl row⟩
  unique := id

theorem Carries.trans (hRespected : Respected kept) (h : Carries kept rows rows')
    (h' : Carries kept rows' rows'') : Carries kept rows rows'' where
  keeps := by
    intro row hRow hKept
    obtain ⟨row', hRow', hAgrees⟩ := h.keeps row hRow hKept
    obtain ⟨row'', hRow'', hAgrees'⟩ := h'.keeps row' hRow' (hRespected row row' hAgrees hKept)
    exact ⟨row'', hRow'', hAgrees.trans hAgrees'⟩
  origin := by
    intro row'' hRow''
    obtain ⟨row', hRow', hAgrees'⟩ := h'.origin row'' hRow''
    obtain ⟨row, hRow, hAgrees⟩ := h.origin row' hRow'
    exact ⟨row, hRow, hAgrees.trans hAgrees'⟩
  unique := fun hUnique => h'.unique (h.unique hUnique)

theorem Carries.mono (hWeaker : ∀ row, kept' row = true → kept row = true)
    (h : Carries kept rows rows') : Carries kept' rows rows' :=
  ⟨fun row hRow hKept => h.keeps row hRow (hWeaker row hKept), h.origin, h.unique⟩

theorem carries_deleteWhere {p : ConnectorInvocation → Bool}
    (h : ∀ row ∈ rows, kept row = true → p row = false) :
    Carries kept rows (Table.deleteWhere p rows) where
  keeps := fun row hRow hKept =>
    ⟨row, Table.mem_deleteWhere.mpr ⟨hRow, h row hRow hKept⟩, .refl row⟩
  origin := fun row hRow => ⟨row, (Table.mem_deleteWhere.mp hRow).1, .refl row⟩
  unique := Table.KeysUnique.deleteWhere

theorem carries_updateWhere {p : ConnectorInvocation → Bool}
    {f : ConnectorInvocation → ConnectorInvocation}
    (h : ∀ row : ConnectorInvocation, row.Agrees (f row)) :
    Carries kept rows (Table.updateWhere p f rows) where
  keeps := by
    intro row hRow _
    cases hp : p row with
    | false => exact ⟨row, Table.mem_updateWhere_of_neg hRow hp, .refl row⟩
    | true => exact ⟨f row, Table.mem_updateWhere_of_pos hRow hp, h row⟩
  origin := by
    intro row' hRow'
    obtain ⟨row, hRow, ⟨_, rfl⟩ | ⟨_, rfl⟩⟩ := Table.mem_updateWhere.mp hRow'
    · exact ⟨row, hRow, h row⟩
    · exact ⟨row', hRow, .refl row'⟩
  unique := fun hUnique => hUnique.updateWhere fun row _ _ => (h row).key

/-- Pruning takes away expired rows. -/
theorem carries_prune (nowEpoch : Int) (rows : List ConnectorInvocation) :
    Carries (ConnectorInvocation.unexpired nowEpoch) rows (pruneInvocations nowEpoch rows) :=
  carries_deleteWhere fun row _ hKept => by simpa [ConnectorInvocation.unexpired] using hKept

/-- Forgetting receipts takes away no row. -/
theorem carries_forgetReceipts (hRespected : Respected kept) (incoming : Nat)
    (candidates rows : List ConnectorInvocation) :
    Carries kept rows (forgetReceipts incoming candidates rows) := by
  induction candidates generalizing rows with
  | nil => exact Carries.refl rows
  | cons oldest later ih =>
      unfold forgetReceipts
      split
      · exact Carries.refl rows
      · have hForget : Carries kept rows (Table.updateWhere (fun row => row.key == oldest.key)
            (fun row => { row with responseJson := none }) rows) :=
          carries_updateWhere fun row => ⟨rfl, rfl, rfl, rfl, rfl⟩
        exact hForget.trans hRespected (ih _)

theorem carries_trim (nowEpoch : Int) (incoming : Nat) (excluded : InvocationKey)
    (rows : List ConnectorInvocation) :
    Carries (ConnectorInvocation.unexpired nowEpoch) rows
      (trimConnectorReceipts nowEpoch incoming excluded rows) :=
  (carries_prune nowEpoch rows).trans unexpired_respected
    (carries_forgetReceipts unexpired_respected incoming _ _)

theorem carries_admitReceipt (nowEpoch : Int) (key : InvocationKey) (receipt : String)
    (rows : List ConnectorInvocation) :
    Carries (ConnectorInvocation.unexpired nowEpoch) rows
      (admitReceipt nowEpoch key receipt rows).2 :=
  carries_trim nowEpoch receipt.utf8ByteSize key rows

/-- The metadata budget takes away terminal rows only. -/
theorem carries_evict {incoming : Nat} {candidates remaining : List ConnectorInvocation}
    (hTerminal : ∀ oldest ∈ candidates, ∀ row ∈ rows, row.key = oldest.key →
      row.stands = false)
    (h : evictInvocations incoming candidates rows = some remaining) :
    Carries ConnectorInvocation.stands rows remaining := by
  induction candidates generalizing rows with
  | nil =>
      unfold evictInvocations at h
      split at h
      · cases h
      · cases h
        exact Carries.refl _
  | cons oldest later ih =>
      unfold evictInvocations at h
      split at h
      · have hDelete : Carries ConnectorInvocation.stands rows
            (Table.deleteWhere (fun row => row.key == oldest.key) rows) := by
          apply carries_deleteWhere
          intro row hRow hStands
          apply beq_eq_false_iff_ne.mpr
          intro hKey
          have hGone := hTerminal oldest List.mem_cons_self row hRow hKey
          rw [hStands] at hGone
          cases hGone
        apply hDelete.trans stands_respected
        apply ih _ h
        intro older hOlder row hRow hKey
        exact hTerminal older (List.mem_cons_of_mem oldest hOlder) row
          (Table.mem_deleteWhere.mp hRow).1 hKey
      · cases h
        exact Carries.refl _

end Carrying

section Methods

variable {canonical : Json → Option String} {sha256 : String → String} {s t : ConnectorStore}
  {key : InvocationKey} {signed : SignedScope} {grantRef envelopeSha256 : String}
  {nowEpoch : Int} {r : Reservation} {u : Unit} {row row' : ConnectorInvocation}

/-- The row a reservation inserts. -/
def reservedRow (key : InvocationKey) (signed : SignedScope) (grantRef : String)
    (nowEpoch : Int) : ConnectorInvocation where
  key := key
  signed := signed
  state := .inProgress
  grantRef := grantRef
  createdAt := nowEpoch

/-- The tombstone budget has room for another row of `incoming` bytes. -/
def tombstonesAdmit (incoming : Nat) (rows : List ConnectorInvocation) : Bool :=
  decide ((tombstones rows).length < connectorTombstoneMaxEntries) &&
    decide (((tombstones rows).map ConnectorInvocation.bytes).sum + incoming ≤
      connectorTombstoneMaxBytes)

/-- A committed reservation answers from the row of its key, or inserts one
where the key has none and the budgets have room for it. -/
theorem reserve_eq_ok
    (h : reserveConnectorInvocation key signed grantRef nowEpoch s = .ok (r, t)) :
    (∃ row ∈ pruneInvocations nowEpoch s.invocations, row.key = key ∧ row.signed = signed ∧
        r = row.reservation ∧ t.invocations = pruneInvocations nowEpoch s.invocations) ∨
      ((∀ row ∈ pruneInvocations nowEpoch s.invocations, row.key ≠ key) ∧
        r = { disposition := .new, state := .inProgress } ∧
        tombstonesAdmit (incomingBytes key signed grantRef)
          (pruneInvocations nowEpoch s.invocations) = true ∧
        ∃ remaining, evictInvocations (incomingBytes key signed grantRef)
            ((byCreation (pruneInvocations nowEpoch s.invocations)).filter fun row =>
              row.state.terminal) (pruneInvocations nowEpoch s.invocations) = some remaining ∧
          t.invocations = remaining ++ [reservedRow key signed grantRef nowEpoch]) := by
  unfold reserveConnectorInvocation at h
  obtain ⟨_, _, hValid, h⟩ := bind_eq_ok.mp h
  obtain ⟨_, rfl⟩ := require_eq_ok.mp hValid
  obtain ⟨_, _, hIdentity, h⟩ := bind_eq_ok.mp h
  obtain ⟨_, rfl⟩ := require_eq_ok.mp hIdentity
  rw [fetch_bind] at h
  obtain ⟨_, _, hPrune, h⟩ := bind_eq_ok.mp h
  cases hPrune
  cases hFind : (pruneInvocations nowEpoch s.invocations).find? fun row => row.key == key with
  | some row =>
      simp only [hFind] at h
      obtain ⟨_, _, hRequire, h⟩ := bind_eq_ok.mp h
      obtain ⟨hSigned, rfl⟩ := require_eq_ok.mp hRequire
      cases h
      exact Or.inl ⟨row, List.mem_of_find?_eq_some hFind, by simpa using List.find?_some hFind,
        beq_iff_eq.mp hSigned, rfl, rfl⟩
  | none =>
      simp only [hFind] at h
      obtain ⟨_, _, hBudget, h⟩ := bind_eq_ok.mp h
      obtain ⟨hRoom, rfl⟩ := require_eq_ok.mp hBudget
      have hFresh : ∀ row ∈ pruneInvocations nowEpoch s.invocations, row.key ≠ key := by
        intro row hRow
        simpa using List.find?_eq_none.mp hFind row hRow
      cases hEvict : evictInvocations (incomingBytes key signed grantRef)
          ((byCreation (pruneInvocations nowEpoch s.invocations)).filter fun row =>
            row.state.terminal) (pruneInvocations nowEpoch s.invocations) with
      | none =>
          rw [hEvict] at h
          cases h
      | some remaining =>
          rw [hEvict] at h
          obtain ⟨_, _, hInsert, h⟩ := bind_eq_ok.mp h
          cases hInsert
          cases h
          exact Or.inr ⟨hFresh, rfl, hRoom, remaining, rfl, rfl⟩

/-- A stored row never answers NEW. -/
theorem reservation_not_new (row : ConnectorInvocation) :
    row.reservation.disposition ≠ .new := by
  unfold ConnectorInvocation.reservation
  dsimp only
  split
  · exact Disposition.noConfusion
  · split <;> exact Disposition.noConfusion

theorem mem_byCreation {rows : List ConnectorInvocation} : row ∈ byCreation rows ↔ row ∈ rows :=
  List.mem_insertionSort _

/-- A replayed reservation leaves the rows as they are, up to pruning. -/
theorem reserve_replays
    (h : reserveConnectorInvocation key signed grantRef nowEpoch s = .ok (r, t))
    (hOld : r.disposition ≠ .new) :
    Carries (ConnectorInvocation.unexpired nowEpoch) s.invocations t.invocations := by
  rcases reserve_eq_ok h with ⟨_, _, _, _, _, hRows⟩ | ⟨_, hNew, _⟩
  · rw [hRows]
    exact carries_prune nowEpoch s.invocations
  · rw [hNew] at hOld
    exact absurd rfl hOld

/-- A reservation answers NEW only where no row of its key stands; besides the
new row it leaves every standing row. -/
theorem reserve_inserts (hUnique : Table.KeysUnique ConnectorInvocation.key s.invocations)
    (h : reserveConnectorInvocation key signed grantRef nowEpoch s = .ok (r, t))
    (hNew : r.disposition = .new) :
    (∀ row ∈ s.invocations, row.key = key → row.stands = false) ∧
      ∃ remaining, Carries ConnectorInvocation.stands s.invocations remaining ∧
        (∀ row ∈ remaining, row.key ≠ key) ∧
        t.invocations = remaining ++ [reservedRow key signed grantRef nowEpoch] := by
  have hPrune := carries_prune nowEpoch s.invocations
  rcases reserve_eq_ok h with ⟨row, _, _, _, rfl, _⟩ |
    ⟨hFresh, _, _, remaining, hEvict, hRows⟩
  · exact absurd hNew (reservation_not_new row)
  · constructor
    · intro row hRow hKey
      cases hStands : row.stands with
      | false => rfl
      | true =>
          obtain ⟨row', hRow', hAgrees⟩ := hPrune.keeps row hRow (unexpired_of_stands hStands)
          exact absurd (hAgrees.key.trans hKey) (hFresh row' hRow')
    · have hCandidates : ∀ oldest ∈ (byCreation (pruneInvocations nowEpoch s.invocations)).filter
            fun row => row.state.terminal, ∀ row ∈ pruneInvocations nowEpoch s.invocations,
          row.key = oldest.key → row.stands = false := by
        intro oldest hOldest row hRow hKey
        obtain ⟨hMem, hTerminal⟩ := List.mem_filter.mp hOldest
        rw [(hPrune.unique hUnique).eq hRow (mem_byCreation.mp hMem) hKey]
        simpa [ConnectorInvocation.stands] using hTerminal
      have hCarries := carries_evict hCandidates hEvict
      refine ⟨remaining, ?_, ?_, hRows⟩
      · exact (hPrune.mono fun row hStands => unexpired_of_stands hStands).trans
          stands_respected hCarries
      · intro row hRow hKey
        obtain ⟨row', hRow', hAgrees⟩ := hCarries.origin row hRow
        exact hFresh row' hRow' (hAgrees.key.symm.trans hKey)

/-- A key with a live row is answered from that row, or conflicts with it. -/
theorem reserve_live (hUnique : Table.KeysUnique ConnectorInvocation.key s.invocations)
    (hRow : row ∈ s.invocations) (hKey : row.key = key)
    (hLive : row.unexpired nowEpoch = true) :
    (∃ detail, reserveConnectorInvocation key signed grantRef nowEpoch s =
        .error (.validation detail)) ∨
      (row.signed = signed ∧ ∃ t, reserveConnectorInvocation key signed grantRef nowEpoch s =
        .ok (row.reservation, t)) ∨
      (row.signed ≠ signed ∧ reserveConnectorInvocation key signed grantRef nowEpoch s = .error
        (.conflict "connector request id was already used for a different signed operation")) := by
  have hKept : row ∈ pruneInvocations nowEpoch s.invocations :=
    Table.mem_deleteWhere.mpr ⟨hRow, by simpa [ConnectorInvocation.unexpired] using hLive⟩
  have hFind : ((pruneInvocations nowEpoch s.invocations).find? fun r => r.key == key) =
      some row :=
    (((carries_prune nowEpoch s.invocations).unique hUnique).find_eq_some key).mpr
      ⟨hKept, hKey⟩
  unfold reserveConnectorInvocation
  cases hValid : invocationScopeValid key signed grantRef with
  | false => exact Or.inl ⟨_, bind_of_error (require_of_false rfl _ _)⟩
  | true =>
      rw [bind_of_ok (require_of_true rfl _ _)]
      cases hIdentity : decide (key.bytes ≤ 4096) with
      | false => exact Or.inl ⟨_, bind_of_error (require_of_false rfl _ _)⟩
      | true =>
          rw [bind_of_ok (require_of_true rfl _ _), fetch_bind, setInvocations, store_bind]
          simp only [hFind]
          by_cases hSigned : row.signed = signed
          · refine Or.inr (Or.inl ⟨hSigned,
              { s with invocations := pruneInvocations nowEpoch s.invocations }, ?_⟩)
            rw [bind_of_ok (require_of_true (beq_iff_eq.mpr hSigned) _ _)]
            rfl
          · refine Or.inr (Or.inr ⟨hSigned, ?_⟩)
            exact bind_of_error (require_of_false (beq_eq_false_iff_ne.mpr hSigned) _ _)

theorem attach_rows
    (h : attachConnectorInvocationGrant key envelopeSha256 grantRef s = .ok (u, t)) :
    t.invocations = Table.updateWhere (ConnectorInvocation.isReservation key envelopeSha256)
      (fun row => { row with grantRef := grantRef }) s.invocations := by
  unfold attachConnectorInvocationGrant at h
  rw [fetch_bind] at h
  obtain ⟨_, _, hRequire, h⟩ := bind_eq_ok.mp h
  obtain ⟨_, rfl⟩ := require_eq_ok.mp hRequire
  cases h
  rfl

/-- Attaching a grant changes no column that matters. -/
theorem attach_carries {kept : ConnectorInvocation → Bool}
    (h : attachConnectorInvocationGrant key envelopeSha256 grantRef s = .ok (u, t)) :
    Carries kept s.invocations t.invocations := by
  rw [attach_rows h]
  exact carries_updateWhere fun row => ⟨rfl, rfl, rfl, rfl, rfl⟩

theorem discard_rows
    (h : discardConnectorInvocation key envelopeSha256 s = .ok (u, t)) :
    t.invocations = Table.deleteWhere (fun row => row.isReservation key envelopeSha256 &&
      row.state == .inProgress && row.operationRef.isNone) s.invocations := by
  unfold discardConnectorInvocation at h
  rw [fetch_bind] at h
  cases h
  rfl

/-- A discard leaves the rows of other keys. -/
theorem discard_keeps_other_keys
    (h : discardConnectorInvocation key envelopeSha256 s = .ok (u, t)) :
    Carries (fun row => row.key != key) s.invocations t.invocations := by
  rw [discard_rows h]
  apply carries_deleteWhere
  intro row _ hKey
  simp [ConnectorInvocation.isReservation, bne_iff_ne.mp hKey]

/-- The row a completion leaves. -/
def ConnectorInvocation.completed (state : InvocationState) (operationRef : Option String)
    (responseStatus : Nat) (nowEpoch : Int) (stored : Option String)
    (row : ConnectorInvocation) : ConnectorInvocation := { row with
  state := state
  operationRef := operationRef
  expiresAt := if state.unresolved then 0 else nowEpoch + connectorReceiptTtlSeconds
  responseJson := stored
  responseStatus := responseStatus }

/-- What a completion stores of its receipt, and the rows it leaves room in. -/
def recordReceipt (nowEpoch : Int) (key : InvocationKey) (receipt : Option String)
    (rows : List ConnectorInvocation) : Option String × List ConnectorInvocation :=
  match receipt with
  | none => (none, rows)
  | some text => admitReceipt nowEpoch key text rows

/-- A committed completion found its reservation and updates it, with the
compacted response if that is of bounded size. -/
theorem complete_stores {state : InvocationState} {response : Option JsonObject}
    {operationRef : Option String} {responseStatus : Nat}
    (h : completeConnectorInvocation canonical sha256 key envelopeSha256 state response
      operationRef responseStatus nowEpoch s = .ok (u, t)) :
    ∃ reservation ∈ s.invocations, reservation.isReservation key envelopeSha256 = true ∧
      ∃ receipt : Option String,
        (∀ text ∈ receipt, text.utf8ByteSize ≤ connectorReceiptMaxEntryBytes ∧
          ∃ body digest fresh, response = some body ∧
            compactConnectorReceipt canonical body digest operationRef state fresh = .ok text) ∧
        t.invocations = Table.updateWhere (ConnectorInvocation.isReservation key envelopeSha256)
          (ConnectorInvocation.completed state operationRef responseStatus nowEpoch
            (recordReceipt nowEpoch key receipt s.invocations).1)
          (recordReceipt nowEpoch key receipt s.invocations).2 := by
  unfold completeConnectorInvocation at h
  obtain ⟨_, _, hStatus, h⟩ := bind_eq_ok.mp h
  obtain ⟨_, rfl⟩ := require_eq_ok.mp hStatus
  rw [fetch_bind] at h
  cases hFind : s.invocations.find? (ConnectorInvocation.isReservation key envelopeSha256) with
  | none =>
      simp only [hFind] at h
      cases h
  | some reservation =>
      simp only [hFind] at h
      obtain ⟨receipt, s', hReceipt, h⟩ := bind_eq_ok.mp h
      have hCompacted : s' = s ∧ ∀ text ∈ receipt,
          text.utf8ByteSize ≤ connectorReceiptMaxEntryBytes ∧
          ∃ body digest fresh, response = some body ∧
            compactConnectorReceipt canonical body digest operationRef state fresh =
              .ok text := by
        clear h
        split at hReceipt
        · cases hReceipt
          simp
        · split at hReceipt
          · cases hReceipt
          · split at hReceipt
            · cases hReceipt
            · rename_i hText
              cases hReceipt
              refine ⟨rfl, ?_⟩
              intro text hStored
              split at hStored
              · cases hStored
                exact ⟨by assumption, _, _, _, rfl, hText⟩
              · cases hStored
      obtain ⟨rfl, hCompacted⟩ := hCompacted
      refine ⟨reservation, List.mem_of_find?_eq_some hFind, List.find?_some hFind, receipt,
        hCompacted, ?_⟩
      cases receipt with
      | none =>
          cases h
          rfl
      | some text =>
          cases h
          rfl

/-- A committed completion updates its own row, with a receipt of bounded size
or none. -/
theorem complete_eq_ok {state : InvocationState} {response : Option JsonObject}
    {operationRef : Option String} {responseStatus : Nat}
    (h : completeConnectorInvocation canonical sha256 key envelopeSha256 state response
      operationRef responseStatus nowEpoch s = .ok (u, t)) :
    ∃ receipt : Option String,
      (∀ text ∈ receipt, text.utf8ByteSize ≤ connectorReceiptMaxEntryBytes) ∧
      t.invocations = Table.updateWhere (ConnectorInvocation.isReservation key envelopeSha256)
        (ConnectorInvocation.completed state operationRef responseStatus nowEpoch
          (recordReceipt nowEpoch key receipt s.invocations).1)
        (recordReceipt nowEpoch key receipt s.invocations).2 := by
  obtain ⟨_, _, _, receipt, hCompacted, hRows⟩ := complete_stores h
  exact ⟨receipt, fun text hText => (hCompacted text hText).1, hRows⟩

theorem carries_recordReceipt (nowEpoch : Int) (key : InvocationKey) (receipt : Option String)
    (rows : List ConnectorInvocation) : Carries (ConnectorInvocation.unexpired nowEpoch) rows
      (recordReceipt nowEpoch key receipt rows).2 := by
  cases receipt with
  | none => exact Carries.refl rows
  | some text => exact carries_admitReceipt nowEpoch key text rows

/-- A completion records its outcome in its own row; the other rows stay, up
to pruning and trimming. -/
theorem complete_rows {state : InvocationState} {response : Option JsonObject}
    {operationRef : Option String} {responseStatus : Nat}
    (h : completeConnectorInvocation canonical sha256 key envelopeSha256 state response
      operationRef responseStatus nowEpoch s = .ok (u, t)) :
    ∃ trimmed stored,
      Carries (ConnectorInvocation.unexpired nowEpoch) s.invocations trimmed ∧
      t.invocations = Table.updateWhere (ConnectorInvocation.isReservation key envelopeSha256)
        (ConnectorInvocation.completed state operationRef responseStatus nowEpoch stored)
        trimmed := by
  obtain ⟨receipt, _, hRows⟩ := complete_eq_ok h
  exact ⟨_, _, carries_recordReceipt nowEpoch key receipt s.invocations, hRows⟩

end Methods

section Reconciliation

variable {canonical : Json → Option String} {s t : ConnectorStore} {scope : ActorScope}
  {profileRef operationRef : String} {terminalState : InvocationState} {nowEpoch : Int}
  {settled : List ConnectorInvocation} {row row' : ConnectorInvocation} {u : Unit}

/-- The state of a row after the rows `settled` have been settled. -/
def ConnectorInvocation.stateAfter (settled : List ConnectorInvocation)
    (terminalState : InvocationState) (row : ConnectorInvocation) : InvocationState :=
  if settled.any fun r => row.isReservation r.key r.signed.envelopeSha256 then terminalState
  else row.state

/-- A row before and after its state was set. -/
structure ConnectorInvocation.Restated (state : InvocationState)
    (row row' : ConnectorInvocation) : Prop where
  key : row'.key = row.key
  signed : row'.signed = row.signed
  operationRef : row'.operationRef = row.operationRef
  state : row'.state = state

/-- Every row is settled or left as it is, none is added, and those that have
not expired remain. -/
structure Settles (settled : List ConnectorInvocation) (terminalState : InvocationState)
    (nowEpoch : Int) (rows rows' : List ConnectorInvocation) : Prop where
  keeps : ∀ row ∈ rows, row.unexpired nowEpoch = true →
    ∃ row' ∈ rows', row'.unexpired nowEpoch = true ∧
      row.Restated (row.stateAfter settled terminalState) row'
  origin : ∀ row' ∈ rows', ∃ row ∈ rows, row.Restated (row.stateAfter settled terminalState) row'
  unique : Table.KeysUnique ConnectorInvocation.key rows →
    Table.KeysUnique ConnectorInvocation.key rows'

/-- The row a reconciliation leaves. -/
def ConnectorInvocation.reconciled (terminalState : InvocationState) (nowEpoch : Int)
    (stored : Option String) (row : ConnectorInvocation) : ConnectorInvocation := { row with
  state := terminalState
  expiresAt := nowEpoch + connectorReceiptTtlSeconds
  responseJson := stored
  responseStatus := 200 }

/-- A settled row lives for a day. -/
theorem reconciled_unexpired (terminalState : InvocationState) (nowEpoch : Int)
    (stored : Option String) (row : ConnectorInvocation) :
    (row.reconciled terminalState nowEpoch stored).unexpired nowEpoch = true := by
  have hLater : ¬ nowEpoch + connectorReceiptTtlSeconds ≤ nowEpoch := by
    unfold connectorReceiptTtlSeconds
    omega
  simp [ConnectorInvocation.unexpired, ConnectorInvocation.expired,
    ConnectorInvocation.reconciled, hLater]

theorem isReservation_congr {key : InvocationKey} {envelopeSha256 : String}
    (hKey : row'.key = row.key) (hSigned : row'.signed = row.signed) :
    row'.isReservation key envelopeSha256 = row.isReservation key envelopeSha256 := by
  unfold ConnectorInvocation.isReservation
  rw [hKey, hSigned]

theorem stateAfter_congr (hKey : row'.key = row.key) (hSigned : row'.signed = row.signed)
    (hState : row'.state = row.state) :
    row'.stateAfter settled terminalState = row.stateAfter settled terminalState := by
  unfold ConnectorInvocation.stateAfter
  rw [hState]
  simp only [isReservation_congr hKey hSigned]

/-- Settling one more row first. -/
theorem stateAfter_cons_of_pos {first : ConnectorInvocation}
    (h : row.isReservation first.key first.signed.envelopeSha256 = true)
    (hState : row'.state = terminalState) :
    row'.stateAfter settled terminalState = row.stateAfter (first :: settled) terminalState := by
  unfold ConnectorInvocation.stateAfter
  simp only [List.any_cons, h, Bool.true_or, if_true, hState]
  split <;> rfl

theorem stateAfter_cons_of_neg {first : ConnectorInvocation}
    (h : row.isReservation first.key first.signed.envelopeSha256 = false) :
    row.stateAfter settled terminalState = row.stateAfter (first :: settled) terminalState := by
  unfold ConnectorInvocation.stateAfter
  simp only [List.any_cons, h, Bool.false_or]

/-- One settled row, then the rest. -/
theorem settles_cons {first : ConnectorInvocation} {rows trimmed rows' : List ConnectorInvocation}
    {stored : Option String}
    (hTrim : Carries (ConnectorInvocation.unexpired nowEpoch) rows trimmed)
    (hRest : Settles settled terminalState nowEpoch
      (Table.updateWhere (ConnectorInvocation.isReservation first.key first.signed.envelopeSha256)
        (ConnectorInvocation.reconciled terminalState nowEpoch stored) trimmed) rows') :
    Settles (first :: settled) terminalState nowEpoch rows rows' where
  keeps := by
    intro row hRow hUnexpired
    obtain ⟨mid, hMid, hAgrees⟩ := hTrim.keeps row hRow hUnexpired
    have hMatch : mid.isReservation first.key first.signed.envelopeSha256 =
        row.isReservation first.key first.signed.envelopeSha256 :=
      isReservation_congr hAgrees.key hAgrees.signed
    cases hp : mid.isReservation first.key first.signed.envelopeSha256 with
    | true =>
        obtain ⟨row', hRow', hLives, hRestated⟩ := hRest.keeps _
          (Table.mem_updateWhere_of_pos hMid hp) (reconciled_unexpired _ _ _ _)
        refine ⟨row', hRow', hLives, hRestated.key.trans hAgrees.key,
          hRestated.signed.trans hAgrees.signed,
          hRestated.operationRef.trans hAgrees.operationRef, ?_⟩
        rw [hRestated.state]
        exact stateAfter_cons_of_pos (hMatch.symm.trans hp) rfl
    | false =>
        obtain ⟨row', hRow', hLives, hRestated⟩ := hRest.keeps mid
          (Table.mem_updateWhere_of_neg hMid hp)
          (unexpired_respected row mid hAgrees hUnexpired)
        refine ⟨row', hRow', hLives, hRestated.key.trans hAgrees.key,
          hRestated.signed.trans hAgrees.signed,
          hRestated.operationRef.trans hAgrees.operationRef, ?_⟩
        rw [hRestated.state, stateAfter_congr hAgrees.key hAgrees.signed hAgrees.state]
        exact stateAfter_cons_of_neg (hMatch.symm.trans hp)
  origin := by
    intro row' hRow'
    obtain ⟨mid', hMid', hRestated⟩ := hRest.origin row' hRow'
    obtain ⟨mid, hMid, hCase⟩ := Table.mem_updateWhere.mp hMid'
    obtain ⟨row, hRow, hAgrees⟩ := hTrim.origin mid hMid
    have hMatch : mid.isReservation first.key first.signed.envelopeSha256 =
        row.isReservation first.key first.signed.envelopeSha256 :=
      isReservation_congr hAgrees.key hAgrees.signed
    rcases hCase with ⟨hp, rfl⟩ | ⟨hp, rfl⟩
    · refine ⟨row, hRow, hRestated.key.trans hAgrees.key, hRestated.signed.trans hAgrees.signed,
        hRestated.operationRef.trans hAgrees.operationRef, ?_⟩
      rw [hRestated.state]
      exact stateAfter_cons_of_pos (hMatch.symm.trans hp) rfl
    · refine ⟨row, hRow, hRestated.key.trans hAgrees.key, hRestated.signed.trans hAgrees.signed,
        hRestated.operationRef.trans hAgrees.operationRef, ?_⟩
      rw [hRestated.state, stateAfter_congr hAgrees.key hAgrees.signed hAgrees.state]
      exact stateAfter_cons_of_neg (hMatch.symm.trans hp)
  unique := fun hUnique =>
    hRest.unique ((hTrim.unique hUnique).updateWhere fun _ _ _ => rfl)

/-- The first row is settled with its receipt, then the rest are. -/
theorem settle_cons {first : ConnectorInvocation}
    (h : settleInvocations canonical operationRef terminalState nowEpoch (first :: settled) s =
      .ok (u, t)) :
    ∃ receipt mid, reconciledReceipt canonical first.key.requestId operationRef terminalState =
        .ok receipt ∧
      mid.invocations = Table.updateWhere
        (ConnectorInvocation.isReservation first.key first.signed.envelopeSha256)
        (ConnectorInvocation.reconciled terminalState nowEpoch
          (recordReceipt nowEpoch first.key (some receipt) s.invocations).1)
        (recordReceipt nowEpoch first.key (some receipt) s.invocations).2 ∧
      settleInvocations canonical operationRef terminalState nowEpoch settled mid =
        .ok (u, t) := by
  unfold settleInvocations at h
  rw [fetch_bind] at h
  cases hReceipt : reconciledReceipt canonical first.key.requestId operationRef terminalState with
  | error e =>
      simp only [hReceipt] at h
      cases h
  | ok receipt =>
      simp only [hReceipt] at h
      obtain ⟨_, mid, hStore, h⟩ := bind_eq_ok.mp h
      cases hStore
      exact ⟨receipt, _, rfl, rfl, h⟩

theorem settle_settles
    (h : settleInvocations canonical operationRef terminalState nowEpoch settled s =
      .ok (u, t)) :
    Settles settled terminalState nowEpoch s.invocations t.invocations := by
  induction settled generalizing s with
  | nil =>
      cases h
      exact ⟨fun row hRow hUnexpired => ⟨row, hRow, hUnexpired, rfl, rfl, rfl, rfl⟩,
        fun row hRow => ⟨row, hRow, rfl, rfl, rfl, rfl⟩, id⟩
  | cons first later ih =>
      obtain ⟨receipt, mid, _, hMid, hLater⟩ := settle_cons h
      have hRest := ih hLater
      rw [hMid] at hRest
      exact settles_cons (carries_admitReceipt nowEpoch first.key receipt s.invocations) hRest

/-- With unique keys, exactly the selected rows are settled. -/
theorem stateAfter_filter {rows : List ConnectorInvocation} {p : ConnectorInvocation → Bool}
    (hUnique : Table.KeysUnique ConnectorInvocation.key rows) (hRow : row ∈ rows) :
    row.stateAfter (rows.filter p) terminalState = if p row then terminalState else row.state := by
  have hAny : ((rows.filter p).any fun r => row.isReservation r.key r.signed.envelopeSha256) =
      p row := by
    cases hp : p row with
    | true =>
        apply List.any_eq_true.mpr
        exact ⟨row, List.mem_filter.mpr ⟨hRow, hp⟩, by simp [ConnectorInvocation.isReservation]⟩
    | false =>
        apply List.any_eq_false.mpr
        intro r hr hMatch
        obtain ⟨hMem, hSelected⟩ := List.mem_filter.mp hr
        have hKey : row.key = r.key := by
          simp only [ConnectorInvocation.isReservation, Bool.and_eq_true, beq_iff_eq] at hMatch
          exact hMatch.1
        rw [← hUnique.eq hRow hMem hKey, hp] at hSelected
        cases hSelected
  unfold ConnectorInvocation.stateAfter
  rw [hAny]

/-- A committed reconciliation settles the rows that await its reference. -/
theorem reconcile_settles (hProfile : profileRef ≠ "") (hRef : operationRef ≠ "")
    (h : reconcileConnectorInvocations canonical scope profileRef operationRef terminalState
      nowEpoch s = .ok (u, t)) :
    Settles (s.invocations.filter (ConnectorInvocation.awaits scope profileRef operationRef))
      terminalState nowEpoch s.invocations t.invocations := by
  unfold reconcileConnectorInvocations at h
  rw [if_neg (by tauto), fetch_bind] at h
  exact settle_settles h

/-- Without a profile or a reference nothing is reconciled. -/
theorem reconcile_blank (hBlank : profileRef = "" ∨ operationRef = "")
    (h : reconcileConnectorInvocations canonical scope profileRef operationRef terminalState
      nowEpoch s = .ok (u, t)) : t = s := by
  unfold reconcileConnectorInvocations at h
  rw [if_pos hBlank] at h
  cases h
  rfl

end Reconciliation

end CyreneExchange.Integrations
