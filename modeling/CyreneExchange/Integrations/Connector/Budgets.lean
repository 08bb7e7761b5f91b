import CyreneExchange.General.Machine
import CyreneExchange.Integrations.Canonical
import CyreneExchange.Integrations.Connector.Rows

/-! The budgets of the ledger under every order of its methods. Each budget is
the total of a weight over the rows; forgetting a receipt or a row lowers every
one of them, so only the writes have to be weighed. -/
namespace CyreneExchange.Integrations

open Transaction

/-- What the limits of the ledger promise. -/
structure WithinBudgets (rows : List ConnectorInvocation) : Prop where
  entries : rows.length ≤ connectorLedgerMaxEntries
  metadata : (rows.map ConnectorInvocation.bytes).sum ≤ connectorLedgerMaxBytes
  unresolved : (tombstones rows).length ≤ connectorTombstoneMaxEntries
  unresolvedMetadata :
    ((tombstones rows).map ConnectorInvocation.bytes).sum ≤ connectorTombstoneMaxBytes
  receipts : (cachedReceipts rows).length ≤ connectorReceiptMaxEntries
  receiptSize : ∀ receipt ∈ cachedReceipts rows,
    receipt.utf8ByteSize ≤ connectorReceiptMaxEntryBytes
  receiptBytes : cachedBytes rows ≤ connectorReceiptMaxBytes

namespace ConnectorInvocation

/-- One for a tombstone. -/
def heldEntry (row : ConnectorInvocation) : Nat := if row.stands then 1 else 0

/-- The metadata of a tombstone. -/
def heldBytes (row : ConnectorInvocation) : Nat := if row.stands then row.bytes else 0

/-- One for a cached receipt. -/
def receiptEntry (row : ConnectorInvocation) : Nat := if row.responseJson.isSome then 1 else 0

/-- The size of a cached receipt. -/
def receiptSize (row : ConnectorInvocation) : Nat :=
  match row.responseJson with
  | some receipt => receipt.utf8ByteSize
  | none => 0

/-- One for a cached receipt above the limit of an entry. -/
def oversized (row : ConnectorInvocation) : Nat :=
  if connectorReceiptMaxEntryBytes < row.receiptSize then 1 else 0

end ConnectorInvocation

section Weights

theorem ConnectorInvocation.heldEntry_of_stands (row : ConnectorInvocation)
    (h : row.stands = true) : row.heldEntry = 1 := if_pos h

theorem ConnectorInvocation.heldBytes_of_stands (row : ConnectorInvocation)
    (h : row.stands = true) : row.heldBytes = row.bytes := if_pos h

theorem ConnectorInvocation.heldEntry_of_terminal (row : ConnectorInvocation)
    (h : row.stands = false) : row.heldEntry = 0 := by
  simp [heldEntry, h]

theorem ConnectorInvocation.heldBytes_of_terminal (row : ConnectorInvocation)
    (h : row.stands = false) : row.heldBytes = 0 := by
  simp [heldBytes, h]

theorem ConnectorInvocation.heldEntry_le_one (row : ConnectorInvocation) :
    row.heldEntry ≤ 1 := by
  unfold heldEntry
  split <;> omega

theorem ConnectorInvocation.heldBytes_le (row : ConnectorInvocation) :
    row.heldBytes ≤ row.bytes := by
  unfold heldBytes
  split <;> omega

variable {rows rows' rows'' : List ConnectorInvocation} {row : ConnectorInvocation}

theorem total_entries (rows : List ConnectorInvocation) :
    Table.total (fun _ => 1) rows = rows.length := by
  induction rows with
  | nil => rfl
  | cons row rest ih => rw [Table.total_cons, ih, List.length_cons, Nat.add_comm]

theorem total_heldEntry (rows : List ConnectorInvocation) :
    Table.total ConnectorInvocation.heldEntry rows = (tombstones rows).length := by
  induction rows with
  | nil => rfl
  | cons row rest ih =>
      rw [Table.total_cons, ih]
      unfold tombstones ConnectorInvocation.heldEntry ConnectorInvocation.stands
      cases hState : row.state.terminal <;> simp [hState, Nat.add_comm]

theorem total_heldBytes (rows : List ConnectorInvocation) :
    Table.total ConnectorInvocation.heldBytes rows =
      ((tombstones rows).map ConnectorInvocation.bytes).sum := by
  induction rows with
  | nil => rfl
  | cons row rest ih =>
      rw [Table.total_cons, ih]
      unfold tombstones ConnectorInvocation.heldBytes ConnectorInvocation.stands
      cases hState : row.state.terminal <;> simp [hState]

theorem total_receiptEntry (rows : List ConnectorInvocation) :
    Table.total ConnectorInvocation.receiptEntry rows = (cachedReceipts rows).length := by
  induction rows with
  | nil => rfl
  | cons row rest ih =>
      rw [Table.total_cons, ih]
      unfold cachedReceipts ConnectorInvocation.receiptEntry
      cases hReceipt : row.responseJson <;> simp [hReceipt, Nat.add_comm]

theorem total_receiptSize (rows : List ConnectorInvocation) :
    Table.total ConnectorInvocation.receiptSize rows = cachedBytes rows := by
  induction rows with
  | nil => rfl
  | cons row rest ih =>
      rw [Table.total_cons, ih]
      unfold cachedBytes cachedReceipts ConnectorInvocation.receiptSize
      cases hReceipt : row.responseJson <;> simp [hReceipt]

theorem total_oversized (rows : List ConnectorInvocation) :
    Table.total ConnectorInvocation.oversized rows = 0 ↔
      ∀ receipt ∈ cachedReceipts rows, receipt.utf8ByteSize ≤ connectorReceiptMaxEntryBytes := by
  induction rows with
  | nil => simp [cachedReceipts]
  | cons row rest ih =>
      rw [Table.total_cons, Nat.add_eq_zero_iff, ih]
      unfold cachedReceipts ConnectorInvocation.oversized ConnectorInvocation.receiptSize
      cases hReceipt : row.responseJson <;> simp [hReceipt]

/-- The budgets as bounds on totals. -/
theorem withinBudgets_iff : WithinBudgets rows ↔
    Table.total (fun _ => 1) rows ≤ connectorLedgerMaxEntries ∧
    Table.total ConnectorInvocation.bytes rows ≤ connectorLedgerMaxBytes ∧
    Table.total ConnectorInvocation.heldEntry rows ≤ connectorTombstoneMaxEntries ∧
    Table.total ConnectorInvocation.heldBytes rows ≤ connectorTombstoneMaxBytes ∧
    Table.total ConnectorInvocation.receiptEntry rows ≤ connectorReceiptMaxEntries ∧
    Table.total ConnectorInvocation.oversized rows ≤ 0 ∧
    Table.total ConnectorInvocation.receiptSize rows ≤ connectorReceiptMaxBytes := by
  rw [total_entries, total_heldEntry, total_heldBytes, total_receiptEntry, total_receiptSize,
    Nat.le_zero, total_oversized]
  constructor
  · rintro ⟨hEntries, hMetadata, hHeld, hHeldBytes, hReceipts, hSize, hBytes⟩
    exact ⟨hEntries, hMetadata, hHeld, hHeldBytes, hReceipts, hSize, hBytes⟩
  · rintro ⟨hEntries, hMetadata, hHeld, hHeldBytes, hReceipts, hSize, hBytes⟩
    exact ⟨hEntries, hMetadata, hHeld, hHeldBytes, hReceipts, hSize, hBytes⟩

/-- A weight that forgetting the receipt does not raise. -/
def Fades (weight : ConnectorInvocation → Nat) : Prop :=
  ∀ row : ConnectorInvocation, weight { row with responseJson := none } ≤ weight row

/-- Rows and receipts may go, nothing else changes. -/
def Lightens (rows rows' : List ConnectorInvocation) : Prop :=
  ∀ weight, Fades weight → Table.total weight rows' ≤ Table.total weight rows

theorem Lightens.refl (rows : List ConnectorInvocation) : Lightens rows rows :=
  fun _ _ => Nat.le_refl _

theorem Lightens.trans (h : Lightens rows rows') (h' : Lightens rows' rows'') :
    Lightens rows rows'' :=
  fun weight hFades => (h' weight hFades).trans (h weight hFades)

theorem lightens_deleteWhere (p : ConnectorInvocation → Bool) (rows : List ConnectorInvocation) :
    Lightens rows (Table.deleteWhere p rows) :=
  fun _ _ => Table.total_deleteWhere_le

theorem lightens_forgetReceipts (incoming : Nat) (candidates rows : List ConnectorInvocation) :
    Lightens rows (forgetReceipts incoming candidates rows) := by
  induction candidates generalizing rows with
  | nil => exact Lightens.refl rows
  | cons oldest later ih =>
      unfold forgetReceipts
      split
      · exact Lightens.refl rows
      · have hForget : Lightens rows (Table.updateWhere (fun row => row.key == oldest.key)
            (fun row => { row with responseJson := none }) rows) :=
          fun _ hFades => Table.total_updateWhere_le fun row _ _ => hFades row
        exact hForget.trans (ih _)

theorem lightens_recordReceipt (nowEpoch : Int) (key : InvocationKey) (receipt : Option String)
    (rows : List ConnectorInvocation) :
    Lightens rows (recordReceipt nowEpoch key receipt rows).2 := by
  cases receipt with
  | none => exact Lightens.refl rows
  | some text => exact (lightens_deleteWhere _ rows).trans (lightens_forgetReceipts _ _ _)

/-- A ledger that got lighter stays within its budgets. -/
theorem WithinBudgets.lighten (h : WithinBudgets rows) (hLightens : Lightens rows rows') :
    WithinBudgets rows' := by
  rw [withinBudgets_iff] at h ⊢
  obtain ⟨hEntries, hMetadata, hHeld, hHeldBytes, hReceipts, hSize, hBytes⟩ := h
  refine ⟨(hLightens _ ?_).trans hEntries, (hLightens _ ?_).trans hMetadata,
    (hLightens _ ?_).trans hHeld, (hLightens _ ?_).trans hHeldBytes,
    (hLightens _ ?_).trans hReceipts, (hLightens _ ?_).trans hSize,
    (hLightens _ ?_).trans hBytes⟩
  · exact fun row => Nat.le_refl 1
  · exact fun row => Nat.le_refl row.bytes
  · exact fun row => Nat.le_refl row.heldEntry
  · exact fun row => Nat.le_refl row.heldBytes
  · exact fun row => by simp [ConnectorInvocation.receiptEntry]
  · exact fun row => by simp [ConnectorInvocation.oversized, ConnectorInvocation.receiptSize]
  · exact fun row => by simp [ConnectorInvocation.receiptSize]

end Weights

section Writes

variable {rows remaining : List ConnectorInvocation} {row : ConnectorInvocation}
  {key : InvocationKey} {signed : SignedScope} {grantRef envelopeSha256 : String}
  {nowEpoch : Int} {incoming : Nat}

/-- Eviction ends with room for the incoming row. -/
theorem evict_lightens {candidates : List ConnectorInvocation}
    (h : evictInvocations incoming candidates rows = some remaining) :
    Lightens rows remaining ∧ overLedgerBudget incoming remaining = false := by
  induction candidates generalizing rows with
  | nil =>
      unfold evictInvocations at h
      split at h
      · cases h
      · cases h
        exact ⟨Lightens.refl _, Bool.eq_false_of_not_eq_true ‹_›⟩
  | cons oldest later ih =>
      unfold evictInvocations at h
      split at h
      · obtain ⟨hLightens, hRoom⟩ := ih h
        exact ⟨(lightens_deleteWhere _ rows).trans hLightens, hRoom⟩
      · cases h
        exact ⟨Lightens.refl _, Bool.eq_false_of_not_eq_true ‹_›⟩

theorem reservedRow_bytes_le (key : InvocationKey) (signed : SignedScope) (grantRef : String)
    (nowEpoch : Int) :
    (reservedRow key signed grantRef nowEpoch).bytes ≤ incomingBytes key signed grantRef := by
  show key.bytes + signed.bytes grantRef + 1 ≤ _
  unfold incomingBytes
  split <;> omega

/-- A reservation fits once the tombstones and the evicted ledger admit it. -/
theorem WithinBudgets.reserve (h : WithinBudgets rows) (hLightens : Lightens rows remaining)
    (hTombstones : tombstonesAdmit (incomingBytes key signed grantRef) rows = true)
    (hRoom : overLedgerBudget (incomingBytes key signed grantRef) remaining = false) :
    WithinBudgets (remaining ++ [reservedRow key signed grantRef nowEpoch]) := by
  have hLighter := withinBudgets_iff.mp (h.lighten hLightens)
  have hHeldEntries := hLightens ConnectorInvocation.heldEntry fun _ => Nat.le_refl _
  have hHeldBytes := hLightens ConnectorInvocation.heldBytes fun _ => Nat.le_refl _
  have hRow := reservedRow_bytes_le key signed grantRef nowEpoch
  rw [total_heldEntry rows] at hHeldEntries
  rw [total_heldBytes rows] at hHeldBytes
  simp only [tombstonesAdmit, Bool.and_eq_true, decide_eq_true_eq] at hTombstones
  simp only [overLedgerBudget, Bool.or_eq_false_iff, decide_eq_false_iff_not] at hRoom
  obtain ⟨hEntries, hMetadata⟩ := hRoom
  rw [← total_entries] at hEntries
  change ¬ connectorLedgerMaxBytes < Table.total ConnectorInvocation.bytes remaining + _
    at hMetadata
  rw [withinBudgets_iff]
  simp only [Table.total_append, Table.total_cons, Table.total_nil]
  have hHeld : (reservedRow key signed grantRef nowEpoch).heldEntry = 1 := rfl
  have hBytes : (reservedRow key signed grantRef nowEpoch).heldBytes =
      (reservedRow key signed grantRef nowEpoch).bytes := rfl
  have hReceipt : (reservedRow key signed grantRef nowEpoch).receiptEntry = 0 := rfl
  have hSize : (reservedRow key signed grantRef nowEpoch).receiptSize = 0 := rfl
  have hOversized : (reservedRow key signed grantRef nowEpoch).oversized = 0 := rfl
  rw [hHeld, hBytes, hReceipt, hSize, hOversized]
  omega

/-- The rows an update by key and envelope writes have that key. -/
theorem key_of_isReservation (h : row.isReservation key envelopeSha256 = true) :
    row.key = key := by
  simp only [ConnectorInvocation.isReservation, Bool.and_eq_true, beq_iff_eq] at h
  exact h.1

/-- Writing a receipt that fits, and a state the tombstone budget admits. -/
theorem WithinBudgets.update {f : ConnectorInvocation → ConnectorInvocation}
    {stored : Option String} (hUnique : Table.KeysUnique ConnectorInvocation.key rows)
    (h : WithinBudgets rows) (hBytes : ∀ row, (f row).bytes = row.bytes)
    (hStored : ∀ row, (f row).responseJson = stored)
    (hFits : ∀ receipt ∈ stored, receipt.utf8ByteSize ≤ connectorReceiptMaxEntryBytes ∧
      withinReceiptBudget receipt.utf8ByteSize rows = true)
    (hRoom : ∀ row ∈ rows, row.isReservation key envelopeSha256 = true →
      row.stands = true ∨ (f row).stands = false ∨ tombstonesAdmit row.bytes rows = true) :
    WithinBudgets (Table.updateWhere (ConnectorInvocation.isReservation key envelopeSha256) f
      rows) := by
  cases hFind : rows.find? (ConnectorInvocation.isReservation key envelopeSha256) with
  | none =>
      rw [Table.updateWhere_of_none fun x hx => by simpa using List.find?_eq_none.mp hFind x hx]
      exact h
  | some row =>
      have hRow := List.mem_of_find?_eq_some hFind
      have hMatch := List.find?_some hFind
      have hKey : ∀ x ∈ rows, x.isReservation key envelopeSha256 = true → x.key = row.key :=
        fun x _ hx => (key_of_isReservation hx).trans (key_of_isReservation hMatch).symm
      have exchange : ∀ weight : ConnectorInvocation → Nat, Table.total weight
          (Table.updateWhere (ConnectorInvocation.isReservation key envelopeSha256) f rows) +
            weight row = Table.total weight rows + weight (f row) :=
        fun weight => hUnique.total_updateWhere hRow hMatch hKey
      have hEntries := exchange fun _ => 1
      have hMetadata := exchange ConnectorInvocation.bytes
      have hHeldEntry := exchange ConnectorInvocation.heldEntry
      have hHeldBytes := exchange ConnectorInvocation.heldBytes
      have hReceipts := exchange ConnectorInvocation.receiptEntry
      have hSizes := exchange ConnectorInvocation.receiptSize
      have hOversized := exchange ConnectorInvocation.oversized
      have hHeld : Table.total ConnectorInvocation.heldEntry (Table.updateWhere
            (ConnectorInvocation.isReservation key envelopeSha256) f rows) ≤
          connectorTombstoneMaxEntries ∧
          Table.total ConnectorInvocation.heldBytes (Table.updateWhere
            (ConnectorInvocation.isReservation key envelopeSha256) f rows) ≤
          connectorTombstoneMaxBytes := by
        obtain ⟨_, _, hEntry, hByte, _⟩ := withinBudgets_iff.mp h
        have hRoomRow := hRoom row hRow hMatch
        simp only [tombstonesAdmit, Bool.and_eq_true, decide_eq_true_eq, ← total_heldEntry,
          ← total_heldBytes] at hRoomRow
        have hAfter := (f row).heldEntry_le_one
        have hAfterBytes := (f row).heldBytes_le
        rw [hBytes row] at hAfterBytes
        rcases hRoomRow with hStands | hGone | hAdmitted
        · rw [row.heldEntry_of_stands hStands] at hHeldEntry
          rw [row.heldBytes_of_stands hStands] at hHeldBytes
          omega
        · rw [(f row).heldEntry_of_terminal hGone] at hHeldEntry
          rw [(f row).heldBytes_of_terminal hGone] at hHeldBytes
          omega
        · omega
      have hReceipt : Table.total ConnectorInvocation.receiptEntry (Table.updateWhere
            (ConnectorInvocation.isReservation key envelopeSha256) f rows) ≤
          connectorReceiptMaxEntries ∧
          Table.total ConnectorInvocation.receiptSize (Table.updateWhere
            (ConnectorInvocation.isReservation key envelopeSha256) f rows) ≤
          connectorReceiptMaxBytes ∧
          Table.total ConnectorInvocation.oversized (Table.updateWhere
            (ConnectorInvocation.isReservation key envelopeSha256) f rows) ≤ 0 := by
        obtain ⟨_, _, _, _, hEntry, hOver, hByte⟩ := withinBudgets_iff.mp h
        simp only [ConnectorInvocation.receiptEntry, ConnectorInvocation.receiptSize,
          ConnectorInvocation.oversized, hStored row] at hReceipts hSizes hOversized
        cases stored with
        | none =>
            simp only [Option.isSome_none, Bool.false_eq_true, if_false, Nat.not_lt_zero]
              at hReceipts hSizes hOversized
            omega
        | some receipt =>
            obtain ⟨hSmall, hBudget⟩ := hFits receipt rfl
            simp only [withinReceiptBudget, Bool.and_eq_true, decide_eq_true_eq,
              ← total_receiptEntry, ← total_receiptSize] at hBudget
            simp only [Option.isSome_some, if_true, if_neg (Nat.not_lt.mpr hSmall)]
              at hReceipts hSizes hOversized
            omega
      rw [hBytes row] at hMetadata
      obtain ⟨hRows, hMeta, _⟩ := withinBudgets_iff.mp h
      rw [withinBudgets_iff]
      omega

/-- Recording a receipt keeps every row it leaves, up to its receipt. -/
theorem recordReceipt_origin {receipt : Option String}
    (h : row ∈ (recordReceipt nowEpoch key receipt rows).2) :
    ∃ row' ∈ rows, row = { row' with responseJson := row.responseJson } := by
  have hForget : ∀ (incoming : Nat) (candidates rows : List ConnectorInvocation),
      row ∈ forgetReceipts incoming candidates rows →
      ∃ row' ∈ rows, row = { row' with responseJson := row.responseJson } := by
    intro incoming candidates
    induction candidates with
    | nil => exact fun rows hRow => ⟨row, hRow, rfl⟩
    | cons oldest later ih =>
        intro rows hRow
        unfold forgetReceipts at hRow
        split at hRow
        · exact ⟨row, hRow, rfl⟩
        · obtain ⟨mid, hMid, hEq⟩ := ih _ hRow
          obtain ⟨row', hRow', ⟨_, rfl⟩ | ⟨_, rfl⟩⟩ := Table.mem_updateWhere.mp hMid
          · exact ⟨row', hRow', hEq⟩
          · exact ⟨mid, hRow', hEq⟩
  cases receipt with
  | none => exact ⟨row, h, rfl⟩
  | some text =>
      obtain ⟨row', hRow', hEq⟩ := hForget _ _ _ h
      exact ⟨row', (Table.mem_deleteWhere.mp hRow').1, hEq⟩

/-- A recorded receipt is the one that was offered, and fits. -/
theorem recordReceipt_fits {receipt : Option String} {text : String}
    (h : text ∈ (recordReceipt nowEpoch key receipt rows).1) : receipt = some text ∧
      withinReceiptBudget text.utf8ByteSize (recordReceipt nowEpoch key receipt rows).2 = true := by
  cases receipt with
  | none => cases h
  | some offered =>
      unfold recordReceipt admitReceipt at h ⊢
      dsimp only at h ⊢
      split at h
      · cases h
        exact ⟨rfl, by assumption⟩
      · cases h

theorem tombstonesAdmit_of_lightens {rows' : List ConnectorInvocation} (h : Lightens rows rows')
    (hAdmit : tombstonesAdmit incoming rows = true) : tombstonesAdmit incoming rows' = true := by
  have hEntries := h ConnectorInvocation.heldEntry fun _ => Nat.le_refl _
  have hBytes := h ConnectorInvocation.heldBytes fun _ => Nat.le_refl _
  simp only [tombstonesAdmit, Bool.and_eq_true, decide_eq_true_eq, ← total_heldEntry,
    ← total_heldBytes] at hAdmit ⊢
  omega

/-- Recording a receipt within the limit of an entry, in a row whose new state
the tombstone budget admits. -/
theorem WithinBudgets.record {f : Option String → ConnectorInvocation → ConnectorInvocation}
    {receipt : Option String} (hUnique : Table.KeysUnique ConnectorInvocation.key rows)
    (h : WithinBudgets rows)
    (hSmall : ∀ text ∈ receipt, text.utf8ByteSize ≤ connectorReceiptMaxEntryBytes)
    (hBytes : ∀ stored row, (f stored row).bytes = row.bytes)
    (hStored : ∀ stored row, (f stored row).responseJson = stored)
    (hRoom : ∀ row ∈ rows, row.isReservation key envelopeSha256 = true →
      row.stands = true ∨ (∀ stored row, (f stored row).stands = false) ∨
        tombstonesAdmit row.bytes rows = true) :
    WithinBudgets (Table.updateWhere (ConnectorInvocation.isReservation key envelopeSha256)
      (f (recordReceipt nowEpoch key receipt rows).1)
      (recordReceipt nowEpoch key receipt rows).2) := by
  have hLightens := lightens_recordReceipt nowEpoch key receipt rows
  apply WithinBudgets.update ((carries_recordReceipt nowEpoch key receipt rows).unique hUnique)
    (h.lighten hLightens) (hBytes _) (hStored _)
  · intro text hText
    obtain ⟨hReceipt, hFits⟩ := recordReceipt_fits hText
    exact ⟨hSmall text hReceipt, hFits⟩
  · intro row hRow hMatch
    obtain ⟨row', hRow', hEq⟩ := recordReceipt_origin hRow
    rw [hEq] at hMatch
    rcases hRoom row' hRow' hMatch with hStands | hTerminal | hAdmit
    · rw [hEq]
      exact Or.inl hStands
    · exact Or.inr (Or.inl (hTerminal _ row))
    · rw [hEq]
      exact Or.inr (Or.inr (tombstonesAdmit_of_lightens hLightens hAdmit))

/-- The metadata budgets have room for the grant reference of the row. -/
def grantFits (grantRef : String) (rows : List ConnectorInvocation)
    (row : ConnectorInvocation) : Prop :=
  (rows.map ConnectorInvocation.bytes).sum + grantRef.utf8ByteSize ≤
      connectorLedgerMaxBytes + row.grantRef.utf8ByteSize ∧
    (row.stands = true → ((tombstones rows).map ConnectorInvocation.bytes).sum +
      grantRef.utf8ByteSize ≤ connectorTombstoneMaxBytes + row.grantRef.utf8ByteSize)

/-- The row with another grant reference. -/
def ConnectorInvocation.regranted (grantRef : String) (row : ConnectorInvocation) :
    ConnectorInvocation := { row with grantRef := grantRef }

theorem regranted_bytes (grantRef : String) (row : ConnectorInvocation) :
    (row.regranted grantRef).bytes + row.grantRef.utf8ByteSize =
      row.bytes + grantRef.utf8ByteSize := by
  simp only [ConnectorInvocation.regranted, ConnectorInvocation.bytes, SignedScope.bytes]
  omega

/-- A grant reference replaces the one the row had. -/
theorem WithinBudgets.regrant (hUnique : Table.KeysUnique ConnectorInvocation.key rows)
    (h : WithinBudgets rows)
    (hFits : ∀ row ∈ rows, row.isReservation key envelopeSha256 = true →
      grantFits grantRef rows row) :
    WithinBudgets (Table.updateWhere (ConnectorInvocation.isReservation key envelopeSha256)
      (ConnectorInvocation.regranted grantRef) rows) := by
  cases hFind : rows.find? (ConnectorInvocation.isReservation key envelopeSha256) with
  | none =>
      rw [Table.updateWhere_of_none fun x hx => by simpa using List.find?_eq_none.mp hFind x hx]
      exact h
  | some row =>
      have hRow := List.mem_of_find?_eq_some hFind
      have hMatch := List.find?_some hFind
      have hKey : ∀ x ∈ rows, x.isReservation key envelopeSha256 = true → x.key = row.key :=
        fun x _ hx => (key_of_isReservation hx).trans (key_of_isReservation hMatch).symm
      obtain ⟨hMetadata, hTombstone⟩ := hFits row hRow hMatch
      rw [← total_heldBytes] at hTombstone
      change Table.total ConnectorInvocation.bytes rows + _ ≤ _ at hMetadata
      have hBytes := regranted_bytes grantRef row
      have exchange : ∀ weight : ConnectorInvocation → Nat, Table.total weight
          (Table.updateWhere (ConnectorInvocation.isReservation key envelopeSha256)
            (ConnectorInvocation.regranted grantRef) rows) + weight row =
          Table.total weight rows + weight (row.regranted grantRef) :=
        fun weight => hUnique.total_updateWhere hRow hMatch hKey
      have hMetadata' := exchange ConnectorInvocation.bytes
      have hHeldBytes := exchange ConnectorInvocation.heldBytes
      have hKept : ∀ weight : ConnectorInvocation → Nat,
          (∀ row : ConnectorInvocation, weight (row.regranted grantRef) = weight row) →
          Table.total weight (Table.updateWhere
            (ConnectorInvocation.isReservation key envelopeSha256)
            (ConnectorInvocation.regranted grantRef) rows) ≤ Table.total weight rows :=
        fun weight hSame => Table.total_updateWhere_le fun row _ _ => (hSame row).le
      have hEntries := hKept (fun _ => 1) fun _ => rfl
      have hHeldEntry := hKept ConnectorInvocation.heldEntry fun _ => rfl
      have hReceipts := hKept ConnectorInvocation.receiptEntry fun _ => rfl
      have hSizes := hKept ConnectorInvocation.receiptSize fun _ => rfl
      have hOversized := hKept ConnectorInvocation.oversized fun _ => rfl
      have hHeld : Table.total ConnectorInvocation.heldBytes (Table.updateWhere
          (ConnectorInvocation.isReservation key envelopeSha256)
          (ConnectorInvocation.regranted grantRef) rows) ≤ connectorTombstoneMaxBytes := by
        obtain ⟨_, _, _, hHeldBudget, _⟩ := withinBudgets_iff.mp h
        cases hStands : row.stands with
        | true =>
            have hRoom := hTombstone hStands
            rw [row.heldBytes_of_stands hStands,
              (row.regranted grantRef).heldBytes_of_stands hStands] at hHeldBytes
            omega
        | false =>
            rw [row.heldBytes_of_terminal hStands,
              (row.regranted grantRef).heldBytes_of_terminal hStands] at hHeldBytes
            omega
      obtain ⟨hRows, _, hEntry, _, hReceipt, hOver, hSize⟩ := withinBudgets_iff.mp h
      rw [withinBudgets_iff]
      omega

end Writes

/-- The states a completion may record. -/
abbrev ReceiptState := { state : InvocationState // state ≠ .inProgress }

/-- The states a reconciliation may record. -/
abbrev SettledState := { state : InvocationState // state = .succeeded ∨ state = .failed }

/-- The calls that write the ledger. -/
inductive LedgerCall where
  | reserve (key : InvocationKey) (signed : SignedScope) (grantRef : String) (nowEpoch : Int)
  | attach (key : InvocationKey) (envelopeSha256 grantRef : String)
  | complete (key : InvocationKey) (envelopeSha256 : String) (state : ReceiptState)
      (response : Option JsonObject) (operationRef : Option String) (responseStatus : Nat)
      (nowEpoch : Int)
  | discard (key : InvocationKey) (envelopeSha256 : String)
  | reconcile (scope : ActorScope) (profileRef operationRef : String)
      (terminalState : SettledState) (nowEpoch : Int)

/-- The method behind a call; only a reservation has an answer. -/
def LedgerCall.body (canonical : Json → Option String) (sha256 : String → String) :
    LedgerCall → ConnectorTransaction (Option Reservation)
  | .reserve key signed grantRef nowEpoch => do
      let reservation ← reserveConnectorInvocation key signed grantRef nowEpoch
      pure (some reservation)
  | .attach key envelopeSha256 grantRef => do
      attachConnectorInvocationGrant key envelopeSha256 grantRef
      pure none
  | .complete key envelopeSha256 state response operationRef responseStatus nowEpoch => do
      completeConnectorInvocation canonical sha256 key envelopeSha256 state response operationRef
        responseStatus nowEpoch
      pure none
  | .discard key envelopeSha256 => do
      discardConnectorInvocation key envelopeSha256
      pure none
  | .reconcile scope profileRef operationRef terminalState nowEpoch => do
      reconcileConnectorInvocations canonical scope profileRef operationRef terminalState nowEpoch
      pure none

/-- One call, committed or rolled back. -/
def budgetStep (canonical : Json → Option String) (sha256 : String → String) (call : LedgerCall)
    (s : ConnectorStore) : Except LedgerError (Option Reservation) × ConnectorStore :=
  commit (call.body canonical sha256) s

/-- RFC 8785 writes an object of texts and flags under ASCII names as
`json.dumps` does. -/
def WritesPlainly (canonical : Json → Option String) : Prop :=
  ∀ entries : JsonObject, (∀ entry ∈ entries, (∀ c ∈ entry.1.toList, c.toNat < 128) ∧
    ((∃ text, entry.2 = .str text) ∨ ∃ flag, entry.2 = .bool flag)) →
    ∀ text, canonical (.obj entries) = some text → text = Json.dumps (.obj entries)

/-- The bytes of the receipt a reconciliation writes: the request id and the
reference once escaped, the reference quoted and escaped again. -/
def reconciledBytes (requestId operationRef : String) (terminalState : InvocationState) : Nat :=
  231 + Json.escapedBytes requestId + Json.escapedBytes operationRef +
    Json.escapedBytes (Json.quote operationRef) + terminalState.text.length

/-- A call that leaves the budgets alone: an attached grant fits, no terminal row
becomes a tombstone the budget has no room for, and no reconciled receipt is
above the limit of an entry. -/
def LedgerCall.Fits (s : ConnectorStore) : LedgerCall → Prop
  | .reserve .. | .discard .. => True
  | .attach key envelopeSha256 grantRef => ∀ row ∈ s.invocations,
      row.isReservation key envelopeSha256 = true → grantFits grantRef s.invocations row
  | .complete key envelopeSha256 state .. => ∀ row ∈ s.invocations,
      row.isReservation key envelopeSha256 = true → row.state.terminal = true →
        state.1.terminal = true ∨ tombstonesAdmit row.bytes s.invocations = true
  | .reconcile scope profileRef operationRef terminalState _ => ∀ row ∈ s.invocations,
      row.awaits scope profileRef operationRef = true →
        reconciledBytes row.key.requestId operationRef terminalState ≤
          connectorReceiptMaxEntryBytes

instance decidableGrantFits (grantRef : String) (rows : List ConnectorInvocation)
    (row : ConnectorInvocation) : Decidable (grantFits grantRef rows row) := by
  unfold grantFits
  infer_instance

instance decidableFits (s : ConnectorStore) : ∀ call : LedgerCall, Decidable (call.Fits s)
  | .reserve .. | .discard .. => isTrue trivial
  | .attach key envelopeSha256 grantRef => inferInstanceAs (Decidable (∀ row ∈ s.invocations,
      row.isReservation key envelopeSha256 = true → grantFits grantRef s.invocations row))
  | .complete key envelopeSha256 state .. => inferInstanceAs (Decidable (∀ row ∈ s.invocations,
      row.isReservation key envelopeSha256 = true → row.state.terminal = true →
        state.1.terminal = true ∨ tombstonesAdmit row.bytes s.invocations = true))
  | .reconcile scope profileRef operationRef terminalState _ =>
      inferInstanceAs (Decidable (∀ row ∈ s.invocations,
        row.awaits scope profileRef operationRef = true →
          reconciledBytes row.key.requestId operationRef terminalState ≤
            connectorReceiptMaxEntryBytes))

section Receipts

variable {canonical : Json → Option String} {requestId operationRef receipt text : String}
  {terminalState : InvocationState}

/-- The business result a reconciliation records. -/
def settlement (operationRef : String) (terminalState : InvocationState) : JsonObject := [
  ("state", .str terminalState.text),
  ("operation_ref", .str operationRef),
  ("reconciled", .bool true),
  ("receiptOnly", .bool true),
  ("replayPolicy", .str "do-not-repeat")]

theorem escapedBytes_settlement (operationRef : String) (terminalState : InvocationState) :
    Json.escapedBytes (Json.dumps (.obj (settlement operationRef terminalState))) =
      Json.escapedBytes (Json.quote operationRef) + terminalState.text.length + 111 := by
  have hState : Json.escapedBytes (Json.quote terminalState.text) =
      terminalState.text.length + 4 := by
    cases terminalState <;> rfl
  rw [Json.escapedBytes_additive.dumps_obj]
  simp only [settlement, List.map_cons, List.map_nil, List.sum_cons, List.sum_nil, Json.dumps,
    List.length_cons, List.length_nil, hState]
  have hNames : Json.escapedBytes (Json.quote "state") = 9 ∧
      Json.escapedBytes (Json.quote "operation_ref") = 17 ∧
      Json.escapedBytes (Json.quote "reconciled") = 14 ∧
      Json.escapedBytes (Json.quote "receiptOnly") = 15 ∧
      Json.escapedBytes (Json.quote "replayPolicy") = 16 ∧
      Json.escapedBytes (Json.quote "do-not-repeat") = 17 := ⟨rfl, rfl, rfl, rfl, rfl, rfl⟩
  have hMarks : Json.escapedBytes "\x7b" = 1 ∧ Json.escapedBytes "\x7d" = 1 ∧
      Json.escapedBytes ":" = 1 ∧ Json.escapedBytes "," = 1 ∧ Json.escapedBytes "true" = 4 :=
    ⟨rfl, rfl, rfl, rfl, rfl⟩
  omega

/-- The size of a reconciled receipt. -/
theorem reconciledReceipt_size (hPlain : WritesPlainly canonical)
    (h : reconciledReceipt canonical requestId operationRef terminalState = .ok receipt) :
    receipt.utf8ByteSize = reconciledBytes requestId operationRef terminalState := by
  unfold reconciledReceipt at h
  split at h
  · cases h
  · rename_i text hText
    have hEntries : ∀ entry ∈ settlement operationRef terminalState,
        (∀ c ∈ entry.1.toList, c.toNat < 128) ∧
          ((∃ text, entry.2 = .str text) ∨ ∃ flag, entry.2 = .bool flag) := by
      simp [settlement]
    cases h
    rw [hPlain _ hEntries text hText]
    have hSettlement := escapedBytes_settlement operationRef terminalState
    generalize Json.dumps (.obj (settlement operationRef terminalState)) = result at hSettlement
    simp only [Json.utf8ByteSize_additive.dumps_obj,
      Json.utf8ByteSize_additive.dumps_arr_singleton, List.map_cons, List.map_nil, List.sum_cons,
      List.sum_nil, List.length_cons, List.length_nil, Json.utf8ByteSize_quote]
    simp only [Json.dumps, Json.utf8ByteSize_quote]
    have hNames : Json.escapedBytes "requestId" = 9 ∧ Json.escapedBytes "outcome" = 7 ∧
        Json.escapedBytes "verified" = 8 ∧ Json.escapedBytes "operationRef" = 12 ∧
        Json.escapedBytes "result" = 6 ∧ Json.escapedBytes "content" = 7 ∧
        Json.escapedBytes "type" = 4 ∧ Json.escapedBytes "text" = 4 ∧
        Json.escapedBytes "isError" = 7 :=
      ⟨rfl, rfl, rfl, rfl, rfl, rfl, rfl, rfl, rfl⟩
    have hMarks : "\x7b".utf8ByteSize = 1 ∧ "\x7d".utf8ByteSize = 1 ∧ ":".utf8ByteSize = 1 ∧
        ",".utf8ByteSize = 1 ∧ "[".utf8ByteSize = 1 ∧ "]".utf8ByteSize = 1 ∧
        "false".utf8ByteSize = 5 := ⟨rfl, rfl, rfl, rfl, rfl, rfl, rfl⟩
    unfold reconciledBytes
    omega

end Receipts

/-- The primary key holds and every budget is met. -/
structure Budgeted (s : ConnectorStore) : Prop where
  unique : Table.KeysUnique ConnectorInvocation.key s.invocations
  within : WithinBudgets s.invocations

section Calls

variable {canonical : Json → Option String} {sha256 : String → String} {s t : ConnectorStore}
  {key : InvocationKey} {signed : SignedScope} {grantRef envelopeSha256 : String}
  {nowEpoch : Int} {r : Reservation} {u : Unit}

theorem Budgeted.reserve (h : Budgeted s)
    (hBody : reserveConnectorInvocation key signed grantRef nowEpoch s = .ok (r, t)) :
    Budgeted t := by
  have hPrune := carries_prune nowEpoch s.invocations
  have hLighter := lightens_deleteWhere (ConnectorInvocation.expired nowEpoch) s.invocations
  rcases reserve_eq_ok hBody with ⟨_, _, _, _, _, hRows⟩ |
    ⟨_, hNew, hTombstones, remaining, hEvict, hRows⟩
  · constructor
    · rw [hRows]
      exact hPrune.unique h.unique
    · rw [hRows]
      exact h.within.lighten hLighter
  · obtain ⟨_, remaining', hCarries, hFresh, hRows'⟩ := reserve_inserts h.unique hBody (by rw [hNew])
    obtain ⟨hLightens, hRoom⟩ := evict_lightens hEvict
    constructor
    · rw [hRows']
      exact (hCarries.unique h.unique).append_singleton hFresh
    · rw [hRows]
      exact (h.within.lighten hLighter).reserve hLightens hTombstones hRoom

theorem Budgeted.attach (h : Budgeted s)
    (hFits : ∀ row ∈ s.invocations, row.isReservation key envelopeSha256 = true →
      grantFits grantRef s.invocations row)
    (hBody : attachConnectorInvocationGrant key envelopeSha256 grantRef s = .ok (u, t)) :
    Budgeted t := by
  have hCarries : Carries (fun _ => true) s.invocations t.invocations := attach_carries hBody
  constructor
  · exact hCarries.unique h.unique
  · rw [attach_rows hBody]
    exact h.within.regrant h.unique hFits

theorem Budgeted.complete (h : Budgeted s) {state : InvocationState}
    {response : Option JsonObject} {operationRef : Option String} {responseStatus : Nat}
    (hFits : ∀ row ∈ s.invocations, row.isReservation key envelopeSha256 = true →
      row.state.terminal = true →
        state.terminal = true ∨ tombstonesAdmit row.bytes s.invocations = true)
    (hBody : completeConnectorInvocation canonical sha256 key envelopeSha256 state response
      operationRef responseStatus nowEpoch s = .ok (u, t)) : Budgeted t := by
  obtain ⟨receipt, hSmall, hRows⟩ := complete_eq_ok hBody
  constructor
  · rw [hRows]
    exact ((carries_recordReceipt nowEpoch key receipt s.invocations).unique
      h.unique).updateWhere fun _ _ _ => rfl
  · rw [hRows]
    refine WithinBudgets.record h.unique h.within hSmall (fun _ _ => rfl) (fun _ _ => rfl) ?_
    intro row hRow hMatch
    cases hStands : row.stands with
    | true => exact Or.inl rfl
    | false =>
        have hTerminal : row.state.terminal = true := by
          simpa [ConnectorInvocation.stands] using hStands
        rcases hFits row hRow hMatch hTerminal with hState | hAdmit
        · right
          left
          intro stored row
          simp [ConnectorInvocation.stands, ConnectorInvocation.completed, hState]
        · exact Or.inr (Or.inr hAdmit)

theorem Budgeted.discard (h : Budgeted s)
    (hBody : discardConnectorInvocation key envelopeSha256 s = .ok (u, t)) : Budgeted t := by
  have hRows := discard_rows hBody
  constructor
  · rw [hRows]
    exact h.unique.deleteWhere
  · rw [hRows]
    exact h.within.lighten (lightens_deleteWhere _ _)

/-- One settled row after another, each within the budgets. -/
theorem Budgeted.settle {operationRef : String} {terminalState : InvocationState}
    {settled : List ConnectorInvocation} (hPlain : WritesPlainly canonical)
    (hTerminal : terminalState.terminal = true) (h : Budgeted s)
    (hFits : ∀ row ∈ settled, reconciledBytes row.key.requestId operationRef terminalState ≤
      connectorReceiptMaxEntryBytes)
    (hBody : settleInvocations canonical operationRef terminalState nowEpoch settled s =
      .ok (u, t)) : Budgeted t := by
  induction settled generalizing s with
  | nil =>
      cases hBody
      exact h
  | cons first later ih =>
      obtain ⟨receipt, mid, hReceipt, hMid, hLater⟩ := settle_cons hBody
      refine ih ?_ (fun row hRow => hFits row (List.mem_cons_of_mem first hRow)) hLater
      constructor
      · rw [hMid]
        exact ((carries_admitReceipt nowEpoch first.key receipt s.invocations).unique
          h.unique).updateWhere fun _ _ _ => rfl
      · have hSmall : ∀ text ∈ some receipt,
            text.utf8ByteSize ≤ connectorReceiptMaxEntryBytes := by
          intro text hText
          cases hText
          rw [reconciledReceipt_size hPlain hReceipt]
          exact hFits first List.mem_cons_self
        have hResolved : ∀ stored row,
            (ConnectorInvocation.reconciled terminalState nowEpoch stored row).stands =
              false := by
          intro stored row
          simp [ConnectorInvocation.stands, ConnectorInvocation.reconciled, hTerminal]
        rw [hMid]
        exact WithinBudgets.record (f := ConnectorInvocation.reconciled terminalState nowEpoch)
          h.unique h.within hSmall (fun _ _ => rfl) (fun _ _ => rfl)
          fun _ _ _ => Or.inr (Or.inl hResolved)

theorem Budgeted.reconcile {scope : ActorScope} {profileRef operationRef : String}
    {terminalState : InvocationState} (hPlain : WritesPlainly canonical)
    (hTerminal : terminalState.terminal = true) (h : Budgeted s)
    (hFits : ∀ row ∈ s.invocations, row.awaits scope profileRef operationRef = true →
      reconciledBytes row.key.requestId operationRef terminalState ≤
        connectorReceiptMaxEntryBytes)
    (hBody : reconcileConnectorInvocations canonical scope profileRef operationRef terminalState
      nowEpoch s = .ok (u, t)) : Budgeted t := by
  unfold reconcileConnectorInvocations at hBody
  split at hBody
  · cases hBody
    exact h
  · rw [fetch_bind] at hBody
    refine h.settle hPlain hTerminal ?_ hBody
    intro row hRow
    obtain ⟨hMem, hAwaits⟩ := List.mem_filter.mp hRow
    exact hFits row hMem hAwaits

/-- A call that fits keeps the ledger within its budgets. -/
theorem ledgerStep_budgeted (hPlain : WritesPlainly canonical) :
    Machine.Preserves (budgetStep canonical sha256) LedgerCall.Fits Budgeted := by
  intro s call h hFits
  unfold budgetStep
  rcases commit_cases (call.body canonical sha256) s with ⟨a, t, hBody, hCommit⟩ | ⟨e, _, hCommit⟩
  · rw [hCommit]
    cases call with
    | reserve key signed grantRef nowEpoch =>
        obtain ⟨_, _, hBody, hAnswer⟩ := bind_eq_ok.mp hBody
        cases hAnswer
        exact h.reserve hBody
    | attach key envelopeSha256 grantRef =>
        obtain ⟨_, _, hBody, hAnswer⟩ := bind_eq_ok.mp hBody
        cases hAnswer
        exact h.attach hFits hBody
    | complete key envelopeSha256 state response operationRef responseStatus nowEpoch =>
        obtain ⟨_, _, hBody, hAnswer⟩ := bind_eq_ok.mp hBody
        cases hAnswer
        exact h.complete hFits hBody
    | discard key envelopeSha256 =>
        obtain ⟨_, _, hBody, hAnswer⟩ := bind_eq_ok.mp hBody
        cases hAnswer
        exact h.discard hBody
    | reconcile scope profileRef operationRef terminalState nowEpoch =>
        obtain ⟨_, _, hBody, hAnswer⟩ := bind_eq_ok.mp hBody
        cases hAnswer
        have hTerminal : terminalState.1.terminal = true := by
          rcases terminalState.2 with hState | hState <;> rw [hState] <;> rfl
        exact h.reconcile hPlain hTerminal hFits hBody
  · rw [hCommit]
    exact h

theorem emptyLedger_budgeted : Budgeted {} := by
  refine ⟨List.nodup_nil, ?_⟩
  rw [withinBudgets_iff]
  simp

/-- In every state reached by calls that fit, the ledger is within its budgets. -/
theorem ledger_stays_within_budgets (hPlain : WritesPlainly canonical) (calls : List LedgerCall)
    (hFits : Machine.Admitted (budgetStep canonical sha256) LedgerCall.Fits calls {}) :
    WithinBudgets (Machine.run (budgetStep canonical sha256) calls {}).invocations :=
  ((ledgerStep_budgeted hPlain).run emptyLedger_budgeted hFits).within

end Calls

def budgetKey : InvocationKey := ⟨⟨"org", "ws", "issuer", "subject"⟩, "attempt-1"⟩

def budgetDigest : String := "9f86d081884c7d659a2feaa0c55ad015a3bf4f1b2b0b822cd15d6c15b0f00a08"

def budgetSigned : SignedScope where
  connectionRef := "connection-1"
  providerId := "gh"
  profileRef := "gh-profile-1"
  operationId := "cloud.resource.start"
  resourceRef := "resource-1"
  argumentsSha256 := budgetDigest
  envelopeSha256 := budgetDigest
  isMutating := true

/-- A write that stays pending under a reference, settled by a status read. -/
def budgetCalls (operationRef : String) : List LedgerCall := [
  .reserve budgetKey budgetSigned ("sha256:" ++ budgetDigest) 10,
  .attach budgetKey budgetDigest ("sha256:" ++ budgetDigest),
  .complete budgetKey budgetDigest ⟨.pending, by decide⟩ none (some operationRef) 200 11,
  .reconcile budgetKey.scope "gh-profile-1" operationRef ⟨.succeeded, by decide⟩ 12]

def plainCanonical (v : Json) : Option String := some v.dumps

theorem plainCanonical_plain : WritesPlainly plainCanonical := by
  intro entries _ text hText
  cases hText
  rfl

theorem ledger_stays_within_budgets_sample :
    Machine.Admitted (budgetStep plainCanonical id) LedgerCall.Fits (budgetCalls "op-1") {} ∧
      WithinBudgets (Machine.run (budgetStep plainCanonical id) (budgetCalls "op-1")
        {}).invocations :=
  ⟨by decide +kernel, ledger_stays_within_budgets plainCanonical_plain (budgetCalls "op-1")
    (by decide +kernel)⟩

section Overlong

/-- The only row of a ledger is settled with its receipt, however long. -/
theorem settle_only_row {canonical : Json → Option String} {operationRef receipt : String}
    {row : ConnectorInvocation} {terminalState : InvocationState} {nowEpoch : Int}
    {s : ConnectorStore} (hRows : s.invocations = [row]) (hStands : row.stands = true)
    (hEmpty : row.responseJson = none)
    (hReceipt : reconciledReceipt canonical row.key.requestId operationRef terminalState =
      .ok receipt)
    (hSize : receipt.utf8ByteSize ≤ connectorReceiptMaxBytes) :
    settleInvocations canonical operationRef terminalState nowEpoch [row] s = .ok ((), { s with
      invocations := [row.reconciled terminalState nowEpoch (some receipt)] }) := by
  have hPrune : pruneInvocations nowEpoch [row] = [row] := by
    have hLive : row.unexpired nowEpoch = true := unexpired_of_stands hStands
    simpa [pruneInvocations, Table.deleteWhere, ConnectorInvocation.unexpired] using hLive
  have hTrim : trimConnectorReceipts nowEpoch receipt.utf8ByteSize row.key [row] = [row] := by
    unfold trimConnectorReceipts
    rw [hPrune]
    simp [byCreation, forgetReceipts]
  have hAdmit : admitReceipt nowEpoch row.key receipt [row] = (some receipt, [row]) := by
    unfold admitReceipt
    rw [hTrim]
    simp [withinReceiptBudget, cachedReceipts, cachedBytes, hEmpty, hSize,
      connectorReceiptMaxEntries]
  unfold settleInvocations
  rw [fetch_bind, hRows]
  simp only [hReceipt, hAdmit]
  rw [setInvocations, store_bind]
  simp [settleInvocations, Table.updateWhere, ConnectorInvocation.isReservation,
    ConnectorInvocation.reconciled]

/-- The row the sample leaves pending. -/
def budgetRow (operationRef : String) : ConnectorInvocation where
  key := budgetKey
  signed := budgetSigned
  state := .pending
  operationRef := some operationRef
  grantRef := "sha256:" ++ budgetDigest
  createdAt := 10

theorem budgetCalls_pending (operationRef : String) :
    (Machine.run (budgetStep plainCanonical id) ((budgetCalls operationRef).take 3)
      {}).invocations = [budgetRow operationRef] := rfl

/-- A reference of `length` characters. -/
def longReference (length : Nat) : String := String.ofList (List.replicate length 'x')

theorem longReference_reconciledBytes (length : Nat) :
    reconciledBytes "attempt-1" (longReference length) .succeeded = 253 + 2 * length := by
  have hOnce : Json.escapedBytes (longReference length) = length := by
    have hChar : (Json.escapeChar 'x').utf8ByteSize = 1 := rfl
    simp [Json.escapedBytes, longReference, hChar]
  have hTwice : Json.escapedBytes (Json.quote (longReference length)) = length + 4 := by
    have hChar : Json.escapedBytes (Json.escapeChar 'x') = 1 := rfl
    have hQuote : Json.escapedBytes "\"" = 2 := rfl
    unfold Json.quote
    rw [Json.escapedBytes_additive.append, Json.escapedBytes_additive.append,
      Json.escapedBytes_additive.join, hQuote]
    simp only [longReference, String.toList_ofList, List.map_replicate, List.sum_replicate_nat,
      hChar]
    omega
  have hRequest : Json.escapedBytes "attempt-1" = 9 := rfl
  have hState : InvocationState.succeeded.text.length = 9 := rfl
  unfold reconciledBytes
  omega

/-- The sample's reconciliation caches its receipt, whatever its size. -/
theorem budgetCalls_receipt {ref : String} (hNonempty : ref ≠ "")
    (hSize : reconciledBytes "attempt-1" ref .succeeded ≤ connectorReceiptMaxBytes) :
    ∃ receipt ∈ cachedReceipts (Machine.run (budgetStep plainCanonical id) (budgetCalls ref)
      {}).invocations, receipt.utf8ByteSize = reconciledBytes "attempt-1" ref .succeeded := by
  obtain ⟨receipt, hReceipt⟩ : ∃ receipt,
      reconciledReceipt plainCanonical "attempt-1" ref .succeeded = .ok receipt := ⟨_, rfl⟩
  have hBytes := reconciledReceipt_size plainCanonical_plain hReceipt
  have hPending := budgetCalls_pending ref
  have hSplit : budgetCalls ref = (budgetCalls ref).take 3 ++
      [.reconcile budgetKey.scope "gh-profile-1" ref ⟨.succeeded, by decide⟩ 12] := rfl
  rw [hSplit, Machine.run_append]
  generalize Machine.run (budgetStep plainCanonical id) ((budgetCalls ref).take 3) {} = s
    at hPending ⊢
  have hSettle : settleInvocations plainCanonical ref .succeeded 12 [budgetRow ref] s =
      .ok ((), { s with
        invocations := [(budgetRow ref).reconciled .succeeded 12 (some receipt)] }) :=
    settle_only_row hPending rfl rfl hReceipt (hBytes.trans_le hSize)
  have hBody : reconcileConnectorInvocations plainCanonical budgetKey.scope "gh-profile-1" ref
      .succeeded 12 s = .ok ((), { s with
        invocations := [(budgetRow ref).reconciled .succeeded 12 (some receipt)] }) := by
    unfold reconcileConnectorInvocations
    rw [if_neg (by simp [hNonempty]), fetch_bind, hPending, ← hSettle]
    simp [ConnectorInvocation.awaits, budgetRow, budgetSigned, InvocationState.unresolved]
  have hStep : (budgetStep plainCanonical id
      (.reconcile budgetKey.scope "gh-profile-1" ref ⟨.succeeded, by decide⟩ 12) s).2 =
      { s with invocations := [(budgetRow ref).reconciled .succeeded 12 (some receipt)] } := by
    unfold budgetStep LedgerCall.body commit
    simp only
    rw [bind_of_ok hBody]
    rfl
  rw [Machine.run, Machine.run, hStep]
  exact ⟨receipt, by simp [cachedReceipts, ConnectorInvocation.reconciled], hBytes⟩

/-- The reconciliation of a pending operation named by a reference of 8192
characters caches a receipt above the limit of an entry. -/
theorem long_reference_overruns_receipt : ¬ WithinBudgets (Machine.run
    (budgetStep plainCanonical id) (budgetCalls (longReference 8192)) {}).invocations := by
  have hSize := longReference_reconciledBytes 8192
  have hNonempty : longReference 8192 ≠ "" := by
    intro hEmpty
    have hNone : reconciledBytes "attempt-1" "" .succeeded = 253 := rfl
    rw [hEmpty, hNone] at hSize
    omega
  have hCacheable : reconciledBytes "attempt-1" (longReference 8192) .succeeded ≤
      connectorReceiptMaxBytes := by
    rw [hSize]
    decide
  obtain ⟨receipt, hCached, hBytes⟩ := budgetCalls_receipt hNonempty hCacheable
  intro hWithin
  have hEntry := hWithin.receiptSize receipt hCached
  rw [hBytes, hSize] at hEntry
  exact absurd hEntry (by decide)

end Overlong

end CyreneExchange.Integrations
