import CyreneExchange.Integrations.Connector.Budgets

/-! Which receipts trimming forgets. The loop asks the table for the oldest
cached receipt again and again; it goes through the receipts of the other rows
in the order of creation, whatever the state of their rows. -/
namespace CyreneExchange.Integrations

open Transaction

/-- The receipts trimming may forget, oldest first. -/
def receiptCandidates (excluded : InvocationKey) (rows : List ConnectorInvocation) :
    List ConnectorInvocation :=
  (byCreation rows).filter fun row => row.responseJson.isSome && row.key != excluded

/-- The row whose new receipt is coming in. -/
def receiptOwner (excluded : InvocationKey) (rows : List ConnectorInvocation) :
    List ConnectorInvocation :=
  rows.filter fun row => row.key == excluded

/-- `UPDATE … SET response_json=NULL` by key. -/
def clearReceipt (key : InvocationKey) (rows : List ConnectorInvocation) :
    List ConnectorInvocation :=
  Table.updateWhere (fun row => row.key == key) (fun row => { row with responseJson := none }) rows

/-- The loop of `_trim_connector_receipts`, at most `fuel` times around. -/
def trimLoop (incoming : Nat) (excluded : InvocationKey) :
    Nat → List ConnectorInvocation → Option (List ConnectorInvocation)
  | 0, _ => none
  | fuel + 1, rows =>
      if withinReceiptBudget incoming rows then some rows
      else match (receiptCandidates excluded rows).head? with
        | none => some rows
        | some oldest => trimLoop incoming excluded fuel (clearReceipt oldest.key rows)

/-- The candidates given up before the budget is met; `own` stays. -/
def evictedReceipts (incoming : Nat) (own : List ConnectorInvocation) :
    List ConnectorInvocation → List ConnectorInvocation
  | [] => []
  | oldest :: later =>
      if withinReceiptBudget incoming (own ++ oldest :: later) then []
      else oldest :: evictedReceipts incoming own later

section Trimming

variable {rows rows' later : List ConnectorInvocation} {row oldest : ConnectorInvocation}
  {incoming : Nat} {excluded key : InvocationKey}

theorem withinReceiptBudget_iff : withinReceiptBudget incoming rows = true ↔
    Table.total ConnectorInvocation.receiptEntry rows < connectorReceiptMaxEntries ∧
      Table.total ConnectorInvocation.receiptSize rows + incoming ≤ connectorReceiptMaxBytes := by
  rw [total_receiptEntry, total_receiptSize]
  simp [withinReceiptBudget]

/-- Fewer receipts meet the budget as well. -/
theorem withinReceiptBudget_mono
    (hEntries : Table.total ConnectorInvocation.receiptEntry rows' ≤
      Table.total ConnectorInvocation.receiptEntry rows)
    (hBytes : Table.total ConnectorInvocation.receiptSize rows' ≤
      Table.total ConnectorInvocation.receiptSize rows)
    (h : withinReceiptBudget incoming rows = true) :
    withinReceiptBudget incoming rows' = true := by
  rw [withinReceiptBudget_iff] at h ⊢
  omega

theorem mem_receiptCandidates : row ∈ receiptCandidates excluded rows ↔
    row ∈ rows ∧ row.responseJson.isSome = true ∧ row.key ≠ excluded := by
  unfold receiptCandidates
  rw [List.mem_filter, mem_byCreation]
  simp

/-- A receipt is the incoming row's or a candidate. -/
theorem total_receipts (weight : ConnectorInvocation → Nat)
    (hWeight : ∀ row : ConnectorInvocation, row.responseJson = none → weight row = 0)
    (excluded : InvocationKey) (rows : List ConnectorInvocation) :
    Table.total weight rows = Table.total weight (receiptOwner excluded rows) +
      Table.total weight (receiptCandidates excluded rows) := by
  have hSorted : Table.total weight (receiptCandidates excluded rows) = Table.total weight
      (rows.filter fun row => row.responseJson.isSome && row.key != excluded) :=
    (((List.perm_insertionSort _ rows).filter _).map weight).sum_nat
  rw [hSorted]
  clear hSorted
  unfold receiptOwner
  induction rows with
  | nil => rfl
  | cons row rest ih =>
      rw [Table.total_cons, ih, List.filter_cons, List.filter_cons]
      by_cases hKey : row.key = excluded
      · simp [hKey, Nat.add_assoc]
      · cases hReceipt : row.responseJson with
        | none => simp [hKey, hWeight row hReceipt]
        | some receipt =>
            simp [hKey]
            omega

/-- The budget depends on the receipts alone. -/
theorem withinReceiptBudget_receipts (incoming : Nat) (excluded : InvocationKey)
    (rows : List ConnectorInvocation) :
    withinReceiptBudget incoming (receiptOwner excluded rows ++ receiptCandidates excluded rows) =
      withinReceiptBudget incoming rows := by
  have hEntries := total_receipts ConnectorInvocation.receiptEntry
    (fun row hNone => by simp [ConnectorInvocation.receiptEntry, hNone]) excluded rows
  have hBytes := total_receipts ConnectorInvocation.receiptSize
    (fun row hNone => by simp [ConnectorInvocation.receiptSize, hNone]) excluded rows
  rw [Bool.eq_iff_iff, withinReceiptBudget_iff, withinReceiptBudget_iff, Table.total_append,
    Table.total_append, hEntries, hBytes]

/-- Clearing a receipt does not change the order of creation. -/
theorem byCreation_clearReceipt (key : InvocationKey) (rows : List ConnectorInvocation) :
    byCreation (clearReceipt key rows) = clearReceipt key (byCreation rows) := by
  unfold byCreation clearReceipt Table.updateWhere
  symm
  apply List.map_insertionSort
  intro a _ b _
  split <;> split <;> rfl

/-- Once the oldest receipt is cleared the candidates are the later ones. -/
theorem receiptCandidates_clearReceipt (hUnique : Table.KeysUnique ConnectorInvocation.key rows)
    (h : receiptCandidates excluded rows = oldest :: later) :
    receiptCandidates excluded (clearReceipt oldest.key rows) = later := by
  have hSorted : Table.KeysUnique ConnectorInvocation.key (byCreation rows) :=
    ((List.perm_insertionSort _ rows).map ConnectorInvocation.key).nodup_iff.mpr hUnique
  have hCandidates : Table.KeysUnique ConnectorInvocation.key (oldest :: later) := by
    rw [← h]
    exact List.Nodup.sublist (List.filter_sublist.map ConnectorInvocation.key) hSorted
  have hOther : ∀ row ∈ later, row.key ≠ oldest.key := by
    intro row hRow hKey
    exact (List.nodup_cons.mp hCandidates).1 (hKey ▸ List.mem_map_of_mem hRow)
  have hSplit : receiptCandidates excluded (clearReceipt oldest.key rows) =
      (receiptCandidates excluded rows).filter fun row => row.key != oldest.key := by
    unfold receiptCandidates
    rw [byCreation_clearReceipt, clearReceipt, List.filter_filter]
    exact Table.filter_updateWhere_of_cleared fun row _ _ => rfl
  rw [hSplit, h, List.filter_cons_of_neg (by simp)]
  exact List.filter_eq_self.mpr fun row hRow => by simpa using hOther row hRow

/-- The incoming row is never cleared. -/
theorem receiptOwner_clearReceipt (hKey : oldest.key ≠ excluded) :
    receiptOwner excluded (clearReceipt oldest.key rows) = receiptOwner excluded rows := by
  apply Table.filter_updateWhere
  intro row _ hMatch
  have hSame : row.key = oldest.key := by simpa using hMatch
  simp [hSame, hKey]

theorem clearReceipt_unique (hUnique : Table.KeysUnique ConnectorInvocation.key rows)
    (key : InvocationKey) : Table.KeysUnique ConnectorInvocation.key (clearReceipt key rows) :=
  hUnique.updateWhere fun _ _ _ => rfl

/-- A row still cached after a receipt was cleared is another row, unchanged. -/
theorem cached_clearReceipt (hCached : row.responseJson.isSome = true) :
    row ∈ clearReceipt key rows ↔ row ∈ rows ∧ row.key ≠ key := by
  unfold clearReceipt
  rw [Table.mem_updateWhere]
  constructor
  · rintro ⟨before, hBefore, ⟨_, rfl⟩ | ⟨hOther, rfl⟩⟩
    · cases hCached
    · exact ⟨hBefore, by simpa using hOther⟩
  · rintro ⟨hRow, hOther⟩
    exact ⟨row, hRow, Or.inr ⟨by simpa using hOther, rfl⟩⟩

theorem oldest_mem (h : receiptCandidates excluded rows = oldest :: later) :
    oldest ∈ rows ∧ oldest.responseJson.isSome = true ∧ oldest.key ≠ excluded :=
  mem_receiptCandidates.mp (h ▸ List.mem_cons_self)

/-- Forgetting receipts caches none. -/
theorem cached_of_forgetReceipts {candidates : List ConnectorInvocation}
    (hCached : row.responseJson.isSome = true)
    (h : row ∈ forgetReceipts incoming candidates rows) : row ∈ rows := by
  induction candidates generalizing rows with
  | nil => exact h
  | cons oldest later ih =>
      unfold forgetReceipts at h
      split at h
      · exact h
      · exact ((cached_clearReceipt hCached).mp (ih h)).1

/-- Selecting the oldest receipt anew each time around goes through the
candidates once, so the loop ends. -/
theorem trimLoop_eq {candidates : List ConnectorInvocation} {fuel : Nat}
    (hUnique : Table.KeysUnique ConnectorInvocation.key rows)
    (hCandidates : receiptCandidates excluded rows = candidates)
    (hFuel : candidates.length < fuel) :
    trimLoop incoming excluded fuel rows = some (forgetReceipts incoming candidates rows) := by
  induction candidates generalizing rows fuel with
  | nil =>
      obtain ⟨fuel, rfl⟩ := Nat.exists_eq_succ_of_ne_zero (Nat.ne_zero_of_lt hFuel)
      unfold trimLoop forgetReceipts
      rw [hCandidates]
      simp
  | cons oldest later ih =>
      obtain ⟨fuel, rfl⟩ := Nat.exists_eq_succ_of_ne_zero (Nat.ne_zero_of_lt hFuel)
      unfold trimLoop forgetReceipts
      rw [hCandidates, List.head?_cons]
      dsimp only
      split
      · rfl
      · apply ih (clearReceipt_unique hUnique oldest.key)
        · exact receiptCandidates_clearReceipt hUnique hCandidates
        · simpa using hFuel

/-- The cached rows trimming leaves are those it did not evict. -/
theorem mem_forgetReceipts {candidates : List ConnectorInvocation}
    (hUnique : Table.KeysUnique ConnectorInvocation.key rows)
    (hCandidates : receiptCandidates excluded rows = candidates) (hRow : row ∈ rows)
    (hCached : row.responseJson.isSome = true) :
    row ∈ forgetReceipts incoming candidates rows ↔
      row ∉ evictedReceipts incoming (receiptOwner excluded rows) candidates := by
  induction candidates generalizing rows with
  | nil => simp [forgetReceipts, evictedReceipts, hRow]
  | cons oldest later ih =>
      obtain ⟨hOldest, _, hNotOwner⟩ := oldest_mem hCandidates
      unfold forgetReceipts evictedReceipts
      rw [← hCandidates, withinReceiptBudget_receipts]
      split
      · simp [hRow]
      · by_cases hKey : row.key = oldest.key
        · have hSame : row = oldest := hUnique.eq hRow hOldest hKey
          rw [hSame]
          simp only [List.mem_cons, true_or, not_true_eq_false, iff_false]
          intro hStays
          have hLeft := cached_of_forgetReceipts (hSame ▸ hCached) hStays
          exact ((cached_clearReceipt (hSame ▸ hCached)).mp hLeft).2 rfl
        · have hIn : row ∈ clearReceipt oldest.key rows :=
            (cached_clearReceipt hCached).mpr ⟨hRow, hKey⟩
          have hLater := ih (clearReceipt_unique hUnique oldest.key)
            (receiptCandidates_clearReceipt hUnique hCandidates) hIn
          rw [receiptOwner_clearReceipt hNotOwner] at hLater
          have hOther : row ≠ oldest := fun hSame => hKey (congrArg ConnectorInvocation.key hSame)
          rw [List.mem_cons, not_or]
          exact hLater.trans ⟨fun h => ⟨hOther, h⟩, fun h => h.2⟩

theorem receiptCandidates_length_le (excluded : InvocationKey) (rows : List ConnectorInvocation) :
    (receiptCandidates excluded rows).length ≤ (cachedReceipts rows).length := by
  have hEntries := total_receipts ConnectorInvocation.receiptEntry
    (fun row hNone => by simp [ConnectorInvocation.receiptEntry, hNone]) excluded rows
  have hEach : Table.total ConnectorInvocation.receiptEntry (receiptCandidates excluded rows) =
      (receiptCandidates excluded rows).length := by
    rw [← total_entries]
    unfold Table.total
    rw [List.map_congr_left]
    intro row hRow
    simp [ConnectorInvocation.receiptEntry, (mem_receiptCandidates.mp hRow).2.1]
  rw [← total_receiptEntry, hEntries, ← hEach]
  omega

/-- Trimming ends within the budget exactly when the incoming row alone is. -/
theorem withinReceiptBudget_forgetReceipts {candidates : List ConnectorInvocation}
    (hUnique : Table.KeysUnique ConnectorInvocation.key rows)
    (hCandidates : receiptCandidates excluded rows = candidates) :
    withinReceiptBudget incoming (forgetReceipts incoming candidates rows) =
      withinReceiptBudget incoming (receiptOwner excluded rows) := by
  induction candidates generalizing rows with
  | nil =>
      unfold forgetReceipts
      rw [← withinReceiptBudget_receipts incoming excluded rows, hCandidates, List.append_nil]
  | cons oldest later ih =>
      unfold forgetReceipts
      split
      · rename_i hWithin
        rw [hWithin]
        symm
        rw [← withinReceiptBudget_receipts incoming excluded rows] at hWithin
        apply withinReceiptBudget_mono ?_ ?_ hWithin
        · rw [Table.total_append]
          omega
        · rw [Table.total_append]
          omega
      · have hLater := ih (clearReceipt_unique hUnique oldest.key)
          (receiptCandidates_clearReceipt hUnique hCandidates)
        rw [receiptOwner_clearReceipt (oldest_mem hCandidates).2.2] at hLater
        exact hLater

/-- A receipt is evicted when it does not fit beside the later ones. -/
theorem mem_evictedReceipts {own candidates : List ConnectorInvocation} :
    row ∈ evictedReceipts incoming own candidates ↔
      ∃ older newer, candidates = older ++ row :: newer ∧
        withinReceiptBudget incoming (own ++ row :: newer) = false := by
  induction candidates with
  | nil => simp [evictedReceipts]
  | cons oldest later ih =>
      unfold evictedReceipts
      split
      · rename_i hWithin
        simp only [List.not_mem_nil, false_iff]
        rintro ⟨older, newer, hSplit, hOver⟩
        -- the receipts from `row` on are among those that fit
        have hFits : withinReceiptBudget incoming (own ++ row :: newer) = true := by
          rw [hSplit] at hWithin
          apply withinReceiptBudget_mono ?_ ?_ hWithin
          · simp only [Table.total_append]
            omega
          · simp only [Table.total_append]
            omega
        rw [hFits] at hOver
        cases hOver
      · rename_i hOver
        rw [List.mem_cons, ih]
        constructor
        · rintro (rfl | ⟨older, newer, rfl, hRow⟩)
          · exact ⟨[], later, rfl, Bool.eq_false_of_not_eq_true hOver⟩
          · exact ⟨oldest :: older, newer, rfl, hRow⟩
        · rintro ⟨older, newer, hSplit, hRow⟩
          cases older with
          | nil =>
              cases hSplit
              exact Or.inl rfl
          | cons first older =>
              cases hSplit
              exact Or.inr ⟨older, newer, rfl, hRow⟩

end Trimming

section Reachable

variable {canonical : Json → Option String} {sha256 : String → String}

/-- A call keeps the primary key. -/
theorem budgetStep_unique : Machine.Preserves (budgetStep canonical sha256) (fun _ _ => True)
    fun s => Table.KeysUnique ConnectorInvocation.key s.invocations := by
  intro s call hUnique _
  unfold budgetStep
  rcases commit_cases (call.body canonical sha256) s with ⟨a, t, hBody, hCommit⟩ | ⟨e, _, hCommit⟩
  · rw [hCommit]
    show Table.KeysUnique ConnectorInvocation.key t.invocations
    cases call with
    | reserve key signed grantRef nowEpoch =>
        obtain ⟨r, _, hBody, hAnswer⟩ := bind_eq_ok.mp hBody
        cases hAnswer
        by_cases hNew : r.disposition = .new
        · obtain ⟨_, remaining, hCarries, hFresh, hRows⟩ := reserve_inserts hUnique hBody hNew
          rw [hRows]
          exact (hCarries.unique hUnique).append_singleton hFresh
        · exact (reserve_replays hBody hNew).unique hUnique
    | attach key envelopeSha256 grantRef =>
        obtain ⟨_, _, hBody, hAnswer⟩ := bind_eq_ok.mp hBody
        cases hAnswer
        have hCarries : Carries (fun _ => true) s.invocations t.invocations := attach_carries hBody
        exact hCarries.unique hUnique
    | complete key envelopeSha256 state response operationRef responseStatus nowEpoch =>
        obtain ⟨_, _, hBody, hAnswer⟩ := bind_eq_ok.mp hBody
        cases hAnswer
        obtain ⟨trimmed, stored, hCarries, hRows⟩ := complete_rows hBody
        rw [hRows]
        exact (hCarries.unique hUnique).updateWhere fun _ _ _ => rfl
    | discard key envelopeSha256 =>
        obtain ⟨_, _, hBody, hAnswer⟩ := bind_eq_ok.mp hBody
        cases hAnswer
        rw [discard_rows hBody]
        exact hUnique.deleteWhere
    | reconcile scope profileRef operationRef terminalState nowEpoch =>
        obtain ⟨_, _, hBody, hAnswer⟩ := bind_eq_ok.mp hBody
        cases hAnswer
        by_cases hBlank : profileRef = "" ∨ operationRef = ""
        · rw [reconcile_blank hBlank hBody]
          exact hUnique
        · rw [not_or] at hBlank
          exact (reconcile_settles hBlank.1 hBlank.2 hBody).unique hUnique
  · rw [hCommit]
    exact hUnique

theorem ledger_unique (canonical : Json → Option String) (sha256 : String → String)
    (calls : List LedgerCall) : Table.KeysUnique ConnectorInvocation.key
      (Machine.run (budgetStep canonical sha256) calls {}).invocations :=
  budgetStep_unique.run List.nodup_nil (Machine.admitted_of_forall (fun _ _ => trivial) _ _)

/-- What trimming owes: room for the incoming receipt, and no receipt of a row
that is not final forgotten. -/
structure TrimKeepsReceipts (incoming : Nat) (rows trimmed : List ConnectorInvocation) : Prop where
  restored : withinReceiptBudget incoming trimmed = true
  kept : ∀ row ∈ rows, row.responseJson.isSome = true → row.stands = true → row ∈ trimmed

/-- The incoming receipt fits beside what its own row caches, and each receipt
of a row that is not final fits beside them and the newer ones. -/
structure RoomForReceipt (incoming : Nat) (excluded : InvocationKey)
    (live : List ConnectorInvocation) : Prop where
  owner : withinReceiptBudget incoming (receiptOwner excluded live) = true
  newer : ∀ older row newer, receiptCandidates excluded live = older ++ row :: newer →
    row.stands = true →
      withinReceiptBudget incoming (receiptOwner excluded live ++ row :: newer) = true

/-- On unique keys trimming keeps its promise exactly where there is room. -/
theorem trimKeepsReceipts_iff_room {rows : List ConnectorInvocation} {nowEpoch : Int} {incoming : Nat}
    {excluded : InvocationKey} (hUnique : Table.KeysUnique ConnectorInvocation.key rows) :
    TrimKeepsReceipts incoming rows (trimConnectorReceipts nowEpoch incoming excluded rows) ↔
      RoomForReceipt incoming excluded (pruneInvocations nowEpoch rows) := by
  have hLive : Table.KeysUnique ConnectorInvocation.key (pruneInvocations nowEpoch rows) :=
    hUnique.deleteWhere
  have hTrim : trimConnectorReceipts nowEpoch incoming excluded rows = forgetReceipts incoming
      (receiptCandidates excluded (pruneInvocations nowEpoch rows))
      (pruneInvocations nowEpoch rows) := rfl
  rw [hTrim]
  constructor
  · rintro ⟨hRestored, hKept⟩
    rw [withinReceiptBudget_forgetReceipts hLive rfl] at hRestored
    refine ⟨hRestored, ?_⟩
    intro older row newer hSplit hStands
    have hCandidate : row ∈ receiptCandidates excluded (pruneInvocations nowEpoch rows) := by
      rw [hSplit]
      simp
    obtain ⟨hRow, hCached, _⟩ := mem_receiptCandidates.mp hCandidate
    have hStays := hKept row (Table.mem_deleteWhere.mp hRow).1 hCached hStands
    rw [mem_forgetReceipts hLive rfl hRow hCached, mem_evictedReceipts] at hStays
    by_contra hOver
    exact hStays ⟨older, newer, hSplit, Bool.eq_false_of_not_eq_true hOver⟩
  · rintro ⟨hOwner, hNewer⟩
    constructor
    · rw [withinReceiptBudget_forgetReceipts hLive rfl]
      exact hOwner
    · intro row hRow hCached hStands
      have hIn : row ∈ pruneInvocations nowEpoch rows := by
        have hUnexpired : row.unexpired nowEpoch = true := unexpired_of_stands hStands
        exact Table.mem_deleteWhere.mpr
          ⟨hRow, by simpa [ConnectorInvocation.unexpired] using hUnexpired⟩
      rw [mem_forgetReceipts hLive rfl hIn hCached, mem_evictedReceipts]
      rintro ⟨older, newer, hSplit, hOver⟩
      rw [hNewer older row newer hSplit hStands] at hOver
      cases hOver

/-- In every reachable ledger the trimming loop ends after at most one round
for each cached receipt, and what it leaves keeps the receipts of the rows that
are not final exactly where there is room for them. -/
theorem trim_keeps_receipts_iff (canonical : Json → Option String) (sha256 : String → String)
    (calls : List LedgerCall) (nowEpoch : Int) (incoming : Nat) (excluded : InvocationKey) :
    let rows := (Machine.run (budgetStep canonical sha256) calls {}).invocations
    let live := pruneInvocations nowEpoch rows
    (∀ fuel, (cachedReceipts live).length < fuel →
      trimLoop incoming excluded fuel live =
        some (trimConnectorReceipts nowEpoch incoming excluded rows)) ∧
    (TrimKeepsReceipts incoming rows (trimConnectorReceipts nowEpoch incoming excluded rows) ↔
      RoomForReceipt incoming excluded live) := by
  intro rows live
  have hUnique : Table.KeysUnique ConnectorInvocation.key rows :=
    ledger_unique canonical sha256 calls
  refine ⟨?_, trimKeepsReceipts_iff_room hUnique⟩
  intro fuel hFuel
  apply trimLoop_eq hUnique.deleteWhere rfl
  exact (receiptCandidates_length_le excluded live).trans_lt hFuel

end Reachable

section Pressure

theorem evict_of_room {incoming : Nat} {candidates rows : List ConnectorInvocation}
    (h : overLedgerBudget incoming rows = false) :
    evictInvocations incoming candidates rows = some rows := by
  cases candidates <;> simp [evictInvocations, h]

theorem forgetReceipts_of_within {incoming : Nat} {candidates rows : List ConnectorInvocation}
    (h : withinReceiptBudget incoming rows = true) :
    forgetReceipts incoming candidates rows = rows := by
  cases candidates <;> simp [forgetReceipts, h]

/-- Pruning a ledger of standing rows. -/
theorem prune_of_stands {nowEpoch : Int} {rows : List ConnectorInvocation}
    (h : ∀ row ∈ rows, row.stands = true) : pruneInvocations nowEpoch rows = rows := by
  apply Table.deleteWhere_of_none
  intro row hRow
  have hUnexpired : row.unexpired nowEpoch = true := unexpired_of_stands (h row hRow)
  simpa [ConnectorInvocation.unexpired] using hUnexpired

/-- A reserved row that no other standing row shares its key with, completed
with a receipt that has room. -/
theorem complete_of_room {canonical : Json → Option String} {sha256 : String → String}
    {key : InvocationKey} {envelopeSha256 encoded receipt : String} {state : InvocationState}
    {response : JsonObject} {operationRef : Option String} {responseStatus : Nat} {nowEpoch : Int}
    {s : ConnectorStore} {others : List ConnectorInvocation} {row : ConnectorInvocation}
    (hStatus : (decide (200 ≤ responseStatus) && decide (responseStatus ≤ 599)) = true)
    (hRows : s.invocations = others ++ [row])
    (hMatch : row.isReservation key envelopeSha256 = true) (hStands : row.stands = true)
    (hOthers : ∀ row ∈ others, row.key ≠ key) (hOthersStand : ∀ row ∈ others, row.stands = true)
    (hEncoded : canonical (.obj response) = some encoded)
    (hReceipt : compactConnectorReceipt canonical response (sha256 encoded) operationRef state
      (!row.signed.isMutating && (state == .succeeded || state == .failed)) = .ok receipt)
    (hSmall : receipt.utf8ByteSize ≤ connectorReceiptMaxEntryBytes)
    (hWithin : withinReceiptBudget receipt.utf8ByteSize s.invocations = true) :
    completeConnectorInvocation canonical sha256 key envelopeSha256 state (some response)
      operationRef responseStatus nowEpoch s = .ok ((), { s with invocations := others ++
        [row.completed state operationRef responseStatus nowEpoch (some receipt)] }) := by
  have hAll : ∀ row ∈ s.invocations, row.stands = true := by
    rw [hRows]
    intro other hOther
    rcases List.mem_append.mp hOther with hOther | hOther
    · exact hOthersStand other hOther
    · rw [List.mem_singleton.mp hOther]
      exact hStands
  have hMiss : ∀ row ∈ others, row.isReservation key envelopeSha256 = false := by
    intro other hOther
    simp [ConnectorInvocation.isReservation, hOthers other hOther]
  have hFind : s.invocations.find? (ConnectorInvocation.isReservation key envelopeSha256) =
      some row := by
    rw [hRows, List.find?_append,
      List.find?_eq_none.mpr fun other hOther => by simp [hMiss other hOther]]
    simp [hMatch]
  have hTrim : trimConnectorReceipts nowEpoch receipt.utf8ByteSize key s.invocations =
      s.invocations := by
    unfold trimConnectorReceipts
    rw [prune_of_stands hAll]
    exact forgetReceipts_of_within hWithin
  have hAdmit : admitReceipt nowEpoch key receipt s.invocations =
      (some receipt, s.invocations) := by
    simp [admitReceipt, hTrim, hWithin]
  have hUpdate : Table.updateWhere (ConnectorInvocation.isReservation key envelopeSha256)
      (ConnectorInvocation.completed state operationRef responseStatus nowEpoch (some receipt))
      s.invocations =
        others ++ [row.completed state operationRef responseStatus nowEpoch (some receipt)] := by
    rw [hRows, Table.updateWhere_append, Table.updateWhere_of_none hMiss]
    simp [Table.updateWhere, hMatch]
  rw [← hUpdate]
  unfold completeConnectorInvocation
  rw [bind_of_ok (require_of_true hStatus _ _), fetch_bind]
  simp only [hFind]
  apply (bind_of_ok (a := some receipt) (t := s) ?_).trans
  · simp only [hAdmit]
    rfl
  · simp [hEncoded, hReceipt, hSmall]

/-- The answer to a write that is still running. -/
def pendingResponse : JsonObject := [
  ("requestId", .str "attempt-1"),
  ("outcome", .str "pending"),
  ("operationRef", .str "op-1"),
  ("result", .obj [("content", .arr []), ("isError", .bool false)])]

/-- What the ledger caches of it. -/
def pendingReceipt : String :=
  match compactConnectorReceipt plainCanonical pendingResponse budgetDigest (some "op-1") .pending
      false with
  | .ok receipt => receipt
  | .error _ => ""

/-- The same request of one subject after another. -/
def subjectKey (i : Nat) : InvocationKey := ⟨⟨"org", "ws", "issuer", longReference i⟩, "attempt-1"⟩

/-- Its row once the write is reported as pending. -/
def pendingRow (i : Nat) : ConnectorInvocation where
  key := subjectKey i
  signed := budgetSigned
  state := .pending
  operationRef := some "op-1"
  grantRef := "sha256:" ++ budgetDigest
  createdAt := 10
  responseJson := some pendingReceipt

theorem pending_ne_inProgress : InvocationState.pending ≠ .inProgress := by decide

/-- A write reserved and left pending by each of `n` subjects. -/
def pendingCalls (n : Nat) : List LedgerCall :=
  (List.range n).flatMap fun i => [
    .reserve (subjectKey i) budgetSigned ("sha256:" ++ budgetDigest) 10,
    .complete (subjectKey i) budgetDigest ⟨.pending, pending_ne_inProgress⟩
      (some pendingResponse) (some "op-1") 200 10]

abbrev pendingStep : LedgerCall → ConnectorStore →
    Except LedgerError (Option Reservation) × ConnectorStore :=
  budgetStep plainCanonical fun _ => budgetDigest

theorem pendingReceipt_eq : compactConnectorReceipt plainCanonical pendingResponse budgetDigest
    (some "op-1") .pending false = .ok pendingReceipt := rfl

/-- The business result the receipt keeps. -/
def pendingSummary (digest : String) : JsonObject := [
  ("state", .str "PENDING"),
  ("receiptOnly", .bool true),
  ("resultDigestSha256", .str digest),
  ("freshRequestRequired", .bool false),
  ("replayPolicy", .str "status-reconciliation"),
  ("reasonCode", .str "operation_pending")]

/-- The receipt around it. -/
def pendingEnvelope (requestId summary operationRef : String) : JsonObject := [
  ("requestId", .str requestId),
  ("outcome", .str "pending"),
  ("result", .obj [
    ("content", .arr [.obj [("type", .str "text"), ("text", .str summary)]]),
    ("isError", .bool false)]),
  ("operationRef", .str operationRef)]

theorem pendingReceipt_dumps : pendingReceipt = Json.dumps (.obj (pendingEnvelope "attempt-1"
    (Json.dumps (.obj (pendingSummary budgetDigest))) "op-1")) := rfl

theorem escapedBytes_pendingSummary (digest : String) :
    Json.escapedBytes (Json.dumps (.obj (pendingSummary digest))) =
      179 + Json.escapedBytes (Json.quote digest) := by
  rw [Json.escapedBytes_additive.dumps_obj]
  simp only [pendingSummary, List.map_cons, List.map_nil, List.sum_cons, List.sum_nil, Json.dumps,
    List.length_cons, List.length_nil]
  have hNames : Json.escapedBytes (Json.quote "state") = 9 ∧
      Json.escapedBytes (Json.quote "receiptOnly") = 15 ∧
      Json.escapedBytes (Json.quote "resultDigestSha256") = 22 ∧
      Json.escapedBytes (Json.quote "freshRequestRequired") = 24 ∧
      Json.escapedBytes (Json.quote "replayPolicy") = 16 ∧
      Json.escapedBytes (Json.quote "reasonCode") = 14 := ⟨rfl, rfl, rfl, rfl, rfl, rfl⟩
  have hTexts : Json.escapedBytes (Json.quote "PENDING") = 11 ∧
      Json.escapedBytes (Json.quote "status-reconciliation") = 25 ∧
      Json.escapedBytes (Json.quote "operation_pending") = 21 := ⟨rfl, rfl, rfl⟩
  have hMarks : Json.escapedBytes "\x7b" = 1 ∧ Json.escapedBytes "\x7d" = 1 ∧
      Json.escapedBytes ":" = 1 ∧ Json.escapedBytes "," = 1 ∧ Json.escapedBytes "true" = 4 ∧
      Json.escapedBytes "false" = 5 := ⟨rfl, rfl, rfl, rfl, rfl, rfl⟩
  omega

theorem pendingEnvelope_size (requestId summary operationRef : String) :
    (Json.dumps (.obj (pendingEnvelope requestId summary operationRef))).utf8ByteSize =
      119 + Json.escapedBytes requestId + Json.escapedBytes summary +
        Json.escapedBytes operationRef := by
  unfold pendingEnvelope
  simp only [Json.utf8ByteSize_additive.dumps_obj,
    Json.utf8ByteSize_additive.dumps_arr_singleton, List.map_cons, List.map_nil, List.sum_cons,
    List.sum_nil, List.length_cons, List.length_nil, Json.utf8ByteSize_quote]
  simp only [Json.dumps, Json.utf8ByteSize_quote]
  have hNames : Json.escapedBytes "requestId" = 9 ∧ Json.escapedBytes "outcome" = 7 ∧
      Json.escapedBytes "pending" = 7 ∧ Json.escapedBytes "result" = 6 ∧
      Json.escapedBytes "content" = 7 ∧ Json.escapedBytes "type" = 4 ∧
      Json.escapedBytes "text" = 4 ∧ Json.escapedBytes "isError" = 7 ∧
      Json.escapedBytes "operationRef" = 12 := ⟨rfl, rfl, rfl, rfl, rfl, rfl, rfl, rfl, rfl⟩
  have hMarks : "\x7b".utf8ByteSize = 1 ∧ "\x7d".utf8ByteSize = 1 ∧ ":".utf8ByteSize = 1 ∧
      ",".utf8ByteSize = 1 ∧ "[".utf8ByteSize = 1 ∧ "]".utf8ByteSize = 1 ∧
      "false".utf8ByteSize = 5 := ⟨rfl, rfl, rfl, rfl, rfl, rfl, rfl⟩
  omega

theorem pendingReceipt_size : pendingReceipt.utf8ByteSize = 379 := by
  have hRequest : Json.escapedBytes "attempt-1" = 9 := rfl
  have hRef : Json.escapedBytes "op-1" = 4 := rfl
  have hDigest : Json.escapedBytes (Json.quote budgetDigest) = 68 := rfl
  rw [pendingReceipt_dumps, pendingEnvelope_size, escapedBytes_pendingSummary, hRequest, hRef,
    hDigest]

theorem subjectKey_bytes (i : Nat) : (subjectKey i).bytes = 20 + i := by
  have hSubject : (longReference i).utf8ByteSize = i := by
    induction i with
    | zero => rfl
    | succ i ih =>
        unfold longReference at ih ⊢
        rw [List.replicate_succ', String.ofList_append, String.utf8ByteSize_append, ih]
        rfl
  have hTexts : "org".utf8ByteSize = 3 ∧ "ws".utf8ByteSize = 2 ∧ "issuer".utf8ByteSize = 6 ∧
      "attempt-1".utf8ByteSize = 9 := ⟨rfl, rfl, rfl, rfl⟩
  simp only [InvocationKey.bytes, subjectKey, hSubject]
  omega

theorem subjectKey_injective {i j : Nat} (h : subjectKey i = subjectKey j) : i = j := by
  have hBytes := congrArg InvocationKey.bytes h
  rw [subjectKey_bytes, subjectKey_bytes] at hBytes
  omega

theorem pendingRow_bytes (i : Nat) : (pendingRow i).bytes = 276 + i := by
  have hSigned : budgetSigned.bytes ("sha256:" ++ budgetDigest) = 255 := rfl
  show (subjectKey i).bytes + budgetSigned.bytes ("sha256:" ++ budgetDigest) + 1 = _
  rw [subjectKey_bytes, hSigned]
  omega

variable {n : Nat} {s : ConnectorStore}

abbrev pendingRows (n : Nat) : List ConnectorInvocation := (List.range n).map pendingRow

theorem pendingRows_stand : ∀ row ∈ pendingRows n, row.stands = true := by
  intro row hRow
  obtain ⟨i, _, rfl⟩ := List.mem_map.mp hRow
  rfl

theorem pendingRows_fresh : ∀ row ∈ pendingRows n, row.key ≠ subjectKey n := by
  intro row hRow hKey
  obtain ⟨i, hi, rfl⟩ := List.mem_map.mp hRow
  rw [subjectKey_injective hKey] at hi
  exact absurd (List.mem_range.mp hi) (Nat.lt_irrefl n)

theorem pendingRows_bytes (h : n ≤ 256) :
    ((pendingRows n).map ConnectorInvocation.bytes).sum ≤ n * 532 := by
  induction n with
  | zero => exact Nat.zero_le 0
  | succ n ih =>
      have hRest := ih (Nat.le_of_succ_le h)
      unfold pendingRows at hRest ⊢
      rw [List.range_succ, List.map_append, List.map_append, List.sum_append]
      simp only [List.map_cons, List.map_nil, List.sum_cons, List.sum_nil, pendingRow_bytes]
      omega

theorem pendingRows_entries (n : Nat) :
    Table.total ConnectorInvocation.receiptEntry (pendingRows n) = n := by
  unfold Table.total
  rw [List.map_map]
  have hEach : ConnectorInvocation.receiptEntry ∘ pendingRow = fun _ => 1 := rfl
  simp [hEach]

theorem pendingRows_receiptBytes (n : Nat) :
    Table.total ConnectorInvocation.receiptSize (pendingRows n) = n * 379 := by
  unfold Table.total
  rw [List.map_map]
  have hEach : ConnectorInvocation.receiptSize ∘ pendingRow = fun _ => 379 := by
    funext i
    rw [Function.comp_apply, ConnectorInvocation.receiptSize, pendingRow]
    exact pendingReceipt_size
  simp [hEach]

/-- Below the limit the next subject's write is reserved. -/
theorem pendingRows_reserve (hRows : s.invocations = pendingRows n) (h : n < 256) :
    (pendingStep (.reserve (subjectKey n) budgetSigned ("sha256:" ++ budgetDigest) 10)
      s).2.invocations =
        pendingRows n ++ [reservedRow (subjectKey n) budgetSigned ("sha256:" ++ budgetDigest) 10] := by
  have hPrune : pruneInvocations 10 s.invocations = pendingRows n := by
    rw [hRows]
    exact prune_of_stands pendingRows_stand
  have hIncoming : incomingBytes (subjectKey n) budgetSigned ("sha256:" ++ budgetDigest) =
      279 + n := by
    have hSigned : budgetSigned.bytes ("sha256:" ++ budgetDigest) = 255 := rfl
    unfold incomingBytes
    rw [subjectKey_bytes, hSigned]
    show 20 + n + 255 + 4 = _
    omega
  have hBytes := pendingRows_bytes h.le
  have hValid : invocationScopeValid (subjectKey n) budgetSigned ("sha256:" ++ budgetDigest) =
      true := by
    have hSame : invocationScopeValid (subjectKey n) budgetSigned ("sha256:" ++ budgetDigest) =
        invocationScopeValid budgetKey budgetSigned ("sha256:" ++ budgetDigest) := rfl
    rw [hSame]
    decide +kernel
  have hIdentity : decide ((subjectKey n).bytes ≤ 4096) = true := by
    rw [subjectKey_bytes]
    exact decide_eq_true (by omega)
  have hFind : (pendingRows n).find? (fun row => row.key == subjectKey n) = none :=
    List.find?_eq_none.mpr fun row hRow => by simpa using pendingRows_fresh row hRow
  have hHeld : tombstones (pendingRows n) = pendingRows n :=
    List.filter_eq_self.mpr pendingRows_stand
  have hLength : (pendingRows n).length = n := by simp
  have hTombstones : (decide ((pendingRows n).length < connectorTombstoneMaxEntries) &&
      decide (((pendingRows n).map ConnectorInvocation.bytes).sum + (279 + n) ≤
        connectorTombstoneMaxBytes)) = true := by
    simp only [Bool.and_eq_true, decide_eq_true_eq, hLength]
    unfold connectorTombstoneMaxEntries connectorTombstoneMaxBytes
    omega
  have hRoom : overLedgerBudget (279 + n) (pendingRows n) = false := by
    simp only [overLedgerBudget, Bool.or_eq_false_iff, decide_eq_false_iff_not, hLength]
    unfold connectorLedgerMaxEntries connectorLedgerMaxBytes
    omega
  have hBody : reserveConnectorInvocation (subjectKey n) budgetSigned
      ("sha256:" ++ budgetDigest) 10 s = .ok ({ disposition := .new, state := .inProgress },
        { s with invocations := pendingRows n ++
          [reservedRow (subjectKey n) budgetSigned ("sha256:" ++ budgetDigest) 10] }) := by
    unfold reserveConnectorInvocation
    rw [bind_of_ok (require_of_true hValid _ _), bind_of_ok (require_of_true hIdentity _ _),
      fetch_bind, setInvocations, store_bind]
    simp only [hPrune, hFind, hIncoming, hHeld]
    rw [bind_of_ok (require_of_true hTombstones _ _), evict_of_room hRoom]
    rfl
  unfold pendingStep budgetStep LedgerCall.body
  rw [commit_of_ok (bind_of_ok hBody)]

/-- Below the limit the receipt of the write is cached. -/
theorem pendingRows_complete (hRows : s.invocations = pendingRows n ++
      [reservedRow (subjectKey n) budgetSigned ("sha256:" ++ budgetDigest) 10]) (h : n < 256) :
    (pendingStep (.complete (subjectKey n) budgetDigest ⟨.pending, by decide⟩
      (some pendingResponse) (some "op-1") 200 10) s).2.invocations = pendingRows (n + 1) := by
  have hWithin : withinReceiptBudget pendingReceipt.utf8ByteSize s.invocations = true := by
    have hEntries := pendingRows_entries n
    have hBytes := pendingRows_receiptBytes n
    have hReserved : ∀ weight : ConnectorInvocation → Nat, Table.total weight
        [reservedRow (subjectKey n) budgetSigned ("sha256:" ++ budgetDigest) 10] =
          weight (reservedRow (subjectKey n) budgetSigned ("sha256:" ++ budgetDigest) 10) :=
      fun weight => by rw [Table.total_cons, Table.total_nil, Nat.add_zero]
    have hNoEntry : (reservedRow (subjectKey n) budgetSigned ("sha256:" ++ budgetDigest)
        10).receiptEntry = 0 := rfl
    have hNoBytes : (reservedRow (subjectKey n) budgetSigned ("sha256:" ++ budgetDigest)
        10).receiptSize = 0 := rfl
    rw [withinReceiptBudget_iff, hRows, Table.total_append, Table.total_append, hEntries, hBytes,
      pendingReceipt_size, hReserved, hReserved, hNoEntry, hNoBytes]
    unfold connectorReceiptMaxEntries connectorReceiptMaxBytes
    omega
  have hMatch : (reservedRow (subjectKey n) budgetSigned ("sha256:" ++ budgetDigest)
      10).isReservation (subjectKey n) budgetDigest = true :=
    Bool.and_eq_true_iff.mpr ⟨beq_self_eq_true _, beq_self_eq_true _⟩
  have hSmall : pendingReceipt.utf8ByteSize ≤ connectorReceiptMaxEntryBytes := by
    rw [pendingReceipt_size]
    decide
  have hBody : completeConnectorInvocation plainCanonical (fun _ => budgetDigest) (subjectKey n)
      budgetDigest .pending (some pendingResponse) (some "op-1") 200 10 s = .ok ((), { s with
        invocations := pendingRows n ++ [(reservedRow (subjectKey n) budgetSigned
          ("sha256:" ++ budgetDigest) 10).completed .pending (some "op-1") 200 10
            (some pendingReceipt)] }) :=
    complete_of_room rfl hRows hMatch rfl pendingRows_fresh pendingRows_stand rfl
      pendingReceipt_eq hSmall hWithin
  unfold pendingStep budgetStep LedgerCall.body
  rw [commit_of_ok (bind_of_ok hBody)]
  show pendingRows n ++ [pendingRow n] = pendingRows (n + 1)
  unfold pendingRows
  rw [List.range_succ, List.map_append]
  rfl

/-- Up to the limit every subject's receipt is cached. -/
theorem pendingCalls_rows (h : n ≤ 256) :
    (Machine.run pendingStep (pendingCalls n) {}).invocations = pendingRows n := by
  induction n with
  | zero => rfl
  | succ n ih =>
      have hRows := ih (Nat.le_of_succ_le h)
      unfold pendingCalls at hRows ⊢
      rw [List.range_succ, List.flatMap_append, Machine.run_append]
      exact pendingRows_complete (pendingRows_reserve hRows h) h

/-- With 256 pending writes cached the receipt of one more, itself pending,
takes the place of a pending one. -/
theorem full_cache_forgets_pending : ¬ TrimKeepsReceipts pendingReceipt.utf8ByteSize
    (Machine.run pendingStep (pendingCalls 256) {}).invocations
    (trimConnectorReceipts 10 pendingReceipt.utf8ByteSize (subjectKey 256)
      (Machine.run pendingStep (pendingCalls 256) {}).invocations) := by
  have hUnique : Table.KeysUnique ConnectorInvocation.key (pendingRows 256) := by
    rw [← pendingCalls_rows (Nat.le_refl 256)]
    exact ledger_unique _ _ _
  rw [pendingCalls_rows (Nat.le_refl 256), trimKeepsReceipts_iff_room hUnique,
    prune_of_stands pendingRows_stand]
  intro h
  cases hCandidates : receiptCandidates (subjectKey 256) (pendingRows 256) with
  | nil =>
      have hFirst : pendingRow 0 ∈ receiptCandidates (subjectKey 256) (pendingRows 256) :=
        mem_receiptCandidates.mpr ⟨List.mem_map_of_mem (List.mem_range.mpr (by omega)), rfl,
          fun hKey => absurd (subjectKey_injective hKey) (by omega)⟩
      rw [hCandidates] at hFirst
      cases hFirst
  | cons oldest later =>
      -- all the receipts together are one too many
      have hRoom := h.newer [] oldest later hCandidates
        (pendingRows_stand oldest (oldest_mem hCandidates).1)
      rw [← hCandidates, withinReceiptBudget_receipts] at hRoom
      have hEntries := (withinReceiptBudget_iff.mp hRoom).1
      rw [pendingRows_entries] at hEntries
      exact absurd hEntries (Nat.lt_irrefl 256)

end Pressure

/-- Every cached receipt is within the limit of an entry. -/
def SmallReceipts (rows : List ConnectorInvocation) : Prop :=
  ∀ row ∈ rows, ∀ text ∈ row.responseJson, text.utf8ByteSize ≤ connectorReceiptMaxEntryBytes

section Room

variable {canonical : Json → Option String} {sha256 : String → String} {s : ConnectorStore}
  {rows : List ConnectorInvocation} {row : ConnectorInvocation} {key : InvocationKey}
  {nowEpoch : Int} {incoming : Nat} {receipt envelopeSha256 operationRef : String}

theorem receiptSize_of_small (h : SmallReceipts rows) :
    Table.total ConnectorInvocation.receiptSize rows ≤
      rows.length * connectorReceiptMaxEntryBytes := by
  induction rows with
  | nil => exact Nat.le_refl 0
  | cons row rest ih =>
      have hRest := ih fun other hOther => h other (List.mem_cons_of_mem row hOther)
      have hRow : row.receiptSize ≤ connectorReceiptMaxEntryBytes := by
        unfold ConnectorInvocation.receiptSize
        split
        · rename_i text hText
          exact h row List.mem_cons_self text hText
        · exact Nat.zero_le _
      rw [Table.total_cons, List.length_cons, Nat.succ_mul]
      omega

theorem receiptEntry_le_length (rows : List ConnectorInvocation) :
    Table.total ConnectorInvocation.receiptEntry rows ≤ rows.length := by
  induction rows with
  | nil => exact Nat.le_refl 0
  | cons row rest ih =>
      have hRow : row.receiptEntry ≤ 1 := by
        unfold ConnectorInvocation.receiptEntry
        split <;> omega
      rw [Table.total_cons, List.length_cons]
      omega

/-- A ledger of few rows has room for one more receipt. -/
theorem within_of_few (hSmall : SmallReceipts rows) (hFew : rows.length < 256)
    (hIncoming : incoming ≤ connectorReceiptMaxEntryBytes) :
    withinReceiptBudget incoming rows = true := by
  have hEntries := receiptEntry_le_length rows
  have hBytes := receiptSize_of_small hSmall
  unfold connectorReceiptMaxEntryBytes at hBytes hIncoming
  apply withinReceiptBudget_iff.mpr
  unfold connectorReceiptMaxEntries connectorReceiptMaxBytes
  omega

/-- There nothing is trimmed. -/
theorem admit_of_few (hLive : ∀ row ∈ rows, row.unexpired nowEpoch = true)
    (hSmall : SmallReceipts rows) (hFew : rows.length < 256)
    (hReceipt : receipt.utf8ByteSize ≤ connectorReceiptMaxEntryBytes) :
    admitReceipt nowEpoch key receipt rows = (some receipt, rows) := by
  have hWithin := within_of_few hSmall hFew hReceipt
  have hPrune : pruneInvocations nowEpoch rows = rows := by
    apply Table.deleteWhere_of_none
    intro row hRow
    simpa [ConnectorInvocation.unexpired] using hLive row hRow
  have hTrim : trimConnectorReceipts nowEpoch receipt.utf8ByteSize key rows = rows := by
    unfold trimConnectorReceipts
    rw [hPrune]
    exact forgetReceipts_of_within hWithin
  unfold admitReceipt
  simp only [hTrim, hWithin, if_true]

/-- A completion there keeps the receipt exactly if it is small. -/
theorem complete_of_few {state : InvocationState} {response : JsonObject} {encoded : String}
    {ref : Option String} {responseStatus : Nat}
    (hStatus : (decide (200 ≤ responseStatus) && decide (responseStatus ≤ 599)) = true)
    (hLive : ∀ row ∈ s.invocations, row.unexpired nowEpoch = true)
    (hSmall : SmallReceipts s.invocations) (hFew : s.invocations.length < 256)
    (hFind : s.invocations.find? (ConnectorInvocation.isReservation key envelopeSha256) = some row)
    (hEncoded : canonical (.obj response) = some encoded)
    (hReceipt : compactConnectorReceipt canonical response (sha256 encoded) ref state
      (!row.signed.isMutating && (state == .succeeded || state == .failed)) = .ok receipt) :
    completeConnectorInvocation canonical sha256 key envelopeSha256 state (some response) ref
      responseStatus nowEpoch s = .ok ((), { s with
        invocations := Table.updateWhere (ConnectorInvocation.isReservation key envelopeSha256)
          (ConnectorInvocation.completed state ref responseStatus nowEpoch
            (if receipt.utf8ByteSize ≤ connectorReceiptMaxEntryBytes then some receipt else none))
          s.invocations }) := by
  unfold completeConnectorInvocation
  rw [bind_of_ok (require_of_true hStatus _ _), fetch_bind]
  simp only [hFind]
  by_cases hSize : receipt.utf8ByteSize ≤ connectorReceiptMaxEntryBytes
  · apply (bind_of_ok (a := some receipt) (t := s) ?_).trans
    · simp only [admit_of_few hLive hSmall hFew hSize, if_pos hSize]
      rfl
    · simp [hEncoded, hReceipt, hSize]
  · apply (bind_of_ok (a := none) (t := s) ?_).trans
    · simp only [if_neg hSize]
      rfl
    · simp [hEncoded, hReceipt, hSize]

/-- A row settled there keeps its receipt. -/
theorem settle_of_few {terminalState : InvocationState}
    (hLive : ∀ row ∈ s.invocations, row.unexpired nowEpoch = true)
    (hSmall : SmallReceipts s.invocations) (hFew : s.invocations.length < 256)
    (hReceipt : reconciledReceipt canonical row.key.requestId operationRef terminalState =
      .ok receipt)
    (hSize : receipt.utf8ByteSize ≤ connectorReceiptMaxEntryBytes) :
    settleInvocations canonical operationRef terminalState nowEpoch [row] s =
      .ok ((), { s with
        invocations := Table.updateWhere
          (ConnectorInvocation.isReservation row.key row.signed.envelopeSha256)
          (ConnectorInvocation.reconciled terminalState nowEpoch (some receipt))
          s.invocations }) := by
  unfold settleInvocations
  rw [fetch_bind]
  simp only [hReceipt, admit_of_few hLive hSmall hFew hSize]
  rw [setInvocations, store_bind]
  rfl

end Room

end CyreneExchange.Integrations
