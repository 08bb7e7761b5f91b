import CyreneExchange.General.Machine
import CyreneExchange.Integrations.Connector.Store

/-! The registry of one-use connector grants, under any interleaving of
registrations and consumptions and a clock that never runs back. It keeps a
consumed grant until the expiry it was registered with; who registers the
reference again with a later one gets a second use. -/
namespace CyreneExchange.Integrations

open Machine

/-- One call of the grant registry. -/
inductive GrantCall where
  | register (grantRef encodedSha256 : String) (expiresAt nowEpoch : Int)
  | consume (grantRef encodedSha256 : String) (nowEpoch : Int)
deriving DecidableEq, Repr

def GrantCall.nowEpoch : GrantCall → Int
  | .register _ _ _ nowEpoch => nowEpoch
  | .consume _ _ nowEpoch => nowEpoch

/-- Run one call in its own transaction. -/
def performGrant : GrantCall → ConnectorStore → Bool × ConnectorStore
  | .register grantRef encodedSha256 expiresAt nowEpoch, s =>
      registerConnectorGrant grantRef encodedSha256 expiresAt nowEpoch s
  | .consume grantRef encodedSha256 nowEpoch, s =>
      consumeConnectorGrant grantRef encodedSha256 nowEpoch s

/-- A registration of this reference carries this expiry. -/
def GrantCall.Keeps (grantRef : String) (expiry : Int) : GrantCall → Prop
  | .register ref _ expiresAt _ => ref = grantRef → expiresAt = expiry
  | .consume .. => True

instance (grantRef : String) (expiry : Int) (call : GrantCall) :
    Decidable (call.Keeps grantRef expiry) :=
  match call with
  | .register ref _ expiresAt _ =>
      inferInstanceAs (Decidable (ref = grantRef → expiresAt = expiry))
  | .consume .. => .isTrue trivial

/-- Grant references are a primary key. -/
def ConnectorStore.GrantsKeyed (s : ConnectorStore) : Prop :=
  Table.KeysUnique GrantReplay.grantRef s.grantReplays

/-- The rows of this grant carry this expiry. -/
def ConnectorStore.GrantExpires (grantRef : String) (expiry : Int) (s : ConnectorStore) : Prop :=
  ∀ row ∈ s.grantReplays, row.grantRef = grantRef → row.expiresAt = expiry

abbrev GrantEvent := Event ConnectorStore GrantCall Bool

/-- The call answered that the grant was consumed. -/
def GrantEvent.consumed (grantRef : String) (e : GrantEvent) : Bool :=
  e.output && match e.input with
    | .consume ref _ _ => ref == grantRef
    | .register .. => false

/-- The call registered this encoding of the grant until this expiry. -/
def GrantEvent.registered (grantRef encodedSha256 : String) (expiresAt : Int) (e : GrantEvent) :
    Prop :=
  e.output = true ∧ ∃ nowEpoch, e.input = .register grantRef encodedSha256 expiresAt nowEpoch

/-- The row of this grant with this expiry has been consumed. -/
def ConnectorStore.Spent (grantRef : String) (expiresAt : Int) (s : ConnectorStore) : Prop :=
  ∃ row ∈ s.grantReplays, row.grantRef = grantRef ∧ row.expiresAt = expiresAt ∧
    row.consumedAt.isSome

/-- A row of this grant with this encoding and expiry. -/
def ConnectorStore.Holds (grantRef encodedSha256 : String) (expiresAt : Int)
    (s : ConnectorStore) : Prop :=
  ∃ row ∈ s.grantReplays, row.grantRef = grantRef ∧ row.encodedSha256 = encodedSha256 ∧
    row.expiresAt = expiresAt

section Calls

variable {s : ConnectorStore} {grantRef encodedSha256 : String} {expiresAt nowEpoch : Int}
  {row : GrantReplay} {call : GrantCall} {expiry : Int}

/-- The rows that outlive a pruning. -/
def ConnectorStore.live (nowEpoch : Int) (s : ConnectorStore) : List GrantReplay :=
  Table.deleteWhere (fun row => decide (row.expiresAt ≤ nowEpoch)) s.grantReplays

theorem mem_live : row ∈ s.live nowEpoch ↔ row ∈ s.grantReplays ∧ nowEpoch < row.expiresAt := by
  unfold ConnectorStore.live
  rw [Table.mem_deleteWhere]
  simp

/-- A registration keeps the rows, prunes them, or adds a new reference. -/
theorem register_rows :
    let after := (registerConnectorGrant grantRef encodedSha256 expiresAt nowEpoch s).2
    let answer := (registerConnectorGrant grantRef encodedSha256 expiresAt nowEpoch s).1
    (answer = false ∧ (after.grantReplays = s.grantReplays ∨
        after.grantReplays = s.live nowEpoch)) ∨
      (answer = true ∧ nowEpoch < expiresAt ∧ (∀ row ∈ s.live nowEpoch, row.grantRef ≠ grantRef) ∧
        after.grantReplays = s.live nowEpoch ++ [⟨grantRef, encodedSha256, expiresAt, none⟩]) := by
  unfold registerConnectorGrant
  split
  · exact Or.inl ⟨rfl, Or.inl rfl⟩
  · rename_i hValid
    simp only []
    split
    · exact Or.inl ⟨rfl, Or.inr rfl⟩
    · rename_i hRoom
      refine Or.inr ⟨rfl, by omega, ?_, rfl⟩
      intro row hRow hRef
      exact hRoom (Or.inr (List.any_eq_true.mpr ⟨row, hRow, beq_iff_eq.mpr hRef⟩))

/-- A consumption keeps the rows, or prunes them and marks the selected ones. -/
theorem consume_rows :
    let after := (consumeConnectorGrant grantRef encodedSha256 nowEpoch s).2
    let answer := (consumeConnectorGrant grantRef encodedSha256 nowEpoch s).1
    (answer = false ∧ after.grantReplays = s.grantReplays) ∨
      (answer = ((s.live nowEpoch).countP
          (GrantReplay.consumable grantRef encodedSha256 nowEpoch) == 1) ∧
        after.grantReplays = Table.updateWhere
          (GrantReplay.consumable grantRef encodedSha256 nowEpoch)
          (fun row => { row with consumedAt := some nowEpoch }) (s.live nowEpoch)) := by
  unfold consumeConnectorGrant
  split
  · exact Or.inl ⟨rfl, rfl⟩
  · exact Or.inr ⟨rfl, rfl⟩

theorem GrantReplay.consumable_iff :
    row.consumable grantRef encodedSha256 nowEpoch = true ↔ row.grantRef = grantRef ∧
      row.encodedSha256 = encodedSha256 ∧ nowEpoch < row.expiresAt ∧ row.consumedAt = none := by
  simp [GrantReplay.consumable, and_assoc]

/-- A row after a call is a row of the same grant before it, pruned rows and
the consumption mark apart, or was just registered. -/
theorem performGrant_origin (hRow : row ∈ (performGrant call s).2.grantReplays) :
    (∃ r ∈ s.grantReplays, r.grantRef = row.grantRef ∧ r.encodedSha256 = row.encodedSha256 ∧
        r.expiresAt = row.expiresAt) ∨
      ((performGrant call s).1 = true ∧ ∃ nowEpoch,
        call = .register row.grantRef row.encodedSha256 row.expiresAt nowEpoch) := by
  cases call with
  | register grantRef encodedSha256 expiresAt nowEpoch =>
      simp only [performGrant] at hRow ⊢
      rcases register_rows (s := s) with ⟨_, hKept | hPruned⟩ | ⟨hAnswer, _, _, hAdded⟩
      · rw [hKept] at hRow
        exact Or.inl ⟨row, hRow, rfl, rfl, rfl⟩
      · rw [hPruned] at hRow
        exact Or.inl ⟨row, (mem_live.mp hRow).1, rfl, rfl, rfl⟩
      · rw [hAdded] at hRow
        rcases List.mem_append.mp hRow with hOld | hNew
        · exact Or.inl ⟨row, (mem_live.mp hOld).1, rfl, rfl, rfl⟩
        · rw [List.mem_singleton.mp hNew]
          exact Or.inr ⟨hAnswer, nowEpoch, rfl⟩
  | consume grantRef encodedSha256 nowEpoch =>
      simp only [performGrant] at hRow ⊢
      rcases consume_rows (s := s) with ⟨_, hKept⟩ | ⟨_, hMarked⟩
      · rw [hKept] at hRow
        exact Or.inl ⟨row, hRow, rfl, rfl, rfl⟩
      · rw [hMarked] at hRow
        obtain ⟨r, hr, ⟨_, rfl⟩ | ⟨_, rfl⟩⟩ := Table.mem_updateWhere.mp hRow
        · exact Or.inl ⟨r, (mem_live.mp hr).1, rfl, rfl, rfl⟩
        · exact Or.inl ⟨row, (mem_live.mp hr).1, rfl, rfl, rfl⟩

theorem performGrant_keyed (h : s.GrantsKeyed) : (performGrant call s).2.GrantsKeyed := by
  have hLive : ∀ {nowEpoch}, Table.KeysUnique GrantReplay.grantRef (s.live nowEpoch) :=
    fun {_} => Table.KeysUnique.deleteWhere h
  unfold ConnectorStore.GrantsKeyed at h ⊢
  cases call with
  | register grantRef encodedSha256 expiresAt nowEpoch =>
      simp only [performGrant]
      rcases register_rows (s := s) with ⟨_, hKept | hPruned⟩ | ⟨_, _, hNew, hAdded⟩
      · rwa [hKept]
      · rw [hPruned]
        exact hLive
      · rw [hAdded]
        exact hLive.append_singleton hNew
  | consume grantRef encodedSha256 nowEpoch =>
      simp only [performGrant]
      rcases consume_rows (s := s) with ⟨_, hKept⟩ | ⟨_, hMarked⟩
      · rwa [hKept]
      · rw [hMarked]
        exact hLive.updateWhere fun _ _ _ => rfl

theorem performGrant_expires (hKeeps : call.Keeps grantRef expiry)
    (h : s.GrantExpires grantRef expiry) :
    (performGrant call s).2.GrantExpires grantRef expiry := by
  intro row hRow hRowRef
  rcases performGrant_origin hRow with ⟨r, hr, hRef, _, hExpiry⟩ | ⟨_, nowEpoch, rfl⟩
  · rw [← hExpiry]
    exact h r hr (hRef.trans hRowRef)
  · exact hKeeps hRowRef

/-- A consumed row stays until its expiry. -/
theorem performGrant_spent (h : s.Spent grantRef expiresAt) (hBefore : call.nowEpoch < expiresAt) :
    (performGrant call s).2.Spent grantRef expiresAt := by
  obtain ⟨row, hRow, hRef, hExpiry, hConsumed⟩ := h
  suffices hKept : row ∈ (performGrant call s).2.grantReplays from
    ⟨row, hKept, hRef, hExpiry, hConsumed⟩
  have hLive : row ∈ s.live call.nowEpoch := mem_live.mpr ⟨hRow, by omega⟩
  cases call with
  | register ref encodedSha256 until' nowEpoch =>
      simp only [performGrant]
      rcases register_rows (s := s) with ⟨_, hKept | hPruned⟩ | ⟨_, _, _, hAdded⟩
      · rwa [hKept]
      · rwa [hPruned]
      · rw [hAdded]
        exact List.mem_append_left _ hLive
  | consume ref encodedSha256 nowEpoch =>
      simp only [performGrant]
      rcases consume_rows (s := s) with ⟨_, hKept⟩ | ⟨_, hMarked⟩
      · rwa [hKept]
      · rw [hMarked]
        apply Table.mem_updateWhere_of_neg hLive
        rw [Bool.eq_false_iff]
        intro hConsumable
        rw [(GrantReplay.consumable_iff.mp hConsumable).2.2.2] at hConsumed
        cases hConsumed

/-- A call that consumes a grant found its one row unconsumed, and marked it. -/
theorem consumed_row (hConsumed : GrantEvent.consumed grantRef
      ⟨s, call, (performGrant call s).1, (performGrant call s).2⟩ = true) :
    ∃ encodedSha256, call = .consume grantRef encodedSha256 call.nowEpoch ∧
      ∃ row ∈ s.grantReplays, row.grantRef = grantRef ∧ row.encodedSha256 = encodedSha256 ∧
        call.nowEpoch < row.expiresAt ∧ row.consumedAt = none ∧
        (performGrant call s).2.Spent grantRef row.expiresAt := by
  cases call with
  | register ref encodedSha256 until' nowEpoch =>
      simp [GrantEvent.consumed] at hConsumed
  | consume ref encodedSha256 nowEpoch =>
      simp only [GrantEvent.consumed, Bool.and_eq_true, beq_iff_eq] at hConsumed
      obtain ⟨hAnswer, rfl⟩ := hConsumed
      refine ⟨encodedSha256, rfl, ?_⟩
      simp only [performGrant] at hAnswer ⊢
      rcases consume_rows (s := s) with ⟨hRefused, _⟩ | ⟨hCount, hMarked⟩
      · rw [hRefused] at hAnswer
        cases hAnswer
      · rw [hCount, beq_iff_eq] at hAnswer
        obtain ⟨row, hRow, hConsumable⟩ := List.countP_pos_iff.mp (by rw [hAnswer]; exact one_pos)
        obtain ⟨hRef, hEncoded, hBefore, hOpen⟩ := GrantReplay.consumable_iff.mp hConsumable
        refine ⟨row, (mem_live.mp hRow).1, hRef, hEncoded, hBefore, hOpen, ?_⟩
        refine ⟨{ row with consumedAt := some nowEpoch }, ?_, hRef, rfl, rfl⟩
        rw [hMarked]
        exact Table.mem_updateWhere_of_pos hRow hConsumable

/-- A consumed grant is not consumed again while its row stands. -/
theorem not_spent_of_consumed (h : s.GrantsKeyed) (hConsumed : GrantEvent.consumed grantRef
    ⟨s, call, (performGrant call s).1, (performGrant call s).2⟩ = true) :
    ¬ s.Spent grantRef expiresAt := by
  rintro ⟨spent, hSpent, hSpentRef, _, hMark⟩
  obtain ⟨_, _, row, hRow, hRef, _, _, hOpen, _⟩ := consumed_row hConsumed
  rw [h.eq hSpent hRow (hSpentRef.trans hRef.symm), hOpen] at hMark
  cases hMark

end Calls

section Runs

variable {calls : List GrantCall} {s : ConnectorStore} {grantRef : String}

theorem performGrant_preserves_keyed :
    Preserves performGrant (fun _ _ => True) ConnectorStore.GrantsKeyed :=
  fun _ _ h _ => performGrant_keyed h

theorem performGrant_preserves_expires (grantRef : String) (expiry : Int) :
    Preserves performGrant (fun _ call => call.Keeps grantRef expiry)
      fun s => s.GrantsKeyed ∧ s.GrantExpires grantRef expiry :=
  fun _ _ h hKeeps => ⟨performGrant_keyed h.1, performGrant_expires hKeeps h.2⟩

/-- Single use, by the deadline rule: the mark is the consumed row, the
deadline the one expiry of the reference. -/
theorem consumed_at_most_once (expiry : Int)
    (hKeeps : ∀ call ∈ calls, call.Keeps grantRef expiry)
    (hClock : calls.Pairwise fun c d => c.nowEpoch ≤ d.nowEpoch) :
    (trace performGrant calls {}).countP (GrantEvent.consumed grantRef) ≤ 1 := by
  refine countP_le_one_of_deadline (fun s => s.GrantsKeyed ∧ s.GrantExpires grantRef expiry)
    (ConnectorStore.Spent grantRef expiry) GrantCall.nowEpoch expiry
    (GrantEvent.consumed grantRef) (performGrant_preserves_expires grantRef expiry) ?_ ?_ ?_
    ⟨List.nodup_nil, fun _ hRow => nomatch hRow⟩
    (admitted_of_mem (fun call hCall _ => hKeeps call hCall) _) hClock
  · exact fun _ _ _ _ hSpent hBefore => performGrant_spent hSpent hBefore
  · intro s call h _ hConsumed
    obtain ⟨_, _, row, hRow, hRef, _, hBefore, _⟩ := consumed_row hConsumed
    rw [h.2 row hRow hRef] at hBefore
    exact ⟨hBefore, not_spent_of_consumed h.1 hConsumed⟩
  · intro s call h _ hConsumed
    obtain ⟨_, _, row, hRow, hRef, _, _, _, hSpent⟩ := consumed_row hConsumed
    rwa [h.2 row hRow hRef] at hSpent

/-- After a consumption nothing consumes the grant before that expiry, however
often the reference is pruned and registered again. -/
theorem not_consumed_before_expiry {expiresAt : Int} (hKeyed : s.GrantsKeyed)
    (hSpent : s.Spent grantRef expiresAt)
    (hClock : calls.Pairwise fun c d => c.nowEpoch ≤ d.nowEpoch) :
    ∀ e ∈ trace performGrant calls s, GrantEvent.consumed grantRef e = true →
      expiresAt ≤ e.input.nowEpoch := by
  have hNone := countP_eq_zero_of_marked ConnectorStore.GrantsKeyed
    (ConnectorStore.Spent grantRef expiresAt) GrantCall.nowEpoch expiresAt
    (fun e => GrantEvent.consumed grantRef e && decide (e.input.nowEpoch < expiresAt))
    performGrant_preserves_keyed
    (fun _ _ _ _ hSpent hBefore => performGrant_spent hSpent hBefore)
    (fun s call h _ hEvent => by
      simp only [Bool.and_eq_true, decide_eq_true_eq] at hEvent
      exact ⟨hEvent.2, not_spent_of_consumed h hEvent.1⟩)
    hKeyed (admitted_of_forall (fun _ _ => trivial) calls s) hClock (Or.inl hSpent)
  intro e he hConsumed
  have hNot := List.countP_eq_zero.mp hNone e he
  simp only [hConsumed, Bool.true_and, decide_eq_true_eq] at hNot
  omega

/-- A row of a reachable store was registered with its encoding and expiry. -/
theorem registered_of_holds {encodedSha256 : String} {expiresAt : Int}
    {earlier later : List GrantEvent} {e : GrantEvent}
    (hTrace : trace performGrant calls {} = earlier ++ e :: later)
    (hHolds : e.before.Holds grantRef encodedSha256 expiresAt) :
    ∃ r ∈ earlier, GrantEvent.registered grantRef encodedSha256 expiresAt r := by
  refine trace_cause (ConnectorStore.Holds grantRef encodedSha256 expiresAt)
    (GrantEvent.registered grantRef encodedSha256 expiresAt) ?_ ?_ hTrace hHolds
  · rintro s call hNot ⟨row, hRow, rfl, rfl, rfl⟩
    rcases performGrant_origin hRow with ⟨r, hr, hRef, hEncoded, hExpiry⟩ | ⟨hAnswer, hCall⟩
    · exact absurd ⟨r, hr, hRef, hEncoded, hExpiry⟩ hNot
    · exact ⟨hAnswer, hCall⟩
  · rintro ⟨row, hRow, _⟩
    cases hRow

end Runs

/-- A consumption presents the encoding and precedes the expiry that the grant
was registered with, and pruning it and registering it again makes it
consumable again no sooner than that expiry. -/
theorem consumption_of_registered (calls : List GrantCall)
    (hClock : calls.Pairwise fun c d => c.nowEpoch ≤ d.nowEpoch) (grantRef : String)
    {earlier later : List GrantEvent} {e : GrantEvent}
    (hTrace : trace performGrant calls {} = earlier ++ e :: later)
    (hConsumed : GrantEvent.consumed grantRef e = true) :
    ∃ encodedSha256 expiresAt nowEpoch, e.input = .consume grantRef encodedSha256 nowEpoch ∧
      nowEpoch < expiresAt ∧
      (∃ r ∈ earlier, GrantEvent.registered grantRef encodedSha256 expiresAt r) ∧
      ∀ f ∈ later, GrantEvent.consumed grantRef f = true → expiresAt ≤ f.input.nowEpoch := by
  have hEmpty : ConnectorStore.GrantsKeyed {} := List.nodup_nil
  obtain ⟨first, second, rfl, hEarlier, hRest⟩ := trace_eq_append hTrace
  cases second with
  | nil => cases hRest
  | cons call rest =>
      obtain ⟨rfl, hLater⟩ := List.cons.inj hRest
      have hKeyed : (run performGrant first {}).GrantsKeyed :=
        performGrant_preserves_keyed.run hEmpty (admitted_of_forall (fun _ _ => trivial) first _)
      obtain ⟨encodedSha256, hCall, row, hRow, hRef, hEncoded, hBefore, _, hSpent⟩ :=
        consumed_row hConsumed
      refine ⟨encodedSha256, row.expiresAt, call.nowEpoch, hCall, hBefore,
        registered_of_holds hTrace ⟨row, hRow, hRef, hEncoded, rfl⟩, ?_⟩
      rw [hLater]
      exact not_consumed_before_expiry (performGrant_keyed hKeyed) hSpent
        (List.pairwise_cons.mp (List.pairwise_append.mp hClock).2.1).2

end CyreneExchange.Integrations
