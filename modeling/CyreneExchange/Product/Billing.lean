import CyreneExchange.Product.Embeddings

/-! The audit recorder with a billing client. The ledger keeps the first
terminal outcome of a request; the client is sent what each callback says. -/
namespace CyreneExchange.Product

open Gateway (Str RequestMetadata ProviderUsage Raise ObserverCall)
open Machine Transaction

section Recorder

/-- `RequestAuditTerminalStatus`. -/
inductive TerminalStatus where
  | completed
  | failed
  | cancelled
deriving DecidableEq, Repr

def TerminalStatus.text : TerminalStatus → Str
  | .completed => Gateway.text "completed"
  | .failed => Gateway.text "failed"
  | .cancelled => Gateway.text "cancelled"

/-- The value that the status column takes. -/
def TerminalStatus.column : TerminalStatus → RequestAuditStatus
  | .completed => .completed
  | .failed => .failed
  | .cancelled => .cancelled

theorem TerminalStatus.ofText_text (status : TerminalStatus) :
    RequestAuditStatus.ofText status.text = some status.column := by
  cases status <;> simp [TerminalStatus.text, TerminalStatus.column, RequestAuditStatus.ofText]

/-- One content-free terminal usage event. -/
structure TokenUsageEvent where
  requestId : Str
  tenantId : Str
  workspaceId : Str
  model : Str
  requestStatus : TerminalStatus
  promptTokens : Option Nat
  completionTokens : Option Nat
  totalTokens : Option Nat
  usageSource : Str
deriving DecidableEq

/-- `observed_token_usage_event`: only where a token fact exists. -/
def observedTokenUsageEvent (metadata : RequestMetadata) (status : TerminalStatus)
    (usage : Option ProviderUsage) : Option TokenUsageEvent :=
  match usage with
  | none => none
  | some usage =>
      if usage.toOpenaiDict.nonempty then
        some {
          requestId := metadata.requestId
          tenantId := metadata.principal.actorId
          workspaceId := metadata.principal.workspaceId
          model := metadata.model
          requestStatus := status
          promptTokens := usage.promptTokens
          completionTokens := usage.completionTokens
          totalTokens := usage.totalTokens
          usageSource := usage.source }
      else none

/-- A call of the observer. -/
inductive AuditCallback where
  | started (metadata : RequestMetadata)
  | finished (metadata : RequestMetadata) (status : TerminalStatus) (usage : Option ProviderUsage)
      (errorType : Option Str)
  | rejected (rejection : Gateway.Rejection)

def AuditCallback.call : AuditCallback → ObserverCall
  | .started metadata => .started metadata
  | .finished metadata status usage errorType => .finished metadata status.text usage errorType
  | .rejected rejection => .rejected rejection

/-- The usage event a callback gives rise to. -/
def AuditCallback.usageEvent : AuditCallback → Option TokenUsageEvent
  | .finished metadata status usage _ => observedTokenUsageEvent metadata status usage
  | .started _ | .rejected _ => none

/-- A callback with the clock readings and the answers of the activity source
and of the billing client. -/
structure Delivery where
  callback : AuditCallback
  moment : ReportMoment
  activity : Option ActivitySource := none
  billingFails : Option Raise := none

/-- The ledger and what the billing client was sent. -/
structure BilledStore where
  store : ExchangeStore := {}
  published : List TokenUsageEvent := []

/-- `RequestAuditRecorder` with a billing client, or without one. -/
def deliver (host : Host) (billing : Bool) (delivery : Delivery) (s : BilledStore) :
    Option Raise × BilledStore :=
  match recordReport host delivery.activity delivery.moment delivery.callback.call s.store with
  | (some e, t) => (some e, { s with store := t })
  | (none, t) =>
      match delivery.callback.usageEvent with
      | some event =>
          if billing then (delivery.billingFails, ⟨t, s.published ++ [event]⟩)
          else (none, { s with store := t })
      | none => (none, { s with store := t })

end Recorder

/-- The row says what the event says. -/
structure AuditRow.Bills (row : AuditRow) (event : TokenUsageEvent) : Prop where
  status : row.status = event.requestStatus.column
  promptTokens : row.promptTokens = event.promptTokens
  completionTokens : row.completionTokens = event.completionTokens
  totalTokens : row.totalTokens = event.totalTokens
  usageSource : row.usageSource = some event.usageSource

/-- The billing client was sent at most one event for each request, and what
the row of the request says. -/
structure BillingAgrees (s : BilledStore) : Prop where
  committed : ∀ event ∈ s.published, ∃ row ∈ s.store.requestAudits,
    row.requestId = event.requestId ∧ row.Bills event
  once : (s.published.map TokenUsageEvent.requestId).Nodup

/-- A callback with a usage event finds the row of its request STARTED. -/
def Delivery.Timely (billing : Bool) (s : BilledStore) (delivery : Delivery) : Prop :=
  billing = true → ∀ event, delivery.callback.usageEvent = some event →
    ∀ row ∈ s.store.requestAudits, row.requestId = event.requestId → row.status = .started

/-- The activity source does not fail after a completion was persisted. -/
def Delivery.Completes (delivery : Delivery) : Prop :=
  ∀ activity, delivery.activity = some activity → ∀ requestId, activity.completed requestId = none

section Recorded

variable {host : Host} {activity : Option ActivitySource} {moment : ReportMoment}
  {call : ObserverCall} {s : ExchangeStore} {row : AuditRow}

/-- A report makes its store call or none. -/
theorem recordReport_store (host : Host) (activity : Option ActivitySource)
    (moment : ReportMoment) (call : ObserverCall) (s : ExchangeStore) :
    (recordReport host activity moment call s).2 = s ∨
      (recordReport host activity moment call s).2 =
        (storeStep host (.operator (reportCall moment call)) s).2 := by
  have hPersist : ∀ call : ObserverCall, (persist host moment call s).2 =
      (storeStep host (.operator (reportCall moment call)) s).2 := by
    intro call
    unfold persist
    rcases storeStep host (.operator (reportCall moment call)) s with ⟨_ | _, t⟩ <;> rfl
  cases activity with
  | none => exact Or.inr (hPersist call)
  | some activity =>
      cases call with
      | rejected rejection => exact Or.inr (hPersist (.rejected rejection))
      | started metadata =>
          have hStored := hPersist (.started metadata)
          unfold recordReport
          dsimp only
          cases activity.refuses metadata.requestId with
          | some e => exact Or.inl rfl
          | none =>
              right
              rw [← hStored]
              rcases persist host moment (.started metadata) s with ⟨_ | _, t⟩ <;> rfl
      | finished metadata status usage errorType =>
          right
          rw [← hPersist (.finished metadata status usage errorType)]
          unfold recordReport
          dsimp only
          rcases persist host moment (.finished metadata status usage errorType) s with
            ⟨_ | _, t⟩ <;> rfl

theorem recordReport_unique (hUnique : UniqueAudits s) :
    UniqueAudits (recordReport host activity moment call s).2 := by
  rcases recordReport_store host activity moment call s with h | h
  · rw [h]
    exact hUnique
  · rw [h]
    exact storeStep_uniqueAudits host s _ hUnique trivial

theorem recordReport_settled (hRow : row ∈ s.requestAudits) (hSettled : row.status ≠ .started) :
    row ∈ (recordReport host activity moment call s).2.requestAudits := by
  rcases recordReport_store host activity moment call s with h | h
  · rw [h]
    exact hRow
  · rw [h]
    exact storeStep_settled hRow hSettled

theorem persist_eq_none {t : ExchangeStore} (h : persist host moment call s = (none, t)) :
    ∃ answer, storeBody host (.operator (reportCall moment call)) s = .ok (answer, t) := by
  unfold persist at h
  rcases commit_cases (storeBody host (.operator (reportCall moment call))) s with
    ⟨answer, u, hBody, hCommit⟩ | ⟨failure, -, hCommit⟩
  · rw [storeStep, hCommit] at h
    cases h
    exact ⟨answer, hBody⟩
  · rw [storeStep, hCommit] at h
    cases h

theorem persist_eq_some {e : Raise} {t : ExchangeStore}
    (h : persist host moment call s = (some e, t)) : t = s := by
  unfold persist at h
  rcases commit_cases (storeBody host (.operator (reportCall moment call))) s with
    ⟨answer, u, -, hCommit⟩ | ⟨failure, -, hCommit⟩
  · rw [storeStep, hCommit] at h
    cases h
  · rw [storeStep, hCommit] at h
    cases h
    rfl

/-- An accepted finish found the row of its request, settled or STARTED. -/
theorem recordReport_finished {metadata : RequestMetadata} {status : TerminalStatus}
    {usage : Option ProviderUsage} {errorType : Option Str}
    (h : (recordReport host activity moment (.finished metadata status.text usage errorType)
      s).1 = none) :
    ∃ row ∈ s.requestAudits, row.requestId = metadata.requestId ∧
      (row.status = .started → row.finished status.column usage errorType moment.now ∈
        (recordReport host activity moment (.finished metadata status.text usage errorType)
          s).2.requestAudits) := by
  have hPersist : ∃ t, persist host moment (.finished metadata status.text usage errorType) s =
      (none, t) ∧ (recordReport host activity moment (.finished metadata status.text usage errorType)
        s).2 = t := by
    rcases hCall : persist host moment (.finished metadata status.text usage errorType) s with
      ⟨_ | e, t⟩
    · refine ⟨t, rfl, ?_⟩
      cases activity <;> simp only [recordReport, hCall]
    · cases activity <;> simp only [recordReport, hCall] at h <;> cases h
  obtain ⟨t, hNone, hReached⟩ := hPersist
  obtain ⟨answer, hBody⟩ := persist_eq_none hNone
  obtain ⟨_, u, hFinish, hPure⟩ := bind_eq_ok.mp hBody
  cases hPure
  have hFound : ∀ row, s.findAudit metadata.requestId = some row →
      row ∈ s.requestAudits ∧ row.requestId = metadata.requestId := by
    intro row hRow
    exact ⟨List.mem_of_find?_eq_some hRow, by simpa using List.find?_some hRow⟩
  rw [hReached]
  rcases finishRequest_eq_ok hFinish with
    ⟨-, row, hRow, hSettled⟩ | ⟨⟨row, hRow, hStarted⟩, outcome, hOutcome, rfl⟩
  · obtain ⟨hMem, hId⟩ := hFound row hRow
    exact ⟨row, hMem, hId, fun hStarted => absurd hStarted hSettled⟩
  · obtain ⟨hMem, hId⟩ := hFound row hRow
    refine ⟨row, hMem, hId, fun _ => ?_⟩
    have hColumn : outcome = status.column := by
      rw [status.ofText_text] at hOutcome
      exact (Option.some.inj hOutcome).symm
    rw [← hColumn]
    exact Table.mem_updateWhere_of_pos hMem (by simp [hId, hStarted])

/-- A row without token facts. -/
def AuditRow.Factless (row : AuditRow) : Prop :=
  row.promptTokens = none ∧ row.completionTokens = none ∧ row.totalTokens = none

theorem storable_head {text : Option Str} {texts : List (Option Str)}
    (h : storable (text :: texts) = true) : storable [text] = true := by
  simp only [storable, List.all_cons, Bool.and_eq_true] at h ⊢
  exact ⟨h.1, rfl⟩

/-- Where the rows after a report come from. -/
theorem mem_storeStep {row' : AuditRow}
    (h : row' ∈ (storeStep host (.operator (reportCall moment call)) s).2.requestAudits) :
    row' ∈ s.requestAudits ∨ (row'.Factless ∧ storable [some row'.requestId] = true) ∨
      ∃ metadata status usage errorType outcome, ∃ row ∈ s.requestAudits,
        call = .finished metadata status usage errorType ∧ row.requestId = metadata.requestId ∧
          row' = row.finished outcome usage errorType moment.now := by
  rcases commit_cases (storeBody host (.operator (reportCall moment call))) s with
    ⟨answer, t, hBody, hCommit⟩ | ⟨failure, -, hCommit⟩
  · rw [storeStep, hCommit] at h
    cases call with
    | started metadata =>
        obtain ⟨_, _, hBegin, hPure⟩ := bind_eq_ok.mp hBody
        obtain ⟨_, _, hStorable, -⟩ := bind_eq_ok.mp hBegin
        obtain ⟨-, rfl⟩ := beginRequest_eq_ok hBegin
        cases hPure
        rcases List.mem_append.mp h with hOld | hNew
        · exact Or.inl hOld
        · rw [List.mem_singleton.mp hNew]
          exact Or.inr (Or.inl ⟨⟨rfl, rfl, rfl⟩, storable_head (require_eq_ok.mp hStorable).1⟩)
    | rejected rejection =>
        obtain ⟨_, _, hRecord, hPure⟩ := bind_eq_ok.mp hBody
        obtain ⟨_, _, hStorable, -⟩ := bind_eq_ok.mp hRecord
        cases hPure
        rcases recordRejection_eq_ok hRecord with ⟨rfl, -⟩ | ⟨-, status, -, rfl⟩
        · exact Or.inl h
        · rcases List.mem_append.mp h with hOld | hNew
          · exact Or.inl hOld
          · rw [List.mem_singleton.mp hNew]
            exact Or.inr (Or.inl ⟨⟨rfl, rfl, rfl⟩, storable_head (require_eq_ok.mp hStorable).1⟩)
    | finished metadata status usage errorType =>
        obtain ⟨_, _, hFinish, hPure⟩ := bind_eq_ok.mp hBody
        cases hPure
        rcases finishRequest_eq_ok hFinish with ⟨rfl, -⟩ | ⟨-, outcome, -, rfl⟩
        · exact Or.inl h
        · obtain ⟨row, hRow, ⟨hSelected, rfl⟩ | ⟨_, rfl⟩⟩ := Table.mem_updateWhere.mp h
          · simp only [Bool.and_eq_true, decide_eq_true_eq] at hSelected
            exact Or.inr (Or.inr ⟨metadata, status, usage, errorType, outcome, row, hRow, rfl,
              hSelected.1, rfl⟩)
          · exact Or.inl hRow
  · rw [storeStep, hCommit] at h
    exact Or.inl h

/-- A finish whose row is settled is accepted and changes nothing. -/
theorem persist_of_settled {metadata : RequestMetadata} {status : Str}
    {usage : Option ProviderUsage} {errorType : Option Str} (hUnique : UniqueAudits s)
    (hStorable : storable [some metadata.requestId] = true) (hRow : row ∈ s.requestAudits)
    (hId : row.requestId = metadata.requestId) (hSettled : row.status ≠ .started) :
    persist host moment (.finished metadata status usage errorType) s = (none, s) := by
  have hFind : s.findAudit metadata.requestId = some row :=
    (hUnique.find_eq_some metadata.requestId).mpr ⟨hRow, hId⟩
  have hFinish : finishRequest metadata status usage errorType moment.now s = .ok ((), s) := by
    refine (bind_of_ok (require_of_true hStorable _ s)).trans ?_
    rw [fetch_bind, hFind]
    exact congrFun (if_pos hSettled) s
  exact persist_of_ok (.finished metadata status usage errorType)
    (bind_of_ok (f := fun _ => pure StoreAnswer.done) hFinish)

/-- With an activity source that completes, a finish is answered as the ledger
answers it. -/
theorem recordReport_of_completes {metadata : RequestMetadata} {status : Str}
    {usage : Option ProviderUsage} {errorType : Option Str}
    (hCompletes : ∀ source, activity = some source → ∀ requestId, source.completed requestId = none) :
    recordReport host activity moment (.finished metadata status usage errorType) s =
      persist host moment (.finished metadata status usage errorType) s := by
  cases activity with
  | none => rfl
  | some source =>
      unfold recordReport
      dsimp only
      rcases persist host moment (.finished metadata status usage errorType) s with ⟨_ | e, t⟩
      · rw [hCompletes source rfl]
      · rfl

end Recorded

theorem observedTokenUsageEvent_eq_some {metadata : RequestMetadata} {status : TerminalStatus}
    {usage : Option ProviderUsage} {event : TokenUsageEvent}
    (h : observedTokenUsageEvent metadata status usage = some event) :
    event.requestId = metadata.requestId ∧ event.requestStatus = status ∧
      ∃ facts, usage = some facts ∧ facts.toOpenaiDict.nonempty = true ∧
        event.promptTokens = facts.promptTokens ∧
        event.completionTokens = facts.completionTokens ∧
        event.totalTokens = facts.totalTokens ∧ event.usageSource = facts.source := by
  unfold observedTokenUsageEvent at h
  cases usage with
  | none => cases h
  | some facts =>
      dsimp only at h
      split at h
      · next hFacts =>
        cases h
        exact ⟨rfl, rfl, facts, rfl, hFacts, rfl, rfl, rfl, rfl⟩
      · cases h

/-- A finished row without an event to bill has no token fact. -/
theorem factless_finished {metadata : RequestMetadata} {status : TerminalStatus}
    {usage : Option ProviderUsage} {row : AuditRow} {outcome : RequestAuditStatus}
    {errorType : Option Str} {now : Int}
    (h : observedTokenUsageEvent metadata status usage = none) :
    (row.finished outcome usage errorType now).Factless := by
  cases usage with
  | none => exact ⟨rfl, rfl, rfl⟩
  | some facts =>
      have hEmpty : ¬ facts.toOpenaiDict.nonempty = true := by
        intro hFacts
        simp [observedTokenUsageEvent, hFacts] at h
      rw [ProviderUsage.nonempty_toOpenaiDict] at hEmpty
      simpa [AuditRow.Factless, AuditRow.finished, not_or] using hEmpty

section Deliver

variable {host : Host} {billing : Bool} {delivery : Delivery} {s : BilledStore}

/-- The recorder's store after a callback. -/
theorem deliver_store : (deliver host billing delivery s).2.store =
    (recordReport host delivery.activity delivery.moment delivery.callback.call s.store).2 := by
  unfold deliver
  rcases recordReport host delivery.activity delivery.moment delivery.callback.call s.store with
    ⟨_ | e, t⟩
  · dsimp only
    cases delivery.callback.usageEvent with
    | none => rfl
    | some event => cases billing <;> rfl
  · rfl

/-- Nothing is sent, or the event of a recorded finish. -/
theorem deliver_published :
    (deliver host billing delivery s).2.published = s.published ∨
      ∃ metadata status usage errorType event,
        delivery.callback = .finished metadata status usage errorType ∧
        observedTokenUsageEvent metadata status usage = some event ∧ billing = true ∧
        (recordReport host delivery.activity delivery.moment
          (.finished metadata status.text usage errorType) s.store).1 = none ∧
        (deliver host billing delivery s).2.published = s.published ++ [event] := by
  cases hCallback : delivery.callback with
  | started metadata =>
      left
      unfold deliver
      rw [hCallback]
      rcases recordReport host delivery.activity delivery.moment _ s.store with ⟨_ | e, t⟩ <;> rfl
  | rejected rejection =>
      left
      unfold deliver
      rw [hCallback]
      rcases recordReport host delivery.activity delivery.moment _ s.store with ⟨_ | e, t⟩ <;> rfl
  | finished metadata status usage errorType =>
      unfold deliver
      rw [hCallback]
      rcases hReport : recordReport host delivery.activity delivery.moment
        (.finished metadata status.text usage errorType) s.store with ⟨_ | e, t⟩
      · cases hEvent : observedTokenUsageEvent metadata status usage with
        | none =>
            left
            simp [AuditCallback.call, AuditCallback.usageEvent, hReport, hEvent]
        | some event =>
            cases billing with
            | false =>
                left
                simp [AuditCallback.call, AuditCallback.usageEvent, hReport, hEvent]
            | true =>
                right
                refine ⟨metadata, status, usage, errorType, event, rfl, hEvent, rfl, ?_, ?_⟩
                · rw [hReport]
                · simp [AuditCallback.call, AuditCallback.usageEvent, hReport, hEvent]
      · left
        simp [AuditCallback.call, hReport]

/-- What timely callbacks keep: billed rows are settled and say what was sent. -/
structure Billed (s : BilledStore) : Prop where
  unique : UniqueAudits s.store
  settled : ∀ event ∈ s.published, ∃ row ∈ s.store.requestAudits,
    row.requestId = event.requestId ∧ row.status ≠ .started ∧ row.Bills event
  once : (s.published.map TokenUsageEvent.requestId).Nodup

theorem Billed.agrees (h : Billed s) : BillingAgrees s where
  committed event hEvent := by
    obtain ⟨row, hRow, hId, -, hBills⟩ := h.settled event hEvent
    exact ⟨row, hRow, hId, hBills⟩
  once := h.once

theorem billed_deliver (h : Billed s) (hTimely : delivery.Timely billing s) :
    Billed (deliver host billing delivery s).2 := by
  have hKept : ∀ event ∈ s.published, ∃ row ∈ (deliver host billing delivery s).2.store.requestAudits,
      row.requestId = event.requestId ∧ row.status ≠ .started ∧ row.Bills event := by
    intro event hEvent
    obtain ⟨row, hRow, hId, hSettled, hBills⟩ := h.settled event hEvent
    rw [deliver_store]
    exact ⟨row, recordReport_settled hRow hSettled, hId, hSettled, hBills⟩
  have hUnique : UniqueAudits (deliver host billing delivery s).2.store := by
    rw [deliver_store]
    exact recordReport_unique h.unique
  rcases @deliver_published host billing delivery s with
    hSame | ⟨metadata, status, usage, errorType, event, hCallback, hObserved, hBilling, hAnswer,
      hSent⟩
  · refine ⟨hUnique, ?_, ?_⟩
    · rw [hSame]
      exact hKept
    · rw [hSame]
      exact h.once
  · obtain ⟨hId, hStatus, facts, rfl, -, hPrompt, hCompletion, hTotal, hSource⟩ :=
      observedTokenUsageEvent_eq_some hObserved
    have hUsage : delivery.callback.usageEvent = some event := by rw [hCallback]; exact hObserved
    have hStarted := hTimely hBilling event hUsage
    obtain ⟨row, hRow, hRowId, hFinish⟩ := recordReport_finished hAnswer
    refine ⟨hUnique, ?_, ?_⟩
    · rw [hSent]
      intro sent hMem
      rcases List.mem_append.mp hMem with hOld | hNew
      · exact hKept sent hOld
      · obtain rfl := List.mem_singleton.mp hNew
        refine ⟨row.finished status.column (some facts) errorType delivery.moment.now, ?_, ?_, ?_,
          ?_⟩
        · rw [deliver_store, hCallback]
          exact hFinish (hStarted row hRow (hRowId.trans hId.symm))
        · exact hRowId.trans hId.symm
        · cases status <;> simp [AuditRow.finished, TerminalStatus.column]
        · exact ⟨congrArg TerminalStatus.column hStatus.symm, hPrompt.symm, hCompletion.symm,
            hTotal.symm, congrArg some hSource.symm⟩
    · rw [hSent, List.map_append, List.map_singleton]
      refine List.nodup_append.mpr ⟨h.once, List.nodup_singleton _, ?_⟩
      -- a request billed before has a settled row, and this one is STARTED
      intro id hBefore other hOther hSame
      obtain ⟨earlier, hEarlier, rfl⟩ := List.mem_map.mp hBefore
      obtain ⟨old, hOld, hOldId, hSettled, -⟩ := h.settled earlier hEarlier
      refine hSettled (hStarted old hOld ?_)
      rw [hOldId, hSame, List.mem_singleton.mp hOther]

/-- A recorded finish with an event is billed. -/
theorem deliver_billed {metadata : RequestMetadata} {status : TerminalStatus}
    {usage : Option ProviderUsage} {errorType : Option Str} {event : TokenUsageEvent}
    (hCallback : delivery.callback = .finished metadata status usage errorType)
    (hEvent : observedTokenUsageEvent metadata status usage = some event)
    (hAnswer : (recordReport host delivery.activity delivery.moment
      (.finished metadata status.text usage errorType) s.store).1 = none) :
    (deliver host true delivery s).2.published = s.published ++ [event] := by
  unfold deliver
  rw [hCallback]
  rcases hReport : recordReport host delivery.activity delivery.moment
    (.finished metadata status.text usage errorType) s.store with ⟨_ | e, t⟩
  · simp [AuditCallback.call, AuditCallback.usageEvent, hReport, hEvent]
  · rw [hReport] at hAnswer
    cases hAnswer

theorem published_subset : s.published ⊆ (deliver host billing delivery s).2.published := by
  rcases @deliver_published host billing delivery s with hSame | ⟨_, _, _, _, event, -, -, -, -, hSent⟩
  · rw [hSame]
    exact List.Subset.refl _
  · rw [hSent]
    exact List.subset_append_left _ _

/-- What callbacks keep while the activity source completes: a row with a token
fact belongs to a billed request. -/
structure FactsBilled (s : BilledStore) : Prop where
  unique : UniqueAudits s.store
  storable : ∀ row ∈ s.store.requestAudits, storable [some row.requestId] = true
  billed : ∀ row ∈ s.store.requestAudits, ¬ row.Factless →
    ∃ event ∈ s.published, event.requestId = row.requestId

theorem factsBilled_deliver (h : FactsBilled s) (hCompletes : delivery.Completes) :
    FactsBilled (deliver host true delivery s).2 := by
  have hOld : ∀ row ∈ s.store.requestAudits, ¬ row.Factless →
      ∃ event ∈ (deliver host true delivery s).2.published, event.requestId = row.requestId := by
    intro row hRow hFacts
    obtain ⟨event, hEvent, hId⟩ := h.billed row hRow hFacts
    exact ⟨event, published_subset hEvent, hId⟩
  have hRows : ∀ row ∈ (deliver host true delivery s).2.store.requestAudits,
      Product.storable [some row.requestId] = true ∧ (¬ row.Factless →
        ∃ event ∈ (deliver host true delivery s).2.published, event.requestId = row.requestId) := by
    intro row hRow
    rw [deliver_store] at hRow
    have hRecorded := hRow
    rcases recordReport_store host delivery.activity delivery.moment delivery.callback.call
      s.store with hSame | hStep
    · rw [hSame] at hRow
      exact ⟨h.storable row hRow, hOld row hRow⟩
    · rw [hStep] at hRow
      rcases mem_storeStep hRow with hRow | ⟨hFactless, hStorable⟩ |
        ⟨metadata, status, usage, errorType, outcome, old, hMem, hCall, hId, rfl⟩
      · exact ⟨h.storable row hRow, hOld row hRow⟩
      · exact ⟨hStorable, fun hFacts => absurd hFactless hFacts⟩
      · refine ⟨h.storable old hMem, fun hFacts => ?_⟩
        cases hCallback : delivery.callback with
        | started md =>
            rw [hCallback] at hCall
            cases hCall
        | rejected rejection =>
            rw [hCallback] at hCall
            cases hCall
        | finished md terminal facts error =>
            rw [hCallback] at hCall
            cases hCall
            cases hEvent : observedTokenUsageEvent metadata terminal usage with
            | none => exact absurd (factless_finished hEvent) hFacts
            | some event =>
                have hReport := @recordReport_of_completes host delivery.activity delivery.moment
                  s.store metadata terminal.text usage errorType hCompletes
                rcases hPersist : persist host delivery.moment
                  (.finished metadata terminal.text usage errorType) s.store with ⟨_ | e, t⟩
                · have hSent := deliver_billed hCallback hEvent
                    (congrArg Prod.fst (hReport.trans hPersist))
                  refine ⟨event, ?_, (observedTokenUsageEvent_eq_some hEvent).1.trans hId.symm⟩
                  rw [hSent]
                  exact List.mem_append_right _ List.mem_cons_self
                · -- a refused finish leaves the rows as they are
                  rw [hCallback, AuditCallback.call, hReport, hPersist,
                    persist_eq_some hPersist] at hRecorded
                  exact hOld _ hRecorded hFacts
  refine ⟨?_, fun row hRow => (hRows row hRow).1, fun row hRow => (hRows row hRow).2⟩
  rw [deliver_store]
  exact recordReport_unique h.unique

/-- A callback after which the billing client agrees was timely. -/
theorem timely_of_agrees (h : FactsBilled s) (hCompletes : delivery.Completes)
    (hAgrees : BillingAgrees (deliver host true delivery s).2) : delivery.Timely true s := by
  intro _ event hUsage row hRow hId
  by_contra hSettled
  cases hCallback : delivery.callback with
  | started metadata =>
      rw [hCallback] at hUsage
      cases hUsage
  | rejected rejection =>
      rw [hCallback] at hUsage
      cases hUsage
  | finished metadata status usage errorType =>
      rw [hCallback] at hUsage
      obtain ⟨hEventId, -, facts, -, hFacts, hPrompt, hCompletion, hTotal, -⟩ :=
        observedTokenUsageEvent_eq_some hUsage
      have hRowId : row.requestId = metadata.requestId := hId.trans hEventId
      have hReport : recordReport host delivery.activity delivery.moment
          (.finished metadata status.text usage errorType) s.store = (none, s.store) := by
        rw [recordReport_of_completes hCompletes]
        exact persist_of_settled h.unique (hRowId ▸ h.storable row hRow) hRow hRowId hSettled
      have hSent := deliver_billed hCallback hUsage (congrArg Prod.fst hReport)
      have hStore : (deliver host true delivery s).2.store = s.store := by
        rw [deliver_store, hCallback]
        exact congrArg Prod.snd hReport
      obtain ⟨committed, hCommitted, hCommittedId, hBills⟩ := hAgrees.committed event (by
        rw [hSent]
        exact List.mem_append_right _ List.mem_cons_self)
      rw [hStore] at hCommitted
      obtain rfl := h.unique.eq hCommitted hRow (hCommittedId.trans hId.symm)
      -- the row has the facts of the event, so the request was billed before
      have hKnown : ¬ committed.Factless := by
        rintro ⟨hNoPrompt, hNoCompletion, hNoTotal⟩
        rw [ProviderUsage.nonempty_toOpenaiDict, ← hPrompt, ← hCompletion, ← hTotal,
          ← hBills.promptTokens, ← hBills.completionTokens, ← hBills.totalTokens, hNoPrompt,
          hNoCompletion, hNoTotal] at hFacts
        simp at hFacts
      obtain ⟨earlier, hEarlier, hEarlierId⟩ := h.billed committed hRow hKnown
      have hOnce := hAgrees.once
      rw [hSent, List.map_append, List.map_singleton] at hOnce
      exact (List.nodup_append.mp hOnce).2.2 earlier.requestId (List.mem_map_of_mem hEarlier)
        event.requestId List.mem_cons_self (hEarlierId.trans hId)

/-- Agreement after every callback makes every callback timely. -/
theorem admitted_of_agrees {deliveries : List Delivery} (h : FactsBilled s)
    (hCompletes : ∀ delivery ∈ deliveries, delivery.Completes)
    (hAgrees : ∀ e ∈ trace (deliver host true) deliveries s, BillingAgrees e.after) :
    Admitted (deliver host true) (fun s delivery => delivery.Timely true s) deliveries s := by
  induction deliveries generalizing s with
  | nil => trivial
  | cons delivery rest ih =>
      have hFirst := hCompletes delivery List.mem_cons_self
      refine ⟨timely_of_agrees h hFirst (hAgrees _ List.mem_cons_self), ?_⟩
      exact ih (factsBilled_deliver h hFirst)
        (fun other hOther => hCompletes other (List.mem_cons_of_mem delivery hOther))
        (fun e he => hAgrees e (List.mem_cons_of_mem _ he))

end Deliver

/-- In every run whose billable callbacks find the row of their request STARTED,
the billing client was always sent what the ledger says, once. While the activity
source completes whatever was persisted, there is no other such run. -/
theorem billing_agrees_iff_timely (host : Host) (billing : Bool) (deliveries : List Delivery) :
    (Admitted (deliver host billing) (fun s delivery => delivery.Timely billing s) deliveries {} →
      ∀ e ∈ trace (deliver host billing) deliveries {}, BillingAgrees e.after) ∧
    ((∀ delivery ∈ deliveries, delivery.Completes) →
      (∀ e ∈ trace (deliver host billing) deliveries {}, BillingAgrees e.after) →
        Admitted (deliver host billing) (fun s delivery => delivery.Timely billing s) deliveries
          {}) := by
  have hStart : Billed {} := ⟨List.nodup_nil, by simp, List.nodup_nil⟩
  have hStep : Preserves (deliver host billing) (fun s delivery => delivery.Timely billing s)
      Billed := fun _ _ hBilled hTimely => billed_deliver hBilled hTimely
  refine ⟨?_, ?_⟩
  · intro hTimely e he
    obtain ⟨hBilled, hPromise, -, hAfter⟩ := hStep.trace hStart hTimely e he
    rw [hAfter]
    exact (billed_deliver hBilled hPromise).agrees
  · intro hCompletes hAgrees
    cases billing with
    | true => exact admitted_of_agrees ⟨List.nodup_nil, by simp, by simp⟩ hCompletes hAgrees
    | false => exact admitted_of_forall (fun _ _ hBilling => nomatch hBilling) deliveries _

section Sample

def billedMetadata : RequestMetadata :=
  { requestId := "r", model := "m", stream := false, routeId := "p", providerRef := "p"
    principal := { actorId := "a", workspaceId := "w", credentialRef := "c" } }

def startedOnce : Delivery where
  callback := .started billedMetadata
  moment := ⟨0, 0⟩

/-- The completion of the request, reported with this prompt count. -/
def completedWith (promptTokens : Nat) : Delivery where
  callback := .finished billedMetadata .completed
    (some { promptTokens := some promptTokens, completionTokens := some 5 }) none
  moment := ⟨1, 1⟩

/-- One terminal callback is billed as the ledger has it. -/
theorem billing_agrees_iff_timely_sample :
    ∀ e ∈ trace (deliver sampleHost true) [startedOnce, completedWith 10] {},
      BillingAgrees e.after := by
  refine (billing_agrees_iff_timely sampleHost true [startedOnce, completedWith 10]).1
    ⟨?_, ?_, trivial⟩
  · rintro - event ⟨⟩
  · intro _ event hEvent row hRow _
    rw [List.mem_singleton.mp hRow]
    rfl

/-- A repeated terminal callback with other counts changes nothing in the ledger
and is billed a second time. -/
theorem repeated_callback_is_billed_again : ¬ ∀ (host : Host) (deliveries : List Delivery),
    ∀ e ∈ trace (deliver host true) deliveries {}, BillingAgrees e.after := by
  intro h
  have hLast := h sampleHost [startedOnce, completedWith 10, completedWith 20] _
    (List.mem_cons_of_mem _ (List.mem_cons_of_mem _ List.mem_cons_self))
  have hOnce := hLast.once
  revert hOnce
  decide +kernel

end Sample

end CyreneExchange.Product
