import CyreneExchange.Gateway.Reports
import CyreneExchange.Product.AuditTrail
import CyreneExchange.Product.Service

/-! The embeddings endpoint: where the id of a request comes from, and how the
ledger answers its reports among those of the other requests. -/
namespace CyreneExchange.Product

open Integrations (UUID)
open Gateway (Str CodePoint RequestMetadata ProviderUsage Raise ObserverCall Observer)
open Machine Transaction

section Correlation

/-- Header bytes, decoded as Latin-1. -/
def latin1 (bytes : List UInt8) : Str :=
  bytes.map fun byte => ⟨byte.toNat, Nat.lt_trans byte.toNat_lt (by decide)⟩

/-- `str.isalnum` of one Latin-1 character. -/
def isAlnum (c : CodePoint) : Bool :=
  (decide (48 ≤ c.val) && decide (c.val ≤ 57)) || (decide (65 ≤ c.val) && decide (c.val ≤ 90)) ||
    (decide (97 ≤ c.val) && decide (c.val ≤ 122)) ||
    [0xaa, 0xb2, 0xb3, 0xb5, 0xb9, 0xba, 0xbc, 0xbd, 0xbe].contains c.val ||
    (decide (0xc0 ≤ c.val) && decide (c.val ≤ 0xff) && c.val != 0xd7 && c.val != 0xf7)

/-- A character that a correlation id keeps. -/
def isCorrelation (c : CodePoint) : Bool := isAlnum c || (Gateway.text "-_./:").contains c

/-- `sanitize_correlation_id`. -/
def sanitizeCorrelationId (raw : Option Str) (maxLen : Nat) : Option Str :=
  match raw with
  | none => none
  | some raw =>
      let trimmed := Str.strip raw
      if raw.isEmpty || trimmed.isEmpty then none
      else
        let filtered := trimmed.filter isCorrelation
        if filtered.isEmpty then none else some (filtered.take maxLen)

/-- `sanitize_request_id`. -/
def sanitizeRequestId (raw : Option Str) : Option Str := sanitizeCorrelationId raw 128

/-- `dict(items)`: a repeated name keeps its place and takes the last value. -/
def headerDict (items : List (Str × Str)) : List (Str × Str) :=
  items.foldl (fun dict item =>
    if dict.any fun entry => decide (entry.1 = item.1) then
      dict.map fun entry => if entry.1 = item.1 then item else entry
    else dict ++ [item]) []

end Correlation

section Endpoint

/-- What a managed activity source raises for a task: before it has an admission
persisted, after that, and after a persisted completion. -/
structure ActivitySource where
  refuses : Str → Option Raise
  admitted : Str → Option Raise
  completed : Str → Option Raise

/-- One request to `/v1/embeddings` whose body is a JSON object. The trace
context, which only logs read, is left out. -/
structure EmbeddingsRequest where
  rawHeaders : List (List UInt8 × List UInt8)
  drawn : UUID
  payload : Gateway.Dict
  env : Gateway.Collaborators
  activity : Option ActivitySource := none

/-- `request.headers.items()`. -/
def EmbeddingsRequest.headers (request : EmbeddingsRequest) : List (Str × Str) :=
  request.rawHeaders.map fun entry => (latin1 entry.1, latin1 entry.2)

/-- `request.state.request_id`: the caller's id where it leaves anything, else a
drawn one. -/
def EmbeddingsRequest.requestId (request : EmbeddingsRequest) : Str :=
  (sanitizeRequestId (Gateway.header request.headers (Gateway.text "x-request-id"))).getD
    (Gateway.text request.drawn.text)

def EmbeddingsRequest.gatewayHeaders (request : EmbeddingsRequest) : List (Str × Str) :=
  headerDict request.headers

/-- The handler of the request under an observer, with the one route attempt
that the Product composes its gateway with. -/
def EmbeddingsRequest.handling (request : EmbeddingsRequest) (observer : Observer) :
    Gateway.Handling Gateway.GatewayResponse :=
  Gateway.handleOpenaiEmbeddings (request.env.observedBy observer) 1 request.requestId
    request.gatewayHeaders request.payload

end Endpoint

section Recorder

/-- The clock readings of one report. -/
structure ReportMoment where
  now : Int
  finishedAt : Int

/-- The store call of a report. -/
def reportCall (moment : ReportMoment) : ObserverCall → OperatorCall
  | .started metadata => .beginRequest metadata moment.now
  | .rejected rejection => .recordRejection rejection moment.now moment.finishedAt
  | .finished metadata status usage errorType =>
      .finishRequest metadata status usage errorType moment.now

/-- The exception of a failed store call, as the gateway sees it. -/
def Failure.raised : Failure → Raise
  | .product _ => .ordinary (Gateway.text "ExchangeProductError") none
  | .integrityError => .ordinary (Gateway.text "IntegrityError") none
  | .runtimeError _ => .ordinary (Gateway.text "RuntimeError") none
  | .valueError _ => .ordinary (Gateway.text "ValueError") none
  | .unicodeEncodeError => .ordinary (Gateway.text "UnicodeEncodeError") none
  | .overflowError => .ordinary (Gateway.text "OverflowError") none
  | .validationError => .ordinary (Gateway.text "ValidationError") none

/-- A report as the ledger takes it. -/
def persist (host : Host) (moment : ReportMoment) (call : ObserverCall) (s : ExchangeStore) :
    Option Raise × ExchangeStore :=
  match storeStep host (.operator (reportCall moment call)) s with
  | (.ok _, t) => (none, t)
  | (.error failure, t) => (some failure.raised, t)

/-- `RequestAuditRecorder`, without a billing client. -/
def recordReport (host : Host) (activity : Option ActivitySource) (moment : ReportMoment)
    (call : ObserverCall) (s : ExchangeStore) : Option Raise × ExchangeStore :=
  match activity, call with
  | some activity, .started metadata =>
      match activity.refuses metadata.requestId with
      | some e => (some e, s)
      | none =>
          match persist host moment (.started metadata) s with
          | (some e, t) => (some e, t)
          | (none, t) => (activity.admitted metadata.requestId, t)
  | some activity, .finished metadata status usage errorType =>
      match persist host moment (.finished metadata status usage errorType) s with
      | (some e, t) => (some e, t)
      | (none, t) => (activity.completed metadata.requestId, t)
  | _, call => persist host moment call s

end Recorder

section System

/-- A request under way, with the reports that were made and their answers. -/
structure EmbeddingsFlight where
  request : EmbeddingsRequest
  answers : List (ObserverCall × Option Raise) := []

/-- The answers so far; a report that was not made yet would be accepted. -/
def EmbeddingsFlight.observer (flight : EmbeddingsFlight) : Observer := fun call =>
  (flight.answers.find? fun answer => decide (answer.1 = call)).bind Prod.snd

/-- The reports of the handler when it is answered like this. -/
def EmbeddingsFlight.reports (flight : EmbeddingsFlight) : List ObserverCall :=
  Gateway.observerCalls (flight.request.handling flight.observer)

/-- The report that the request makes next; without one it is over. -/
def EmbeddingsFlight.next (flight : EmbeddingsFlight) : Option ObserverCall :=
  flight.reports[flight.answers.length]?

/-- One report of one request. -/
def EmbeddingsFlight.move (host : Host) (moment : ReportMoment) (flight : EmbeddingsFlight)
    (s : ExchangeStore) : EmbeddingsFlight × ExchangeStore :=
  match flight.next with
  | none => (flight, s)
  | some call =>
      ({ flight with answers := flight.answers ++
          [(call, (recordReport host flight.request.activity moment call s).1)] },
        (recordReport host flight.request.activity moment call s).2)

abbrev EmbeddingsSystem : Type := Flights.System ExchangeStore EmbeddingsFlight

abbrev EmbeddingsInput : Type := Flights.Input EmbeddingsRequest ReportMoment StoreCall

/-- Embeddings requests over one store, with the other calls that reach it. -/
def embeddingsRules (host : Host) :
    Flights.Rules ExchangeStore EmbeddingsFlight EmbeddingsRequest ReportMoment StoreCall where
  start := fun request => { request }
  move := EmbeddingsFlight.move host
  operate := fun call s => (storeStep host call s).2

/-- One step of the system; the requests report in any order. -/
def embeddingsStep (host : Host) : EmbeddingsInput → EmbeddingsSystem → Unit × EmbeddingsSystem :=
  Flights.step (embeddingsRules host)

/-- The row that the reports of a request make up. -/
inductive Recorded : List (ObserverCall × Option Raise) → AuditRow → Prop
  | rejected (rejection : Gateway.Rejection) (status : RequestAuditStatus) (startedAt finishedAt : Int)
      (hStatus : RequestAuditStatus.ofText rejection.status = some status) :
      Recorded [(.rejected rejection, none)] (rejectedRow rejection status startedAt finishedAt)
  | started (metadata : RequestMetadata) (answer : Option Raise) (now : Int) :
      Recorded [(.started metadata, answer)] (startedRow metadata now)
  | finished (metadata : RequestMetadata) (status : Str) (usage : Option ProviderUsage)
      (errorType : Option Str) (answer : Option Raise) (outcome : RequestAuditStatus)
      (startedAt now : Int) (hStatus : RequestAuditStatus.ofText status = some outcome) :
      Recorded [(.started metadata, none), (.finished metadata status usage errorType, answer)]
        ((startedRow metadata startedAt).finished outcome usage errorType now)
  | unfinished (metadata : RequestMetadata) (status : Str) (usage : Option ProviderUsage)
      (errorType : Option Str) (e : Raise) (startedAt : Int) :
      Recorded [(.started metadata, none), (.finished metadata status usage errorType, some e)]
        (startedRow metadata startedAt)

/-- What becomes of a request that is alone on an empty ledger. -/
inductive Alone (host : Host) (request : EmbeddingsRequest) :
    EmbeddingsFlight → ExchangeStore → Prop
  | arrives : Alone host request { request } {}
  | reports (moment : ReportMoment) {flight : EmbeddingsFlight} {s : ExchangeStore}
      (h : Alone host request flight s) :
      Alone host request (flight.move host moment s).1 (flight.move host moment s).2

/-- Every request that reported, or is over, has a row of its own that holds its
own reports, and fares as it would alone. -/
structure OwnRows (host : Host) (system : EmbeddingsSystem) : Prop where
  row : ∀ flight ∈ system.flights, flight.answers ≠ [] ∨ flight.next = none →
    ∃ row ∈ system.store.requestAudits, row.requestId = flight.request.requestId ∧
      Recorded flight.answers row
  apart : ∀ (i j : Nat) (flight other : EmbeddingsFlight),
    system.flights[i]? = some flight → system.flights[j]? = some other → flight.answers ≠ [] →
      other.answers ≠ [] → flight.request.requestId = other.request.requestId → i = j
  alone : ∀ flight ∈ system.flights, ∃ s, Alone host flight.request flight s

/-- The request is one that the gateway reports, and its texts can be stored.
Principals and targets come from the store themselves. -/
structure EmbeddingsRequest.Recordable (request : EmbeddingsRequest) : Prop where
  reported : Gateway.EmbeddingsReported request.env request.gatewayHeaders request.payload
  model : storable [Gateway.payloadModel request.payload] = true
  principals : ∀ token principal, request.env.principals token = .ok (some principal) →
    storable [some principal.actorId, some principal.workspaceId, some principal.credentialRef] =
      true
  targets : ∀ routed principal targets, request.env.plan routed principal = .ok targets →
    ∀ target ∈ targets, storable [some target.routeName, some target.providerRef] = true
  activity : ∀ activity, request.activity = some activity →
    activity.refuses request.requestId = none

/-- The condition of one step: the ledger holds no row under the id of a request
that is about to make its first report, and nobody else finishes the row of a
request under way. -/
def OwnIds (system : EmbeddingsSystem) : EmbeddingsInput → Prop
  | .arrive request => request.Recordable
  | .advance index _ => ∀ flight, system.flights[index]? = some flight → flight.answers = [] →
      system.store.findAudit flight.request.requestId = none
  | .operate call => ∀ metadata status usage errorType now,
      call = .operator (.finishRequest metadata status usage errorType now) →
        ∀ flight ∈ system.flights, flight.answers ≠ [] →
          metadata.requestId ≠ flight.request.requestId

end System

section Ledger

variable {host : Host} {s u : ExchangeStore} {id : Str} {moment : ReportMoment}

/-- A row that is looked up stays the one found, unless its request finishes. -/
theorem storeStep_findAudit {call : StoreCall} {row : AuditRow} (hRow : s.findAudit id = some row)
    (hApart : ∀ metadata status usage errorType now,
      call = .operator (.finishRequest metadata status usage errorType now) →
        metadata.requestId ≠ id) :
    (storeStep host call s).2.findAudit id = some row := by
  have hWrite := storeStep_requestAudits host call s
  unfold ExchangeStore.findAudit at hRow ⊢
  generalize (storeStep host call s).2.requestAudits = rows at hWrite ⊢
  cases hWrite with
  | kept => exact hRow
  | added other hFresh => rw [List.find?_append, hRow, Option.some_or]
  | finished p f hFinish =>
      have hFound := List.mem_of_find?_eq_some hRow
      have hId : row.requestId = id := by simpa using List.find?_some hRow
      have hOther : p row = false := by
        cases hp : p row with
        | false => rfl
        | true =>
            obtain ⟨metadata, status, usage, errorType, now, _, hCall, hSame, -⟩ :=
              hFinish row hFound hp
            exact absurd (hSame.trans hId) (hApart metadata status usage errorType now hCall)
      rw [Table.find_updateWhere, hRow]
      · simp [hOther]
      · intro r hr hp
        rw [(hFinish r hr hp).requestId_eq]

theorem findAudit_append (row : AuditRow) (hFresh : s.findAudit row.requestId = none) :
    ({ s with requestAudits := s.requestAudits ++ [row] } : ExchangeStore).findAudit row.requestId =
      some row := by
  unfold ExchangeStore.findAudit at hFresh ⊢
  rw [List.find?_append, hFresh]
  simp

theorem beginRequest_of_fresh {metadata : RequestMetadata} (now : Int)
    (hStorable : storable [some metadata.requestId, some metadata.routeId, some metadata.providerRef,
      some metadata.model, some metadata.principal.actorId, some metadata.principal.workspaceId,
      some metadata.principal.credentialRef] = true)
    (hFresh : s.findAudit metadata.requestId = none) :
    beginRequest metadata now s =
      .ok ((), { s with requestAudits := s.requestAudits ++ [startedRow metadata now] }) := by
  apply (bind_of_ok (require_of_true hStorable _ s)).trans
  rw [fetch_bind, hFresh]
  rfl

theorem recordRejection_of_fresh {rejection : Gateway.Rejection} {status : RequestAuditStatus}
    (startedAt finishedAt : Int)
    (hStorable : storable [some rejection.requestId, rejection.model,
      rejection.principal.map Gateway.RequestPrincipal.actorId,
      rejection.principal.map Gateway.RequestPrincipal.workspaceId,
      rejection.principal.map Gateway.RequestPrincipal.credentialRef, some rejection.status,
      some rejection.errorType] = true)
    (hStatus : RequestAuditStatus.ofText rejection.status = some status)
    (hFresh : s.findAudit rejection.requestId = none) :
    recordRejection rejection startedAt finishedAt s = .ok ((), { s with
      requestAudits := s.requestAudits ++ [rejectedRow rejection status startedAt finishedAt] }) := by
  apply (bind_of_ok (require_of_true hStorable _ s)).trans
  rw [hStatus]
  simp only [fetch_bind, hFresh]
  rfl

theorem persist_of_ok (call : ObserverCall) {a : StoreAnswer} {t : ExchangeStore}
    (h : operatorBody host (reportCall moment call) s = .ok (a, t)) :
    persist host moment call s = (none, t) := by
  have hStep : storeStep host (.operator (reportCall moment call)) s = (.ok a, t) := commit_of_ok h
  rw [persist, hStep]

theorem persist_of_error (call : ObserverCall) {e : Failure}
    (h : operatorBody host (reportCall moment call) s = .error e) :
    persist host moment call s = (some e.raised, s) := by
  have hStep : storeStep host (.operator (reportCall moment call)) s = (.error e, s) := by
    have hBody : storeBody host (.operator (reportCall moment call)) s = .error e := h
    rw [storeStep, commit, hBody]
  rw [persist, hStep]

/-- A start under a fresh id is accepted. -/
theorem persist_started (host : Host) (moment : ReportMoment) {metadata : RequestMetadata}
    (hStorable : storable [some metadata.requestId, some metadata.routeId, some metadata.providerRef,
      some metadata.model, some metadata.principal.actorId, some metadata.principal.workspaceId,
      some metadata.principal.credentialRef] = true)
    (hFresh : s.findAudit metadata.requestId = none) :
    (persist host moment (.started metadata) s).1 = none ∧
      (persist host moment (.started metadata) s).2.findAudit metadata.requestId =
        some (startedRow metadata moment.now) := by
  have hBody := bind_of_ok (f := fun _ => pure StoreAnswer.done)
    (beginRequest_of_fresh moment.now hStorable hFresh)
  rw [persist_of_ok (.started metadata) hBody]
  exact ⟨rfl, findAudit_append (startedRow metadata moment.now) hFresh⟩

/-- So is a rejection. -/
theorem persist_rejected (host : Host) (moment : ReportMoment) {rejection : Gateway.Rejection}
    {status : RequestAuditStatus}
    (hStorable : storable [some rejection.requestId, rejection.model,
      rejection.principal.map Gateway.RequestPrincipal.actorId,
      rejection.principal.map Gateway.RequestPrincipal.workspaceId,
      rejection.principal.map Gateway.RequestPrincipal.credentialRef, some rejection.status,
      some rejection.errorType] = true)
    (hStatus : RequestAuditStatus.ofText rejection.status = some status)
    (hFresh : s.findAudit rejection.requestId = none) :
    (persist host moment (.rejected rejection) s).1 = none ∧
      (persist host moment (.rejected rejection) s).2.findAudit rejection.requestId =
        some (rejectedRow rejection status moment.now moment.finishedAt) := by
  have hBody := bind_of_ok (f := fun _ => pure StoreAnswer.done)
    (recordRejection_of_fresh moment.now moment.finishedAt hStorable hStatus hFresh)
  rw [persist_of_ok (.rejected rejection) hBody]
  exact ⟨rfl, findAudit_append
    (rejectedRow rejection status moment.now moment.finishedAt) hFresh⟩

/-- The finish of a started request checks the texts and counts it stores. -/
theorem finishRequest_of_started {metadata : RequestMetadata} {status : Str}
    {usage : Option ProviderUsage} {errorType : Option Str} {now : Int}
    (hId : storable [some metadata.requestId] = true) (s : ExchangeStore) (row : AuditRow)
    (hRow : s.findAudit metadata.requestId = some row) (hStarted : row.status = .started) :
    finishRequest metadata status usage errorType now s =
      (require (storable [some status, usage.map ProviderUsage.source, errorType])
        .unicodeEncodeError >>= fun _ =>
      require (storableCount (usage.bind ProviderUsage.promptTokens) &&
        storableCount (usage.bind ProviderUsage.completionTokens) &&
        storableCount (usage.bind ProviderUsage.totalTokens)) .overflowError >>= fun _ =>
      match RequestAuditStatus.ofText status with
      | none => reject .integrityError
      | some outcome => store fun s => { s with
          requestAudits := Table.updateWhere
            (fun row => decide (row.requestId = metadata.requestId) &&
              decide (row.status = .started))
            (fun row => row.finished outcome usage errorType now) s.requestAudits } :
        StoreTransaction Unit) s := by
  apply (bind_of_ok (require_of_true hId _ s)).trans
  rw [fetch_bind, hRow]
  exact congrFun (if_neg (not_not.mpr hStarted)) s

/-- Whether a started request can be finished depends on the report alone. -/
theorem finishRequest_verdict (metadata : RequestMetadata) (status : Str)
    (usage : Option ProviderUsage) (errorType : Option Str) (now : Int) :
    (∃ e, ∀ s row, s.findAudit metadata.requestId = some row → row.status = .started →
      finishRequest metadata status usage errorType now s = .error e) ∨
    ∃ outcome, RequestAuditStatus.ofText status = some outcome ∧
      ∀ s row, s.findAudit metadata.requestId = some row → row.status = .started →
        finishRequest metadata status usage errorType now s = .ok ((), { s with
          requestAudits := Table.updateWhere
            (fun row => decide (row.requestId = metadata.requestId) && decide (row.status = .started))
            (fun row => row.finished outcome usage errorType now) s.requestAudits }) := by
  cases hId : storable [some metadata.requestId] with
  | false => exact Or.inl ⟨.unicodeEncodeError, fun s _ _ _ =>
      bind_of_error (require_of_false hId _ s)⟩
  | true =>
      have hRead := @finishRequest_of_started metadata status usage errorType now hId
      cases hTexts : storable [some status, usage.map ProviderUsage.source, errorType] with
      | false =>
          refine Or.inl ⟨.unicodeEncodeError, fun s row hRow hStarted => ?_⟩
          rw [hRead s row hRow hStarted]
          exact bind_of_error (require_of_false hTexts _ s)
      | true =>
          cases hCounts : (storableCount (usage.bind ProviderUsage.promptTokens) &&
              storableCount (usage.bind ProviderUsage.completionTokens) &&
              storableCount (usage.bind ProviderUsage.totalTokens)) with
          | false =>
              refine Or.inl ⟨.overflowError, fun s row hRow hStarted => ?_⟩
              rw [hRead s row hRow hStarted, bind_of_ok (require_of_true hTexts _ s)]
              exact bind_of_error (require_of_false hCounts _ s)
          | true =>
              cases hOutcome : RequestAuditStatus.ofText status with
              | none =>
                  refine Or.inl ⟨.integrityError, fun s row hRow hStarted => ?_⟩
                  rw [hRead s row hRow hStarted, bind_of_ok (require_of_true hTexts _ s),
                    bind_of_ok (require_of_true hCounts _ s), hOutcome]
                  rfl
              | some outcome =>
                  refine Or.inr ⟨outcome, rfl, fun s row hRow hStarted => ?_⟩
                  rw [hRead s row hRow hStarted, bind_of_ok (require_of_true hTexts _ s),
                    bind_of_ok (require_of_true hCounts _ s), hOutcome]
                  rfl

/-- What a finish does to the row of its started request. -/
theorem persist_finished (host : Host) (moment : ReportMoment) (metadata : RequestMetadata)
    (status : Str) (usage : Option ProviderUsage) (errorType : Option Str) :
    (∃ e, ∀ s row, s.findAudit metadata.requestId = some row → row.status = .started →
      persist host moment (.finished metadata status usage errorType) s = (some e, s)) ∨
    ∃ outcome, RequestAuditStatus.ofText status = some outcome ∧
      ∀ s row, s.findAudit metadata.requestId = some row → row.status = .started →
        (persist host moment (.finished metadata status usage errorType) s).1 = none ∧
        (persist host moment (.finished metadata status usage errorType) s).2.findAudit
          metadata.requestId = some (row.finished outcome usage errorType moment.now) := by
  rcases finishRequest_verdict metadata status usage errorType moment.now with
    ⟨e, hError⟩ | ⟨outcome, hOutcome, hOk⟩
  · refine Or.inl ⟨e.raised, fun s row hRow hStarted => ?_⟩
    apply persist_of_error
    exact bind_of_error (hError s row hRow hStarted)
  · refine Or.inr ⟨outcome, hOutcome, fun s row hRow hStarted => ?_⟩
    have hBody := bind_of_ok (f := fun _ => pure StoreAnswer.done) (hOk s row hRow hStarted)
    rw [persist_of_ok (.finished metadata status usage errorType) hBody]
    refine ⟨rfl, ?_⟩
    have hId : row.requestId = metadata.requestId := by simpa using List.find?_some hRow
    unfold ExchangeStore.findAudit at hRow ⊢
    rw [Table.find_updateWhere, hRow]
    · simp [hId, hStarted]
    · intro r _ _
      rfl

end Ledger

section Storable

variable {request : EmbeddingsRequest}

theorem storable_iff {texts : List (Option Str)} :
    storable texts = true ↔ ∀ t, some t ∈ texts → t.hasSurrogate = false := by
  unfold storable
  rw [List.all_eq_true]
  constructor
  · intro h t hMem
    simpa using h _ hMem
  · intro h value hMem
    cases value with
    | none => rfl
    | some t => simp [h t hMem]

theorem hasSurrogate_of_subset {s t : Str} (hSubset : ∀ c ∈ s, c ∈ t)
    (h : t.hasSurrogate = false) : s.hasSurrogate = false := by
  rw [Str.hasSurrogate, List.any_eq_false] at h ⊢
  exact fun c hc => h c (hSubset c hc)

theorem hasSurrogate_strip {s : Str} (h : s.hasSurrogate = false) :
    (Str.strip s).hasSurrogate = false := by
  refine hasSurrogate_of_subset (fun c hc => ?_) h
  have hReversed := (List.dropWhile_sublist _).subset (List.mem_reverse.mp hc)
  exact (List.dropWhile_sublist _).subset (List.mem_reverse.mp hReversed)

theorem isCorrelation_le {c : CodePoint} (h : isCorrelation c = true) : c.val ≤ 0xff := by
  have hMarks : (Gateway.text "-_./:").all (fun d => decide (d.val ≤ 0xff)) = true := rfl
  rcases Bool.or_eq_true_iff.mp h with hAlnum | hMark
  · simp only [isAlnum, Bool.or_eq_true, Bool.and_eq_true, decide_eq_true_eq,
      List.contains_eq_mem, List.mem_cons, List.not_mem_nil, or_false] at hAlnum
    omega
  · exact of_decide_eq_true (List.all_eq_true.mp hMarks c (List.contains_iff_mem.mp hMark))

/-- Whatever a caller sends, the id can be stored. -/
theorem hasSurrogate_requestId (request : EmbeddingsRequest) :
    request.requestId.hasSurrogate = false := by
  unfold EmbeddingsRequest.requestId sanitizeRequestId sanitizeCorrelationId
  split
  · exact hasSurrogate_text _
  · next raw _ =>
      simp only
      split
      · exact hasSurrogate_text _
      split
      · exact hasSurrogate_text _
      · rw [Option.getD_some, Str.hasSurrogate, List.any_eq_false]
        intro c hc
        have hSmall := isCorrelation_le (List.mem_filter.mp (List.mem_of_mem_take hc)).2
        simp only [Str.isSurrogate, Bool.and_eq_true, decide_eq_true_eq, not_and]
        omega

theorem hasSurrogate_model {model : Str} (hRequest : request.Recordable)
    (hModel : Gateway.payloadModel request.payload = some model ∨ ∃ parsed,
      Gateway.NormalizedEmbeddingRequest.fromOpenai (.dict request.payload) = .ok parsed ∧
        model = parsed.model) : model.hasSurrogate = false := by
  have hKnown : ∀ raw, Gateway.payloadModel request.payload = some raw → raw.hasSurrogate = false := by
    intro raw hRaw
    have hStorable := hRequest.model
    rw [hRaw] at hStorable
    exact storable_iff.mp hStorable raw List.mem_cons_self
  rcases hModel with hModel | ⟨parsed, hParsed, rfl⟩
  · exact hKnown model hModel
  · obtain ⟨_, hDict, h⟩ := General.except_bind_eq_ok.mp hParsed
    cases hDict
    obtain ⟨_, -, h⟩ := General.except_bind_eq_ok.mp h
    obtain ⟨model, hModel, h⟩ := General.except_bind_eq_ok.mp h
    obtain ⟨_, -, h⟩ := General.except_bind_eq_ok.mp h
    obtain ⟨_, -, h⟩ := General.except_bind_eq_ok.mp h
    obtain ⟨_, -, h⟩ := General.except_bind_eq_ok.mp h
    obtain ⟨_, -, h⟩ := General.except_bind_eq_ok.mp h
    obtain ⟨_, -, h⟩ := General.except_bind_eq_ok.mp h
    obtain ⟨_, -, h⟩ := General.except_bind_eq_ok.mp h
    cases h
    obtain ⟨raw, hRaw, -, rfl⟩ := Gateway.requireNonEmptyString_eq_ok.mp hModel
    apply hasSurrogate_strip
    apply hKnown
    rw [Gateway.payloadModel, hRaw]
    rfl

theorem rejectionTypes_storable : ∀ t ∈ Gateway.rejectionTypes, t.hasSurrogate = false := by
  decide

theorem rejection_storable {rejection : Gateway.Rejection} (hRequest : request.Recordable)
    (h : Gateway.RejectionOf request.env request.requestId request.payload rejection) :
    storable [some rejection.requestId, rejection.model,
      rejection.principal.map Gateway.RequestPrincipal.actorId,
      rejection.principal.map Gateway.RequestPrincipal.workspaceId,
      rejection.principal.map Gateway.RequestPrincipal.credentialRef, some rejection.status,
      some rejection.errorType] = true := by
  rw [storable_iff]
  intro t hMem
  simp only [List.mem_cons, List.not_mem_nil, or_false] at hMem
  have hPrincipal : ∀ (field : Gateway.RequestPrincipal → Str),
      (∀ principal, some (field principal) ∈ [some principal.actorId, some principal.workspaceId,
        some principal.credentialRef]) →
      some t = rejection.principal.map field → t.hasSurrogate = false := by
    intro field hField hSome
    obtain ⟨principal, hKnown, rfl⟩ := Option.map_eq_some_iff.mp hSome.symm
    obtain ⟨token, hToken⟩ := h.principal principal hKnown
    exact storable_iff.mp (hRequest.principals token principal hToken) _ (hField principal)
  rcases hMem with hId | hModel | hActor | hWorkspace | hReference | hStatus | hType
  · rw [Option.some.inj hId, h.requestId]
    exact hasSurrogate_requestId request
  · apply hasSurrogate_model hRequest
    rcases h.model with hRaw | ⟨parsed, hParsed, hSame⟩
    · exact Or.inl (hRaw.symm.trans hModel.symm)
    · exact Or.inr ⟨parsed, hParsed, Option.some.inj (hModel.trans hSame)⟩
  · exact hPrincipal _ (by simp) hActor
  · exact hPrincipal _ (by simp) hWorkspace
  · exact hPrincipal _ (by simp) hReference
  · rw [Option.some.inj hStatus]
    rcases h.status with hRejected | hCancelled
    · rw [hRejected]
      exact hasSurrogate_text _
    · rw [hCancelled]
      exact hasSurrogate_text _
  · rw [Option.some.inj hType]
    exact rejectionTypes_storable _ h.errorType

theorem start_storable {metadata : RequestMetadata} (hRequest : request.Recordable)
    (h : Gateway.StartOf request.env request.requestId request.payload metadata) :
    storable [some metadata.requestId, some metadata.routeId, some metadata.providerRef,
      some metadata.model, some metadata.principal.actorId, some metadata.principal.workspaceId,
      some metadata.principal.credentialRef] = true := by
  obtain ⟨token, hToken⟩ := h.principal
  obtain ⟨routed, targets, target, hPlan, hTarget, hRoute, hProvider⟩ := h.target
  have hPrincipal := storable_iff.mp (hRequest.principals token _ hToken)
  have hNames := storable_iff.mp (hRequest.targets routed _ targets hPlan target hTarget)
  have hModel := hasSurrogate_model hRequest (Or.inr h.model)
  rw [storable_iff, h.requestId, hRoute, hProvider]
  intro t hMem
  simp only [List.mem_cons, Option.some.injEq, List.not_mem_nil, or_false] at hMem hPrincipal hNames
  rcases hMem with rfl | rfl | rfl | rfl | rfl | rfl | rfl
  · exact hasSurrogate_requestId request
  · exact hNames _ (Or.inl rfl)
  · exact hNames _ (Or.inr rfl)
  · exact hModel
  · exact hPrincipal _ (Or.inl rfl)
  · exact hPrincipal _ (Or.inr (Or.inl rfl))
  · exact hPrincipal _ (Or.inr (Or.inr rfl))

end Storable

section Flights

variable {host : Host} {s : ExchangeStore} {flight : EmbeddingsFlight} {moment : ReportMoment}

/-- The first report of a request, whatever was answered, is the one made first. -/
def EmbeddingsFlight.Begun (flight : EmbeddingsFlight) : Prop :=
  ∀ answer ∈ flight.answers.head?, ∀ observer,
    (Gateway.observerCalls (flight.request.handling observer)).head? = some answer.1

/-- The report comes next, and what it is about. -/
inductive NextReport (flight : EmbeddingsFlight) : ObserverCall → Prop
  | rejected (rejection : Gateway.Rejection) (hFirst : flight.answers = [])
      (hRejection : Gateway.RejectionOf flight.request.env flight.request.requestId
        flight.request.payload rejection) : NextReport flight (.rejected rejection)
  | started (metadata : RequestMetadata) (hFirst : flight.answers = [])
      (hStart : Gateway.StartOf flight.request.env flight.request.requestId
        flight.request.payload metadata) : NextReport flight (.started metadata)
  | finished (metadata : RequestMetadata) (status : Str) (usage : Option ProviderUsage)
      (errorType : Option Str) (hLast : flight.answers = [(.started metadata, none)])
      (hStart : Gateway.StartOf flight.request.env flight.request.requestId
        flight.request.payload metadata) :
      NextReport flight (.finished metadata status usage errorType)

/-- How often and what a request reports. -/
theorem reports_handling (request : EmbeddingsRequest) :
    Gateway.Reports
      (¬ Gateway.EmbeddingsReported request.env request.gatewayHeaders request.payload)
      (Gateway.RejectionOf request.env request.requestId request.payload)
      (Gateway.StartOf request.env request.requestId request.payload) request.handling :=
  Gateway.reports_handleOpenaiEmbeddings

/-- A request that was not reported yet has a next report, and every next report
is one of three. -/
theorem next_cases (hRequest : flight.request.Recordable) (hBegun : flight.Begun) :
    (flight.next = none ∧ flight.answers ≠ []) ∨
      ∃ call, flight.next = some call ∧ NextReport flight call ∧
        (flight.answers = [] → ∀ observer,
          (Gateway.observerCalls (flight.request.handling observer)).head? = some call) := by
  obtain ⟨request, answers⟩ := flight
  cases reports_handling request with
  | nothing hLeaks => exact absurd hRequest.reported hLeaks
  | rejection rejection hRejection h =>
      have hNext : EmbeddingsFlight.next ⟨request, answers⟩ =
          [ObserverCall.rejected rejection][answers.length]? :=
        congrArg (fun reports : List ObserverCall => reports[answers.length]?) (h _)
      cases answers with
      | nil =>
          refine Or.inr ⟨_, hNext, .rejected rejection rfl hRejection, fun _ observer => ?_⟩
          rw [h observer]
          rfl
      | cons answer rest => exact Or.inl ⟨hNext, List.cons_ne_nil _ _⟩
  | attempt metadata hStart last h =>
      have hNext : ∀ observer, EmbeddingsFlight.observer ⟨request, answers⟩ = observer →
          EmbeddingsFlight.next ⟨request, answers⟩ = (ObserverCall.started metadata ::
            if observer (.started metadata) = none then
              (last.map fun outcome => ObserverCall.finished metadata outcome.1 outcome.2.1
                outcome.2.2).toList
            else [])[answers.length]? := by
        rintro observer rfl
        exact congrArg (fun reports : List ObserverCall => reports[answers.length]?) (h _)
      rcases answers with _ | ⟨⟨call, answer⟩, _ | ⟨second, rest⟩⟩
      · refine Or.inr ⟨_, hNext _ rfl, .started metadata rfl hStart, fun _ observer => ?_⟩
        rw [h observer]
        rfl
      · have hCall : call = .started metadata := by
          have hHead := hBegun (call, answer) rfl fun _ => none
          rw [h] at hHead
          exact (Option.some.inj hHead).symm
        subst hCall
        have hAnswer : EmbeddingsFlight.observer ⟨request, [(.started metadata, answer)]⟩
            (.started metadata) = answer := by
          simp [EmbeddingsFlight.observer]
        have hNext := hNext _ rfl
        rw [hAnswer] at hNext
        cases answer with
        | some e => exact Or.inl ⟨hNext, List.cons_ne_nil _ _⟩
        | none =>
            cases last with
            | none => exact Or.inl ⟨hNext, List.cons_ne_nil _ _⟩
            | some outcome =>
                exact Or.inr ⟨_, hNext, .finished metadata _ _ _ rfl hStart, by rintro ⟨⟩⟩
      · refine Or.inl ⟨?_, List.cons_ne_nil _ _⟩
        rw [hNext _ rfl]
        apply List.getElem?_eq_none
        cases last <;> split <;> simp

/-- The ledger holds what the request reported: no row before its first report,
then the row that its reports make up. -/
def EmbeddingsFlight.Matches (flight : EmbeddingsFlight) (s : ExchangeStore) : Prop :=
  if flight.answers = [] then s.findAudit flight.request.requestId = none
  else ∃ row, s.findAudit flight.request.requestId = some row ∧ Recorded flight.answers row

/-- What the activity source adds to the answer of an accepted report. -/
def EmbeddingsRequest.afterwards (request : EmbeddingsRequest) : ObserverCall → Option Raise
  | .started metadata => request.activity.bind fun activity => activity.admitted metadata.requestId
  | .finished metadata _ _ _ =>
      request.activity.bind fun activity => activity.completed metadata.requestId
  | .rejected _ => none

/-- A report goes to the ledger, where the activity source does not refuse it. -/
theorem recordReport_eq {call : ObserverCall} (hRequest : flight.request.Recordable)
    (hNext : NextReport flight call) :
    recordReport host flight.request.activity moment call s =
      match persist host moment call s with
      | (some e, t) => (some e, t)
      | (none, t) => (flight.request.afterwards call, t) := by
  unfold EmbeddingsRequest.afterwards
  cases hActivity : flight.request.activity with
  | none =>
      simp only [recordReport]
      rcases persist host moment call s with ⟨_ | e, t⟩
      · cases call <;> rfl
      · rfl
  | some activity =>
      cases hNext with
      | rejected rejection =>
          simp only [recordReport]
          rcases persist host moment (.rejected rejection) s with ⟨_ | e, t⟩ <;> rfl
      | started metadata hFirst hStart =>
          have hAdmits := hRequest.activity activity hActivity
          rw [← hStart.requestId] at hAdmits
          simp only [recordReport, hAdmits]
          rfl
      | finished metadata => rfl

theorem EmbeddingsFlight.Matches.fresh (h : flight.Matches s) (hFirst : flight.answers = []) :
    s.findAudit flight.request.requestId = none := by
  rwa [EmbeddingsFlight.Matches, if_pos hFirst] at h

theorem EmbeddingsFlight.Matches.row (h : flight.Matches s) (hBegun : flight.answers ≠ []) :
    ∃ row, s.findAudit flight.request.requestId = some row ∧ Recorded flight.answers row := by
  rwa [EmbeddingsFlight.Matches, if_neg hBegun] at h

theorem EmbeddingsFlight.matches_of_row {row : AuditRow} (hBegun : flight.answers ≠ [])
    (hRow : s.findAudit flight.request.requestId = some row)
    (hRecorded : Recorded flight.answers row) : flight.Matches s := by
  rw [EmbeddingsFlight.Matches, if_neg hBegun]
  exact ⟨row, hRow, hRecorded⟩

theorem RejectionOf.outcome {env : Gateway.Collaborators} {requestId : Str} {payload : Gateway.Dict}
    {rejection : Gateway.Rejection} (h : Gateway.RejectionOf env requestId payload rejection) :
    ∃ status, RequestAuditStatus.ofText rejection.status = some status := by
  rcases h.status with hStatus | hStatus
  · exact ⟨.rejected, by rw [hStatus]; decide⟩
  · exact ⟨.cancelled, by rw [hStatus]; decide⟩

/-- The next report is answered the same on every ledger that holds what the
request reported, and is added to its row. -/
theorem recordReport_matches (host : Host) (moment : ReportMoment) {call : ObserverCall}
    (hRequest : flight.request.Recordable) (hNext : NextReport flight call) :
    ∃ answer, ∀ s, flight.Matches s →
      (recordReport host flight.request.activity moment call s).1 = answer ∧
      EmbeddingsFlight.Matches { flight with answers := flight.answers ++ [(call, answer)] }
        (recordReport host flight.request.activity moment call s).2 := by
  simp only [recordReport_eq hRequest hNext]
  cases hNext with
  | rejected rejection hFirst hRejection =>
      obtain ⟨status, hStatus⟩ := RejectionOf.outcome hRejection
      refine ⟨none, fun s hMatches => ?_⟩
      have hFresh := hMatches.fresh hFirst
      rw [← hRejection.requestId] at hFresh
      obtain ⟨hAnswer, hRow⟩ := persist_rejected host moment
        (rejection_storable hRequest hRejection) hStatus hFresh
      generalize persist host moment (.rejected rejection) s = result at hAnswer hRow ⊢
      obtain ⟨answer, t⟩ := result
      obtain rfl : answer = none := hAnswer
      refine ⟨rfl, EmbeddingsFlight.matches_of_row (by simp)
        ((congrArg t.findAudit hRejection.requestId.symm).trans hRow) ?_⟩
      rw [hFirst]
      exact .rejected rejection status _ _ hStatus
  | started metadata hFirst hStart =>
      refine ⟨flight.request.afterwards (.started metadata), fun s hMatches => ?_⟩
      have hFresh := hMatches.fresh hFirst
      rw [← hStart.requestId] at hFresh
      obtain ⟨hAnswer, hRow⟩ := persist_started host moment
        (start_storable hRequest hStart) hFresh
      generalize persist host moment (.started metadata) s = result at hAnswer hRow ⊢
      obtain ⟨answer, t⟩ := result
      obtain rfl : answer = none := hAnswer
      refine ⟨rfl, EmbeddingsFlight.matches_of_row (by simp)
        ((congrArg t.findAudit hStart.requestId.symm).trans hRow) ?_⟩
      rw [hFirst]
      exact .started metadata _ _
  | finished metadata status usage errorType hLast hStart =>
      have hStarted : ∀ s, flight.Matches s → ∃ now,
          s.findAudit metadata.requestId = some (startedRow metadata now) := by
        intro s hMatches
        obtain ⟨row, hRow, hRecorded⟩ := hMatches.row (by rw [hLast]; exact List.cons_ne_nil _ _)
        rw [hLast] at hRecorded
        cases hRecorded with
        | started _ _ now => exact ⟨now, (congrArg s.findAudit hStart.requestId).trans hRow⟩
      rcases persist_finished host moment metadata status usage errorType with
        ⟨e, hError⟩ | ⟨outcome, hOutcome, hOk⟩
      · refine ⟨some e, fun s hMatches => ?_⟩
        obtain ⟨now, hRow⟩ := hStarted s hMatches
        rw [hError s _ hRow rfl]
        refine ⟨rfl, EmbeddingsFlight.matches_of_row (by simp)
          ((congrArg s.findAudit hStart.requestId.symm).trans hRow) ?_⟩
        rw [hLast]
        exact .unfinished metadata status usage errorType e now
      · refine ⟨flight.request.afterwards (.finished metadata status usage errorType),
          fun s hMatches => ?_⟩
        obtain ⟨now, hRow⟩ := hStarted s hMatches
        obtain ⟨hAnswer, hFinished⟩ := hOk s _ hRow rfl
        generalize persist host moment (.finished metadata status usage errorType) s = result
          at hAnswer hFinished ⊢
        obtain ⟨answer, t⟩ := result
        obtain rfl : answer = none := hAnswer
        refine ⟨rfl, EmbeddingsFlight.matches_of_row (by simp)
          ((congrArg t.findAudit hStart.requestId.symm).trans hFinished) ?_⟩
        rw [hLast]
        exact .finished metadata status usage errorType _ outcome now moment.now hOutcome

/-- The move of a request, on every ledger that holds what it reported: one and
the same, and the ledger holds what it reports. -/
theorem move_matches (host : Host) (moment : ReportMoment) (hRequest : flight.request.Recordable)
    (hBegun : flight.Begun) :
    ∃ next : EmbeddingsFlight, next.request = flight.request ∧ next.answers ≠ [] ∧ next.Begun ∧
      ∀ s, flight.Matches s →
        (flight.move host moment s).1 = next ∧ next.Matches (flight.move host moment s).2 := by
  rcases next_cases hRequest hBegun with ⟨hOver, hReported⟩ | ⟨call, hCall, hNext, hFirst⟩
  · refine ⟨flight, rfl, hReported, hBegun, fun s hMatches => ?_⟩
    rw [EmbeddingsFlight.move, hOver]
    exact ⟨rfl, hMatches⟩
  · obtain ⟨answer, hAnswer⟩ := recordReport_matches host moment hRequest hNext
    refine ⟨{ flight with answers := flight.answers ++ [(call, answer)] }, rfl, by simp, ?_, ?_⟩
    · intro first hHead observer
      cases hAnswers : flight.answers with
      | nil =>
          rw [hAnswers] at hHead
          cases hHead
          exact hFirst hAnswers observer
      | cons known rest =>
          rw [hAnswers] at hHead
          obtain rfl : known = first := Option.some.inj hHead
          exact hBegun known (by rw [hAnswers]; rfl) observer
    · intro s hMatches
      obtain ⟨hSame, hRow⟩ := hAnswer s hMatches
      rw [EmbeddingsFlight.move, hCall]
      refine ⟨?_, hRow⟩
      simp only [hSame]

/-- Alone on an empty ledger, every report of a request is added to its row. -/
theorem Alone.matches {request : EmbeddingsRequest} (h : Alone host request flight s)
    (hRequest : request.Recordable) :
    flight.request = request ∧ flight.Begun ∧ flight.Matches s := by
  induction h with
  | arrives => exact ⟨rfl, by rintro _ ⟨⟩, rfl⟩
  | reports moment h ih =>
      obtain ⟨hSame, hBegun, hMatches⟩ := ih
      obtain ⟨next, hNextSame, -, hNextBegun, hMove⟩ :=
        move_matches host moment (by rw [hSame]; exact hRequest) hBegun
      obtain ⟨rfl, hNextMatches⟩ := hMove _ hMatches
      exact ⟨hNextSame.trans hSame, hNextBegun, hNextMatches⟩

/-- A move leaves the rows of other requests alone. -/
theorem move_findAudit {id : Str} {row : AuditRow} (hRequest : flight.request.Recordable)
    (hBegun : flight.Begun) (hRow : s.findAudit id = some row)
    (hApart : flight.answers ≠ [] → flight.request.requestId ≠ id) :
    (flight.move host moment s).2.findAudit id = some row := by
  rcases next_cases hRequest hBegun with ⟨hOver, -⟩ | ⟨call, hCall, hNext, -⟩
  · rw [EmbeddingsFlight.move, hOver]
    exact hRow
  · have hStep : (storeStep host (.operator (reportCall moment call)) s).2.findAudit id =
        some row := by
      apply storeStep_findAudit hRow
      rintro metadata status usage errorType now hFinish rfl
      cases hNext with
      | rejected => cases hFinish
      | started => cases hFinish
      | finished found _ _ _ hLast hStart =>
          cases hFinish
          exact hApart (by rw [hLast]; exact List.cons_ne_nil _ _) hStart.requestId.symm
    have hPersist : (persist host moment call s).2 =
        (storeStep host (.operator (reportCall moment call)) s).2 := by
      unfold persist
      rcases storeStep host (.operator (reportCall moment call)) s with ⟨_ | _, t⟩ <;> rfl
    have hRecord : (recordReport host flight.request.activity moment call s).2 =
        (persist host moment call s).2 := by
      rw [recordReport_eq hRequest hNext]
      rcases persist host moment call s with ⟨_ | _, t⟩ <;> rfl
    rw [EmbeddingsFlight.move, hCall]
    exact (congrArg (fun t : ExchangeStore => t.findAudit id) (hRecord.trans hPersist)).trans hStep

end Flights

section Runs

variable {host : Host} {system : EmbeddingsSystem}

/-- A request under way, with what the ledger holds of it. -/
structure FlightSound (host : Host) (s : ExchangeStore) (flight : EmbeddingsFlight) : Prop where
  recordable : flight.request.Recordable
  begun : flight.Begun
  row : flight.answers ≠ [] → flight.Matches s
  alone : ∃ u, Alone host flight.request flight u

/-- All requests under way, no two of which share a row. -/
structure EmbeddingsSound (host : Host) (system : EmbeddingsSystem) : Prop where
  flights : ∀ flight ∈ system.flights, FlightSound host system.store flight
  apart : ∀ (i j : Nat) (flight other : EmbeddingsFlight),
    system.flights[i]? = some flight → system.flights[j]? = some other → flight.answers ≠ [] →
      other.answers ≠ [] → flight.request.requestId = other.request.requestId → i = j

theorem FlightSound.of_row {s t : ExchangeStore} {flight : EmbeddingsFlight}
    (h : FlightSound host s flight)
    (hKept : ∀ row, flight.answers ≠ [] → s.findAudit flight.request.requestId = some row →
      t.findAudit flight.request.requestId = some row) : FlightSound host t flight := by
  refine { h with row := fun hReported => ?_ }
  obtain ⟨row, hRow, hRecorded⟩ := (h.row hReported).row hReported
  exact EmbeddingsFlight.matches_of_row hReported (hKept row hReported hRow) hRecorded

theorem FlightSound.matches {s : ExchangeStore} {flight : EmbeddingsFlight}
    (h : FlightSound host s flight)
    (hFresh : flight.answers = [] → s.findAudit flight.request.requestId = none) :
    flight.Matches s := by
  by_cases hReported : flight.answers = []
  · rw [EmbeddingsFlight.Matches, if_pos hReported]
    exact hFresh hReported
  · exact h.row hReported

/-- One report keeps every request sound. -/
theorem embeddingsSound_advance {index : Nat} {moment : ReportMoment}
    (hSound : EmbeddingsSound host system)
    (hOwn : OwnIds system (.advance index moment)) :
    EmbeddingsSound host (embeddingsStep host (.advance index moment) system).2 := by
  cases hFlight : system.flights[index]? with
  | none =>
      have hSame : (embeddingsStep host (.advance index moment) system).2 = system :=
        Flights.step_advance_none hFlight
      rw [hSame]
      exact hSound
  | some flight =>
      have hStep : (embeddingsStep host (.advance index moment) system).2 =
          { store := (flight.move host moment system.store).2
            flights := system.flights.set index (flight.move host moment system.store).1 } :=
        Flights.step_advance hFlight
      have hMoving := hSound.flights flight (List.mem_of_getElem? hFlight)
      have hFresh := hOwn flight hFlight
      obtain ⟨next, hSame, hReported, hBegun, hMove⟩ :=
        move_matches host moment hMoving.recordable hMoving.begun
      obtain ⟨hNext, hMatches⟩ := hMove _ (hMoving.matches hFresh)
      rw [hStep, hNext]
      have hOthers : ∀ (j : Nat) (other : EmbeddingsFlight), j ≠ index →
          system.flights[j]? = some other → other.answers ≠ [] → other.request.requestId ≠ flight.request.requestId := by
        intro j other hOther hAt hAnswers hId
        by_cases hFirst : flight.answers = []
        · have hSoundOther := hSound.flights other (List.mem_of_getElem? hAt)
          obtain ⟨row, hRow, -⟩ := (hSoundOther.row hAnswers).row hAnswers
          rw [hId, hFresh hFirst] at hRow
          cases hRow
        · exact hOther (hSound.apart j index other flight hAt hFlight hAnswers hFirst hId)
      have hAt : ∀ j other, (system.flights.set index next)[j]? = some other →
          j = index ∧ other = next ∨ j ≠ index ∧ system.flights[j]? = some other := by
        intro j other hAt
        by_cases hIndex : j = index
        · subst hIndex
          rw [List.getElem?_set_self (List.getElem?_eq_some_iff.mp hFlight).1] at hAt
          exact Or.inl ⟨rfl, (Option.some.inj hAt).symm⟩
        · rw [List.getElem?_set_ne (Ne.symm hIndex)] at hAt
          exact Or.inr ⟨hIndex, hAt⟩
      constructor
      · intro other hMem
        obtain ⟨j, hJ⟩ := List.getElem?_of_mem hMem
        rcases hAt j other hJ with ⟨-, rfl⟩ | ⟨hOther, hOld⟩
        · obtain ⟨u, hAlone⟩ := hMoving.alone
          obtain ⟨-, -, hAloneMatches⟩ := hAlone.matches hMoving.recordable
          refine ⟨by rw [hSame]; exact hMoving.recordable, hBegun, fun _ => hMatches, ?_⟩
          rw [hSame, ← (hMove u hAloneMatches).1]
          exact ⟨_, hAlone.reports moment⟩
        · have hSoundOther := hSound.flights other (List.mem_of_getElem? hOld)
          apply hSoundOther.of_row
          intro row hAnswers hRow
          apply move_findAudit hMoving.recordable hMoving.begun hRow
          exact fun _ => (hOthers j other hOther hOld hAnswers).symm
      · intro i j first second hI hJ hFirst hSecond hId
        rcases hAt i first hI with ⟨rfl, rfl⟩ | ⟨hOtherI, hOldI⟩
        · rcases hAt j second hJ with ⟨rfl, -⟩ | ⟨hOtherJ, hOldJ⟩
          · rfl
          · exact absurd (hId.symm.trans (congrArg _ hSame)) (hOthers j second hOtherJ hOldJ hSecond)
        · rcases hAt j second hJ with ⟨rfl, rfl⟩ | ⟨-, hOldJ⟩
          · exact absurd (hId.trans (congrArg _ hSame)) (hOthers i first hOtherI hOldI hFirst)
          · exact hSound.apart i j first second hOldI hOldJ hFirst hSecond hId

theorem embeddingsSound_preserved (host : Host) :
    Preserves (embeddingsStep host) OwnIds (EmbeddingsSound host) := by
  intro system input hSound hOwn
  cases input with
  | advance index moment => exact embeddingsSound_advance hSound hOwn
  | operate call =>
      refine ⟨fun flight hMem => ?_, hSound.apart⟩
      apply (hSound.flights flight hMem).of_row
      intro row hReported hRow
      apply storeStep_findAudit hRow
      exact fun metadata status usage errorType now hCall =>
        hOwn metadata status usage errorType now hCall flight hMem hReported
  | arrive request =>
      constructor
      · intro flight hMem
        rcases List.mem_append.mp hMem with hOld | hNew
        · exact hSound.flights flight hOld
        · obtain rfl := List.mem_singleton.mp hNew
          exact ⟨hOwn, by rintro _ ⟨⟩, fun h => absurd rfl h, {}, .arrives⟩
      · have hOld : ∀ (i : Nat) (flight : EmbeddingsFlight),
            (system.flights ++ [EmbeddingsFlight.mk request []])[i]? = some flight → flight.answers ≠ [] → system.flights[i]? = some flight := by
          intro i flight hAt hReported
          rcases Nat.lt_or_ge i system.flights.length with hLess | hMore
          · rwa [List.getElem?_append_left hLess] at hAt
          · rw [List.getElem?_append_right hMore] at hAt
            have hNew := List.mem_singleton.mp (List.mem_of_getElem? hAt)
            subst hNew
            exact absurd rfl hReported
        intro i j first second hI hJ hFirst hSecond hId
        exact hSound.apart i j first second (hOld i first hI hFirst) (hOld j second hJ hSecond)
          hFirst hSecond hId

/-- As long as every request makes its first report under an id of its own, each
request that reported has its own row and fares as it would alone. -/
theorem embeddings_own_rows (host : Host) (s : ExchangeStore) (inputs : List EmbeddingsInput)
    (hOwn : Admitted (embeddingsStep host) OwnIds inputs ⟨s, []⟩) :
    OwnRows host (run (embeddingsStep host) inputs ⟨s, []⟩) := by
  have hStart : EmbeddingsSound host ⟨s, []⟩ := ⟨by rintro _ ⟨⟩, by rintro _ _ _ _ ⟨⟩⟩
  have hSound := (embeddingsSound_preserved host).run hStart hOwn
  refine ⟨?_, hSound.apart, fun flight hMem => (hSound.flights flight hMem).alone⟩
  intro flight hMem hReached
  have hFlight := hSound.flights flight hMem
  have hReported : flight.answers ≠ [] := by
    rcases hReached with hReported | hOver
    · exact hReported
    · rcases next_cases hFlight.recordable hFlight.begun with ⟨-, hReported⟩ | ⟨call, hCall, -⟩
      · exact hReported
      · rw [hOver] at hCall
        cases hCall
  obtain ⟨row, hRow, hRecorded⟩ := (hFlight.row hReported).row hReported
  exact ⟨row, List.mem_of_find?_eq_some hRow, by simpa using List.find?_some hRow, hRecorded⟩

end Runs

section Sample

/-- A request of this client under this `X-Request-Id`. -/
def sampleEmbeddings (client : String) (requestId : List UInt8) : EmbeddingsRequest where
  rawHeaders := [("x-request-id".toUTF8.toList, requestId),
    ("authorization".toUTF8.toList, "Bearer t".toUTF8.toList)]
  drawn := sampleUuid 'd'
  payload := [("model", .str "m"), ("input", .str "hi")]
  env := { Gateway.calmCollaborators with
    principals := fun _ => .ok (some { actorId := client, workspaceId := "w", credentialRef := "c" }) }

theorem sampleEmbeddings_recordable (client : String) (requestId : List UInt8) :
    (sampleEmbeddings client requestId).Recordable where
  reported := by
    refine ⟨?_, fun _ _ => ?_, ?_⟩
    · rintro ⟨_, -, _, ⟨⟩⟩
    · have hParsed : ∃ parsed, Gateway.NormalizedEmbeddingRequest.fromOpenai
          (.dict (sampleEmbeddings client requestId).payload) = .ok parsed := ⟨_, rfl⟩
      obtain ⟨parsed, hParsed⟩ := hParsed
      apply Gateway.settles_embedding.mp
      intro e hError
      rw [hParsed] at hError
      cases hError
    · rintro _ - _ - - (⟨_, ⟨⟩⟩ | ⟨-, _, ⟨⟩⟩)
  model := rfl
  principals := by
    rintro _ _ ⟨⟩
    rw [storable_iff]
    intro t hMem
    simp only [List.mem_cons, Option.some.injEq, List.not_mem_nil, or_false] at hMem
    rcases hMem with rfl | rfl | rfl <;> exact hasSurrogate_text _
  targets := by
    rintro _ _ _ ⟨⟩ target hMem
    rw [List.mem_singleton.mp hMem]
    decide
  activity := by rintro _ ⟨⟩

/-- Two clients, one after the other. -/
def sampleSession (requestId : List UInt8) : List EmbeddingsInput :=
  [.arrive (sampleEmbeddings "a" [49]), .advance 0 ⟨0, 0⟩, .advance 0 ⟨1, 1⟩,
    .arrive (sampleEmbeddings "b" requestId), .advance 1 ⟨2, 2⟩, .advance 1 ⟨3, 3⟩]

theorem ownIds_advance {system : EmbeddingsSystem} {index : Nat} {moment : ReportMoment}
    (h : (system.flights[index]?.all fun flight => !flight.answers.isEmpty ||
      (system.store.findAudit flight.request.requestId).isNone) = true) :
    OwnIds system (.advance index moment) := by
  intro flight hFlight hFirst
  rw [hFlight] at h
  simpa [hFirst] using h

theorem embeddings_own_rows_sample : OwnRows sampleHost
    (run (embeddingsStep sampleHost) (sampleSession [50]) ⟨{}, []⟩) :=
  embeddings_own_rows sampleHost {} (sampleSession [50])
    ⟨sampleEmbeddings_recordable _ _, ownIds_advance (by decide +kernel),
      ownIds_advance (by decide +kernel), sampleEmbeddings_recordable _ _,
      ownIds_advance (by decide +kernel), ownIds_advance (by decide +kernel), trivial⟩

/-- Under the id of another client's request the second request has no row. -/
theorem repeated_request_id_shares_row : ¬ ∀ host s inputs,
    OwnRows host (run (embeddingsStep host) inputs ⟨s, []⟩) := by
  intro h
  have hApart := (h sampleHost {} (sampleSession [49])).apart 0 1 _ _ rfl rfl
    (List.isEmpty_eq_false_iff.mp (by decide +kernel))
    (List.isEmpty_eq_false_iff.mp (by decide +kernel)) (by decide +kernel)
  cases hApart

end Sample

end CyreneExchange.Product
