import CyreneExchange.Integrations.Canonical
import CyreneExchange.Integrations.Intake.Enlistment

/-! Both entry paths of issue actions under any interleaving: the requests of
one actor that share a connection and an idempotency key create one operation
with one job. The digest function is assumed free of collisions on the bodies
submitted in the run. -/
namespace CyreneExchange.Integrations

open Machine Transaction

/-- A request as it arrives, over HTTP or as a chat command. -/
inductive EnqueueEntry where
  | rest (principal : IntegrationPrincipal) (request : EnqueueIssueAction)
      (authorizationOperationId : Option String)
  | command (issue : IssueCommand)

def EnqueueEntry.stage : EnqueueEntry → EnqueueStage
  | .rest principal request authorizationOperationId =>
      .rest principal request authorizationOperationId
  | .command issue => .command issue

/-- The store with the enqueue requests in flight. -/
structure EnqueueSystem where
  store : Store := {}
  requests : List (Option EnqueueStage) := []

/-- Who moves next: a request, or any other caller of the store. -/
inductive EnqueueAction where
  | call (call : IntakeCall)
  | enter (entry : EnqueueEntry)
  | proceed (requestIndex : Nat) (draw : Draw)

inductive EnqueueOutput where
  | idle
  | entered
  | called (answer : Except StoreError IntakeAnswer)
  | proceeded (progress : Except StoreError EnqueueProgress)

/-- One step of the system. -/
def performEnqueue (sha256 : String → String) (action : EnqueueAction) (system : EnqueueSystem) :
    EnqueueOutput × EnqueueSystem :=
  match action with
  | .call call =>
      let (answer, t) := commit (call.body sha256) system.store
      (.called answer, { system with store := t })
  | .enter entry =>
      (.entered, { system with requests := system.requests ++ [some entry.stage] })
  | .proceed requestIndex draw =>
      match (system.requests[requestIndex]?).join with
      | none => (.idle, system)
      | some stage =>
          let (progress, t) := commit (stage.body sha256 draw) system.store
          (.proceeded progress, { system with
            store := t
            requests := system.requests.set requestIndex (EnqueueProgress.stage progress) })

def IssueSubmission.intentKey (submission : IssueSubmission) : IntentKey :=
  ⟨submission.scope, submission.connection.id, submission.request.idempotencyKey⟩

/-- The body a replay must repeat. -/
def IssueSubmission.canonical (submission : IssueSubmission) : JsonObject :=
  canonicalRequest submission.request submission.binding submission.sourceKind
    submission.sourceEventRef

def IssueSubmission.canonicalText (submission : IssueSubmission) : String :=
  Json.dumps (.obj submission.canonical)

def OperationRow.intentKey (row : OperationRow) : IntentKey :=
  ⟨row.scope, row.connectionId, row.idempotencyKey⟩

/-- The submission an event carries out. -/
def submissionOf (e : Event EnqueueSystem EnqueueAction EnqueueOutput) : Option IssueSubmission :=
  match e.input with
  | .proceed requestIndex _ =>
      match (e.before.requests[requestIndex]?).join with
      | some (.submitting submission) => some submission
      | _ => none
  | _ => none

/-- The bodies submitted in a run. -/
def submittedTexts (sha256 : String → String) (actions : List EnqueueAction) : List String :=
  (trace (performEnqueue sha256) actions {}).filterMap fun e =>
    (submissionOf e).map IssueSubmission.canonicalText

/-- The request a submission carries out. -/
def EnqueueEntry.Submits (submission : IssueSubmission) : EnqueueEntry → Prop
  | .rest principal request _ =>
      submission.request = request ∧ submission.scope = principal.scope ∧
        submission.connection.id = request.connectionId ∧
        submission.binding.id = request.bindingId ∧ submission.sourceKind = .rest ∧
        submission.sourceEventRef = none
  | .command issue => ∃ parsed, parseIssueCommand issue.commandText = .ok parsed ∧
      submission.request = issue.request parsed submission.binding submission.connection ∧
      submission.scope = issue.scope ∧
      submission.connection.id = submission.binding.connectionId ∧
      submission.binding.id = issue.bindingId ∧ submission.sourceKind = .wecomCommand ∧
      submission.sourceEventRef = some issue.sourceEventRef

/-- The stages a request passes through. -/
def EnqueueEntry.Reaches (entry : EnqueueEntry) : EnqueueStage → Prop
  | .rest principal request grant => entry = .rest principal request grant
  | .restBound principal request grant binding =>
      entry = .rest principal request grant ∧ binding.id = request.bindingId
  | .restDelegated principal request binding _ =>
      (∃ grant, entry = .rest principal request grant) ∧ binding.id = request.bindingId
  | .command issue => entry = .command issue
  | .commandMatched issue parsed binding _ =>
      entry = .command issue ∧ parseIssueCommand issue.commandText = .ok parsed ∧
        binding.id = issue.bindingId
  | .commandEligible issue parsed binding _ _ =>
      entry = .command issue ∧ parseIssueCommand issue.commandText = .ok parsed ∧
        binding.id = issue.bindingId
  | .submitting submission => entry.Submits submission

section Entries

variable {sha256 : String → String} {s t : Store} {entry : EnqueueEntry}

theorem EnqueueEntry.reaches_stage (entry : EnqueueEntry) : entry.Reaches entry.stage := by
  cases entry <;> rfl

/-- A request keeps carrying what it arrived with. -/
theorem EnqueueEntry.Reaches.next {stage next : EnqueueStage} {draw : Draw}
    (h : entry.Reaches stage) (hBody : stage.body sha256 draw s = .ok (.continues next, t)) :
    entry.Reaches next := by
  cases stage with
  | rest principal request grant =>
      obtain ⟨_, _, _, hBody⟩ := bind_eq_ok.mp hBody
      iterate 2 obtain ⟨_, _, _, hBody⟩ := bind_eq_ok.mp hBody
      obtain ⟨found, _, hFetch, hBody⟩ := bind_eq_ok.mp hBody
      obtain ⟨binding, _, hExpect, hBody⟩ := bind_eq_ok.mp hBody
      obtain ⟨_, _, _, hPure⟩ := bind_eq_ok.mp hBody
      cases hFetch
      cases hPure
      have hWhere := (find_some_eq (expectRow_eq_ok.mp hExpect).1).2
      simp only [Bool.and_eq_true, beq_iff_eq] at hWhere
      exact ⟨h, hWhere.1.1⟩
  | restBound principal request grant binding =>
      iterate 4 obtain ⟨_, _, _, hBody⟩ := bind_eq_ok.mp hBody
      cases hBody
      exact ⟨⟨grant, h.1⟩, h.2⟩
  | restDelegated principal request binding actorBinding =>
      obtain ⟨found, _, hFetch, hBody⟩ := bind_eq_ok.mp hBody
      obtain ⟨connection, _, hExpect, hPure⟩ := bind_eq_ok.mp hBody
      cases hFetch
      cases hPure
      have hWhere := (find_some_eq (expectRow_eq_ok.mp hExpect).1).2
      simp only [Bool.and_eq_true, beq_iff_eq] at hWhere
      obtain ⟨⟨grant, rfl⟩, hBinding⟩ := h
      exact ⟨rfl, rfl, hWhere.1.1.1, hBinding, rfl, rfl⟩
  | command issue =>
      iterate 3 obtain ⟨_, _, _, hBody⟩ := bind_eq_ok.mp hBody
      obtain ⟨parsed, _, hParsed, hBody⟩ := bind_eq_ok.mp hBody
      obtain ⟨foundBinding, _, hFetch, hBody⟩ := bind_eq_ok.mp hBody
      obtain ⟨foundActor, _, _, hBody⟩ := bind_eq_ok.mp hBody
      obtain ⟨binding, _, hExpect, hBody⟩ := bind_eq_ok.mp hBody
      obtain ⟨actorBinding, _, _, hPure⟩ := bind_eq_ok.mp hBody
      cases hFetch
      cases hPure
      have hWhere := (find_some_eq (expectRow_eq_ok.mp hExpect).1).2
      simp only [Bool.and_eq_true, beq_iff_eq] at hWhere
      refine ⟨h, ?_, hWhere.1.1⟩
      cases hParse : parseIssueCommand issue.commandText with
      | error e => simp [hParse, returned] at hParsed
      | ok found =>
          simp only [hParse, returned, pure_apply, Except.ok.injEq, Prod.mk.injEq] at hParsed
          rw [hParsed.1]
  | commandMatched issue parsed binding actorBinding =>
      iterate 5 obtain ⟨_, _, _, hBody⟩ := bind_eq_ok.mp hBody
      cases hBody
      exact h
  | commandEligible issue parsed binding actorBinding event =>
      obtain ⟨found, _, hFetch, hBody⟩ := bind_eq_ok.mp hBody
      obtain ⟨connection, _, hExpect, hBody⟩ := bind_eq_ok.mp hBody
      obtain ⟨_, _, _, hPure⟩ := bind_eq_ok.mp hBody
      cases hFetch
      cases hPure
      have hWhere := (find_some_eq (expectRow_eq_ok.mp hExpect).1).2
      simp only [Bool.and_eq_true, beq_iff_eq] at hWhere
      obtain ⟨rfl, hParsed, hBinding⟩ := h
      exact ⟨parsed, hParsed, rfl, rfl, hWhere.1.1.1, hBinding, rfl, rfl⟩
  | submitting submission =>
      obtain ⟨_, _, _, hPure⟩ := bind_eq_ok.mp hBody
      cases hPure

/-- The stage a committed step leaves the request with. -/
theorem EnqueueEntry.Reaches.progress {stage next : EnqueueStage} {draw : Draw}
    (h : entry.Reaches stage)
    (hNext : some next = EnqueueProgress.stage (commit (stage.body sha256 draw) s).1) :
    entry.Reaches next := by
  cases hBody : (commit (stage.body sha256 draw) s).1 with
  | error e => simp [hBody, EnqueueProgress.stage] at hNext
  | ok progress =>
      rw [hBody] at hNext
      cases progress with
      | returns operation => cases hNext
      | continues found =>
          cases hNext
          exact h.next (commit_eq_ok hBody)

end Entries

section Canonical

/-- The text of a canonical body determines the body. -/
theorem canonicalRequest_inj {request request' : EnqueueIssueAction}
    {binding binding' : SyncBinding} {sourceKind sourceKind' : SourceKind}
    {sourceEventRef sourceEventRef' : Option String}
    (h : Json.dumps (.obj (canonicalRequest request' binding' sourceKind' sourceEventRef')) =
      Json.dumps (.obj (canonicalRequest request binding sourceKind sourceEventRef))) :
    canonicalRequest request' binding' sourceKind' sourceEventRef' =
      canonicalRequest request binding sourceKind sourceEventRef := by
  refine Json.dumps_obj_inj rfl ?_ ?_ ?_ h
  · simp [canonicalRequest]
  · simp [canonicalRequest]
  · simp [canonicalRequest]

end Canonical

section Submission

variable {sha256 : String → String} {s t : Store} {intent : IssueIntent} {operation : Operation}

def IssueIntent.intentKey (intent : IssueIntent) : IntentKey :=
  ⟨intent.scope, intent.connection.id, intent.request.idempotencyKey⟩

/-- A successful submission returns the stored operation of its key and body. -/
theorem persistIssueAction_returns
    (h : persistIssueAction sha256 intent s = .ok (operation, t)) :
    ∃ row ∈ t.operations, row.document = operation ∧ row.intentKey = intent.intentKey ∧
      row.requestHash = intent.digest sha256 := by
  unfold persistIssueAction at h
  rw [fetch_bind] at h
  cases hExisting : s.operations.find? (fun row =>
      row.scope == intent.scope && row.connectionId == intent.connection.id &&
        row.idempotencyKey == intent.request.idempotencyKey) with
  | some row =>
      simp only [hExisting, bind_eq_ok, require_eq_ok, readOperation_eq_ok] at h
      obtain ⟨_, _, ⟨hSame, rfl⟩, _, rfl, rfl⟩ := h
      obtain ⟨hMem, hKey⟩ := find_some_eq hExisting
      simp only [Bool.and_eq_true, beq_iff_eq] at hKey hSame
      refine ⟨row, hMem, rfl, ?_, hSame⟩
      unfold OperationRow.intentKey IssueIntent.intentKey
      rw [hKey.1.1, hKey.1.2, hKey.2]
  | none =>
      cases hArguments : providerArguments intent.request intent.connection with
      | error e => simp [hExisting, hArguments] at h
      | ok arguments =>
          simp only [hExisting, hArguments] at h
          obtain ⟨_, _, hValid, h⟩ := bind_eq_ok.mp h
          obtain ⟨_, rfl⟩ := require_eq_ok.mp hValid
          obtain ⟨_, admitted, hInsert, h⟩ := bind_eq_ok.mp h
          obtain ⟨_, _, hRequire, h⟩ := bind_eq_ok.mp h
          obtain ⟨_, rfl⟩ := require_eq_ok.mp hRequire
          obtain ⟨_, enqueued, hJob, h⟩ := bind_eq_ok.mp h
          simp only [pure_apply, Except.ok.injEq, Prod.mk.injEq] at h
          obtain ⟨rfl, rfl⟩ := h
          obtain rfl := insertOperation_appends hInsert
          obtain rfl := insertJob_appends hJob
          exact ⟨_, List.mem_append_right _ (List.mem_singleton_self _), rfl, rfl, rfl⟩

/-- A submission under a stored key with another digest is a conflict. -/
theorem persistIssueAction_conflicts {row : OperationRow} (hMem : row ∈ s.operations)
    (hUnique : Table.KeysUnique OperationRow.intentKey s.operations)
    (hKey : row.intentKey = intent.intentKey) (hHash : row.requestHash ≠ intent.digest sha256) :
    persistIssueAction sha256 intent s =
      .error (.conflict "idempotency key was reused for a different request") := by
  unfold persistIssueAction
  rw [fetch_bind]
  cases hExisting : s.operations.find? (fun row =>
      row.scope == intent.scope && row.connectionId == intent.connection.id &&
        row.idempotencyKey == intent.request.idempotencyKey) with
  | none =>
      have hNone := List.find?_eq_none.mp hExisting row hMem
      simp only [OperationRow.intentKey, IssueIntent.intentKey, IntentKey.mk.injEq] at hKey
      simp [hKey] at hNone
  | some found =>
      obtain ⟨hFound, hWhere⟩ := find_some_eq hExisting
      simp only [Bool.and_eq_true, beq_iff_eq] at hWhere
      obtain rfl : found = row := hUnique.eq hFound hMem (by
        rw [hKey]
        unfold OperationRow.intentKey IssueIntent.intentKey
        rw [hWhere.1.1, hWhere.1.2, hWhere.2])
      exact bind_of_error (require_of_false (beq_eq_false_iff_ne.mpr hHash) _ _)

end Submission

section Runs

variable {sha256 : String → String}

/-- Only a submission returns an operation. -/
theorem EnqueueStage.body_returns {stage : EnqueueStage} {draw : Draw} {operation : Operation}
    {s t : Store} (h : stage.body sha256 draw s = .ok (.returns operation, t)) :
    ∃ submission, stage = .submitting submission ∧
      persistIssueAction sha256 (submission.intent draw) s = .ok (operation, t) := by
  cases stage with
  | submitting submission =>
      obtain ⟨_, _, hPersist, hPure⟩ := bind_eq_ok.mp h
      cases hPure
      exact ⟨submission, rfl, hPersist⟩
  | rest | restBound | restDelegated | command | commandMatched | commandEligible =>
      simp only [EnqueueStage.body, beginRest, delegateRest, connectRest, beginCommand,
        matchCommand, connectCommand, bind_eq_ok, pure_apply, Except.ok.injEq, Prod.mk.injEq,
        reduceCtorEq, false_and, and_false, exists_false] at h

/-- What a successful step of a request tells. -/
theorem performEnqueue_returns {system : EnqueueSystem} {action : EnqueueAction}
    {operation : Operation}
    (h : (performEnqueue sha256 action system).1 = .proceeded (.ok (.returns operation))) :
    ∃ requestIndex draw submission, action = .proceed requestIndex draw ∧
      (system.requests[requestIndex]?).join = some (.submitting submission) ∧
      persistIssueAction sha256 (submission.intent draw) system.store =
        .ok (operation, (performEnqueue sha256 action system).2.store) := by
  cases action with
  | call | enter => simp [performEnqueue] at h
  | proceed requestIndex draw =>
      simp only [performEnqueue] at h ⊢
      cases hStage : (system.requests[requestIndex]?).join with
      | none => simp [hStage] at h
      | some stage =>
          simp only [hStage, EnqueueOutput.proceeded.injEq] at h ⊢
          obtain ⟨submission, rfl, hPersist⟩ := EnqueueStage.body_returns (commit_eq_ok h)
          exact ⟨requestIndex, draw, submission, rfl, hStage, hPersist⟩

/-- What every call and every step of a request respects, the system respects. -/
theorem performEnqueue_respects {R : Store → Store → Prop} [Std.Refl R]
    (hCall : ∀ call, Respects R (IntakeCall.body sha256 call))
    (hStage : ∀ draw stage, Respects R (EnqueueStage.body sha256 draw stage))
    (action : EnqueueAction) (system : EnqueueSystem) :
    R system.store (performEnqueue sha256 action system).2.store := by
  cases action with
  | call call => exact (hCall call).commit system.store
  | enter entry => exact refl_of _ _
  | proceed requestIndex draw =>
      simp only [performEnqueue]
      split
      · exact refl_of _ _
      · next stage _ => exact (hStage draw stage).commit system.store

theorem performEnqueue_advances (sha256 : String → String) (action : EnqueueAction)
    (system : EnqueueSystem) : system.store.Advances Board.Discipline.free
      (performEnqueue sha256 action system).2.store :=
  performEnqueue_respects (IntakeCall.body_advances sha256 fun _ => trivial)
    (EnqueueStage.body_respects (persistIssueAction_advances sha256 fun _ _ => trivial)) action
    system

/-- A step that raises leaves the store as it was. -/
theorem performEnqueue_failed {system : EnqueueSystem} {action : EnqueueAction} {error : StoreError}
    (h : (performEnqueue sha256 action system).1 = .proceeded (.error error)) :
    (performEnqueue sha256 action system).2.store = system.store := by
  cases action with
  | call | enter => simp [performEnqueue] at h
  | proceed requestIndex draw =>
      simp only [performEnqueue] at h ⊢
      cases hStage : (system.requests[requestIndex]?).join with
      | none => rfl
      | some stage =>
          simp only [hStage, EnqueueOutput.proceeded.injEq] at h ⊢
          exact commit_of_error h

/-- What holds of the store in every reachable state. -/
structure Store.Enlisted (s : Store) : Prop where
  wellFormed : s.WellFormed
  enlisted : s.board.Enlisted

theorem Store.Advances.enlisted {rules : Board.Discipline} {s t : Store}
    (h : s.Advances rules t) (hEnlisted : s.Enlisted) : t.Enlisted := by
  obtain ⟨wf, hMoves⟩ := h hEnlisted.wellFormed
  exact ⟨wf, hEnlisted.enlisted.moves hEnlisted.wellFormed.keyed hMoves⟩

theorem Store.initial_enlisted : Store.initial.Enlisted := by
  refine ⟨Store.initial_wellFormed, ⟨List.nodup_nil, ?_, ?_⟩⟩ <;>
    simp [Store.initial, Store.board]

/-- The intent of every stored operation lasts. -/
def Store.Lasts (s t : Store) : Prop :=
  ∀ o ∈ s.board.operations, ∃ o' ∈ t.board.operations, o.SameIntent o'

theorem Store.Lasts.refl (s : Store) : s.Lasts s := fun o ho => ⟨o, ho, rfl⟩

theorem Store.Lasts.trans {s t u : Store} (h : s.Lasts t) (h' : t.Lasts u) : s.Lasts u := by
  intro o ho
  obtain ⟨o', ho', hSame⟩ := h o ho
  obtain ⟨o'', ho'', hSame'⟩ := h' o' ho'
  exact ⟨o'', ho'', hSame.trans hSame'⟩

theorem Store.Advances.lasts {rules : Board.Discipline} {s t : Store} (h : s.Advances rules t)
    (wf : s.WellFormed) : s.Lasts t := by
  intro o ho
  exact (h wf).2.operation_image ho

/-- A row keeps its identifier, its key and its digest. -/
theorem Store.Lasts.row {s t : Store} (h : s.Lasts t) (wf : s.WellFormed) (wf' : t.WellFormed)
    {row : OperationRow} (hRow : row ∈ s.operations) : ∃ row' ∈ t.operations, row'.id = row.id ∧
      row'.intentKey = row.intentKey ∧ row'.requestHash = row.requestHash := by
  obtain ⟨o, ho, hSame⟩ := h _ (Store.WellFormed.mem_operations hRow)
  refine ⟨_, wf'.ofOperation_mem ho, ?_⟩
  rw [wf.operationRows row hRow, hSame]
  exact ⟨rfl, rfl, rfl⟩

theorem performEnqueue_enlisted (sha256 : String → String) :
    Preserves (performEnqueue sha256) (fun _ _ => True)
      (fun system : EnqueueSystem => system.store.Enlisted) :=
  fun system action h _ => (performEnqueue_advances sha256 action system).enlisted h

theorem Store.WellFormed.intentKey_eq {s : Store} (wf : s.WellFormed) {row : OperationRow}
    (hRow : row ∈ s.operations) : row.intentKey = row.document.intentKey := by
  rw [wf.operationRows row hRow]
  rfl

theorem Store.Enlisted.keys {s : Store} (h : s.Enlisted) :
    Table.KeysUnique OperationRow.intentKey s.operations := by
  have hKeys : s.operations.map OperationRow.intentKey =
      s.board.operations.map Operation.intentKey := by
    unfold Store.board
    rw [List.map_map]
    exact List.map_congr_left fun row hRow => h.wellFormed.intentKey_eq hRow
  unfold Table.KeysUnique
  rw [hKeys]
  exact h.enlisted.keys

theorem Store.Enlisted.countP_le {s : Store} (h : s.Enlisted) (key : IntentKey) :
    s.operations.countP (fun row => row.intentKey = key) ≤ 1 := by
  by_cases hKnown : ∃ row ∈ s.operations, row.intentKey = key
  · obtain ⟨row, hRow, rfl⟩ := hKnown
    exact Nat.le_of_eq (h.keys.countP_eq_one hRow fun x _ => (beq_eq_decide _ _).symm)
  · rw [List.countP_eq_zero.mpr]
    · exact Nat.zero_le 1
    · intro row hRow hKey
      exact hKnown ⟨row, hRow, of_decide_eq_true hKey⟩

theorem Store.Enlisted.jobs_eq {s : Store} (h : s.Enlisted) {row : OperationRow}
    (hRow : row ∈ s.operations) : s.jobsNaming .issueAction row.id = 1 := by
  rw [jobsNaming_eq h.wellFormed, h.wellFormed.operationRow_id hRow]
  exact h.enlisted.assigned _ (Store.WellFormed.mem_operations hRow)

/-- What enqueueing guarantees in every run. -/
structure EnqueuedOnce (sha256 : String → String) (actions : List EnqueueAction) : Prop where
  /-- One operation per actor scope, connection and idempotency key. -/
  operations : ∀ key : IntentKey, (run (performEnqueue sha256) actions {}).store.operations.countP
    (fun row => row.intentKey = key) ≤ 1
  /-- One job carries out each operation. -/
  jobs : ∀ row ∈ (run (performEnqueue sha256) actions {}).store.operations,
    (run (performEnqueue sha256) actions {}).store.jobsNaming .issueAction row.id = 1
  /-- A request that succeeds returns the stored operation of its key, and that
  operation is there to stay. -/
  returned : ∀ e ∈ trace (performEnqueue sha256) actions {}, ∀ operation,
    e.output = .proceeded (.ok (.returns operation)) → ∃ submission,
      submissionOf e = some submission ∧
      (∃ row ∈ e.after.store.operations, row.document = operation ∧
        row.intentKey = submission.intentKey) ∧
      ∃ row ∈ (run (performEnqueue sha256) actions {}).store.operations,
        row.id = operation.id ∧ row.intentKey = submission.intentKey
  /-- A later body that differs is a conflict. -/
  conflicts : (trace (performEnqueue sha256) actions {}).Pairwise fun e f =>
    ∀ submission operation submission', submissionOf e = some submission →
      e.output = .proceeded (.ok (.returns operation)) → submissionOf f = some submission' →
      submission'.intentKey = submission.intentKey →
      submission'.canonical ≠ submission.canonical →
        f.output = .proceeded (.error
          (.conflict "idempotency key was reused for a different request")) ∧
        f.after.store = f.before.store
  /-- Every submission carries out a request that arrived. -/
  origin : ∀ e ∈ trace (performEnqueue sha256) actions {}, ∀ submission,
    submissionOf e = some submission → ∃ entry, .enter entry ∈ actions ∧ entry.Submits submission
  /-- A request that raises leaves the store unchanged. -/
  failed : ∀ e ∈ trace (performEnqueue sha256) actions {}, ∀ error,
    e.output = .proceeded (.error error) → e.after.store = e.before.store

theorem mem_submittedTexts {actions : List EnqueueAction} {submission : IssueSubmission}
    {e : Event EnqueueSystem EnqueueAction EnqueueOutput}
    (he : e ∈ trace (performEnqueue sha256) actions {}) (h : submissionOf e = some submission) :
    submission.canonicalText ∈ submittedTexts sha256 actions :=
  List.mem_filterMap.mpr ⟨e, he, by rw [h]; rfl⟩

theorem submissionOf_eq_some {e : Event EnqueueSystem EnqueueAction EnqueueOutput}
    {submission : IssueSubmission} : submissionOf e = some submission ↔
      ∃ requestIndex draw, e.input = .proceed requestIndex draw ∧
        (e.before.requests[requestIndex]?).join = some (.submitting submission) := by
  unfold submissionOf
  constructor
  · intro h
    split at h
    · next requestIndex draw hInput =>
        split at h
        · next hStage =>
            cases h
            exact ⟨requestIndex, draw, hInput, hStage⟩
        · cases h
    · cases h
  · rintro ⟨requestIndex, draw, hInput, hStage⟩
    simp only [hInput, hStage]

/-- A submission that succeeds, as an event of a run. -/
theorem submission_returns {e : Event EnqueueSystem EnqueueAction EnqueueOutput}
    {operation : Operation} (hOutput : e.output = (performEnqueue sha256 e.input e.before).1)
    (hAfter : e.after = (performEnqueue sha256 e.input e.before).2)
    (h : e.output = .proceeded (.ok (.returns operation))) : ∃ submission,
      submissionOf e = some submission ∧ ∃ row ∈ e.after.store.operations,
        row.document = operation ∧ row.intentKey = submission.intentKey ∧
        row.requestHash = sha256 submission.canonicalText := by
  rw [hOutput] at h
  obtain ⟨requestIndex, draw, submission, hInput, hStage, hPersist⟩ := performEnqueue_returns h
  rw [hAfter]
  exact ⟨submission, submissionOf_eq_some.mpr ⟨requestIndex, draw, hInput, hStage⟩,
    persistIssueAction_returns hPersist⟩

/-- A submission under a stored key with another body, as an event of a run. -/
theorem submission_conflicts {f : Event EnqueueSystem EnqueueAction EnqueueOutput}
    {submission : IssueSubmission} {row : OperationRow} (hBefore : f.before.store.Enlisted)
    (hOutput : f.output = (performEnqueue sha256 f.input f.before).1)
    (h : submissionOf f = some submission) (hRow : row ∈ f.before.store.operations)
    (hKey : row.intentKey = submission.intentKey)
    (hHash : row.requestHash ≠ sha256 submission.canonicalText) : f.output = .proceeded (.error
      (.conflict "idempotency key was reused for a different request")) := by
  obtain ⟨requestIndex, draw, hInput, hStage⟩ := submissionOf_eq_some.mp h
  have hConflict : persistIssueAction sha256 (submission.intent draw) f.before.store = _ :=
    persistIssueAction_conflicts hRow hBefore.keys hKey hHash
  rw [hOutput, hInput]
  simp only [performEnqueue, hStage, EnqueueStage.body, commit, bind_of_error hConflict]

/-- Every request in flight is one that arrived. -/
def EnqueueSystem.Arrived (actions : List EnqueueAction) (system : EnqueueSystem) : Prop :=
  ∀ stage, some stage ∈ system.requests → ∃ entry, .enter entry ∈ actions ∧ entry.Reaches stage

theorem performEnqueue_arrived (sha256 : String → String) (actions : List EnqueueAction) :
    Preserves (performEnqueue sha256) (fun _ action => action ∈ actions)
      (EnqueueSystem.Arrived actions) := by
  intro system action h hAction stage hStage
  cases action with
  | call call => exact h stage hStage
  | enter entry =>
      rcases List.mem_append.mp hStage with hOld | hNew
      · exact h stage hOld
      · cases List.mem_singleton.mp hNew
        exact ⟨entry, hAction, entry.reaches_stage⟩
  | proceed requestIndex draw =>
      simp only [performEnqueue] at hStage
      cases hCurrent : (system.requests[requestIndex]?).join with
      | none =>
          rw [hCurrent] at hStage
          exact h stage hStage
      | some current =>
          simp only [hCurrent] at hStage
          rcases List.mem_or_eq_of_mem_set hStage with hOld | hNew
          · exact h stage hOld
          · have hMem := List.mem_of_getElem? (Option.join_eq_some_iff.mp hCurrent)
            obtain ⟨entry, hEntry, hReaches⟩ := h current hMem
            exact ⟨entry, hEntry, hReaches.progress hNew⟩

theorem submissionOf_arrived {actions : List EnqueueAction}
    {e : Event EnqueueSystem EnqueueAction EnqueueOutput} {submission : IssueSubmission}
    (h : submissionOf e = some submission) (hArrived : e.before.Arrived actions) :
    ∃ entry, .enter entry ∈ actions ∧ entry.Submits submission := by
  obtain ⟨requestIndex, draw, _, hStage⟩ := submissionOf_eq_some.mp h
  exact hArrived _ (List.mem_of_getElem? (Option.join_eq_some_iff.mp hStage))

/-- Enqueueing is idempotent in the actor, the connection and the key. -/
theorem issue_action_enqueued_once (sha256 : String → String) (actions : List EnqueueAction)
    (hDigest : CollisionFree sha256 (submittedTexts sha256 actions)) :
    EnqueuedOnce sha256 actions := by
  have hInvariant := performEnqueue_enlisted sha256
  have hAdmitted : Admitted (performEnqueue sha256) (fun _ _ => True) actions {} :=
    admitted_of_forall (fun _ _ => trivial) _ _
  have hStart : (({} : EnqueueSystem).store).Enlisted := Store.initial_enlisted
  have hEvents := hInvariant.trace hStart hAdmitted
  have hFinal : (run (performEnqueue sha256) actions {}).store.Enlisted :=
    hInvariant.run hStart hAdmitted
  have hStep : ∀ (system : EnqueueSystem) action, system.store.Enlisted → True →
      system.store.Lasts (performEnqueue sha256 action system).2.store :=
    fun system action h _ => (performEnqueue_advances sha256 action system).lasts h.wellFormed
  have hLasting := trace_related_run (R := fun s t : EnqueueSystem => s.store.Lasts t.store)
    hInvariant (fun _ => .refl _) (fun _ _ _ h h' => h.trans h') hStep hStart hAdmitted
  have hLater := (trace_related (R := fun s t : EnqueueSystem => s.store.Lasts t.store)
    hInvariant (fun _ => .refl _) (fun _ _ _ h h' => h.trans h') hStep hStart hAdmitted).2
  have hFailed : ∀ e ∈ trace (performEnqueue sha256) actions {}, ∀ error,
      e.output = .proceeded (.error error) → e.after.store = e.before.store := by
    intro e he error hError
    obtain ⟨_, _, hOutput, hAfter⟩ := hEvents e he
    rw [hAfter]
    exact performEnqueue_failed (hOutput.symm.trans hError)
  have hArrived := (performEnqueue_arrived sha256 actions).trace
    (fun _ h => by cases h) (admitted_of_mem (fun _ h _ => h) {})
  refine ⟨hFinal.countP_le, fun row hRow => hFinal.jobs_eq hRow, ?_, ?_,
    fun e he submission h => submissionOf_arrived h (hArrived e he).1, hFailed⟩
  · intro e he operation hReturns
    obtain ⟨hBefore, _, hOutput, hAfter⟩ := hEvents e he
    obtain ⟨submission, hSubmits, row, hRow, rfl, hKey, _⟩ :=
      submission_returns hOutput hAfter hReturns
    have wf : e.after.store.WellFormed := hAfter ▸ (hInvariant _ e.input hBefore trivial).wellFormed
    obtain ⟨row', hRow', hId, hKey', _⟩ := (hLasting e he).row wf hFinal.wellFormed hRow
    exact ⟨submission, hSubmits, ⟨row, hRow, rfl, hKey⟩, row', hRow',
      hId.trans (wf.operationRow_id hRow), hKey'.trans hKey⟩
  · refine List.Pairwise.imp_of_mem ?_ hLater
    intro e f he hf hLasts submission operation submission' hSubmits hReturns hSubmits' hKey hBody
    obtain ⟨hBefore, _, hOutput, hAfter⟩ := hEvents e he
    obtain ⟨hBefore', _, hOutput', hAfter'⟩ := hEvents f hf
    obtain ⟨first, hFirst, row, hRow, _, hRowKey, hRowHash⟩ :=
      submission_returns hOutput hAfter hReturns
    obtain rfl : first = submission := Option.some.inj (hFirst.symm.trans hSubmits)
    have wf : e.after.store.WellFormed := hAfter ▸ (hInvariant _ e.input hBefore trivial).wellFormed
    obtain ⟨row', hRow', _, hKey', hHash'⟩ := hLasts.row wf hBefore'.wellFormed hRow
    have hConflict := submission_conflicts hBefore' hOutput' hSubmits' hRow'
      (hKey'.trans (hRowKey.trans hKey.symm)) (fun hSame => hBody ?_)
    · exact ⟨hConflict, hFailed f hf _ hConflict⟩
    · rw [hHash', hRowHash] at hSame
      exact canonicalRequest_inj (hDigest _ (mem_submittedTexts he hSubmits) _
        (mem_submittedTexts hf hSubmits') hSame).symm

end Runs

section Sample

def sampleClose (issueNumber : Int) : EnqueueIssueAction where
  connectionId := sampleId 'c'
  bindingId := sampleId 'b'
  operationId := .close
  idempotencyKey := "close"
  issueNumber := issueNumber
  body := none
  reconcilesOperationId := none

def sampleMember : IntegrationPrincipal where
  issuer := "issuer"
  subject := "member"
  organizationId := "organization"
  workspaceId := "workspace"
  allowedOperationIds := ["integration.issue.close"]

/-- All steps of one request. -/
def sampleSteps (requestIndex : Nat) (first second : Char) : List EnqueueAction :=
  List.replicate 4 (.proceed requestIndex ⟨0, sampleId first, sampleId second⟩)

/-- A request, its replay, and another body under the same key. -/
def sampleRequests : List EnqueueAction := [
  .call (.createConnection sampleConnection),
  .call (.createBinding sampleBinding),
  .call (.createActorBinding sampleActor),
  .enter (.rest sampleMember (sampleClose 7) none),
  .enter (.rest sampleMember (sampleClose 7) none),
  .enter (.rest sampleMember (sampleClose 8) none)] ++
  sampleSteps 0 '0' '1' ++ sampleSteps 1 '2' '3' ++ sampleSteps 2 '4' '5'

def sampleBody (issueNumber : Int) : JsonObject :=
  canonicalRequest (sampleClose issueNumber) sampleBinding .rest none

/-- The SHA-256 digests of the two bodies. -/
def sampleBodies : List (String × String) := [
  (Json.dumps (.obj (sampleBody 7)),
    "471097df0eaf659cdcefaca12ccca8f825fa69c3560bebb9c60db31a72abb523"),
  (Json.dumps (.obj (sampleBody 8)),
    "0195858263b39110b62a32654e0e769fa2249371f8faff54a562807206745b18")]

theorem sampleBody_of_submits {issueNumber : Int} {grant : Option String}
    {submission : IssueSubmission}
    (h : (EnqueueEntry.rest sampleMember (sampleClose issueNumber) grant).Submits submission) :
    submission.canonical = sampleBody issueNumber := by
  obtain ⟨hRequest, _, _, hBinding, hKind, hRef⟩ := h
  unfold IssueSubmission.canonical sampleBody canonicalRequest
  rw [hRequest, hBinding, hKind, hRef]
  rfl

theorem issue_action_enqueued_once_sample :
    EnqueuedOnce (digestOf sampleBodies) sampleRequests := by
  refine issue_action_enqueued_once _ _ ((digestOf_collisionFree (by decide)).mono ?_)
  intro text hText
  obtain ⟨e, he, hText⟩ := List.mem_filterMap.mp hText
  obtain ⟨submission, hSubmits, rfl⟩ := Option.map_eq_some_iff.mp hText
  have hArrived := (performEnqueue_arrived (digestOf sampleBodies) sampleRequests).trace
    (fun _ h => by cases h) (admitted_of_mem (fun _ h _ => h) {}) e he
  obtain ⟨entry, hEntry, hFrom⟩ := submissionOf_arrived hSubmits hArrived.1
  have hEntries : entry = .rest sampleMember (sampleClose 7) none ∨
      entry = .rest sampleMember (sampleClose 8) none := by
    simpa [sampleRequests, sampleSteps] using hEntry
  unfold IssueSubmission.canonicalText
  rcases hEntries with rfl | rfl
  · rw [sampleBody_of_submits hFrom]
    exact List.mem_cons_self
  · rw [sampleBody_of_submits hFrom]
    exact List.mem_cons_of_mem _ List.mem_cons_self

end Sample

end CyreneExchange.Integrations
