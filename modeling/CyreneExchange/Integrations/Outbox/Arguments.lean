import CyreneExchange.Integrations.Outbox.Durability

/-! The arguments the dispatcher sends are the ones the enqueue authorized. The
store builds them from the request, the dispatcher from the stored operation;
both digest the canonical JSON text. -/
namespace CyreneExchange.Integrations

open Machine Transaction

/-- `_github_arguments`: the public-provider operation and its arguments. -/
def githubArguments (connection : IntegrationConnection) (operation : Operation) :
    Except StoreError (String × JsonObject) :=
  let arguments : JsonObject := [
    ("repository_id", .str connection.repositoryId),
    ("repository", .str connection.repositoryName),
    ("issue_number", .int operation.issueNumber)]
  match operation.operationId with
  | .comment => match operation.body with
    | none => .error (.authorization "comment body is missing")
    | some body => .ok ("github.issue.comment.create", arguments ++ [("body", .str body)])
  | .close => .ok ("github.issue.state.update", arguments ++ [("state", .str "CLOSED")])
  | .reopen => .ok ("github.issue.state.update", arguments ++ [("state", .str "OPEN")])
  | .query => .ok ("github.issue.get", arguments)

section Digest

variable (sha256 : String → String)

/-- `_digest`. -/
def argumentsDigest (value : JsonObject) : String := sha256 (Json.dumps (.obj value))

/-- The dispatcher's check of the stored operation before it asks for a lease. -/
def authorizedArguments (connection : IntegrationConnection) (operation : Operation) :
    Except StoreError (String × JsonObject) := do
  let (githubOperationId, arguments) ← githubArguments connection operation
  if argumentsDigest sha256 arguments != operation.argumentDigest then
    .error (.authorization "stored operation payload digest is invalid")
  else .ok (githubOperationId, arguments)

/-- The rebuilt arguments have the stored digest, and the check lets them pass. -/
def Operation.Authorized (connection : IntegrationConnection) (operation : Operation) : Prop :=
  ∃ githubOperationId arguments,
    githubArguments connection operation = .ok (githubOperationId, arguments) ∧
    argumentsDigest sha256 arguments = operation.argumentDigest ∧
    authorizedArguments sha256 connection operation = .ok (githubOperationId, arguments)

end Digest

/-- The event inserted the operation for the intent; what it holds since is
what it was inserted with. -/
structure Admits (intent : IssueIntent) (operation : Operation)
    (e : Event Store Call (Except StoreError Answer)) : Prop where
  input : e.input = .persistIssueAction intent
  fresh : ∀ o ∈ e.before.board.operations, o.id ≠ operation.id
  inserted : ∃ o ∈ e.after.board.operations, o.SameIntent operation

/-- The event admitted the operation with the arguments that are rebuilt for it
from the same connection. -/
def AdmitsAuthorized (sha256 : String → String) (operation : Operation)
    (e : Event Store Call (Except StoreError Answer)) : Prop :=
  ∃ intent, Admits intent operation e ∧ operation.Authorized sha256 intent.connection

section Builders

variable {sha256 : String → String} {connection : IntegrationConnection}
  {operation operation' : Operation}

/-- Both builders write the same document for one intent. -/
theorem githubArguments_operation (sha256 : String → String) (intent : IssueIntent)
    (executionOperationId digest : String) {saved : String} {arguments : JsonObject}
    (h : providerArguments intent.request intent.connection = .ok (saved, arguments)) :
    ∃ githubOperationId, githubArguments intent.connection
      (intent.operation sha256 executionOperationId digest) = .ok (githubOperationId, arguments) := by
  unfold providerArguments at h
  cases hCapability : intent.request.operationId with
  | comment =>
      cases hBody : intent.request.body with
      | none =>
          simp only [hCapability, hBody] at h
          cases h
      | some body =>
          simp only [hCapability, hBody, Except.ok.injEq, Prod.mk.injEq] at h
          obtain ⟨_, rfl⟩ := h
          refine ⟨"github.issue.comment.create", ?_⟩
          simp only [githubArguments, IssueIntent.operation, hCapability, hBody]
  | query =>
      simp only [hCapability, Except.ok.injEq, Prod.mk.injEq] at h
      obtain ⟨_, rfl⟩ := h
      refine ⟨"github.issue.get", ?_⟩
      simp only [githubArguments, IssueIntent.operation, hCapability]
  | close | reopen =>
      simp only [hCapability, Except.ok.injEq, Prod.mk.injEq] at h
      obtain ⟨_, rfl⟩ := h
      refine ⟨"github.issue.state.update", ?_⟩
      simp only [githubArguments, IssueIntent.operation, hCapability]

theorem authorizedArguments_of_digest {githubOperationId : String} {arguments : JsonObject}
    (hArguments : githubArguments connection operation = .ok (githubOperationId, arguments))
    (hDigest : argumentsDigest sha256 arguments = operation.argumentDigest) :
    authorizedArguments sha256 connection operation = .ok (githubOperationId, arguments) := by
  unfold authorizedArguments
  rw [hArguments]
  change (if _ then _ else _) = _
  rw [if_neg (by simp [hDigest])]

/-- A new operation carries the digest of the arguments that will be rebuilt for it. -/
theorem IssueIntent.operation_authorized (intent : IssueIntent) {executionOperationId : String}
    {arguments : JsonObject} (h : providerArguments intent.request intent.connection =
      .ok (executionOperationId, arguments)) :
    (intent.operation sha256 executionOperationId
      (sha256 (Json.dumps (.obj arguments)))).Authorized sha256 intent.connection := by
  obtain ⟨githubOperationId, hArguments⟩ := githubArguments_operation sha256 intent
    executionOperationId (sha256 (Json.dumps (.obj arguments))) h
  exact ⟨githubOperationId, arguments, hArguments, rfl,
    authorizedArguments_of_digest hArguments rfl⟩

theorem Operation.SameIntent.githubArguments_eq (h : operation.SameIntent operation') :
    githubArguments connection operation' = githubArguments connection operation := by
  rw [h]
  rfl

theorem Operation.SameIntent.authorized (h : operation.SameIntent operation')
    (hAuthorized : operation.Authorized sha256 connection) :
    operation'.Authorized sha256 connection := by
  obtain ⟨githubOperationId, arguments, hArguments, hDigest, _⟩ := hAuthorized
  have hSame : operation'.argumentDigest = operation.argumentDigest :=
    (congrArg Operation.argumentDigest h :)
  rw [← hSame] at hDigest
  rw [← h.githubArguments_eq] at hArguments
  exact ⟨githubOperationId, arguments, hArguments, hDigest,
    authorizedArguments_of_digest hArguments hDigest⟩

theorem Operation.SameIntent.admits {e : Event Store Call (Except StoreError Answer)}
    (h : operation.SameIntent operation') (hAdmits : AdmitsAuthorized sha256 operation e) :
    AdmitsAuthorized sha256 operation' e := by
  obtain ⟨intent, ⟨hInput, hFresh, o, ho, same⟩, hAuthorized⟩ := hAdmits
  rw [← h.id_eq] at hFresh
  exact ⟨intent, ⟨hInput, hFresh, o, ho, same.trans h⟩, h.authorized hAuthorized⟩

end Builders

section Origin

variable (sha256 : String → String)

/-- Moves that admit nothing keep every intent. -/
theorem Board.Moves.operation_origin {rules : Board.Discipline} {b c : Board}
    (hNone : ∀ x o, ¬ rules.intent x o) (h : Board.Moves rules b c) :
    ∀ operation' ∈ c.operations, ∃ o ∈ b.operations, o.SameIntent operation' := by
  induction h with
  | refl => exact fun operation' hMem => ⟨operation', hMem, rfl⟩
  | tail _ hMove ih =>
      intro operation' hMem
      rcases hMove.operation_origin hMem with ⟨o, ho, same⟩ | ⟨hIntent, _⟩
      · obtain ⟨first, hFirst, same'⟩ := ih o ho
        exact ⟨first, hFirst, same'.trans same⟩
      · exact absurd hIntent (hNone _ _)

/-- An operation after a call was there before it, or the call admitted it. -/
theorem perform_operation_origin {s : Store} (wf : s.WellFormed) (call : Call) :
    ∀ operation' ∈ (perform sha256 call s).2.board.operations,
      (∃ o ∈ s.board.operations, o.SameIntent operation') ∨
      AdmitsAuthorized sha256 operation'
        ⟨s, call, (perform sha256 call s).1, (perform sha256 call s).2⟩ := by
  intro operation' hMem
  by_cases hIssue : ∃ intent, call = .persistIssueAction intent
  · obtain ⟨intent, rfl⟩ := hIssue
    rcases commit_cases (Call.body sha256 (.persistIssueAction intent)) s with
      ⟨answer, t, hBody, hCommit⟩ | ⟨e, _, hCommit⟩
    · obtain ⟨_, _, hMethod, hPure⟩ := bind_eq_ok.mp hBody
      cases hPure
      have hAfter : (perform sha256 (.persistIssueAction intent) s).2 = t :=
        congrArg Prod.snd hCommit
      rw [hAfter] at hMem
      rcases (persistIssueAction_step sha256 .free wf (fun _ _ => trivial) hMethod).2 with
        rfl | ⟨_, executionOperationId, arguments, hArguments, hFresh, hBoard⟩
      · exact Or.inl ⟨operation', hMem, rfl⟩
      · have hNew := hMem
        rw [hBoard] at hNew
        rcases List.mem_append.mp hNew with hOld | hNew
        · exact Or.inl ⟨operation', hOld, rfl⟩
        · refine Or.inr ⟨intent, ⟨rfl, ?_, operation', by rw [hAfter]; exact hMem, rfl⟩, ?_⟩
          · rw [List.mem_singleton.mp hNew]
            exact hFresh
          · rw [List.mem_singleton.mp hNew]
            exact intent.operation_authorized hArguments
    · have hAfter : (perform sha256 (.persistIssueAction intent) s).2 = s :=
        congrArg Prod.snd hCommit
      rw [hAfter] at hMem
      exact Or.inl ⟨operation', hMem, rfl⟩
  · -- no other call admits an operation
    have hKeeps : call.Keeps sha256 ⟨fun _ => True, fun _ _ => False⟩ s := by
      refine ⟨fun _ _ _ => trivial, fun operation hAdmits => ?_⟩
      cases call with
      | persistIssueAction intent => exact hIssue ⟨intent, rfl⟩
      | _ => exact hAdmits
    exact Or.inl ((perform_refines sha256 _ wf hKeeps).2.operation_origin
      (fun _ _ hFalse => hFalse) operation' hMem)

/-- Over a run, every operation that was not there at its start was admitted by
one of its calls. -/
theorem run_operation_origin (calls : List Call) {s : Store} (wf : s.WellFormed) :
    ∀ operation' ∈ (run (perform sha256) calls s).board.operations,
      (∃ o ∈ s.board.operations, o.SameIntent operation') ∨
      ∃ e ∈ trace (perform sha256) calls s, AdmitsAuthorized sha256 operation' e := by
  induction calls generalizing s with
  | nil => exact fun operation' hMem => Or.inl ⟨operation', hMem, rfl⟩
  | cons call rest ih =>
      intro operation' hMem
      rcases ih (perform_preserves_wellFormed sha256 s call wf trivial) operation' hMem with
        ⟨o, ho, same⟩ | ⟨e, he, hAdmits⟩
      · rcases perform_operation_origin sha256 wf call o ho with ⟨first, hFirst, same'⟩ | hAdmits
        · exact Or.inl ⟨first, hFirst, same'.trans same⟩
        · exact Or.inr ⟨_, List.mem_cons_self, same.admits hAdmits⟩
      · exact Or.inr ⟨e, List.mem_cons_of_mem _ he, hAdmits⟩

end Origin

/-- In every run, whatever became of an operation since its admission, the
dispatcher rebuilds the arguments whose digest was authorized and lets them pass. -/
theorem dispatched_arguments_match (sha256 : String → String) (calls : List Call) :
    ∀ row ∈ (run (perform sha256) calls Store.initial).operations,
      ∃ e ∈ trace (perform sha256) calls Store.initial, ∃ intent, Admits intent row.document e ∧
        row.document.Authorized sha256 intent.connection := by
  intro row hRow
  rcases run_operation_origin sha256 calls Store.initial_wellFormed row.document
    (List.mem_map_of_mem hRow) with ⟨_, hNone, _⟩ | hAdmits
  · cases hNone
  · exact hAdmits

theorem dispatched_arguments_match_sample :
    ∃ row ∈ (run (perform fun _ => "digest") sampleSetup Store.initial).operations,
      row.document.operationId = .close ∧
      ∃ e ∈ trace (perform fun _ => "digest") sampleSetup Store.initial,
        ∃ intent, Admits intent row.document e ∧
          row.document.Authorized (fun _ => "digest") intent.connection := by
  obtain ⟨row, hRow, hClose⟩ : ∃ row ∈ (run (perform fun _ => "digest") sampleSetup
      Store.initial).operations, row.document.operationId = .close := by decide +kernel
  exact ⟨row, hRow, hClose, dispatched_arguments_match (fun _ => "digest") sampleSetup row hRow⟩

end CyreneExchange.Integrations
