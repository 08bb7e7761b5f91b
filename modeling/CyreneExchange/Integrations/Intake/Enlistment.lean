import CyreneExchange.Integrations.Intake.Refinement
import CyreneExchange.Integrations.Outbox.Durability

/-! Every operation keeps its intent and its one ISSUE_ACTION job, whoever
moves the board. -/
namespace CyreneExchange.Integrations

/-- What the unique columns of an operation are scoped by. -/
structure IntentKey where
  scope : ActorScope
  connectionId : UUID
  idempotencyKey : String
deriving DecidableEq

def Operation.intentKey (operation : Operation) : IntentKey :=
  ⟨operation.scope, operation.connectionId, operation.idempotencyKey⟩

/-- Operations are keyed by their intent, and each is carried out by one job. -/
structure Board.Enlisted (b : Board) : Prop where
  keys : Table.KeysUnique Operation.intentKey b.operations
  issue : ∀ job ∈ b.jobs, job.kind = .issueAction →
    ∃ o ∈ b.operations, job.operationId = some o.id
  assigned : ∀ o ∈ b.operations, b.jobs.countP (OutboxJob.names .issueAction o.id) = 1

section Enlisted

variable {rules : Board.Discipline} {b c : Board} {job job' : OutboxJob}
  {operation operation' : Operation} {turn : Turn} {replies : List OutboxJob}

theorem Operation.SameIntent.intentKey_eq (h : operation.SameIntent operation') :
    operation'.intentKey = operation.intentKey := by
  rw [h]
  rfl

/-- What becomes of an operation in a move. -/
theorem Board.Move.operation_image (h : Board.Move rules b c) (hMem : operation ∈ b.operations) :
    ∃ o ∈ c.operations, operation.SameIntent o := by
  cases h with
  | enqueue => exact ⟨operation, List.mem_append_left _ hMem, rfl⟩
  | deliver | extend => exact ⟨operation, hMem, rfl⟩
  | take => exact Board.take_operation hMem
  | resolve unknown succeeded result now =>
      cases hId : (operation.id == unknown.id) with
      | true => exact ⟨_, Table.mem_updateWhere_of_pos hMem hId, Turn.settle_sameIntent _ _ _ _⟩
      | false => exact ⟨operation, Table.mem_updateWhere_of_neg hMem hId, rfl⟩

theorem Board.Moves.operation_image (h : Board.Moves rules b c)
    (hMem : operation ∈ b.operations) : ∃ o ∈ c.operations, operation.SameIntent o := by
  induction h with
  | refl => exact ⟨operation, hMem, rfl⟩
  | tail _ hMove ih =>
      obtain ⟨o, ho, hSame⟩ := ih
      obtain ⟨o', ho', hSame'⟩ := hMove.operation_image ho
      exact ⟨o', ho', hSame.trans hSame'⟩

namespace Board.Enlisted

/-- An admitted operation comes with its job, and no other job names it. -/
theorem enqueue (h : b.Enlisted) (hFresh : ∀ o ∈ b.operations, o.id ≠ operation.id)
    (hScope : ∀ o ∈ b.operations, o.intentKey ≠ operation.intentKey)
    (hKind : job.kind = .issueAction) (hNames : job.operationId = some operation.id) :
    ({ b.add [job] with operations := b.operations ++ [operation] } : Board).Enlisted := by
  refine ⟨h.keys.append_singleton hScope, ?_, ?_⟩
  · intro j hj hjKind
    rcases List.mem_append.mp hj with hOld | hNew
    · obtain ⟨o, ho, hId⟩ := h.issue j hOld hjKind
      exact ⟨o, List.mem_append_left _ ho, hId⟩
    · rw [List.mem_singleton.mp hNew]
      exact ⟨operation, List.mem_append_right _ (List.mem_singleton_self _), hNames⟩
  · intro o ho
    refine List.countP_append.trans ?_
    rw [List.countP_singleton]
    rcases List.mem_append.mp ho with hOld | hNew
    · have hForeign : job.names .issueAction o.id = false := by
        rw [Bool.eq_false_iff]
        intro hCase
        rw [OutboxJob.names_iff, hNames, Option.some.injEq] at hCase
        exact hFresh o hOld hCase.2.symm
      rw [h.assigned o hOld, hForeign]
      rfl
    · have hUnnamed : b.jobs.countP (OutboxJob.names .issueAction operation.id) = 0 := by
        rw [List.countP_eq_zero]
        intro j hj hjNames
        obtain ⟨hjKind, hId⟩ := OutboxJob.names_iff.mp hjNames
        obtain ⟨o, ho, hNamed⟩ := h.issue j hj hjKind
        rw [hId, Option.some.injEq] at hNamed
        exact hFresh o ho hNamed.symm
      rw [List.mem_singleton.mp hNew, hUnnamed, OutboxJob.names_iff.mpr ⟨hKind, hNames⟩]
      rfl

theorem deliver (h : b.Enlisted) (hNames : job.operationId = none)
    (hKind : job.kind ≠ .issueAction) : (b.add [job]).Enlisted := by
  refine ⟨h.keys, ?_, ?_⟩
  · intro j hj hjKind
    rcases List.mem_append.mp hj with hOld | hNew
    · exact h.issue j hOld hjKind
    · rw [List.mem_singleton.mp hNew] at hjKind
      exact absurd hjKind hKind
  · intro o ho
    refine List.countP_append.trans ?_
    rw [h.assigned o ho, List.countP_singleton]
    simp [OutboxJob.names, hNames]

theorem take (h : b.Enlisted) (hKeyed : b.Keyed) (hJob : job ∈ b.jobs)
    (hAnswers : b.Answers turn job replies) : (b.take turn job replies).Enlisted := by
  have hReplies : ∀ r ∈ replies, r.kind = .commandReply := by
    intro r hr
    obtain ⟨_, _, _, _, _, _, _, _, _, rfl, _, _⟩ := hAnswers.of_mem hr
    rfl
  refine ⟨?_, ?_, ?_⟩
  · exact h.keys.updateWhere fun o _ _ => (turn.operation_sameIntent job o).intentKey_eq
  · intro j hj hjKind
    rcases Board.take_origin hJob hj with ⟨i, hi, same⟩ | hNew
    · rw [same.kind_eq] at hjKind
      obtain ⟨o, ho, hNames⟩ := h.issue i hi hjKind
      obtain ⟨o', ho', hSame⟩ : ∃ o' ∈ (b.take turn job replies).operations, o.SameIntent o' :=
        Board.take_operation ho
      exact ⟨o', ho', by rw [same.operationId_eq, hNames, hSame.id_eq]⟩
    · rw [hReplies j hNew] at hjKind
      cases hjKind
  · intro o ho
    have hNone : replies.countP (OutboxJob.names .issueAction o.id) = 0 := by
      rw [List.countP_eq_zero]
      intro r hr hCase
      rw [OutboxJob.names_iff, hReplies r hr] at hCase
      cases hCase.1
    rw [Board.count_take hJob hKeyed, hNone, Nat.add_zero]
    obtain ⟨o₀, ho₀, ⟨_, rfl⟩ | ⟨_, rfl⟩⟩ := Board.mem_take_operations.mp ho
    · rw [(turn.operation_sameIntent job o₀).id_eq]
      exact h.assigned o₀ ho₀
    · exact h.assigned _ ho₀

theorem resolve (h : b.Enlisted) {succeeded : Bool} {result : JsonObject} {now : Timestamp} :
    (b.resolve operation succeeded result now).Enlisted := by
  refine ⟨?_, ?_, ?_⟩
  · exact h.keys.updateWhere fun o _ _ => (Turn.settle_sameIntent _ _ _ o).intentKey_eq
  · intro j hj hjKind
    have hImage : ∀ o ∈ b.operations, ∃ o' ∈ (b.resolve operation succeeded result now).operations,
        o'.id = o.id := by
      intro o ho
      cases hId : (o.id == operation.id) with
      | true => exact ⟨_, Table.mem_updateWhere_of_pos ho hId, rfl⟩
      | false => exact ⟨o, Table.mem_updateWhere_of_neg ho hId, rfl⟩
    obtain ⟨i, hi, ⟨_, rfl⟩ | ⟨_, rfl⟩⟩ := Table.mem_updateWhere.mp hj
    all_goals
      obtain ⟨o, ho, hNames⟩ := h.issue _ hi hjKind
      obtain ⟨o', ho', hId⟩ := hImage o ho
      exact ⟨o', ho', hNames.trans (congrArg some hId.symm)⟩
  · intro o ho
    have hCount : ∀ operationId,
        (b.resolve operation succeeded result now).jobs.countP
          (OutboxJob.names .issueAction operationId) =
        b.jobs.countP (OutboxJob.names .issueAction operationId) :=
      fun operationId => Table.countP_updateWhere fun _ _ _ => rfl
    rw [hCount]
    obtain ⟨o₀, ho₀, ⟨_, rfl⟩ | ⟨_, rfl⟩⟩ := Table.mem_updateWhere.mp ho
    · exact h.assigned o₀ ho₀
    · exact h.assigned _ ho₀

theorem move (h : b.Enlisted) (hKeyed : b.Keyed) (hMove : Board.Move rules b c) : c.Enlisted := by
  cases hMove with
  | enqueue operation job hFresh hScope _ _ _ _ _ hKind hOperation =>
      refine h.enqueue hFresh (fun o ho hSame => ?_) hKind hOperation
      simp only [Operation.intentKey, IntentKey.mk.injEq] at hSame
      exact hScope o ho hSame.1 hSame.2.1 hSame.2.2
  | deliver job _ _ hKind hOperation =>
      refine h.deliver hOperation fun hIssue => ?_
      rw [hIssue] at hKind
      rcases hKind with hKind | hKind <;> cases hKind
  | take turn job replies hMem _ _ hAnswers => exact h.take hKeyed hMem hAnswers
  | resolve => exact h.resolve
  | extend => exact ⟨h.keys, h.issue, h.assigned⟩

theorem moves (h : b.Enlisted) (hKeyed : b.Keyed) (hMoves : Board.Moves rules b c) :
    c.Enlisted :=
  (hMoves.preserves Board.Enlisted (fun hMove hKeyed h => h.move hKeyed hMove) hKeyed h).2

end Board.Enlisted

end Enlisted

end CyreneExchange.Integrations
