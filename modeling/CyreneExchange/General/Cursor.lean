import CyreneExchange.General.OrderBy

/-! Reading an append-only log page by page. A reader keeps the place of the last
entry it was given; what it has been given is then the log up to that place, and
appending further on never changes it. -/
namespace Cursor

variable {Entry : Type*} {place : Entry → Nat} {log added : List Entry} {after cursor limit : Nat}

/-- Later entries stand at higher places. -/
def Ascending (place : Entry → Nat) (log : List Entry) : Prop :=
  log.Pairwise fun a b => place a < place b

/-- The entries a reader behind the cursor has been given. -/
def upTo (place : Entry → Nat) (log : List Entry) (cursor : Nat) : List Entry :=
  log.filter fun e => place e ≤ cursor

/-- The entries still ahead of the cursor. -/
def ahead (place : Entry → Nat) (log : List Entry) (cursor : Nat) : List Entry :=
  log.filter fun e => cursor < place e

/-- The next entries, at most so many. -/
def page (place : Entry → Nat) (log : List Entry) (after limit : Nat) : List Entry :=
  (ahead place log after).take limit

/-- The cursor after a page: the place of its last entry. -/
def next (place : Entry → Nat) (entries : List Entry) (after : Nat) : Nat :=
  (entries.getLast?.map place).getD after

section Splitting

/-- In an ascending log the cursor separates what comes before from what comes after. -/
theorem upTo_append_ahead (hLog : Ascending place log) :
    upTo place log cursor ++ ahead place log cursor = log := by
  induction log with
  | nil => rfl
  | cons e rest ih =>
      obtain ⟨hFirst, hRest⟩ := List.pairwise_cons.mp hLog
      unfold upTo ahead at ih ⊢
      by_cases hPlace : place e ≤ cursor
      · rw [List.filter_cons_of_pos (by simpa using hPlace),
          List.filter_cons_of_neg (by simpa using hPlace), List.cons_append, ih hRest]
      · have hNone : rest.filter (fun e => decide (place e ≤ cursor)) = [] := by
          rw [List.filter_eq_nil_iff]
          intro x hx
          have hAbove := hFirst x hx
          simp only [decide_eq_true_eq]
          omega
        have hAll : rest.filter (fun e => decide (cursor < place e)) = rest := by
          rw [List.filter_eq_self]
          intro x hx
          have hAbove := hFirst x hx
          simp only [decide_eq_true_eq]
          omega
        rw [List.filter_cons_of_neg (by simpa using hPlace),
          List.filter_cons_of_pos (by simpa using Nat.lt_of_not_le hPlace), hNone, hAll,
          List.nil_append]

/-- What is appended above the cursor changes nothing of what was given. -/
theorem upTo_grow (hAbove : ∀ e ∈ added, cursor < place e) :
    upTo place (log ++ added) cursor = upTo place log cursor := by
  have hNone : added.filter (fun e => decide (place e ≤ cursor)) = [] :=
    List.filter_eq_nil_iff.mpr fun e he => by simpa using hAbove e he
  unfold upTo
  rw [List.filter_append, hNone, List.append_nil]

/-- A log whose first part ends at the cursor is cut there. -/
theorem upTo_append_right (hLast : ∀ e ∈ log, place e ≤ cursor)
    (hAbove : ∀ e ∈ added, cursor < place e) : upTo place (log ++ added) cursor = log := by
  rw [upTo_grow hAbove]
  exact List.filter_eq_self.mpr fun e he => by simpa using hLast e he

theorem Ascending.le_getLast (hLog : Ascending place log) {e last : Entry} (he : e ∈ log)
    (hLast : log.getLast? = some last) : place e ≤ place last := by
  obtain ⟨front, rfl⟩ := List.getLast?_eq_some_iff.mp hLast
  rcases List.mem_append.mp he with hFront | hSelf
  · exact Nat.le_of_lt ((List.pairwise_append.mp hLog).2.2 e hFront last List.mem_cons_self)
  · rw [List.mem_singleton.mp hSelf]

theorem mem_ahead {e : Entry} : e ∈ ahead place log cursor ↔ e ∈ log ∧ cursor < place e := by
  simp [ahead]

theorem mem_upTo {e : Entry} : e ∈ upTo place log cursor ↔ e ∈ log ∧ place e ≤ cursor := by
  simp [upTo]

end Splitting

section Pages

theorem length_page : (page place log after limit).length =
    min limit (ahead place log after).length := List.length_take

/-- A page carries the reader on from its cursor to the next one. -/
theorem upTo_append_page (limit after : Nat) (hLog : Ascending place log) :
    upTo place log after ++ page place log after limit =
      upTo place log (next place (page place log after limit) after) := by
  have hSplit : upTo place log after ++ page place log after limit ++
      (ahead place log after).drop limit = log := by
    rw [List.append_assoc, page, List.take_append_drop, upTo_append_ahead hLog]
  have hWhole : Ascending place (upTo place log after ++ page place log after limit ++
      (ahead place log after).drop limit) := by
    rw [hSplit]
    exact hLog
  cases hLast : (page place log after limit).getLast? with
  | none =>
      have hEmpty : page place log after limit = [] := List.getLast?_eq_none_iff.mp hLast
      rw [hEmpty, List.append_nil]
      rfl
  | some last =>
      have hNext : next place (page place log after limit) after = place last := by
        rw [next, hLast]
        rfl
      have hLastMem : last ∈ page place log after limit := List.mem_of_getLast? hLast
      have hAfter : after < place last :=
        (mem_ahead.mp (List.mem_of_mem_take hLastMem)).2
      rw [hNext]
      refine Eq.trans ?_ (congrArg (fun l => upTo place l (place last)) hSplit)
      refine (upTo_append_right ?_ ?_).symm
      · intro e he
        rcases List.mem_append.mp he with hGiven | hPaged
        · exact Nat.le_trans (mem_upTo.mp hGiven).2 (Nat.le_of_lt hAfter)
        · have hPage : Ascending place (page place log after limit) :=
            hLog.sublist ((List.take_sublist _ _).trans List.filter_sublist)
          exact hPage.le_getLast hPaged hLast
      · intro e he
        exact (List.pairwise_append.mp hWhole).2.2 last (List.mem_append_right _ hLastMem) e he

/-- After a page that is not full nothing is ahead. -/
theorem upTo_of_short (hLog : Ascending place log)
    (hShort : (page place log after limit).length < limit) :
    upTo place log (next place (page place log after limit) after) = log := by
  rw [← upTo_append_page limit after hLog]
  have hAll : page place log after limit = ahead place log after := by
    rw [page, List.take_of_length_le]
    rw [length_page] at hShort
    omega
  rw [hAll, upTo_append_ahead hLog]

end Pages

section Queries

variable {Row : Type*} {order : Row → Nat} {rows : List Row}

/-- ORDER BY changes nothing about a table that stands in order. -/
theorem orderBy_of_ascending (h : Ascending order rows) : Table.orderBy order rows = rows := by
  have hSorted : rows.Pairwise fun a b => order a ≤ order b := h.imp Nat.le_of_lt
  exact hSorted.insertionSort_eq

end Queries

end Cursor
