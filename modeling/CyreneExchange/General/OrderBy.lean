import CyreneExchange.General.Table
import Mathlib

/-! SELECT … WHERE … ORDER BY … over the rows of a table. -/
namespace Table

variable {Row Order : Type*} [LinearOrder Order] {order : Row → Order} {rows : List Row}
  {r : Row} {p : Row → Bool}

/-- ORDER BY; among equal rows the oldest comes first. -/
def orderBy (order : Row → Order) (rows : List Row) : List Row :=
  rows.insertionSort fun a b => order a ≤ order b

@[simp] theorem mem_orderBy : r ∈ orderBy order rows ↔ r ∈ rows := List.mem_insertionSort _

theorem orderBy_sorted (order : Row → Order) (rows : List Row) :
    (orderBy order rows).Pairwise fun a b => order a ≤ order b := by
  have : Std.Total fun a b : Row => order a ≤ order b := ⟨fun a b => le_total (order a) (order b)⟩
  have : IsTrans Row fun a b => order a ≤ order b := ⟨fun _ _ _ hab hbc => le_trans hab hbc⟩
  exact List.pairwise_insertionSort _ rows

/-- Rows that no order confuses stand in strict order. -/
theorem orderBy_strict (hUnique : KeysUnique order rows) :
    (orderBy order rows).Pairwise fun a b => order a < order b := by
  have hPerm : (orderBy order rows).Perm rows := List.perm_insertionSort _ rows
  have hNodup : ((orderBy order rows).map order).Nodup := (hPerm.map order).nodup_iff.mpr hUnique
  have hApart : (orderBy order rows).Pairwise fun a b => order a ≠ order b :=
    List.pairwise_map.mp hNodup
  exact ((orderBy_sorted order rows).and hApart).imp fun both => lt_of_le_of_ne both.1 both.2

/-- The first row of a kind is the least one. -/
theorem find_orderBy (h : (orderBy order rows).find? p = some r) :
    r ∈ rows ∧ p r = true ∧ ∀ x ∈ rows, p x = true → order r ≤ order x := by
  refine ⟨mem_orderBy.mp (List.mem_of_find?_eq_some h), List.find?_some h, ?_⟩
  intro x hx hp
  obtain ⟨-, before, after, hSplit, hBefore⟩ := List.find?_eq_some_iff_append.mp h
  have hSorted := orderBy_sorted order rows
  rw [hSplit] at hSorted
  have hMem : x ∈ before ++ r :: after := hSplit ▸ mem_orderBy.mpr hx
  rcases List.mem_append.mp hMem with hEarly | hLate
  · have hNot := hBefore x hEarly
    rw [hp] at hNot
    cases hNot
  · rcases List.mem_cons.mp hLate with rfl | hAfter
    · exact le_refl _
    · exact (List.pairwise_cons.mp (List.pairwise_append.mp hSorted).2.1).1 x hAfter

/-- Lists in strict order are told apart by their members. -/
theorem eq_of_strict {others : List Row} (h : rows.Pairwise fun a b => order a < order b)
    (h' : others.Pairwise fun a b => order a < order b) (hMem : ∀ r, r ∈ rows ↔ r ∈ others) :
    rows = others := by
  have : Std.Irrefl fun a b : Row => order a < order b := ⟨fun a => lt_irrefl (order a)⟩
  have : Std.Antisymm fun a b : Row => order a < order b :=
    ⟨fun _ _ hab hba => absurd hba (lt_asymm hab)⟩
  exact h.eq_of_mem_iff h' hMem

section Newest

variable {before : Row → Row → Bool}

/-- The first row in order is the one that was inserted last. -/
def NewestLast (before : Row → Row → Bool) (rows : List Row) : Prop :=
  firstBy before rows = rows.getLast?

theorem newestLast_nil : NewestLast before [] := rfl

/-- A new row takes over exactly when it comes before the one that was first. -/
theorem newestLast_concat (hNew : r ∉ rows) (h : NewestLast before rows) :
    NewestLast before (rows ++ [r]) ↔ ∀ last ∈ rows.getLast?, before r last = true := by
  unfold NewestLast at *
  have hFirst : firstBy before (rows ++ [r]) = earlier before rows.getLast? r := by
    rw [← h, firstBy, List.foldl_append]
    rfl
  rw [hFirst, List.getLast?_concat]
  cases hLast : rows.getLast? with
  | none => simp [earlier]
  | some last =>
      have hApart : last ≠ r := by
        rintro rfl
        exact hNew (List.mem_of_getLast? hLast)
      cases hBefore : before r last <;> simp [earlier, hBefore, hApart]

end Newest

end Table
