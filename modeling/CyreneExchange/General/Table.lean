import Mathlib

/-! Relational tables as lists of rows in insertion order: uniqueness of a
key, and the statements UPDATE … WHERE, DELETE … WHERE and
SELECT … ORDER BY … LIMIT 1. -/
namespace Table

variable {Row Key : Type*}

/-- No two rows share a key: a PRIMARY KEY or UNIQUE constraint. -/
def KeysUnique (key : Row → Key) (rows : List Row) : Prop := (rows.map key).Nodup

/-- UPDATE … SET … WHERE. -/
def updateWhere (p : Row → Bool) (f : Row → Row) (rows : List Row) : List Row :=
  rows.map fun r => if p r then f r else r

/-- DELETE … WHERE. -/
def deleteWhere (p : Row → Bool) (rows : List Row) : List Row := rows.filter fun r => !p r

/-- The earlier of the best row so far and the next one. -/
def earlier (before : Row → Row → Bool) : Option Row → Row → Option Row
  | none, r => some r
  | some b, r => if before r b then some r else some b

/-- SELECT … ORDER BY … LIMIT 1; among equal rows the oldest wins. -/
def firstBy (before : Row → Row → Bool) (rows : List Row) : Option Row :=
  rows.foldl (earlier before) none

section Keys

variable {key : Row → Key} {rows : List Row} {r r' : Row}

theorem KeysUnique.eq (unique : KeysUnique key rows) (hr : r ∈ rows) (hr' : r' ∈ rows)
    (h : key r = key r') : r = r' :=
  List.inj_on_of_nodup_map unique hr hr' h

theorem KeysUnique.nodup (unique : KeysUnique key rows) : rows.Nodup :=
  List.Nodup.of_map key unique

theorem KeysUnique.append_singleton (unique : KeysUnique key rows)
    (fresh : ∀ x ∈ rows, key x ≠ key r) : KeysUnique key (rows ++ [r]) := by
  unfold KeysUnique
  rw [List.map_append, List.nodup_append]
  refine ⟨unique, by simp, ?_⟩
  intro k hk l hl
  obtain ⟨x, hx, rfl⟩ := List.mem_map.mp hk
  have hl' : l = key r := by simpa using hl
  rw [hl']
  exact fresh x hx

/-- Exactly one row carries the key of a given row. -/
theorem KeysUnique.countP_eq_one [DecidableEq Key] (unique : KeysUnique key rows)
    (hr : r ∈ rows) {p : Row → Bool} (hp : ∀ x ∈ rows, p x = (key x == key r)) :
    rows.countP p = 1 := by
  have hCount : (rows.map key).count (key r) = 1 :=
    List.count_eq_one_of_mem unique (List.mem_map_of_mem hr)
  rw [List.count, List.countP_map] at hCount
  rw [← hCount]
  apply List.countP_congr
  intro x hx
  rw [hp x hx]
  rfl

/-- Selecting by a condition that fixes the key selects one row. -/
theorem KeysUnique.filter_eq_singleton (unique : KeysUnique key rows) {p : Row → Bool}
    (hr : r ∈ rows) (hp : p r = true) (hKey : ∀ x ∈ rows, p x = true → key x = key r) :
    rows.filter p = [r] := by
  have hMem : ∀ x, x ∈ rows.filter p ↔ x = r := by
    intro x
    rw [List.mem_filter]
    constructor
    · rintro ⟨hx, hpx⟩
      exact unique.eq hx hr (hKey x hx hpx)
    · rintro rfl
      exact ⟨hr, hp⟩
  have hNodup : (rows.filter p).Nodup := unique.nodup.filter p
  exact List.perm_singleton.mp
    ((List.perm_ext_iff_of_nodup hNodup (List.nodup_singleton r)).mpr (by simpa using hMem))

/-- At most one row satisfies a condition counted once. -/
theorem eq_of_countP_le_one {p : Row → Bool} (h : rows.countP p ≤ 1) (hr : r ∈ rows)
    (hr' : r' ∈ rows) (hp : p r = true) (hp' : p r' = true) : r = r' := by
  rw [List.countP_eq_length_filter] at h
  have hMem := List.mem_filter.mpr ⟨hr, hp⟩
  have hMem' := List.mem_filter.mpr ⟨hr', hp'⟩
  match hRows : rows.filter p with
  | [] => rw [hRows] at hMem; cases hMem
  | [x] =>
      rw [hRows] at hMem hMem'
      rw [List.mem_singleton.mp hMem, List.mem_singleton.mp hMem']
  | x :: y :: rest => rw [hRows] at h; simp at h

/-- A row found by key in a table with unique keys is the row with that key. -/
theorem KeysUnique.find_eq_some [DecidableEq Key] (unique : KeysUnique key rows) (k : Key) :
    rows.find? (fun x => decide (key x = k)) = some r ↔ r ∈ rows ∧ key r = k := by
  constructor
  · intro h
    exact ⟨List.mem_of_find?_eq_some h, by simpa using List.find?_some h⟩
  · rintro ⟨hr, hk⟩
    cases hf : rows.find? (fun x => decide (key x = k)) with
    | none =>
        have hn := List.find?_eq_none.mp hf r hr
        simp [hk] at hn
    | some x =>
        have hx := List.mem_of_find?_eq_some hf
        have hxk : key x = k := by simpa using List.find?_some hf
        rw [unique.eq hx hr (hxk.trans hk.symm)]

end Keys

section Statements

variable {key : Row → Key} {p : Row → Bool} {f : Row → Row} {rows : List Row} {r : Row}

theorem mem_updateWhere : r ∈ updateWhere p f rows ↔
    ∃ x ∈ rows, (p x = true ∧ r = f x) ∨ (p x = false ∧ r = x) := by
  unfold updateWhere
  rw [List.mem_map]
  constructor
  · rintro ⟨x, hx, rfl⟩
    cases hp : p x <;> exact ⟨x, hx, by simp [hp]⟩
  · rintro ⟨x, hx, ⟨hp, rfl⟩ | ⟨hp, rfl⟩⟩ <;> exact ⟨_, hx, by simp [hp]⟩

theorem mem_updateWhere_of_pos (hr : r ∈ rows) (hp : p r = true) : f r ∈ updateWhere p f rows :=
  mem_updateWhere.mpr ⟨r, hr, Or.inl ⟨hp, rfl⟩⟩

theorem mem_updateWhere_of_neg (hr : r ∈ rows) (hp : p r = false) : r ∈ updateWhere p f rows :=
  mem_updateWhere.mpr ⟨r, hr, Or.inr ⟨hp, rfl⟩⟩

/-- An update that leaves the key alone leaves the key column alone. -/
theorem map_updateWhere (h : ∀ x ∈ rows, p x = true → key (f x) = key x) :
    (updateWhere p f rows).map key = rows.map key := by
  unfold updateWhere
  rw [List.map_map]
  apply List.map_congr_left
  intro x hx
  cases hp : p x with
  | false => simp [hp]
  | true => simp [hp, h x hx hp]

/-- An update seen through a projection of the rows. -/
theorem project_updateWhere {Image : Type*} {g : Row → Image} {q : Image → Bool}
    {f' : Image → Image} (hp : ∀ x ∈ rows, q (g x) = p x)
    (hf : ∀ x ∈ rows, p x = true → g (f x) = f' (g x)) :
    (updateWhere p f rows).map g = updateWhere q f' (rows.map g) := by
  unfold updateWhere
  rw [List.map_map, List.map_map]
  apply List.map_congr_left
  intro x hx
  have hq := hp x hx
  cases hpx : p x with
  | false => simp [hq, hpx]
  | true => simp [hq, hpx, hf x hx hpx]

theorem updateWhere_congr {q : Row → Bool} {g : Row → Row} (hp : ∀ x ∈ rows, p x = q x)
    (hf : ∀ x ∈ rows, p x = true → f x = g x) : updateWhere p f rows = updateWhere q g rows := by
  unfold updateWhere
  apply List.map_congr_left
  intro x hx
  rw [← hp x hx]
  cases hpx : p x with
  | false => simp
  | true => simp [hf x hx hpx]

/-- Two updates of the same rows are one update by the composed function. -/
theorem updateWhere_updateWhere {g : Row → Row} (h : ∀ x ∈ rows, p x = true → p (f x) = true) :
    updateWhere p g (updateWhere p f rows) = updateWhere p (fun x => g (f x)) rows := by
  unfold updateWhere
  rw [List.map_map]
  apply List.map_congr_left
  intro x hx
  cases hpx : p x with
  | false => simp [hpx]
  | true => simp [hpx, h x hx hpx]

/-- Two updates by the same function of rows selected apart. -/
theorem updateWhere_or {q : Row → Bool} (h : ∀ x ∈ rows, p x = true → q (f x) = false) :
    updateWhere q f (updateWhere p f rows) = updateWhere (fun x => p x || q x) f rows := by
  unfold updateWhere
  rw [List.map_map]
  apply List.map_congr_left
  intro x hx
  cases hpx : p x with
  | false => simp [hpx]
  | true => simp [hpx, h x hx hpx]

/-- Looking a row up after an update that keeps the key looked up. -/
theorem find_updateWhere {q : Row → Bool} (h : ∀ x ∈ rows, p x = true → q (f x) = q x) :
    (updateWhere p f rows).find? q = (rows.find? q).map fun x => if p x then f x else x := by
  induction rows with
  | nil => rfl
  | cons x rest ih =>
      have hRest := ih fun y hy => h y (List.mem_cons_of_mem x hy)
      unfold updateWhere at hRest ⊢
      have hq : q (if p x then f x else x) = q x := by
        cases hpx : p x with
        | false => simp
        | true => simpa [hpx] using h x List.mem_cons_self hpx
      rw [List.map_cons, List.find?_cons, List.find?_cons, hq]
      cases q x with
      | true => rfl
      | false => simpa using hRest

theorem KeysUnique.updateWhere (unique : KeysUnique key rows)
    (h : ∀ x ∈ rows, p x = true → key (f x) = key x) :
    KeysUnique key (Table.updateWhere p f rows) := by
  unfold KeysUnique
  rw [map_updateWhere h]
  exact unique

theorem updateWhere_of_none (h : ∀ x ∈ rows, p x = false) : updateWhere p f rows = rows := by
  unfold updateWhere
  rw [List.map_congr_left (g := id) (fun x hx => by simp [h x hx]), List.map_id]

/-- The rows an update cannot reach, before or after. -/
theorem filter_updateWhere {q : Row → Bool}
    (h : ∀ x ∈ rows, p x = true → q x = false ∧ q (f x) = false) :
    (updateWhere p f rows).filter q = rows.filter q := by
  induction rows with
  | nil => rfl
  | cons x rest ih =>
      have hRest := ih fun y hy => h y (List.mem_cons_of_mem x hy)
      have hHead : updateWhere p f (x :: rest) = (if p x then f x else x) :: updateWhere p f rest :=
        rfl
      rw [hHead, List.filter_cons, List.filter_cons, hRest]
      cases hp : p x with
      | false => rfl
      | true =>
          obtain ⟨hBefore, hAfter⟩ := h x List.mem_cons_self hp
          simp [hBefore, hAfter]

/-- Rows an update clears are no longer selected. -/
theorem filter_updateWhere_of_cleared {q : Row → Bool}
    (h : ∀ x ∈ rows, p x = true → q (f x) = false) :
    (updateWhere p f rows).filter q = rows.filter fun x => !p x && q x := by
  induction rows with
  | nil => rfl
  | cons x rest ih =>
      have hRest := ih fun y hy => h y (List.mem_cons_of_mem x hy)
      have hHead : updateWhere p f (x :: rest) = (if p x then f x else x) :: updateWhere p f rest :=
        rfl
      rw [hHead, List.filter_cons, List.filter_cons, hRest]
      cases hp : p x with
      | false => rfl
      | true => simp [h x List.mem_cons_self hp]

theorem updateWhere_append (first second : List Row) :
    updateWhere p f (first ++ second) = updateWhere p f first ++ updateWhere p f second :=
  List.map_append

/-- Counting a property the update does not touch gives the same count. -/
theorem countP_updateWhere {q : Row → Bool} (h : ∀ x ∈ rows, p x = true → q (f x) = q x) :
    (updateWhere p f rows).countP q = rows.countP q := by
  unfold updateWhere
  rw [List.countP_map]
  apply List.countP_congr
  intro x hx
  cases hp : p x with
  | false => simp [hp]
  | true => simp [hp, h x hx hp]

/-- Updating the one row of a key so that it stops satisfying a condition. -/
theorem KeysUnique.countP_updateWhere [DecidableEq Key] {q : Row → Bool}
    (unique : KeysUnique key rows) (hr : r ∈ rows) (hp : ∀ x ∈ rows, p x = (key x == key r))
    (hBefore : q r = true) (hAfter : q (f r) = false) :
    (Table.updateWhere p f rows).countP q + 1 = rows.countP q := by
  induction rows with
  | nil => cases hr
  | cons x rest ih =>
      obtain ⟨hNotMem, hRest⟩ := List.nodup_cons.mp unique
      have hpRest : ∀ y ∈ rest, p y = (key y == key r) :=
        fun y hy => hp y (List.mem_cons_of_mem x hy)
      have hHead : Table.updateWhere p f (x :: rest) =
          (if p x then f x else x) :: Table.updateWhere p f rest := rfl
      rw [hHead, hp x List.mem_cons_self]
      rcases List.mem_cons.mp hr with rfl | hr
      · have hSame : Table.updateWhere p f rest = rest := by
          unfold Table.updateWhere
          rw [List.map_congr_left (g := id) ?_, List.map_id]
          intro y hy
          have hKey : key y ≠ key r := fun hEq => hNotMem (hEq ▸ List.mem_map_of_mem hy)
          simp [hpRest y hy, hKey]
        simp [hSame, hBefore, hAfter]
      · have hKey : key x ≠ key r := fun hEq => hNotMem (hEq ▸ List.mem_map_of_mem hr)
        have hTail := ih hRest hr hpRest
        simp only [beq_eq_false_iff_ne.mpr hKey, Bool.false_eq_true, if_false, List.countP_cons]
        omega

/-- Counting after one row has been replaced in place. -/
theorem countP_set {q : Row → Bool} {i : Nat} (h : rows[i]? = some r) (r' : Row) :
    (rows.set i r').countP q + (if q r then 1 else 0) =
      rows.countP q + if q r' then 1 else 0 := by
  obtain ⟨hLess, rfl⟩ := List.getElem?_eq_some_iff.mp h
  have hAtLeast := List.boole_getElem_le_countP (p := q) hLess
  rw [List.countP_set hLess]
  omega

theorem deleteWhere_of_none (h : ∀ x ∈ rows, p x = false) : deleteWhere p rows = rows :=
  List.filter_eq_self.mpr fun x hx => by simp [h x hx]

theorem mem_deleteWhere : r ∈ deleteWhere p rows ↔ r ∈ rows ∧ p r = false := by
  simp [deleteWhere]

theorem KeysUnique.deleteWhere (unique : KeysUnique key rows) :
    KeysUnique key (Table.deleteWhere p rows) :=
  List.Nodup.sublist (List.Sublist.map key List.filter_sublist) unique

end Statements

section Totals

variable {key : Row → Key} {p : Row → Bool} {f : Row → Row} {rows : List Row} {r : Row}
  {weight : Row → Nat}

/-- SELECT SUM(…). -/
def total (weight : Row → Nat) (rows : List Row) : Nat := (rows.map weight).sum

@[simp] theorem total_nil : total weight [] = 0 := rfl

@[simp] theorem total_cons (r : Row) (rows : List Row) :
    total weight (r :: rows) = weight r + total weight rows := by
  simp [total]

theorem total_append (first second : List Row) :
    total weight (first ++ second) = total weight first + total weight second := by
  simp [total]

theorem total_deleteWhere_le : total weight (deleteWhere p rows) ≤ total weight rows := by
  induction rows with
  | nil => exact Nat.le_refl 0
  | cons x rest ih =>
      unfold deleteWhere at ih ⊢
      rw [List.filter_cons, total_cons]
      split
      · rw [total_cons]
        omega
      · omega

/-- An update that makes no row heavier. -/
theorem total_updateWhere_le (h : ∀ x ∈ rows, p x = true → weight (f x) ≤ weight x) :
    total weight (updateWhere p f rows) ≤ total weight rows := by
  induction rows with
  | nil => exact Nat.le_refl 0
  | cons x rest ih =>
      have hRest := ih fun y hy => h y (List.mem_cons_of_mem x hy)
      have hSplit : updateWhere p f (x :: rest) =
          (if p x then f x else x) :: updateWhere p f rest := rfl
      rw [hSplit, total_cons, total_cons]
      cases hp : p x with
      | false => simpa [hp] using hRest
      | true =>
          have hFirst := h x List.mem_cons_self hp
          simp only [if_true]
          omega

/-- Updating the one row of a key exchanges its weight. -/
theorem KeysUnique.total_updateWhere (unique : KeysUnique key rows) (hr : r ∈ rows)
    (hp : p r = true) (hKey : ∀ x ∈ rows, p x = true → key x = key r) :
    total weight (Table.updateWhere p f rows) + weight r = total weight rows + weight (f r) := by
  induction rows with
  | nil => cases hr
  | cons x rest ih =>
      obtain ⟨hNotMem, hRest⟩ := List.nodup_cons.mp unique
      have hSplit : Table.updateWhere p f (x :: rest) =
          (if p x then f x else x) :: Table.updateWhere p f rest := rfl
      rw [hSplit, total_cons, total_cons]
      rcases List.mem_cons.mp hr with rfl | hMem
      · have hSame : Table.updateWhere p f rest = rest := by
          apply updateWhere_of_none
          intro y hy
          by_contra hpy
          have hEq := hKey y (List.mem_cons_of_mem r hy) (by simpa using hpy)
          exact hNotMem (hEq ▸ List.mem_map_of_mem hy)
        rw [hSame, hp]
        simp only [if_true]
        omega
      · have hOther : p x = false := by
          by_contra hpx
          have hEq := hKey x List.mem_cons_self (by simpa using hpx)
          exact hNotMem (hEq ▸ List.mem_map_of_mem hMem)
        have hTail := ih hRest hMem fun y hy => hKey y (List.mem_cons_of_mem x hy)
        simp only [hOther, Bool.false_eq_true, if_false]
        omega

end Totals

section Order

variable {before : Row → Row → Bool} {rows : List Row} {r : Row}

theorem foldl_earlier_some (before : Row → Row → Bool) (rows : List Row) (best : Row) :
    ∃ found, rows.foldl (earlier before) (some best) = some found ∧
      (found = best ∨ found ∈ rows) := by
  induction rows generalizing best with
  | nil => exact ⟨best, rfl, Or.inl rfl⟩
  | cons x rest ih =>
      cases hb : before x best with
      | true =>
          obtain ⟨found, hf, hMem⟩ := ih x
          refine ⟨found, by simpa [earlier, hb] using hf, Or.inr ?_⟩
          rcases hMem with rfl | hMem
          · exact List.mem_cons_self
          · exact List.mem_cons_of_mem _ hMem
      | false =>
          obtain ⟨found, hf, hMem⟩ := ih best
          refine ⟨found, by simpa [earlier, hb] using hf, ?_⟩
          exact hMem.imp_right (List.mem_cons_of_mem _)

theorem mem_of_firstBy (h : firstBy before rows = some r) : r ∈ rows := by
  cases rows with
  | nil => simp [firstBy] at h
  | cons x rest =>
      obtain ⟨found, hf, hMem⟩ := foldl_earlier_some before rest x
      have hEq : some found = some r := hf.symm.trans h
      cases hEq
      rcases hMem with rfl | hMem
      · exact List.mem_cons_self
      · exact List.mem_cons_of_mem _ hMem

theorem firstBy_eq_none : firstBy before rows = none ↔ rows = [] := by
  cases rows with
  | nil => simp [firstBy]
  | cons x rest =>
      obtain ⟨found, hf, _⟩ := foldl_earlier_some before rest x
      simp [firstBy, earlier, hf]

end Order

section Grows

/-- Rows are only added, and the added ones satisfy `p`. -/
def Grows (p : Row → Prop) (rows rows' : List Row) : Prop :=
  ∃ added, rows' = rows ++ added ∧ ∀ r ∈ added, p r

variable {p : Row → Prop} {rows rows' : List Row} {r : Row}

theorem Grows.of_eq (h : rows' = rows) : Grows p rows rows' :=
  ⟨[], by rw [h, List.append_nil], by simp⟩

theorem Grows.append_singleton (h : p r) : Grows p rows (rows ++ [r]) :=
  ⟨[r], rfl, fun _ hx => List.mem_singleton.mp hx ▸ h⟩

instance : Std.Refl (Grows p) := ⟨fun _ => .of_eq rfl⟩

instance : IsTrans (List Row) (Grows p) where
  trans rows _ _ := by
    rintro ⟨added, rfl, hAdded⟩ ⟨added', rfl, hAdded'⟩
    refine ⟨added ++ added', List.append_assoc .., ?_⟩
    intro r hr
    exact (List.mem_append.mp hr).elim (hAdded r) (hAdded' r)

theorem Grows.kept (h : Grows p rows rows') (hr : r ∈ rows) : r ∈ rows' := by
  obtain ⟨added, rfl, _⟩ := h
  exact List.mem_append_left _ hr

theorem Grows.origin (h : Grows p rows rows') (hr : r ∈ rows') : r ∈ rows ∨ p r := by
  obtain ⟨added, rfl, hAdded⟩ := h
  exact (List.mem_append.mp hr).imp_right (hAdded r)

/-- No row that a query selects was added. -/
theorem Grows.filter_eq {q : Row → Bool} (h : Grows p rows rows')
    (hApart : ∀ r, p r → q r = false) : rows'.filter q = rows.filter q := by
  obtain ⟨added, rfl, hAdded⟩ := h
  have hNone : added.filter q = [] :=
    List.filter_eq_nil_iff.mpr fun r hr => by simp [hApart r (hAdded r hr)]
  rw [List.filter_append, hNone, List.append_nil]

end Grows

end Table
