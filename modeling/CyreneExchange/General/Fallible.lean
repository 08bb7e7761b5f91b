import Mathlib

/-! Checked computations in sequence: what a failing run failed with, and
passes over a list that stop at the first failure. -/
namespace CyreneExchange.General

variable {ε α β σ : Type}

/-- Every failure of `result` is one that `expected` names. -/
def Settles (expected : ε → Prop) (result : Except ε α) : Prop :=
  ∀ e, result = .error e → expected e

section Sequencing

variable {expected : ε → Prop}

@[simp] theorem settles_ok (a : α) : Settles expected (.ok a : Except ε α) := by
  rintro e ⟨⟩

@[simp] theorem settles_pure (a : α) : Settles expected (pure a : Except ε α) := settles_ok a

@[simp] theorem settles_error (e : ε) :
    Settles expected (.error e : Except ε α) ↔ expected e := by
  constructor
  · intro h
    exact h e rfl
  · rintro h _ ⟨⟩
    exact h

theorem except_bind_eq_ok {x : Except ε α} {f : α → Except ε β} {b : β} :
    x >>= f = .ok b ↔ ∃ a, x = .ok a ∧ f a = .ok b := by
  cases x with
  | error e => simp [bind, Except.bind]
  | ok a => simp [bind, Except.bind]

theorem except_bind_eq_error {x : Except ε α} {f : α → Except ε β} {e : ε} :
    x >>= f = .error e ↔ x = .error e ∨ ∃ a, x = .ok a ∧ f a = .error e := by
  cases x with
  | error e => simp [bind, Except.bind]
  | ok a => simp [bind, Except.bind]

theorem except_ok_bind (a : α) (f : α → Except ε β) : (Except.ok a : Except ε α) >>= f = f a := rfl

/-- A sequence settles when its first part does and every continuation does. -/
theorem settles_bind {x : Except ε α} {f : α → Except ε β} :
    Settles expected (x >>= f) ↔
      Settles expected x ∧ ∀ a, x = .ok a → Settles expected (f a) := by
  cases x with
  | error e =>
      change Settles expected (.error e) ↔ _
      simp
  | ok a =>
      change Settles expected (f a) ↔ _
      simp

@[simp] theorem settles_map {x : Except ε α} {f : α → β} :
    Settles expected (f <$> x) ↔ Settles expected x := by
  cases x with
  | error e =>
      change Settles expected (.error e) ↔ _
      simp
  | ok a =>
      change Settles expected (.ok (f a)) ↔ _
      simp

end Sequencing

section Passes

/-- Check the items of a list in order, by index. -/
def each (check : Nat → α → Except ε β) : Nat → List α → Except ε (List β)
  | _, [] => .ok []
  | index, item :: rest => do
      let result ← check index item
      let results ← each check (index + 1) rest
      pure (result :: results)

/-- Check the items of a list in order, by index, with a running total. -/
def pass (check : Nat → σ → α → Except ε (β × σ)) :
    Nat → σ → List α → Except ε (List β × σ)
  | _, total, [] => .ok ([], total)
  | index, total, item :: rest => do
      let (result, total) ← check index total item
      let (results, total) ← pass check (index + 1) total rest
      pure (result :: results, total)

variable {expected : ε → Prop}

theorem each_cons_eq_ok {check : Nat → α → Except ε β} {index : Nat} {item : α} {rest : List α}
    {out : List β} : each check index (item :: rest) = .ok out ↔
      ∃ result results, check index item = .ok result ∧
        each check (index + 1) rest = .ok results ∧ out = result :: results := by
  rw [each]
  constructor
  · intro h
    obtain ⟨result, hResult, hRest⟩ := except_bind_eq_ok.mp h
    obtain ⟨results, hResults, hOut⟩ := except_bind_eq_ok.mp hRest
    exact ⟨result, results, hResult, hResults, by cases hOut; rfl⟩
  · rintro ⟨result, results, hResult, hResults, rfl⟩
    rw [hResult, except_ok_bind, hResults]
    rfl

theorem pass_cons_eq_ok {check : Nat → σ → α → Except ε (β × σ)} {index : Nat} {total : σ}
    {item : α} {rest : List α} {out : List β × σ} :
    pass check index total (item :: rest) = .ok out ↔
      ∃ result between results final, check index total item = .ok (result, between) ∧
        pass check (index + 1) between rest = .ok (results, final) ∧
        out = (result :: results, final) := by
  rw [pass]
  constructor
  · intro h
    obtain ⟨⟨result, between⟩, hResult, hRest⟩ := except_bind_eq_ok.mp h
    obtain ⟨⟨results, final⟩, hResults, hOut⟩ := except_bind_eq_ok.mp hRest
    exact ⟨result, between, results, final, hResult, hResults, by cases hOut; rfl⟩
  · rintro ⟨result, between, results, final, hResult, hResults, rfl⟩
    rw [hResult, except_ok_bind]
    change (pass check (index + 1) between rest >>= fun out => _) = _
    rw [hResults]
    rfl

/-- Every result of a pass comes from the item at its place. -/
theorem forall₂_of_each {check : Nat → α → Except ε β} {relation : α → β → Prop}
    {index : Nat} {items : List α} {out : List β}
    (hCheck : ∀ item ∈ items, ∀ index result, check index item = .ok result → relation item result)
    (h : each check index items = .ok out) : List.Forall₂ relation items out := by
  induction items generalizing index out with
  | nil =>
      cases h
      exact .nil
  | cons item rest ih =>
      obtain ⟨result, results, hResult, hResults, rfl⟩ := each_cons_eq_ok.mp h
      rw [List.forall_mem_cons] at hCheck
      exact .cons (hCheck.1 index result hResult) (ih hCheck.2 hResults)

theorem forall₂_of_pass {check : Nat → σ → α → Except ε (β × σ)} {relation : α → β → Prop}
    (hCheck : ∀ index total item result next,
      check index total item = .ok (result, next) → relation item result)
    {index : Nat} {total : σ} {items : List α} {out : List β × σ}
    (h : pass check index total items = .ok out) : List.Forall₂ relation items out.1 := by
  induction items generalizing index total out with
  | nil =>
      cases h
      exact .nil
  | cons item rest ih =>
      obtain ⟨result, between, results, final, hResult, hResults, rfl⟩ := pass_cons_eq_ok.mp h
      exact .cons (hCheck index total item result between hResult) (ih hResults)

/-- A pass succeeds exactly when every item can, wherever it stands. -/
theorem exists_each_eq_ok {check : Nat → α → Except ε β} {good : α → Prop} {items : List α}
    (h : ∀ item ∈ items, ∀ index, (∃ result, check index item = .ok result) ↔ good item)
    (index : Nat) : (∃ out, each check index items = .ok out) ↔ ∀ item ∈ items, good item := by
  induction items generalizing index with
  | nil => simp [each]
  | cons item rest ih =>
      rw [List.forall_mem_cons] at h ⊢
      rw [← h.1 index, ← ih h.2 (index + 1)]
      constructor
      · rintro ⟨out, hOut⟩
        obtain ⟨result, results, hResult, hResults, -⟩ := each_cons_eq_ok.mp hOut
        exact ⟨⟨result, hResult⟩, results, hResults⟩
      · rintro ⟨⟨result, hResult⟩, results, hResults⟩
        exact ⟨_, each_cons_eq_ok.mpr ⟨result, results, hResult, hResults, rfl⟩⟩

/-- A pass whose items leave the total alone ends with it. -/
theorem pass_total {check : Nat → σ → α → Except ε (β × σ)} {index : Nat} {total : σ}
    {items : List α} {out : List β × σ}
    (hCheck : ∀ item ∈ items, ∀ index result next,
      check index total item = .ok (result, next) → next = total)
    (h : pass check index total items = .ok out) : out.2 = total := by
  induction items generalizing index out with
  | nil =>
      cases h
      rfl
  | cons item rest ih =>
      obtain ⟨result, between, results, final, hResult, hResults, rfl⟩ := pass_cons_eq_ok.mp h
      have hBetween := hCheck item List.mem_cons_self index result between hResult
      subst hBetween
      have hRest := ih (fun other hOther => hCheck other (List.mem_cons_of_mem item hOther)) hResults
      exact hRest

/-- What holds of every related result holds of each of them. -/
theorem forall_of_forall₂ {relation : α → β → Prop} {property : β → Prop} {items : List α}
    {out : List β} (h : List.Forall₂ relation items out)
    (hProperty : ∀ item ∈ items, ∀ result, relation item result → property result) :
    ∀ result ∈ out, property result := by
  induction h with
  | nil => simp
  | @cons item result rest results hItem _ ih =>
      have hRest := ih fun other hOther => hProperty other (List.mem_cons_of_mem item hOther)
      simpa using ⟨hProperty item List.mem_cons_self result hItem, hRest⟩

/-- A pass succeeds when every item at its index does. -/
theorem each_of_forall₂ {check : Nat → α → Except ε β} {items : List α} {out : List β}
    (h : List.Forall₂ (fun item result => ∀ index, check index item = .ok result) items out)
    (index : Nat) : each check index items = .ok out := by
  induction h generalizing index with
  | nil => rfl
  | cons hItem _ ih => exact each_cons_eq_ok.mpr ⟨_, _, hItem index, ih (index + 1), rfl⟩

/-- A pass whose items leave the total alone succeeds with it. -/
theorem pass_of_forall₂ {check : Nat → σ → α → Except ε (β × σ)} {items : List α} {out : List β}
    {total : σ}
    (h : List.Forall₂ (fun item result => ∀ index, check index total item = .ok (result, total))
      items out) (index : Nat) : pass check index total items = .ok (out, total) := by
  induction h generalizing index with
  | nil => rfl
  | cons hItem _ ih =>
      exact pass_cons_eq_ok.mpr ⟨_, _, _, _, hItem index, ih (index + 1), rfl⟩

theorem settles_each {check : Nat → α → Except ε β}
    (hCheck : ∀ index item, Settles expected (check index item)) (index : Nat) (items : List α) :
    Settles expected (each check index items) := by
  induction items generalizing index with
  | nil => exact settles_ok []
  | cons item rest ih =>
      rw [each, settles_bind]
      refine ⟨hCheck index item, fun result _ => ?_⟩
      rw [settles_bind]
      exact ⟨ih (index + 1), fun results _ => settles_ok _⟩

/-- A pass settles when every item does that follows only accepted ones. -/
theorem settles_pass {check : Nat → σ → α → Except ε (β × σ)} {index : Nat} {total : σ}
    {items : List α} : Settles expected (pass check index total items) ↔
      ∀ before item after, items = before ++ item :: after → ∀ results reached,
        pass check index total before = .ok (results, reached) →
          Settles expected (check (index + before.length) reached item) := by
  induction items generalizing index total with
  | nil => simp [pass]
  | cons first rest ih =>
      rw [pass, settles_bind]
      constructor
      · rintro ⟨hFirst, hRest⟩ before item after hItems results reached hBefore
        cases before with
        | nil =>
            cases hItems
            cases hBefore
            exact hFirst
        | cons head tail =>
            cases hItems
            obtain ⟨result, between, results', final, hResult, hResults, hOut⟩ :=
              pass_cons_eq_ok.mp hBefore
            cases hOut
            have hTail := (settles_bind.mp (hRest (result, between) hResult)).1
            have hItem := ih.mp hTail tail item after rfl results' reached hResults
            rwa [List.length_cons, Nat.add_comm tail.length, ← Nat.add_assoc]
      · intro h
        refine ⟨h [] first rest rfl [] total rfl, ?_⟩
        rintro ⟨result, between⟩ hResult
        refine settles_bind.mpr ⟨ih.mpr ?_, fun out _ => settles_pure _⟩
        rintro before item after rfl results reached hBefore
        have hItem := h (first :: before) item after rfl (result :: results) reached
          (pass_cons_eq_ok.mpr ⟨_, _, _, _, hResult, hBefore, rfl⟩)
        rwa [List.length_cons, Nat.add_comm before.length, ← Nat.add_assoc] at hItem

theorem settles_pass_of_forall {check : Nat → σ → α → Except ε (β × σ)}
    (hCheck : ∀ index total item, Settles expected (check index total item)) (index : Nat)
    (total : σ) (items : List α) : Settles expected (pass check index total items) :=
  settles_pass.mpr fun _ _ _ _ _ _ _ => hCheck _ _ _

end Passes

section Places

variable {relation relation' : Nat → α → β → Prop} {index : Nat}

/-- Every item is related, at its index, to the result in its place. -/
inductive Placewise (relation : Nat → α → β → Prop) : Nat → List α → List β → Prop
  | nil {index : Nat} : Placewise relation index [] []
  | cons {index : Nat} {item : α} {result : β} {rest : List α} {results : List β}
      (hItem : relation index item result) (hRest : Placewise relation (index + 1) rest results) :
      Placewise relation index (item :: rest) (result :: results)

theorem Placewise.imp {items : List α} {results : List β} (h : Placewise relation index items results)
    (hImp : ∀ index item result, relation index item result → relation' index item result) :
    Placewise relation' index items results := by
  induction h with
  | nil => exact .nil
  | cons hItem _ ih => exact .cons (hImp _ _ _ hItem) ih

theorem Placewise.of_mem {items : List α} {results : List β} {result : β}
    (h : Placewise relation index items results) (hMem : result ∈ results) :
    ∃ place item, relation place item result := by
  induction h with
  | nil => cases hMem
  | cons hItem _ ih =>
      rcases List.mem_cons.mp hMem with rfl | hMem
      · exact ⟨_, _, hItem⟩
      · exact ih hMem

/-- A pass that adds what its results weigh relates each to its item, ends with
their sum, and keeps the limit that every item keeps. -/
theorem placewise_of_pass {check : Nat → Nat → α → Except ε (β × Nat)} {weight : β → Nat}
    {limit total : Nat} {items : List α} {out : List β × Nat}
    (hCheck : ∀ item ∈ items, ∀ place before result after,
      check place before item = .ok (result, after) → relation place item result ∧
        after = before + weight result ∧ (before ≤ limit → after ≤ limit))
    (h : pass check index total items = .ok out) :
    Placewise relation index items out.1 ∧ out.2 = total + (out.1.map weight).sum ∧
      (total ≤ limit → out.2 ≤ limit) := by
  induction items generalizing index total out with
  | nil =>
      cases h
      exact ⟨.nil, rfl, id⟩
  | cons item rest ih =>
      obtain ⟨result, between, results, final, hResult, hResults, rfl⟩ := pass_cons_eq_ok.mp h
      rw [List.forall_mem_cons] at hCheck
      obtain ⟨hItem, hBetween, hKept⟩ := hCheck.1 index total result between hResult
      obtain ⟨hRest, hFinal, hLimit⟩ := ih hCheck.2 hResults
      refine ⟨.cons hItem hRest, ?_, fun hTotal => hLimit (hKept hTotal)⟩
      dsimp only at hFinal ⊢
      rw [hFinal, hBetween, List.map_cons, List.sum_cons, Nat.add_assoc]

end Places

end CyreneExchange.General
