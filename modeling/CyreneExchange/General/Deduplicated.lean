import CyreneExchange.General.Machine

/-! Records deduplicated by a key: of the items of a run that carry a key, one is
recorded only when no earlier one carried the same. -/
namespace Deduplicated

open Machine

variable {Item Key : Type*}

/-- An item counts as recorded exactly when its key, if it has one, was not seen
before it. -/
def FirstOnly (key : Item → Option Key) (recorded : Item → Prop) : List Key → List Item → Prop
  | _, [] => True
  | seen, item :: rest => (recorded item ↔ ∀ k ∈ key item, k ∉ seen) ∧
      FirstOnly key recorded (seen ++ (key item).toList) rest

section Items

variable {key : Item → Option Key} {recorded : Item → Prop}

theorem FirstOnly.append {seen : List Key} {items later : List Item}
    (h : FirstOnly key recorded seen items)
    (hLater : FirstOnly key recorded (seen ++ items.filterMap key) later) :
    FirstOnly key recorded seen (items ++ later) := by
  induction items generalizing seen with
  | nil => simpa using hLater
  | cons item rest ih =>
      obtain ⟨hItem, hRest⟩ := h
      refine ⟨hItem, ih hRest ?_⟩
      cases hKey : key item with
      | none => simpa [hKey] using hLater
      | some k => simpa [hKey] using hLater

/-- Every item is recorded when, and only when, no key comes twice. -/
theorem FirstOnly.forall_iff {seen : List Key} {items : List Item}
    (h : FirstOnly key recorded seen items) (hSeen : seen.Nodup) :
    (∀ item ∈ items, recorded item) ↔ (seen ++ items.filterMap key).Nodup := by
  induction items generalizing seen with
  | nil => simpa using hSeen
  | cons item rest ih =>
      obtain ⟨hItem, hRest⟩ := h
      rw [List.forall_mem_cons, hItem]
      cases hKey : key item with
      | none =>
          rw [hKey, Option.toList_none, List.append_nil] at hRest
          simp only [List.filterMap_cons, hKey, Option.mem_def, reduceCtorEq, false_implies,
            implies_true, true_and]
          exact ih hRest hSeen
      | some k =>
          rw [hKey, Option.toList_some] at hRest
          simp only [List.filterMap_cons, hKey, Option.mem_def, Option.some.injEq, forall_eq']
          rw [← List.singleton_append, ← List.append_assoc]
          constructor
          · rintro ⟨hFresh, hAll⟩
            have hNext : (seen ++ [k]).Nodup := by
              rw [List.nodup_append]
              exact ⟨hSeen, by simp, fun a ha b hb hSame =>
                hFresh (List.mem_singleton.mp hb ▸ hSame ▸ ha)⟩
            exact (ih hRest hNext).mp hAll
          · intro hNodup
            have hNext := (List.nodup_append.mp hNodup).1
            refine ⟨fun hOld => ?_, (ih hRest hNext).mpr hNodup⟩
            exact (List.nodup_append.mp hNext).2.2 k hOld k (List.mem_singleton_self k) rfl

end Items

section Runs

variable {State Input Output : Type*} {step : Input → State → Output × State}
  {promise : State → Input → Prop} {items : Event State Input Output → List Item}
  {key : Item → Option Key} {recorded : Item → Prop}

/-- The rule of the deduplicated log: when each step records the items of its
own with keys not seen so far, the whole run does, and records all of them
exactly when no key comes twice. -/
theorem run_records_iff (Knows : List Key → State → Prop)
    (hStep : ∀ seen s i, Knows seen s → promise s i →
      FirstOnly key recorded seen (items ⟨s, i, (step i s).1, (step i s).2⟩) ∧
        Knows (seen ++ (items ⟨s, i, (step i s).1, (step i s).2⟩).filterMap key) (step i s).2)
    {inputs : List Input} {s : State} (hs : Knows [] s)
    (admitted : Admitted step promise inputs s) :
    (∀ item ∈ (trace step inputs s).flatMap items, recorded item) ↔
      (((trace step inputs s).flatMap items).filterMap key).Nodup := by
  have hFirst : ∀ (inputs : List Input) (seen : List Key) (s : State), Knows seen s →
      Admitted step promise inputs s →
      FirstOnly key recorded seen ((trace step inputs s).flatMap items) := by
    intro inputs
    induction inputs with
    | nil => exact fun _ _ _ _ => trivial
    | cons i rest ih =>
        intro seen s hKnows hAdmitted
        obtain ⟨hHere, hNext⟩ := hStep seen s i hKnows hAdmitted.1
        exact hHere.append (ih _ _ hNext hAdmitted.2)
  simpa using (hFirst inputs [] s hs admitted).forall_iff List.nodup_nil

end Runs

end Deduplicated
