import CyreneExchange.General.Machine
import CyreneExchange.General.Table

/-! Resources leased under a fence. A resource is taken when it is free or its
lease is over, every taking raises the fence, and holders are told apart by
their fence alone; clocks need not agree. -/
namespace Lease

open Machine

/-- Who holds a resource, under which fence and until when. -/
structure Tenure (Owner Time : Type*) where
  owner : Option Owner := none
  fence : Nat := 0
  expires : Option Time := none

/-- A taking: the new holder, its fence and the clock it was taken at. -/
structure Grant (Owner Time : Type*) where
  owner : Owner
  fence : Nat
  clock : Time

variable {Owner Time : Type*} [LinearOrder Time]

/-- The resource may be taken at `now`. -/
def Tenure.Free (t : Tenure Owner Time) (now : Time) : Prop :=
  t.owner = none ∨ ∀ expiry, t.expires = some expiry → expiry ≤ now

/-- `owner` holds the resource under `fence` with a lease that ends after `now`. -/
def Tenure.Holds (t : Tenure Owner Time) (owner : Owner) (fence : Nat) (now : Time) : Prop :=
  t.owner = some owner ∧ t.fence = fence ∧ ∃ expiry, t.expires = some expiry ∧ now < expiry

/-- What a step may do to a resource, and the grant it hands out. -/
inductive Move (t : Tenure Owner Time) :
    Option (Grant Owner Time) → Tenure Owner Time → Prop where
  | keep : Move t none t
  | grant {now : Time} {owner : Owner} {expiry : Time} (hFree : t.Free now) :
      Move t (some ⟨owner, t.fence + 1, now⟩) ⟨some owner, t.fence + 1, some expiry⟩
  | vacate : Move t none ⟨none, t.fence, none⟩

section Runs

variable {State Input Error Answer : Type*}
  {step : Input → State → Except Error Answer × State} {promise : State → Input → Prop}
  {Invariant : State → Prop} {tenure : State → Tenure Owner Time}
  {grant : Event State Input (Except Error Answer) → Option (Grant Owner Time)}

/-- Each step moves the resource as its answer says. -/
def Moves (step : Input → State → Except Error Answer × State) (promise : State → Input → Prop)
    (Invariant : State → Prop) (tenure : State → Tenure Owner Time)
    (grant : Event State Input (Except Error Answer) → Option (Grant Owner Time)) : Prop :=
  ∀ s i, Invariant s → promise s i →
    Move (tenure s) (grant ⟨s, i, (step i s).1, (step i s).2⟩) (tenure (step i s).2)

theorem Move.fence_le {t t' : Tenure Owner Time} {g : Option (Grant Owner Time)}
    (h : Move t g t') : t.fence ≤ t'.fence := by
  cases h with
  | keep => exact Nat.le_refl _
  | grant => exact Nat.le_succ _
  | vacate => exact Nat.le_refl _

/-- Later grants carry greater fences. -/
theorem fences_increase (h : Preserves step promise Invariant)
    (moves : Moves step promise Invariant tenure grant)
    {inputs : List Input} {s : State} (hs : Invariant s)
    (admitted : Admitted step promise inputs s) :
    ((trace step inputs s).filterMap grant).Pairwise fun g g' => g.fence < g'.fence := by
  have hFresh : ∀ s i n, Invariant s → promise s i →
      (grant ⟨s, i, (step i s).1, (step i s).2⟩).map Grant.fence = some n →
        (tenure s).fence < n ∧ n ≤ (tenure (step i s).2).fence := by
    intro s i n hs hi hStamp
    obtain ⟨g, hGrant, rfl⟩ := Option.map_eq_some_iff.mp hStamp
    have hMove := moves s i hs hi
    rw [hGrant] at hMove
    generalize tenure (step i s).2 = t at hMove
    cases hMove with
    | grant => exact ⟨Nat.lt_succ_self _, Nat.le_refl _⟩
  have hStamps := stamps_increase (fun s => (tenure s).fence) (fun e => (grant e).map Grant.fence)
    h (fun s i hs hi => (moves s i hs hi).fence_le) hFresh hs admitted
  rw [← List.pairwise_map (f := Grant.fence), List.map_filterMap]
  exact hStamps

/-- Whoever holds the resource was granted it in the run or held it before. -/
theorem holder_granted (h : Preserves step promise Invariant)
    (moves : Moves step promise Invariant tenure grant)
    {inputs : List Input} {s : State} (hs : Invariant s)
    (admitted : Admitted step promise inputs s) {owner : Owner}
    (hOwner : (tenure (run step inputs s)).owner = some owner) :
    ((tenure s).owner = some owner ∧ (tenure s).fence = (tenure (run step inputs s)).fence) ∨
      ∃ e ∈ trace step inputs s, ∃ g, grant e = some g ∧ g.owner = owner ∧
        g.fence = (tenure (run step inputs s)).fence := by
  induction inputs generalizing s with
  | nil => exact Or.inl ⟨hOwner, rfl⟩
  | cons i rest ih =>
      rcases ih (h s i hs admitted.1) admitted.2 hOwner with ⟨hHeld, hFence⟩ | ⟨e, he, hGrant⟩
      · have hMove := moves s i hs admitted.1
        cases hGrant : grant ⟨s, i, (step i s).1, (step i s).2⟩ with
        | none =>
            left
            rw [hGrant] at hMove
            show _ ∧ _ = (tenure (run step rest (step i s).2)).fence
            rw [← hFence]
            generalize tenure (step i s).2 = t at hMove hHeld
            cases hMove with
            | keep => exact ⟨hHeld, rfl⟩
            | vacate => cases hHeld
        | some g =>
            right
            refine ⟨_, List.mem_cons_self, g, hGrant, ?_⟩
            show _ ∧ _ = (tenure (run step rest (step i s).2)).fence
            rw [hGrant] at hMove
            rw [← hFence]
            generalize tenure (step i s).2 = t at hMove hHeld
            cases hMove with
            | grant => exact ⟨Option.some.inj hHeld, rfl⟩
      · exact Or.inr ⟨e, List.mem_cons_of_mem _ he, hGrant⟩

/-- Exclusive use of one resource over a run: at most one grant is in force, no
grant is made while another one runs, and an attempt to complete the work is
refused without a trace unless it comes from the current, unexpired grant. -/
structure Exclusive (step : Input → State → Except Error Answer × State)
    (tenure : State → Tenure Owner Time)
    (grant : Event State Input (Except Error Answer) → Option (Grant Owner Time))
    (attempt : Input → Option (Grant Owner Time)) (inputs : List Input) (s : State) : Prop where
  one_holder : ∀ now now', ((trace step inputs s).filterMap grant).Pairwise fun g g' =>
    ¬ ((tenure (run step inputs s)).Holds g.owner g.fence now ∧
      (tenure (run step inputs s)).Holds g'.owner g'.fence now')
  granted_free : ∀ e ∈ trace step inputs s, ∀ g, grant e = some g →
    (tenure e.before).Free g.clock
  completed_held : ∀ earlier e later, trace step inputs s = earlier ++ e :: later →
    ∀ a, attempt e.input = some a →
      ((∃ error, e.output = .error error) ∧ e.after = e.before) ∨
        ((tenure e.before).Holds a.owner a.fence a.clock ∧
          ∃ c ∈ earlier, ∃ g, grant c = some g ∧ g.owner = a.owner ∧ g.fence = a.fence)

/-- The lease rule: moves and a guarded completion give exclusive use. -/
theorem exclusive_of_moves {attempt : Input → Option (Grant Owner Time)}
    (h : Preserves step promise Invariant) (moves : Moves step promise Invariant tenure grant)
    (guarded : ∀ s i a, Invariant s → promise s i → attempt i = some a →
      ((∃ error, (step i s).1 = .error error) ∧ (step i s).2 = s) ∨
        (tenure s).Holds a.owner a.fence a.clock)
    {inputs : List Input} {s : State} (hs : Invariant s)
    (admitted : Admitted step promise inputs s) (hStart : (tenure s).owner = none) :
    Exclusive step tenure grant attempt inputs s where
  one_holder now now' := by
    refine (fences_increase h moves hs admitted).imp ?_
    rintro g g' hLess ⟨⟨_, hFence, _⟩, _, hFence', _⟩
    omega
  granted_free e he g hGrant := by
    obtain ⟨hBefore, hPromise, hOut, hAfter⟩ := h.trace hs admitted e he
    have hMove := moves e.before e.input hBefore hPromise
    rw [← hOut, ← hAfter, hGrant] at hMove
    generalize tenure e.after = t at hMove
    cases hMove with
    | grant hFree => exact hFree
  completed_held earlier e later hTrace a hAttempt := by
    have he : e ∈ trace step inputs s := hTrace ▸ List.mem_append_right _ List.mem_cons_self
    obtain ⟨hBefore, hPromise, hOut, hAfter⟩ := h.trace hs admitted e he
    rcases guarded e.before e.input a hBefore hPromise hAttempt with hRefused | hHolds
    · left
      rw [hOut, hAfter]
      exact hRefused
    · right
      refine ⟨hHolds, ?_⟩
      obtain ⟨first, second, rfl, rfl, hLater⟩ := trace_eq_append hTrace
      cases second with
      | nil => cases hLater
      | cons i rest =>
          obtain ⟨rfl, _⟩ := List.cons.inj hLater
          obtain ⟨hOwner, hFence, _⟩ := hHolds
          rcases holder_granted h moves hs ((admitted_append first _ s).mp admitted).1 hOwner with
            ⟨hHeld, _⟩ | ⟨c, hc, g, hGrant, hSame, hSameFence⟩
          · rw [hStart] at hHeld
            cases hHeld
          · exact ⟨c, hc, g, hGrant, hSame, hSameFence.trans hFence⟩

end Runs

section Tables

variable {Row Key : Type*} [DecidableEq Key] {key : Row → Key} {tenure : Row → Tenure Owner Time}
  {rows : List Row} {r : Row} {p : Row → Bool} {f : Row → Row} {k : Key}

omit [LinearOrder Time] in
/-- The tenure a table records for a key; a resource without a row is free. -/
def tenureOf (key : Row → Key) (tenure : Row → Tenure Owner Time) (rows : List Row) (k : Key) :
    Tenure Owner Time :=
  match rows.find? fun r => decide (key r = k) with
  | none => {}
  | some r => tenure r

omit [LinearOrder Time] in
theorem tenureOf_eq_of_mem (unique : Table.KeysUnique key rows) (hr : r ∈ rows) :
    tenureOf key tenure rows (key r) = tenure r := by
  rw [tenureOf, (unique.find_eq_some (key r)).mpr ⟨hr, rfl⟩]

omit [LinearOrder Time] in
/-- A resource is free before its row is inserted and after. -/
theorem tenureOf_append (h : tenure r = {}) (k : Key) :
    tenureOf key tenure (rows ++ [r]) k = tenureOf key tenure rows k := by
  rw [tenureOf, tenureOf, List.find?_append]
  cases rows.find? fun r => decide (key r = k) with
  | some found => rfl
  | none =>
      by_cases hKey : key r = k
      · simp [hKey, h]
      · simp [hKey]

omit [LinearOrder Time] in
theorem tenureOf_updateWhere (h : ∀ x ∈ rows, p x = true → key (f x) = key x) :
    tenureOf key tenure (Table.updateWhere p f rows) k =
      match rows.find? fun r => decide (key r = k) with
      | none => {}
      | some r => if p r then tenure (f r) else tenure r := by
  rw [tenureOf, Table.find_updateWhere fun x hx hp => by rw [h x hx hp]]
  cases rows.find? fun r => decide (key r = k) with
  | none => rfl
  | some r => by_cases hp : p r <;> simp [hp]

omit [LinearOrder Time] in
/-- The tenure of an updated row. -/
theorem tenureOf_updated (unique : Table.KeysUnique key rows) (hr : r ∈ rows) (hp : p r = true)
    (h : ∀ x ∈ rows, p x = true → key (f x) = key x) :
    tenureOf key tenure (Table.updateWhere p f rows) (key r) = tenure (f r) := by
  rw [tenureOf_updateWhere h, (unique.find_eq_some (key r)).mpr ⟨hr, rfl⟩]
  simp only [hp, if_true]

/-- An update that ends the tenure of the rows it selects. -/
theorem move_of_vacating (hKey : ∀ x ∈ rows, p x = true → key (f x) = key x)
    (hVacate : ∀ x ∈ rows, p x = true → tenure (f x) = ⟨none, (tenure x).fence, none⟩) :
    Move (tenureOf key tenure rows k) none
      (tenureOf key tenure (Table.updateWhere p f rows) k) := by
  have hUpdated : tenureOf key tenure (Table.updateWhere p f rows) k = _ :=
    tenureOf_updateWhere hKey
  rw [hUpdated, tenureOf]
  cases hFind : rows.find? fun r => decide (key r = k) with
  | none => exact Move.keep
  | some r =>
      cases hp : p r with
      | false =>
          simp only [hp, Bool.false_eq_true, if_false]
          exact Move.keep
      | true =>
          have hEnd := hVacate r (List.mem_of_find?_eq_some hFind) hp
          simp only [if_true, hp, hEnd]
          exact Move.vacate

/-- An update that takes the free resource of one row. -/
theorem move_of_granting (unique : Table.KeysUnique key rows) (hr : r ∈ rows)
    (hp : ∀ x ∈ rows, p x = decide (key x = key r)) (hKey : key (f r) = key r) {now : Time}
    {owner : Owner} {expiry : Time} (hFree : (tenure r).Free now)
    (hGrant : tenure (f r) = ⟨some owner, (tenure r).fence + 1, some expiry⟩) :
    Move (tenureOf key tenure rows k)
      (if key r = k then some ⟨owner, (tenure r).fence + 1, now⟩ else none)
      (tenureOf key tenure (Table.updateWhere p f rows) k) := by
  have hOnly : ∀ x ∈ rows, p x = true → x = r := by
    intro x hx hpx
    rw [hp x hx, decide_eq_true_eq] at hpx
    exact unique.eq hx hr hpx
  have hKeys : ∀ x ∈ rows, p x = true → key (f x) = key x := by
    intro x hx hpx
    rw [hOnly x hx hpx, hKey]
  have hUpdated : tenureOf key tenure (Table.updateWhere p f rows) k = _ :=
    tenureOf_updateWhere hKeys
  rw [hUpdated, tenureOf]
  cases hFind : rows.find? fun x => decide (key x = k) with
  | none =>
      have hOther : ¬ key r = k := by simpa using List.find?_eq_none.mp hFind r hr
      rw [if_neg hOther]
      exact Move.keep
  | some x =>
      have hx := List.mem_of_find?_eq_some hFind
      have hxk : key x = k := by simpa using List.find?_some hFind
      by_cases hSame : key r = k
      · obtain rfl : x = r := unique.eq hx hr (hxk.trans hSame.symm)
        have hSelf : p x = true := by rw [hp x hx, decide_eq_true_eq]
        simp only [hSame, hSelf, if_true, hGrant]
        exact Move.grant hFree
      · have hApart : p x = false := by
          rw [hp x hx, decide_eq_false_iff_not, hxk]
          exact fun h => hSame h.symm
        simp only [hSame, hApart, if_false, Bool.false_eq_true]
        exact Move.keep

end Tables

end Lease
