import Mathlib

/-! Computations that log events and may fail. What was logged before a
failure stays logged, and a failure can be looked at and handled. -/
namespace CyreneExchange.General

/-- The events a computation logs, in order, and how it ends. -/
structure Traced (Event ε α : Type) where
  events : List Event
  result : Except ε α

namespace Traced

variable {Event ε α β : Type}

instance : Monad (Traced Event ε) where
  pure a := ⟨[], .ok a⟩
  bind x f := match x.result with
    | .ok a => ⟨x.events ++ (f a).events, (f a).result⟩
    | .error e => ⟨x.events, .error e⟩

/-- Log one event. -/
def log (event : Event) : Traced Event ε Unit := ⟨[event], .ok ()⟩

/-- Fail without a further event. -/
def fail (e : ε) : Traced Event ε α := ⟨[], .error e⟩

/-- A silent computation. -/
def lift (result : Except ε α) : Traced Event ε α := ⟨[], result⟩

/-- Run to the end and look at the outcome. -/
def outcome (x : Traced Event ε α) : Traced Event ε (Except ε α) := ⟨x.events, .ok x.result⟩

theorem bind_of_ok {x : Traced Event ε α} {f : α → Traced Event ε β} {a : α}
    (h : x.result = .ok a) : x >>= f = ⟨x.events ++ (f a).events, (f a).result⟩ := by
  change (match x.result with
    | .ok a => ⟨x.events ++ (f a).events, (f a).result⟩
    | .error e => ⟨x.events, .error e⟩ : Traced Event ε β) = _
  rw [h]

theorem bind_of_error {x : Traced Event ε α} {f : α → Traced Event ε β} {e : ε}
    (h : x.result = .error e) : x >>= f = ⟨x.events, .error e⟩ := by
  change (match x.result with
    | .ok a => ⟨x.events ++ (f a).events, (f a).result⟩
    | .error e => ⟨x.events, .error e⟩ : Traced Event ε β) = _
  rw [h]

@[simp] theorem events_pure (a : α) : (pure a : Traced Event ε α).events = [] := rfl

@[simp] theorem result_pure (a : α) : (pure a : Traced Event ε α).result = .ok a := rfl

@[simp] theorem events_fail (e : ε) : (fail e : Traced Event ε α).events = [] := rfl

@[simp] theorem result_fail (e : ε) : (fail e : Traced Event ε α).result = .error e := rfl

@[simp] theorem events_lift (result : Except ε α) :
    (lift result : Traced Event ε α).events = [] := rfl

@[simp] theorem result_lift (result : Except ε α) :
    (lift result : Traced Event ε α).result = result := rfl

theorem lift_ok_bind (a : α) (f : α → Traced Event ε β) : lift (.ok a) >>= f = f a := rfl

theorem log_bind (event : Event) (f : Unit → Traced Event ε β) :
    log event >>= f = ⟨event :: (f ()).events, (f ()).result⟩ := rfl

theorem bind_assoc {γ : Type} (x : Traced Event ε α) (f : α → Traced Event ε β)
    (g : β → Traced Event ε γ) : x >>= f >>= g = x >>= fun a => f a >>= g := by
  cases h : x.result with
  | ok a =>
      cases hNext : (f a).result with
      | ok b =>
          rw [bind_of_ok h, bind_of_ok h, bind_of_ok hNext, ← List.append_assoc]
          exact bind_of_ok hNext
      | error e =>
          rw [bind_of_ok h, bind_of_ok h, bind_of_error hNext]
          exact bind_of_error hNext
  | error e => rw [bind_of_error h, bind_of_error h, bind_of_error rfl]

theorem pure_bind (a : α) (f : α → Traced Event ε β) : pure a >>= f = f a := rfl

theorem fail_bind (e : ε) (f : α → Traced Event ε β) : fail e >>= f = fail e := rfl

theorem outcome_bind (x : Traced Event ε α) (f : Except ε α → Traced Event ε β) :
    x.outcome >>= f = ⟨x.events ++ (f x.result).events, (f x.result).result⟩ := rfl

theorem result_bind_eq_ok {x : Traced Event ε α} {f : α → Traced Event ε β} {b : β} :
    (x >>= f).result = .ok b ↔ ∃ a, x.result = .ok a ∧ (f a).result = .ok b := by
  cases h : x.result with
  | ok a => simp [bind_of_ok h]
  | error e => simp [bind_of_error h]

/-- A sequence fails in its first part or, after that, in its second. -/
theorem exists_result_bind_error {P : ε → Prop} {x : Traced Event ε α}
    {f : α → Traced Event ε β} :
    (∃ e, (x >>= f).result = .error e ∧ P e) ↔
      (∃ e, x.result = .error e ∧ P e) ∨
        ∃ a, x.result = .ok a ∧ ∃ e, (f a).result = .error e ∧ P e := by
  cases h : x.result with
  | ok a => simp [bind_of_ok h]
  | error e => simp [bind_of_error h]

theorem mem_events_bind {x : Traced Event ε α} {f : α → Traced Event ε β} {event : Event} :
    event ∈ (x >>= f).events ↔
      event ∈ x.events ∨ ∃ a, x.result = .ok a ∧ event ∈ (f a).events := by
  cases h : x.result with
  | ok a => simp [bind_of_ok h]
  | error e => simp [bind_of_error h]

/-- A sequence is determined by what follows the values that its first part gives. -/
theorem bind_congr {x : Traced Event ε α} {f g : α → Traced Event ε β}
    (h : ∀ a, x.result = .ok a → f a = g a) : x >>= f = x >>= g := by
  cases hResult : x.result with
  | ok a => rw [bind_of_ok hResult, bind_of_ok hResult, h a hResult]
  | error e => rw [bind_of_error hResult, bind_of_error hResult]

section Observation

/-- The events that `select` lets through. -/
def observed (select : Event → Bool) (x : Traced Event ε α) : List Event := x.events.filter select

variable {select : Event → Bool}

theorem observed_bind_of_ok {x : Traced Event ε α} {f : α → Traced Event ε β} {a : α}
    (h : x.result = .ok a) :
    (x >>= f).observed select = x.observed select ++ (f a).observed select := by
  rw [observed, bind_of_ok h, List.filter_append]
  rfl

theorem observed_bind_of_error {x : Traced Event ε α} {f : α → Traced Event ε β} {e : ε}
    (h : x.result = .error e) : (x >>= f).observed select = x.observed select := by
  rw [observed, bind_of_error h]
  rfl

theorem observed_eq_nil {x : Traced Event ε α} :
    x.observed select = [] ↔ ∀ event ∈ x.events, select event = false := by
  simp [observed]

/-- A gate lets a value through unobserved or stops. It stops with a refusal,
except where it leaks: there it stops unobserved. -/
structure Gate (select : Event → Bool) (Refusal : List Event → Prop) (leaks : Prop)
    (x : Traced Event ε α) : Prop where
  passes : ∀ a, x.result = .ok a → x.observed select = [] ∧ ¬ leaks
  refuses : ∀ e, x.result = .error e → ¬ leaks → Refusal (x.observed select)
  escapes : ∀ e, x.result = .error e → leaks → x.observed select = []

/-- Behind a gate a trace is lawful when the gate does not leak and whatever
it lets through goes on lawfully. -/
theorem Gate.lawful_bind_iff {Refusal Lawful : List Event → Prop} {leaks : Prop}
    {x : Traced Event ε α} {f : α → Traced Event ε β} (hGate : Gate select Refusal leaks x)
    (hRefusal : ∀ events, Refusal events → Lawful events) (hSilent : ¬ Lawful []) :
    Lawful ((x >>= f).observed select) ↔
      ¬ leaks ∧ ∀ a, x.result = .ok a → Lawful ((f a).observed select) := by
  cases h : x.result with
  | ok a =>
      obtain ⟨hQuiet, hTight⟩ := hGate.passes a h
      rw [observed_bind_of_ok h, hQuiet, List.nil_append]
      constructor
      · rintro hLawful
        refine ⟨hTight, ?_⟩
        rintro _ ⟨⟩
        exact hLawful
      · rintro ⟨-, hLawful⟩
        exact hLawful a rfl
  | error e =>
      rw [observed_bind_of_error h]
      constructor
      · intro hLawful
        refine ⟨fun hLeaks => ?_, by rintro a ⟨⟩⟩
        rw [hGate.escapes e h hLeaks] at hLawful
        exact hSilent hLawful
      · rintro ⟨hTight, -⟩
        exact hRefusal _ (hGate.refuses e h hTight)

/-- Where silence is lawful, a gate may leak. -/
theorem Gate.lenient_bind_iff {Refusal Lawful : List Event → Prop} {leaks : Prop}
    {x : Traced Event ε α} {f : α → Traced Event ε β} (hGate : Gate select Refusal leaks x)
    (hRefusal : ∀ events, Refusal events → Lawful events) (hSilent : Lawful []) :
    Lawful ((x >>= f).observed select) ↔ ∀ a, x.result = .ok a → Lawful ((f a).observed select) := by
  cases h : x.result with
  | ok a =>
      rw [observed_bind_of_ok h, (hGate.passes a h).1, List.nil_append]
      simp
  | error e =>
      rw [observed_bind_of_error h]
      refine iff_of_true ?_ (by rintro a ⟨⟩)
      by_cases hLeaks : leaks
      · rw [hGate.escapes e h hLeaks]
        exact hSilent
      · exact hRefusal _ (hGate.refuses e h hLeaks)

/-- Two gates in a row are a gate. -/
theorem Gate.bind {Refusal : List Event → Prop} {leaks : Prop} {leaksNext : α → Prop}
    {x : Traced Event ε α} {f : α → Traced Event ε β} (hGate : Gate select Refusal leaks x)
    (hNext : ∀ a, x.result = .ok a → Gate select Refusal (leaksNext a) (f a)) :
    Gate select Refusal (leaks ∨ ∃ a, x.result = .ok a ∧ leaksNext a) (x >>= f) := by
  cases h : x.result with
  | ok a =>
      obtain ⟨hQuiet, hTight⟩ := hGate.passes a h
      have hObserved : (x >>= f).observed select = (f a).observed select := by
        rw [observed_bind_of_ok h, hQuiet, List.nil_append]
      have hResult : (x >>= f).result = (f a).result := by rw [bind_of_ok h]
      have hLeaks : (leaks ∨ ∃ b, Except.ok (ε := ε) a = .ok b ∧ leaksNext b) ↔ leaksNext a := by
        simp [hTight]
      have hRest := hNext a h
      refine ⟨?_, ?_, ?_⟩
      · intro b hb
        rw [hObserved, hLeaks]
        exact hRest.passes b (hResult ▸ hb)
      · intro e he hTight
        rw [hLeaks] at hTight
        rw [hObserved]
        exact hRest.refuses e (hResult ▸ he) hTight
      · intro e he hLeak
        rw [hLeaks] at hLeak
        rw [hObserved]
        exact hRest.escapes e (hResult ▸ he) hLeak
  | error e =>
      have hObserved : (x >>= f).observed select = x.observed select := observed_bind_of_error h
      refine ⟨?_, ?_, ?_⟩
      · intro b hb
        rw [bind_of_error h] at hb
        cases hb
      · intro e' _ hTight
        rw [hObserved]
        exact hGate.refuses e h fun hLeaks => hTight (.inl hLeaks)
      · intro e' _ hLeak
        rw [hObserved]
        refine hGate.escapes e h (hLeak.resolve_right ?_)
        rintro ⟨a, hOk, -⟩
        cases hOk

/-- A gate leaks in the same cases however they are described. -/
theorem Gate.congr {Refusal : List Event → Prop} {leaks leaks' : Prop} {x : Traced Event ε α}
    (hGate : Gate select Refusal leaks x) (h : leaks ↔ leaks') : Gate select Refusal leaks' x := by
  rw [← propext h]
  exact hGate

/-- What only passes and is not observed is a gate without leaks. -/
theorem gate_of_ok {Refusal : List Event → Prop} {x : Traced Event ε α} {a : α}
    (hResult : x.result = .ok a) (hQuiet : x.observed select = []) :
    Gate select Refusal False x where
  passes _ _ := ⟨hQuiet, id⟩
  refuses e h := by
    rw [hResult] at h
    cases h
  escapes _ _ := False.elim

end Observation

section Order

/-- Every event that needs permission comes after one that gives it. -/
def Permitted (needs gives : Event → Prop) (events : List Event) : Prop :=
  ∀ before event after, events = before ++ event :: after → needs event →
    ∃ grant ∈ before, gives grant

variable {needs gives : Event → Prop}

theorem permitted_of_none {events : List Event} (h : ∀ event ∈ events, ¬ needs event) :
    Permitted needs gives events := by
  rintro before event after rfl hNeeds
  exact absurd hNeeds (h event (by simp))

/-- A grant permits everything after it. -/
theorem Permitted.append {first second : List Event} (hFirst : Permitted needs gives first)
    (hSecond : (∃ grant ∈ first, gives grant) ∨ Permitted needs gives second) :
    Permitted needs gives (first ++ second) := by
  intro before event after hSplit hNeeds
  rcases List.append_eq_append_iff.mp hSplit with ⟨middle, hBefore, hAfter⟩ | ⟨middle, hFront, hRest⟩
  · rcases hSecond with ⟨grant, hMem, hGives⟩ | hSecond
    · exact ⟨grant, by rw [hBefore]; exact List.mem_append_left _ hMem, hGives⟩
    · obtain ⟨grant, hMem, hGives⟩ := hSecond middle event after hAfter hNeeds
      exact ⟨grant, by rw [hBefore]; exact List.mem_append_right _ hMem, hGives⟩
  · cases middle with
    | nil =>
        rw [List.nil_append] at hRest
        rw [List.append_nil] at hFront
        rcases hSecond with ⟨grant, hMem, hGives⟩ | hSecond
        · exact ⟨grant, hFront ▸ hMem, hGives⟩
        · obtain ⟨grant, hMem, -⟩ := hSecond [] event after hRest.symm hNeeds
          cases hMem
    | cons head tail =>
        rw [List.cons_append] at hRest
        obtain ⟨rfl, -⟩ := List.cons.inj hRest
        exact hFirst before event tail hFront hNeeds

/-- A sequence is permitted when its parts are, or its first part grants the rest. -/
theorem Permitted.bind {x : Traced Event ε α} {f : α → Traced Event ε β}
    (hFirst : Permitted needs gives x.events)
    (hRest : ∀ a, x.result = .ok a →
      (∃ grant ∈ x.events, gives grant) ∨ Permitted needs gives (f a).events) :
    Permitted needs gives (x >>= f).events := by
  cases h : x.result with
  | ok a =>
      rw [bind_of_ok h]
      exact hFirst.append (hRest a h)
  | error e =>
      rw [bind_of_error h]
      exact hFirst

end Order

end Traced

end CyreneExchange.General
