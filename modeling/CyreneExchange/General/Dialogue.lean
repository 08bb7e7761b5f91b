import CyreneExchange.General.Fallible
import CyreneExchange.General.Traced

/-! Computations that talk to an environment. Each answer may depend on
everything that was said before, and both sides are recorded. -/
namespace CyreneExchange.General

/-- What follows a history: the exchanges that are added to it, and the end. -/
def Dialogue (Event ε α : Type) : Type := List Event → Traced Event ε α

namespace Dialogue

variable {Event ε α β : Type}

instance instMonadDialogue : Monad (Dialogue Event ε) where
  pure a := fun _ => pure a
  bind x f := fun history => x history >>= fun a => f a (history ++ (x history).events)

/-- One exchange with the environment, recorded with its answer. -/
def ask (event : α → Event) (answer : List Event → α) : Dialogue Event ε α :=
  fun history => ⟨[event (answer history)], .ok (answer history)⟩

/-- A silent computation. -/
def lift (result : Except ε α) : Dialogue Event ε α := fun _ => Traced.lift result

/-- Fail without a further exchange. -/
def fail (e : ε) : Dialogue Event ε α := lift (.error e)

/-- Run to the end and look at the outcome. -/
def outcome (x : Dialogue Event ε α) : Dialogue Event ε (Except ε α) :=
  fun history => (x history).outcome

theorem bind_apply (x : Dialogue Event ε α) (f : α → Dialogue Event ε β) (history : List Event) :
    (x >>= f) history = x history >>= fun a => f a (history ++ (x history).events) := rfl

theorem lift_ok_bind (a : α) (f : α → Dialogue Event ε β) : lift (.ok a) >>= f = f a := by
  funext history
  change (⟨[] ++ (f a (history ++ [])).events, (f a (history ++ [])).result⟩ : Traced Event ε β) = _
  rw [List.append_nil]
  rfl

theorem lift_bind_of_ok {result : Except ε α} {a : α} (h : result = .ok a)
    (f : α → Dialogue Event ε β) : lift result >>= f = f a := by
  rw [h]
  exact lift_ok_bind a f

theorem lift_error_bind (e : ε) (f : α → Dialogue Event ε β) : lift (.error e) >>= f = fail e := rfl

section Ends

variable {x : Dialogue Event ε α} {f : α → Dialogue Event ε β} {history : List Event}

theorem result_bind_eq_ok {b : β} : ((x >>= f) history).result = .ok b ↔
    ∃ a, (x history).result = .ok a ∧ (f a (history ++ (x history).events)).result = .ok b := by
  rw [bind_apply]
  exact Traced.result_bind_eq_ok

theorem result_bind_eq_error {e : ε} : ((x >>= f) history).result = .error e ↔
    (x history).result = .error e ∨ ∃ a, (x history).result = .ok a ∧
      (f a (history ++ (x history).events)).result = .error e := by
  rw [bind_apply]
  cases h : (x history).result with
  | ok a => simp [Traced.bind_of_ok h]
  | error e' => simp [Traced.bind_of_error h]

theorem mem_events_bind {event : Event} : event ∈ ((x >>= f) history).events ↔
    event ∈ (x history).events ∨ ∃ a, (x history).result = .ok a ∧
      event ∈ (f a (history ++ (x history).events)).events := by
  rw [bind_apply]
  exact Traced.mem_events_bind

theorem events_bind_of_ok {a : α} (h : (x history).result = .ok a) :
    ((x >>= f) history).events =
      (x history).events ++ (f a (history ++ (x history).events)).events := by
  rw [bind_apply, Traced.bind_of_ok h]

theorem events_bind_of_error {e : ε} (h : (x history).result = .error e) :
    ((x >>= f) history).events = (x history).events := by
  rw [bind_apply, Traced.bind_of_error h]

variable {result : Except ε α}

theorem result_lift_bind_eq_ok {b : β} : ((lift result >>= f) history).result = .ok b ↔
    ∃ a, result = .ok a ∧ (f a history).result = .ok b := by
  cases result with
  | ok a => simp [lift_ok_bind]
  | error e =>
      rw [lift_error_bind]
      simp [fail, lift]

theorem mem_events_lift_bind {event : Event} : event ∈ ((lift result >>= f) history).events ↔
    ∃ a, result = .ok a ∧ event ∈ (f a history).events := by
  cases result with
  | ok a => simp [lift_ok_bind]
  | error e =>
      rw [lift_error_bind]
      simp [fail, lift]

end Ends

section Emissions

variable {kind : Event → Prop}

/-- Every exchange of the computation is of this kind, whatever came before. -/
def Emits (kind : Event → Prop) (x : Dialogue Event ε α) : Prop :=
  ∀ history, ∀ event ∈ (x history).events, kind event

theorem emits_pure (a : α) : Emits kind (pure a : Dialogue Event ε α) := by
  rintro history event ⟨⟩

theorem emits_lift (result : Except ε α) : Emits kind (lift result : Dialogue Event ε α) := by
  rintro history event ⟨⟩

theorem emits_ask {event : α → Event} (h : ∀ a, kind (event a)) (answer : List Event → α) :
    Emits kind (ask event answer : Dialogue Event ε α) := by
  intro history entry hMem
  rw [List.mem_singleton.mp hMem]
  exact h _

theorem Emits.bind {x : Dialogue Event ε α} {f : α → Dialogue Event ε β} (hFirst : Emits kind x)
    (hRest : ∀ a, Emits kind (f a)) : Emits kind (x >>= f) := by
  intro history event hMem
  rcases mem_events_bind.mp hMem with hMem | ⟨a, -, hMem⟩
  · exact hFirst history event hMem
  · exact hRest a _ event hMem

theorem Emits.outcome {x : Dialogue Event ε α} (h : Emits kind x) : Emits kind x.outcome := h

theorem Emits.imp {kind' : Event → Prop} {x : Dialogue Event ε α} (h : Emits kind x)
    (hImp : ∀ event, kind event → kind' event) : Emits kind' x :=
  fun history event hMem => hImp event (h history event hMem)

end Emissions

section Failures

variable {expected : ε → Prop}

/-- Every failure of the computation is an expected one, whatever came before. -/
def Fails (expected : ε → Prop) (x : Dialogue Event ε α) : Prop :=
  ∀ history, Settles expected (x history).result

theorem fails_pure (a : α) : Fails expected (pure a : Dialogue Event ε α) :=
  fun _ => settles_ok a

theorem fails_lift {result : Except ε α} (h : Settles expected result) :
    Fails expected (lift result : Dialogue Event ε α) :=
  fun _ => h

theorem fails_ask (event : α → Event) (answer : List Event → α) :
    Fails expected (ask event answer : Dialogue Event ε α) :=
  fun _ => settles_ok _

theorem fails_outcome (x : Dialogue Event ε α) : Fails expected x.outcome :=
  fun _ => settles_ok _

theorem Fails.bind {x : Dialogue Event ε α} {f : α → Dialogue Event ε β} (hFirst : Fails expected x)
    (hRest : ∀ a, Fails expected (f a)) : Fails expected (x >>= f) := by
  intro history e hError
  rcases result_bind_eq_error.mp hError with hError | ⟨a, -, hError⟩
  · exact hFirst history e hError
  · exact hRest a _ e hError

end Failures

end Dialogue

end CyreneExchange.General
