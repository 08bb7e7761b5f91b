import Mathlib

/-! Serialized all-or-nothing transactions over an explicit state. A body
either commits an answer with a new state or rejects with an error, and a
rejected body leaves nothing behind. -/

/-- A transaction body: reads and writes the state, or rejects. -/
def Transaction (State Error Answer : Type) : Type :=
  State → Except Error (Answer × State)

namespace Transaction

variable {State Error Answer Next : Type}

instance : Monad (Transaction State Error) where
  pure a := fun s => .ok (a, s)
  bind x f := fun s => match x s with
    | .ok (a, t) => f a t
    | .error e => .error e

/-- Abandon the transaction. -/
def reject (e : Error) : Transaction State Error Answer := fun _ => .error e

/-- Continue only if the condition holds. -/
def require (condition : Bool) (e : Error) : Transaction State Error Unit :=
  fun s => if condition then .ok ((), s) else .error e

/-- Read the current state. -/
def fetch (f : State → Answer) : Transaction State Error Answer := fun s => .ok (f s, s)

/-- Write the current state. -/
def store (f : State → State) : Transaction State Error Unit := fun s => .ok ((), f s)

/-- Run a body to its end: commit the new state, or roll back. -/
def commit (body : Transaction State Error Answer) (s : State) : Except Error Answer × State :=
  match body s with
  | .ok (a, t) => (.ok a, t)
  | .error e => (.error e, s)

@[simp] theorem pure_apply (a : Answer) (s : State) :
    (pure a : Transaction State Error Answer) s = .ok (a, s) := rfl

@[simp] theorem reject_apply (e : Error) (s : State) :
    (reject e : Transaction State Error Answer) s = .error e := rfl

@[simp] theorem fetch_apply (f : State → Answer) (s : State) :
    (fetch f : Transaction State Error Answer) s = .ok (f s, s) := rfl

@[simp] theorem store_apply (f : State → State) (s : State) :
    (store f : Transaction State Error Unit) s = .ok ((), f s) := rfl

theorem bind_apply (x : Transaction State Error Answer)
    (f : Answer → Transaction State Error Next) (s : State) :
    (x >>= f) s = match x s with
      | .ok (a, t) => f a t
      | .error e => .error e := rfl

/-- The first step answered, so the rest continues from its state. -/
theorem bind_of_ok {x : Transaction State Error Answer}
    {f : Answer → Transaction State Error Next} {s t : State} {a : Answer}
    (h : x s = .ok (a, t)) : (x >>= f) s = f a t := by
  rw [bind_apply, h]

theorem bind_of_error {x : Transaction State Error Answer}
    {f : Answer → Transaction State Error Next} {s : State} {e : Error}
    (h : x s = .error e) : (x >>= f) s = .error e := by
  rw [bind_apply, h]

/-- A committed sequence splits into a committed first step and a committed
rest. All inversions of transaction bodies are applications of this rule. -/
theorem bind_eq_ok {x : Transaction State Error Answer}
    {f : Answer → Transaction State Error Next} {s u : State} {b : Next} :
    (x >>= f) s = .ok (b, u) ↔ ∃ a t, x s = .ok (a, t) ∧ f a t = .ok (b, u) := by
  rw [bind_apply]
  cases h : x s with
  | error e => simp
  | ok answer =>
      obtain ⟨a, t⟩ := answer
      constructor
      · intro hf
        exact ⟨a, t, rfl, hf⟩
      · rintro ⟨a', t', ha, hf⟩
        cases ha
        exact hf

@[simp] theorem pure_bind (a : Answer) (f : Answer → Transaction State Error Next) :
    (pure a >>= f) = f a := rfl

@[simp] theorem fetch_bind (g : State → Answer) (f : Answer → Transaction State Error Next)
    (s : State) : (fetch g >>= f) s = f (g s) s := rfl

@[simp] theorem store_bind (g : State → State) (f : Unit → Transaction State Error Next)
    (s : State) : (store g >>= f) s = f () (g s) := rfl

@[simp] theorem reject_bind (e : Error) (f : Answer → Transaction State Error Next) (s : State) :
    ((reject e : Transaction State Error Answer) >>= f) s = .error e := rfl

@[simp] theorem require_eq_ok {condition : Bool} {e : Error} {s t : State} {u : Unit} :
    (require condition e : Transaction State Error Unit) s = .ok (u, t) ↔
      condition = true ∧ s = t := by
  cases condition <;> simp [require]

theorem require_of_true {condition : Bool} (h : condition = true) (e : Error) (s : State) :
    (require condition e : Transaction State Error Unit) s = .ok ((), s) := by
  simp [h]

theorem require_of_false {condition : Bool} (h : condition = false) (e : Error) (s : State) :
    (require condition e : Transaction State Error Unit) s = .error e := by
  simp [require, h]

/-- A rejected transaction leaves the state as it was. -/
theorem commit_of_error {body : Transaction State Error Answer} {s : State} {e : Error}
    (h : (commit body s).1 = .error e) : (commit body s).2 = s := by
  unfold commit at h ⊢
  cases hb : body s with
  | error e' => rfl
  | ok answer => simp [hb] at h

theorem commit_of_ok {body : Transaction State Error Answer} {s t : State} {a : Answer}
    (h : body s = .ok (a, t)) : commit body s = (.ok a, t) := by
  rw [commit, h]

theorem commit_eq_ok {body : Transaction State Error Answer} {s : State} {a : Answer}
    (h : (commit body s).1 = .ok a) : body s = .ok (a, (commit body s).2) := by
  unfold commit at h ⊢
  cases hb : body s with
  | error e => simp [hb] at h
  | ok answer =>
      obtain ⟨a', t⟩ := answer
      simp only [hb, Except.ok.injEq] at h
      rw [h]

/-- Wrapping the answer does not change what is committed. -/
theorem commit_answer (body : Transaction State Error Answer) (f : Answer → Next) (s : State) :
    (commit (body >>= fun a => pure (f a)) s).2 = (commit body s).2 := by
  unfold commit
  rw [bind_apply]
  cases body s with
  | error e => rfl
  | ok answer => rfl

/-- Either the body committed with its own new state, or nothing changed. -/
theorem commit_cases (body : Transaction State Error Answer) (s : State) :
    (∃ a t, body s = .ok (a, t) ∧ commit body s = (.ok a, t)) ∨
      (∃ e, body s = .error e ∧ commit body s = (.error e, s)) := by
  unfold commit
  cases hb : body s with
  | error e => exact Or.inr ⟨e, rfl, rfl⟩
  | ok answer => exact Or.inl ⟨answer.1, answer.2, rfl, rfl⟩

/-- Every committed run of the body relates the state it starts from to the
state it leaves. With equality this says that the body only reads. -/
def Respects (R : State → State → Prop) (body : Transaction State Error Answer) : Prop :=
  ∀ ⦃s t a⦄, body s = .ok (a, t) → R s t

section Respects

variable {R : State → State → Prop}

@[grind ←]
theorem Respects.bind [IsTrans State R] {x : Transaction State Error Answer}
    {f : Answer → Transaction State Error Next} (hFirst : Respects R x)
    (hRest : ∀ a, Respects R (f a)) : Respects R (x >>= f) := by
  intro s u b h
  obtain ⟨a, t, hx, hf⟩ := bind_eq_ok.mp h
  exact trans_of R (hFirst hx) (hRest a hf)

@[grind ←]
theorem Respects.store {f : State → State} (h : ∀ s, R s (f s)) :
    Respects R (Transaction.store f : Transaction State Error Unit) := by
  intro s t a hStore
  cases hStore
  exact h s

@[grind ←]
theorem Respects.reject (e : Error) :
    Respects R (Transaction.reject e : Transaction State Error Answer) := by
  intro s t a h
  cases h

@[grind ←]
theorem Respects.pure [Std.Refl R] (a : Answer) :
    Respects R (Pure.pure a : Transaction State Error Answer) := by
  intro s t b h
  cases h
  exact refl_of R s

@[grind ←]
theorem Respects.fetch [Std.Refl R] (f : State → Answer) :
    Respects R (Transaction.fetch f : Transaction State Error Answer) := by
  intro s t b h
  cases h
  exact refl_of R s

@[grind ←]
theorem Respects.require [Std.Refl R] (condition : Bool) (e : Error) :
    Respects R (Transaction.require condition e : Transaction State Error Unit) := by
  intro s t b h
  obtain ⟨_, rfl⟩ := require_eq_ok.mp h
  exact refl_of R s

/-- What a body respects, its transaction respects, committed or not. -/
theorem Respects.commit [Std.Refl R] {body : Transaction State Error Answer}
    (h : Respects R body) (s : State) : R s (Transaction.commit body s).2 := by
  rcases commit_cases body s with ⟨a, t, hBody, hCommit⟩ | ⟨e, _, hCommit⟩
  · rw [hCommit]
    exact h hBody
  · rw [hCommit]
    exact refl_of R s

/-- Wrapping the answer does not change what a body writes. -/
theorem Respects.of_answer {x : Transaction State Error Answer} {f : Answer → Next}
    (h : Respects R (x >>= fun a => Pure.pure (f a))) : Respects R x := by
  intro s t a hBody
  exact h (bind_eq_ok.mpr ⟨a, t, hBody, rfl⟩)

theorem Respects.mono {R' : State → State → Prop} {body : Transaction State Error Answer}
    (h : Respects R body) (hSub : ∀ s t, R s t → R' s t) : Respects R' body :=
  fun _ _ _ hBody => hSub _ _ (h hBody)

end Respects

section Keeps

variable {Part : Type} {part : State → Part}

/-- A body that leaves one part of the state alone. -/
abbrev Keeps (part : State → Part) (body : Transaction State Error Answer) : Prop :=
  Respects (fun s t => part t = part s) body

instance : Std.Refl fun s t : State => part t = part s := ⟨fun _ => rfl⟩

instance : IsTrans State fun s t => part t = part s := ⟨fun _ _ _ h h' => h'.trans h⟩

theorem Keeps.commit {body : Transaction State Error Answer} (h : Keeps part body) (s : State) :
    part (Transaction.commit body s).2 = part s :=
  Respects.commit h s

end Keeps

end Transaction
