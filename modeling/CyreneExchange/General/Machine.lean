import Mathlib

/-! Deterministic machines driven by a list of inputs. Every choice of the
environment (which party moves, clock readings, random draws) is part of the
input, so a statement about all input lists is one about all interleavings. -/
namespace Machine

variable {State Input Output : Type*}

/-- The state after all inputs have been processed in order. -/
def run (step : Input → State → Output × State) : List Input → State → State
  | [], s => s
  | i :: rest, s => run step rest (step i s).2

/-- One processed input together with the states around it and its answer. -/
structure Event (State Input Output : Type*) where
  before : State
  input : Input
  output : Output
  after : State

/-- Every processed input of a run, oldest first. -/
def trace (step : Input → State → Output × State) :
    List Input → State → List (Event State Input Output)
  | [], _ => []
  | i :: rest, s => ⟨s, i, (step i s).1, (step i s).2⟩ :: trace step rest (step i s).2

/-- Each input satisfies the promise at the state in which it arrives. -/
def Admitted (step : Input → State → Output × State) (promise : State → Input → Prop) :
    List Input → State → Prop
  | [], _ => True
  | i :: rest, s => promise s i ∧ Admitted step promise rest (step i s).2

instance decidableAdmitted (step : Input → State → Output × State)
    (promise : State → Input → Prop) [∀ s i, Decidable (promise s i)] :
    ∀ inputs s, Decidable (Admitted step promise inputs s)
  | [], _ => isTrue trivial
  | i :: rest, s =>
      have := decidableAdmitted step promise rest (step i s).2
      inferInstanceAs (Decidable (promise s i ∧ Admitted step promise rest (step i s).2))

/-- Two machines side by side on the same inputs. -/
def both {State' Output' : Type*} (step : Input → State → Output × State)
    (step' : Input → State' → Output' × State') (i : Input) (s : State × State') :
    (Output × Output') × State × State' :=
  (((step i s.1).1, (step' i s.2).1), (step i s.1).2, (step' i s.2).2)

variable {step : Input → State → Output × State} {promise : State → Input → Prop}

theorem run_append (first second : List Input) (s : State) :
    run step (first ++ second) s = run step second (run step first s) := by
  induction first generalizing s with
  | nil => rfl
  | cons i rest ih => exact ih (step i s).2

theorem run_concat (inputs : List Input) (i : Input) (s : State) :
    run step (inputs ++ [i]) s = (step i (run step inputs s)).2 := by
  rw [run_append]
  rfl

theorem trace_append (first second : List Input) (s : State) :
    trace step (first ++ second) s =
      trace step first s ++ trace step second (run step first s) := by
  induction first generalizing s with
  | nil => rfl
  | cons i rest ih => simp [trace, run, ih]

/-- The inputs of the events are the inputs of the run. -/
theorem trace_inputs (inputs : List Input) (s : State) :
    (trace step inputs s).map Event.input = inputs := by
  induction inputs generalizing s with
  | nil => rfl
  | cons i rest ih => exact congrArg (i :: ·) (ih (step i s).2)

theorem input_mem {inputs : List Input} {s : State} {e : Event State Input Output}
    (h : e ∈ trace step inputs s) : e.input ∈ inputs := by
  have hInput : e.input ∈ (trace step inputs s).map Event.input := List.mem_map_of_mem h
  rwa [trace_inputs] at hInput

/-- Any split of a trace is a split of its inputs. -/
theorem trace_eq_append {inputs : List Input} {s : State}
    {earlier later : List (Event State Input Output)}
    (h : trace step inputs s = earlier ++ later) :
    ∃ first second, inputs = first ++ second ∧ earlier = trace step first s ∧
      later = trace step second (run step first s) := by
  induction inputs generalizing s earlier with
  | nil =>
      obtain ⟨rfl, rfl⟩ := List.append_eq_nil_iff.mp h.symm
      exact ⟨[], [], rfl, rfl, rfl⟩
  | cons i rest ih =>
      cases earlier with
      | nil => exact ⟨[], i :: rest, rfl, rfl, h.symm⟩
      | cons e earlier =>
          obtain ⟨rfl, hRest⟩ := List.cons.inj h
          obtain ⟨first, second, rfl, rfl, rfl⟩ := ih hRest
          exact ⟨i :: first, second, rfl, rfl, rfl⟩

theorem admitted_append (first second : List Input) (s : State) :
    Admitted step promise (first ++ second) s ↔
      Admitted step promise first s ∧ Admitted step promise second (run step first s) := by
  induction first generalizing s with
  | nil => simp [Admitted, run]
  | cons i rest ih => simp [Admitted, run, ih, and_assoc]

/-- A promise every input keeps admits every input list. -/
theorem admitted_of_mem {inputs : List Input} (h : ∀ i ∈ inputs, ∀ s, promise s i) (s : State) :
    Admitted step promise inputs s := by
  induction inputs generalizing s with
  | nil => trivial
  | cons i rest ih =>
      exact ⟨h i List.mem_cons_self s, ih (fun j hj => h j (List.mem_cons_of_mem i hj)) _⟩

theorem admitted_of_forall (h : ∀ s i, promise s i) (inputs : List Input) (s : State) :
    Admitted step promise inputs s := by
  induction inputs generalizing s with
  | nil => trivial
  | cons i rest ih => exact ⟨h s i, ih _⟩

/-- What is known of every input may be added to the promise. -/
theorem Admitted.and_of_mem {known : Input → Prop} {inputs : List Input} {s : State}
    (admitted : Admitted step promise inputs s) (h : ∀ i ∈ inputs, known i) :
    Admitted step (fun s i => promise s i ∧ known i) inputs s := by
  induction inputs generalizing s with
  | nil => trivial
  | cons i rest ih =>
      exact ⟨⟨admitted.1, h i List.mem_cons_self⟩,
        ih admitted.2 fun j hj => h j (List.mem_cons_of_mem i hj)⟩

/-- `Invariant` is kept by every promised step. -/
def Preserves (step : Input → State → Output × State) (promise : State → Input → Prop)
    (Invariant : State → Prop) : Prop :=
  ∀ s i, Invariant s → promise s i → Invariant (step i s).2

/-- What one step preserves, a whole run preserves. -/
theorem Preserves.run {Invariant : State → Prop} (h : Preserves step promise Invariant)
    {inputs : List Input} {s : State} (hs : Invariant s)
    (admitted : Admitted step promise inputs s) : Invariant (Machine.run step inputs s) := by
  induction inputs generalizing s with
  | nil => exact hs
  | cons i rest ih => exact ih (h s i hs admitted.1) admitted.2

/-- Every event of a run is one promised step taken from a state satisfying
the invariant. -/
theorem Preserves.trace {Invariant : State → Prop} (h : Preserves step promise Invariant)
    {inputs : List Input} {s : State} (hs : Invariant s)
    (admitted : Admitted step promise inputs s) :
    ∀ e ∈ Machine.trace step inputs s, Invariant e.before ∧ promise e.before e.input ∧
      e.output = (step e.input e.before).1 ∧ e.after = (step e.input e.before).2 := by
  induction inputs generalizing s with
  | nil => simp [Machine.trace]
  | cons i rest ih =>
      intro e he
      rcases List.mem_cons.mp he with rfl | he
      · exact ⟨hs, admitted.1, rfl, rfl⟩
      · exact ih (h s i hs admitted.1) admitted.2 e he

/-- A reflexive and transitive relation that holds across every step holds
between the start and every later state. -/
theorem run_related {Invariant : State → Prop} {R : State → State → Prop}
    (h : Preserves step promise Invariant) (refl : ∀ s, R s s)
    (trans : ∀ s t u, R s t → R t u → R s u)
    (hStep : ∀ s i, Invariant s → promise s i → R s (step i s).2)
    {inputs : List Input} {s : State} (hs : Invariant s)
    (admitted : Admitted step promise inputs s) : R s (Machine.run step inputs s) := by
  induction inputs generalizing s with
  | nil => exact refl s
  | cons i rest ih =>
      exact trans _ _ _ (hStep s i hs admitted.1) (ih (h s i hs admitted.1) admitted.2)

/-- The same relation links the end of an event to the start of any later
one, so facts established by an event can be carried to the next one. -/
theorem trace_related {Invariant : State → Prop} {R : State → State → Prop}
    (h : Preserves step promise Invariant) (refl : ∀ s, R s s)
    (trans : ∀ s t u, R s t → R t u → R s u)
    (hStep : ∀ s i, Invariant s → promise s i → R s (step i s).2)
    {inputs : List Input} {s : State} (hs : Invariant s)
    (admitted : Admitted step promise inputs s) :
    (∀ e ∈ Machine.trace step inputs s, R s e.before) ∧
      (Machine.trace step inputs s).Pairwise (fun e f => R e.after f.before) := by
  induction inputs generalizing s with
  | nil => simp [Machine.trace]
  | cons i rest ih =>
      have hNext := h s i hs admitted.1
      obtain ⟨hLater, hPairs⟩ := ih hNext admitted.2
      refine ⟨?_, List.pairwise_cons.mpr ⟨hLater, hPairs⟩⟩
      intro e he
      rcases List.mem_cons.mp he with rfl | he
      · exact refl s
      · exact trans _ _ _ (hStep s i hs admitted.1) (hLater e he)

/-- And it links the end of an event to the end of the run. -/
theorem trace_related_run {Invariant : State → Prop} {R : State → State → Prop}
    (h : Preserves step promise Invariant) (refl : ∀ s, R s s)
    (trans : ∀ s t u, R s t → R t u → R s u)
    (hStep : ∀ s i, Invariant s → promise s i → R s (step i s).2)
    {inputs : List Input} {s : State} (hs : Invariant s)
    (admitted : Admitted step promise inputs s) :
    ∀ e ∈ Machine.trace step inputs s, R e.after (Machine.run step inputs s) := by
  induction inputs generalizing s with
  | nil => simp [Machine.trace]
  | cons i rest ih =>
      have hNext := h s i hs admitted.1
      intro e he
      rcases List.mem_cons.mp he with rfl | he
      · exact run_related h refl trans hStep hNext admitted.2
      · exact ih hNext admitted.2 e he

/-- Stamps drawn from a clock that never runs back, each later than the
reading before it, strictly increase along a run. -/
theorem stamps_increase {Invariant : State → Prop} (clock : State → Nat)
    (stamp : Event State Input Output → Option Nat) (h : Preserves step promise Invariant)
    (monotone : ∀ s i, Invariant s → promise s i → clock s ≤ clock (step i s).2)
    (fresh : ∀ s i n, Invariant s → promise s i →
      stamp ⟨s, i, (step i s).1, (step i s).2⟩ = some n → clock s < n ∧ n ≤ clock (step i s).2)
    {inputs : List Input} {s : State} (hs : Invariant s)
    (admitted : Admitted step promise inputs s) :
    ((Machine.trace step inputs s).filterMap stamp).Pairwise (· < ·) := by
  have hEvents := h.trace hs admitted
  have hPairs := (trace_related (R := fun s t => clock s ≤ clock t) h (fun _ => Nat.le_refl _)
    (fun _ _ _ hst htu => Nat.le_trans hst htu) monotone hs admitted).2
  rw [List.pairwise_filterMap]
  refine List.Pairwise.imp_of_mem ?_ hPairs
  intro e f he hf hLe m hm n hn
  obtain ⟨hBefore, hPromise, hOut, hAfter⟩ := hEvents e he
  obtain ⟨hBefore', hPromise', hOut', hAfter'⟩ := hEvents f hf
  have hEarly := fresh e.before e.input m hBefore hPromise (by rw [← hOut, ← hAfter]; exact hm)
  have hLate := fresh f.before f.input n hBefore' hPromise' (by rw [← hOut', ← hAfter']; exact hn)
  rw [← hAfter] at hEarly
  exact Nat.lt_of_le_of_lt (Nat.le_trans hEarly.2 hLe) hLate.1

/-- Pairwise exclusion bounds the number of occurrences by one. -/
theorem countP_le_one_of_pairwise {α : Type*} (p : α → Bool) {events : List α}
    (h : events.Pairwise (fun e f => ¬ (p e = true ∧ p f = true))) :
    events.countP p ≤ 1 := by
  induction events with
  | nil => simp
  | cons e rest ih =>
      obtain ⟨hHead, hRest⟩ := List.pairwise_cons.mp h
      cases hp : p e with
      | false => simpa [List.countP_cons, hp] using ih hRest
      | true =>
          have hNone : rest.countP p = 0 := by
            rw [List.countP_eq_zero]
            intro f hf hpf
            exact hHead f hf ⟨hp, hpf⟩
          simp [hp, hNone]

/-- The latch rule: an event that needs the latch open and closes it occurs
at most once when no step opens the latch again. -/
theorem countP_le_one_of_latch (Invariant latched : State → Prop)
    (event : Event State Input Output → Bool)
    (h : Preserves step promise Invariant)
    (stable : ∀ s i, Invariant s → promise s i → latched s → latched (step i s).2)
    (opens : ∀ s i, Invariant s → promise s i →
      event ⟨s, i, (step i s).1, (step i s).2⟩ = true → ¬ latched s)
    (closes : ∀ s i, Invariant s → promise s i →
      event ⟨s, i, (step i s).1, (step i s).2⟩ = true → latched (step i s).2)
    {inputs : List Input} {s : State} (hs : Invariant s)
    (admitted : Admitted step promise inputs s) :
    (Machine.trace step inputs s).countP event ≤ 1 := by
  apply countP_le_one_of_pairwise
  have hEvents := h.trace hs admitted
  have hPairs := (trace_related (R := fun s t => latched s → latched t) h (fun _ hl => hl)
    (fun _ _ _ hst htu hl => htu (hst hl)) stable hs admitted).2
  refine List.Pairwise.imp_of_mem ?_ hPairs
  rintro e f he hf hLatch ⟨hpe, hpf⟩
  obtain ⟨hBefore, hPromise, hOut, hAfter⟩ := hEvents e he
  obtain ⟨hBefore', hPromise', hOut', hAfter'⟩ := hEvents f hf
  have hClosed : latched e.after := by
    rw [hAfter]
    apply closes e.before e.input hBefore hPromise
    rw [← hOut, ← hAfter]
    exact hpe
  have hOpen : ¬ latched f.before := by
    apply opens f.before f.input hBefore' hPromise'
    rw [← hOut', ← hAfter']
    exact hpf
  exact hOpen (hLatch hClosed)

/-- The token rule: an event that spends a token only another kind of event
earns occurs at most as often as that one. -/
theorem countP_le_of_tokens (tokens : State → Nat) (earns spends : Event State Input Output → Bool)
    (hStep : ∀ s i, tokens (step i s).2 +
        (if spends ⟨s, i, (step i s).1, (step i s).2⟩ = true then 1 else 0) ≤
      tokens s + if earns ⟨s, i, (step i s).1, (step i s).2⟩ = true then 1 else 0)
    (inputs : List Input) (s : State) :
    tokens (Machine.run step inputs s) + (Machine.trace step inputs s).countP spends ≤
      tokens s + (Machine.trace step inputs s).countP earns := by
  induction inputs generalizing s with
  | nil => exact Nat.le_refl _
  | cons i rest ih =>
      have hHead := hStep s i
      have hRest := ih (step i s).2
      simp only [Machine.run, Machine.trace, List.countP_cons]
      omega

/-- The counter rule: a number that exactly one kind of event raises, by one each
time, counts these events. -/
theorem counter_eq_countP {Invariant : State → Prop} (counter : State → Nat)
    (event : Event State Input Output → Bool) (h : Preserves step promise Invariant)
    (hStep : ∀ s i, Invariant s → promise s i → counter (step i s).2 =
      counter s + if event ⟨s, i, (step i s).1, (step i s).2⟩ = true then 1 else 0)
    {inputs : List Input} {s : State} (hs : Invariant s)
    (admitted : Admitted step promise inputs s) :
    counter (Machine.run step inputs s) =
      counter s + (Machine.trace step inputs s).countP event := by
  induction inputs generalizing s with
  | nil => rfl
  | cons i rest ih =>
      have hHead := hStep s i hs admitted.1
      have hRest := ih (h s i hs admitted.1) admitted.2
      simp only [Machine.run, Machine.trace, List.countP_cons]
      omega

/-- The last of the notes that the events of a run leave. -/
def lastNote {Note : Type*} (note : Event State Input Output → Option Note)
    (events : List (Event State Input Output)) : Option Note :=
  events.foldl (fun last e => (note e).or last) none

/-- The history rule: what every step keeps between the state and the last note
holds at the end of a run. -/
theorem lastNote_run {Note : Type*} (note : Event State Input Output → Option Note)
    (Keeps : Option Note → State → Prop) {Invariant : State → Prop}
    (h : Preserves step promise Invariant)
    (hStep : ∀ last s i, Invariant s → promise s i → Keeps last s →
      Keeps ((note ⟨s, i, (step i s).1, (step i s).2⟩).or last) (step i s).2)
    {inputs : List Input} {s : State} (hs : Invariant s)
    (admitted : Admitted step promise inputs s) (hStart : Keeps none s) :
    Keeps (lastNote note (Machine.trace step inputs s)) (Machine.run step inputs s) := by
  unfold lastNote
  generalize (none : Option Note) = last at hStart ⊢
  induction inputs generalizing s last with
  | nil => exact hStart
  | cons i rest ih => exact ih (h s i hs admitted.1) admitted.2 _ (hStep last s i hs admitted.1 hStart)

/-- The past rule: what a step keeps between the events so far and the state,
as long as none of them forbids it, holds at the end of a run. -/
theorem past_run (Keeps : List (Event State Input Output) → State → Prop)
    (allows : Event State Input Output → Event State Input Output → Prop)
    (hStep : ∀ past s i, Keeps past s → promise s i →
      (∀ e ∈ past, allows e ⟨s, i, (step i s).1, (step i s).2⟩) →
      Keeps (past ++ [⟨s, i, (step i s).1, (step i s).2⟩]) (step i s).2)
    {inputs : List Input} {s : State} (admitted : Admitted step promise inputs s)
    (hPairs : (Machine.trace step inputs s).Pairwise allows) (hStart : Keeps [] s) :
    Keeps (Machine.trace step inputs s) (Machine.run step inputs s) := by
  induction inputs using List.reverseRecOn with
  | nil => exact hStart
  | append_singleton inputs i ih =>
      obtain ⟨hBefore, hPromise, _⟩ := (admitted_append inputs [i] s).mp admitted
      rw [trace_append] at hPairs ⊢
      obtain ⟨hEarlier, _, hAllowed⟩ := List.pairwise_append.mp hPairs
      rw [run_concat]
      exact hStep _ _ i (ih hBefore hEarlier) hPromise fun e he =>
        hAllowed e he _ List.mem_cons_self

/-- The cause rule: a condition that fails at the start and is only ever
brought about by a certain kind of event holds before an event only if such
an event came earlier. -/
theorem trace_cause (holds : State → Prop) (cause : Event State Input Output → Prop)
    (hStep : ∀ s i, ¬ holds s → holds (step i s).2 → cause ⟨s, i, (step i s).1, (step i s).2⟩)
    {inputs : List Input} {s : State} (hs : ¬ holds s)
    {earlier later : List (Event State Input Output)} {e : Event State Input Output}
    (hTrace : Machine.trace step inputs s = earlier ++ e :: later) (he : holds e.before) :
    ∃ c ∈ earlier, cause c := by
  induction inputs generalizing s earlier with
  | nil => simp [Machine.trace] at hTrace
  | cons i rest ih =>
      cases earlier with
      | nil =>
          obtain ⟨rfl, _⟩ := List.cons.inj hTrace
          exact absurd he hs
      | cons c earlier =>
          obtain ⟨rfl, hRest⟩ := List.cons.inj hTrace
          by_cases hNext : holds (step i s).2
          · exact ⟨_, List.mem_cons_self, hStep s i hs hNext⟩
          · obtain ⟨c, hc, hCause⟩ := ih hNext hRest
            exact ⟨c, List.mem_cons_of_mem _ hc, hCause⟩

/-- The until rule: a condition that every step keeps or ends holds before an
event unless an earlier event ended it. -/
theorem trace_until {Invariant : State → Prop} (holds : State → Prop)
    (ends : Event State Input Output → Prop) (h : Preserves step promise Invariant)
    (hStep : ∀ s i, Invariant s → promise s i → holds s →
      holds (step i s).2 ∨ ends ⟨s, i, (step i s).1, (step i s).2⟩)
    {inputs : List Input} {s : State} (hs : Invariant s)
    (admitted : Admitted step promise inputs s) (hHolds : holds s)
    {earlier later : List (Event State Input Output)} {e : Event State Input Output}
    (hTrace : Machine.trace step inputs s = earlier ++ e :: later) :
    holds e.before ∨ ∃ c ∈ earlier, ends c := by
  induction inputs generalizing s earlier with
  | nil => simp [Machine.trace] at hTrace
  | cons i rest ih =>
      cases earlier with
      | nil =>
          obtain ⟨rfl, _⟩ := List.cons.inj hTrace
          exact Or.inl hHolds
      | cons c earlier =>
          obtain ⟨rfl, hRest⟩ := List.cons.inj hTrace
          rcases hStep s i hs admitted.1 hHolds with hNext | hEnds
          · rcases ih (h s i hs admitted.1) admitted.2 hNext hRest with hBefore | ⟨c, hc, hEnds⟩
            · exact Or.inl hBefore
            · exact Or.inr ⟨c, List.mem_cons_of_mem _ hc, hEnds⟩
          · exact Or.inr ⟨_, List.mem_cons_self, hEnds⟩

/-- What an event establishes for good still holds before every later event. -/
theorem trace_stable {Invariant : State → Prop} (holds : State → Prop)
    (h : Preserves step promise Invariant)
    (stable : ∀ s i, Invariant s → promise s i → holds s → holds (step i s).2)
    {inputs : List Input} {s : State} (hs : Invariant s)
    (admitted : Admitted step promise inputs s) :
    (Machine.trace step inputs s).Pairwise fun e f => holds e.after → holds f.before :=
  (trace_related (R := fun s t => holds s → holds t) h (fun _ hHolds => hHolds)
    (fun _ _ _ hst htu hHolds => htu (hst hHolds)) stable hs admitted).2

/-- The exclusion rule: of two kinds of events, each of which rules out the
other from then on, no run has both. -/
theorem trace_exclusive {Invariant : State → Prop} (holds holds' : State → Prop)
    (event event' : Event State Input Output → Prop) (h : Preserves step promise Invariant)
    (stable : ∀ s i, Invariant s → promise s i → holds s → holds (step i s).2)
    (stable' : ∀ s i, Invariant s → promise s i → holds' s → holds' (step i s).2)
    {inputs : List Input} {s : State} (hs : Invariant s)
    (admitted : Admitted step promise inputs s)
    (hEvent : ∀ e ∈ Machine.trace step inputs s, event e → holds e.after ∧ ¬ holds' e.before)
    (hEvent' : ∀ e ∈ Machine.trace step inputs s, event' e → holds' e.after ∧ ¬ holds e.before)
    (hApart : ∀ e, event e → ¬ event' e)
    {e f : Event State Input Output} (he : e ∈ Machine.trace step inputs s)
    (hf : f ∈ Machine.trace step inputs s) (hEventE : event e) (hEventF : event' f) : False := by
  have hPairs := (trace_stable holds h stable hs admitted).and
    (trace_stable holds' h stable' hs admitted)
  obtain ⟨hAfter, hBefore⟩ := hEvent e he hEventE
  obtain ⟨hAfter', hBefore'⟩ := hEvent' f hf hEventF
  obtain ⟨m, hm, rfl⟩ := List.getElem_of_mem he
  obtain ⟨n, hn, rfl⟩ := List.getElem_of_mem hf
  rcases Nat.lt_trichotomy m n with hLess | rfl | hLess
  · exact hBefore' ((List.pairwise_iff_getElem.mp hPairs m n hm hn hLess).1 hAfter)
  · exact hApart _ hEventE hEventF
  · exact hBefore ((List.pairwise_iff_getElem.mp hPairs n m hn hm hLess).2 hAfter')

section Deadline

variable {Time : Type*} [LinearOrder Time] (Invariant marked : State → Prop)
  (reading : Input → Time) (deadline : Time) (event : Event State Input Output → Bool)

/-- Once marked, or past the deadline, the event no longer occurs. -/
theorem countP_eq_zero_of_marked (h : Preserves step promise Invariant)
    (stable : ∀ s i, Invariant s → promise s i → marked s → reading i < deadline →
      marked (step i s).2)
    (opens : ∀ s i, Invariant s → promise s i →
      event ⟨s, i, (step i s).1, (step i s).2⟩ = true → reading i < deadline ∧ ¬ marked s)
    {inputs : List Input} {s : State} (hs : Invariant s)
    (admitted : Admitted step promise inputs s)
    (ordered : inputs.Pairwise fun i j => reading i ≤ reading j)
    (hClosed : marked s ∨ ∀ i ∈ inputs, deadline ≤ reading i) :
    (Machine.trace step inputs s).countP event = 0 := by
  induction inputs generalizing s with
  | nil => rfl
  | cons i rest ih =>
      obtain ⟨hLater, hOrdered⟩ := List.pairwise_cons.mp ordered
      have hHead : ¬ event ⟨s, i, (step i s).1, (step i s).2⟩ = true := by
        intro hEvent
        obtain ⟨hBefore, hUnmarked⟩ := opens s i hs admitted.1 hEvent
        rcases hClosed with hMarked | hLate
        · exact hUnmarked hMarked
        · exact absurd hBefore (not_lt.mpr (hLate i List.mem_cons_self))
      have hNext : marked (step i s).2 ∨ ∀ j ∈ rest, deadline ≤ reading j := by
        rcases hClosed with hMarked | hLate
        · rcases lt_or_ge (reading i) deadline with hBefore | hPast
          · exact Or.inl (stable s i hs admitted.1 hMarked hBefore)
          · exact Or.inr fun j hj => le_trans hPast (hLater j hj)
        · exact Or.inr fun j hj => hLate j (List.mem_cons_of_mem i hj)
      show List.countP event (_ :: _) = 0
      rw [List.countP_cons_of_neg hHead]
      exact ih (h s i hs admitted.1) admitted.2 hOrdered hNext

/-- The deadline rule: under a clock that never runs back, an event that needs
a mark absent before the deadline and leaves the mark behind occurs at most
once when the mark survives until the deadline. -/
theorem countP_le_one_of_deadline (h : Preserves step promise Invariant)
    (stable : ∀ s i, Invariant s → promise s i → marked s → reading i < deadline →
      marked (step i s).2)
    (opens : ∀ s i, Invariant s → promise s i →
      event ⟨s, i, (step i s).1, (step i s).2⟩ = true → reading i < deadline ∧ ¬ marked s)
    (closes : ∀ s i, Invariant s → promise s i →
      event ⟨s, i, (step i s).1, (step i s).2⟩ = true → marked (step i s).2)
    {inputs : List Input} {s : State} (hs : Invariant s)
    (admitted : Admitted step promise inputs s)
    (ordered : inputs.Pairwise fun i j => reading i ≤ reading j) :
    (Machine.trace step inputs s).countP event ≤ 1 := by
  induction inputs generalizing s with
  | nil => exact Nat.zero_le 1
  | cons i rest ih =>
      have hNext := h s i hs admitted.1
      have hOrdered := (List.pairwise_cons.mp ordered).2
      show List.countP event (_ :: _) ≤ 1
      by_cases hEvent : event ⟨s, i, (step i s).1, (step i s).2⟩ = true
      · have hMarked := closes s i hs admitted.1 hEvent
        have hNone := countP_eq_zero_of_marked Invariant marked reading deadline event h stable
          opens hNext admitted.2 hOrdered (Or.inl hMarked)
        rw [List.countP_cons_of_pos hEvent]
        exact Nat.succ_le_succ (Nat.le_of_eq hNone)
      · rw [List.countP_cons_of_neg hEvent]
        exact ih hNext admitted.2 hOrdered

end Deadline

end Machine
