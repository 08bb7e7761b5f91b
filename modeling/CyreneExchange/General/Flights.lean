import CyreneExchange.General.Machine

/-! Requests in flight over one shared store. Requests arrive, each moves one
step at a time and in any order with the others, and operations of their own
may reach the store in between. A request that is never moved again has been
abandoned, as by a crash. -/
namespace Flights

variable {Store Flight Arrival Moment Operation : Type*}

/-- The store and the requests that share it. -/
structure System (Store Flight : Type*) where
  store : Store
  flights : List Flight := []

inductive Input (Arrival Moment Operation : Type*) where
  | arrive (arrival : Arrival)
  | advance (index : Nat) (moment : Moment)
  | operate (operation : Operation)

/-- How a request starts and moves, and what an operation does. -/
structure Rules (Store Flight Arrival Moment Operation : Type*) where
  start : Arrival → Flight
  move : Moment → Flight → Store → Flight × Store
  operate : Operation → Store → Store

/-- One step of the system. -/
def step (rules : Rules Store Flight Arrival Moment Operation) :
    Input Arrival Moment Operation → System Store Flight → Unit × System Store Flight
  | .arrive arrival, system =>
      ((), { system with flights := system.flights ++ [rules.start arrival] })
  | .advance index moment, system =>
      match system.flights[index]? with
      | none => ((), system)
      | some flight =>
          ((), { store := (rules.move moment flight system.store).2
                 flights := system.flights.set index (rules.move moment flight system.store).1 })
  | .operate operation, system =>
      ((), { system with store := rules.operate operation system.store })

section Steps

variable {rules : Rules Store Flight Arrival Moment Operation} {system : System Store Flight}
  {index : Nat} {moment : Moment} {flight : Flight}

theorem step_advance (h : system.flights[index]? = some flight) :
    (step rules (.advance index moment) system).2 =
      { store := (rules.move moment flight system.store).2
        flights := system.flights.set index (rules.move moment flight system.store).1 } := by
  simp [step, h]

theorem step_advance_none (h : system.flights[index]? = none) :
    (step rules (.advance index moment) system).2 = system := by
  simp [step, h]

/-- A request stands where it stood, has just arrived, or was just moved. -/
theorem flight_cases {input : Input Arrival Moment Operation}
    (h : (step rules input system).2.flights[index]? = some flight) :
    system.flights[index]? = some flight ∨
      (∃ arrival, input = .arrive arrival ∧ flight = rules.start arrival ∧
        index = system.flights.length) ∨
      ∃ moment before, input = .advance index moment ∧ system.flights[index]? = some before ∧
        flight = (rules.move moment before system.store).1 := by
  cases input with
  | operate operation => exact Or.inl h
  | arrive arrival =>
      change (system.flights ++ [rules.start arrival])[index]? = some flight at h
      rcases Nat.lt_trichotomy index system.flights.length with hLess | rfl | hMore
      · rw [List.getElem?_append_left hLess] at h
        exact Or.inl h
      · rw [List.getElem?_append_right (Nat.le_refl _), Nat.sub_self] at h
        exact Or.inr (Or.inl ⟨arrival, rfl, (Option.some.inj h).symm, rfl⟩)
      · have hNone : (system.flights ++ [rules.start arrival])[index]? = none := by
          apply List.getElem?_eq_none
          rw [List.length_append, List.length_singleton]
          omega
        rw [hNone] at h
        cases h
  | advance moved moment =>
      cases hMoved : system.flights[moved]? with
      | none =>
          rw [step_advance_none hMoved] at h
          exact Or.inl h
      | some before =>
          rw [step_advance hMoved] at h
          by_cases hSame : moved = index
          · subst hSame
            obtain ⟨hLess, -⟩ := List.getElem?_eq_some_iff.mp hMoved
            rw [List.getElem?_set_self hLess] at h
            exact Or.inr (Or.inr ⟨moment, before, rfl, hMoved, (Option.some.inj h).symm⟩)
          · rw [List.getElem?_set_ne hSame] at h
            exact Or.inl h

theorem flight_mem_cases {input : Input Arrival Moment Operation}
    (h : flight ∈ (step rules input system).2.flights) :
    flight ∈ system.flights ∨
      (∃ arrival, input = .arrive arrival ∧ flight = rules.start arrival) ∨
      ∃ index moment before, input = .advance index moment ∧
        system.flights[index]? = some before ∧
        flight = (rules.move moment before system.store).1 := by
  obtain ⟨index, hIndex⟩ := List.getElem?_of_mem h
  rcases flight_cases hIndex with hBefore | ⟨arrival, rfl, hStart, -⟩ |
    ⟨moment, before, rfl, hBefore, hMoved⟩
  · exact Or.inl (List.mem_of_getElem? hBefore)
  · exact Or.inr (Or.inl ⟨arrival, rfl, hStart⟩)
  · exact Or.inr (Or.inr ⟨index, moment, before, rfl, hBefore, hMoved⟩)

/-- What a step does to the store, a move or an operation does. -/
theorem store_cases (rules : Rules Store Flight Arrival Moment Operation)
    (input : Input Arrival Moment Operation) (system : System Store Flight) :
    (step rules input system).2.store = system.store ∨
      (∃ index moment flight, input = .advance index moment ∧
        system.flights[index]? = some flight ∧
        (step rules input system).2.store = (rules.move moment flight system.store).2) ∨
      ∃ operation, input = .operate operation ∧
        (step rules input system).2.store = rules.operate operation system.store := by
  cases input with
  | arrive arrival => exact Or.inl rfl
  | operate operation => exact Or.inr (Or.inr ⟨operation, rfl, rfl⟩)
  | advance index moment =>
      cases hFlight : system.flights[index]? with
      | none => exact Or.inl (congrArg System.store (step_advance_none hFlight))
      | some flight =>
          exact Or.inr (Or.inl ⟨index, moment, flight, rfl, hFlight,
            congrArg System.store (step_advance hFlight)⟩)

end Steps

section RelyGuarantee

/-- The terms of rely and guarantee: every move and operation keeps the
invariant of the store and changes the store only as guaranteed, and what holds
of a request survives whatever is guaranteed. -/
structure Contract (rules : Rules Store Flight Arrival Moment Operation)
    (promise : System Store Flight → Input Arrival Moment Operation → Prop)
    (Invariant : Store → Prop) (Holds : Store → Flight → Prop)
    (Guarantee : Store → Store → Prop) : Prop where
  refl : ∀ s, Guarantee s s
  arrives : ∀ system arrival, Invariant system.store → promise system (.arrive arrival) →
    Holds system.store (rules.start arrival)
  moves : ∀ system index moment flight, Invariant system.store →
    system.flights[index]? = some flight → Holds system.store flight →
    promise system (.advance index moment) →
      Invariant (rules.move moment flight system.store).2 ∧
        Guarantee system.store (rules.move moment flight system.store).2 ∧
        Holds (rules.move moment flight system.store).2 (rules.move moment flight system.store).1
  operates : ∀ system operation, Invariant system.store → promise system (.operate operation) →
    Invariant (rules.operate operation system.store) ∧
      Guarantee system.store (rules.operate operation system.store)
  stable : ∀ s t flight, Invariant s → Guarantee s t → Holds s flight → Holds t flight

/-- The store keeps its invariant and every request in flight what holds of it. -/
def Sound (Invariant : Store → Prop) (Holds : Store → Flight → Prop)
    (system : System Store Flight) : Prop :=
  Invariant system.store ∧ ∀ flight ∈ system.flights, Holds system.store flight

variable {rules : Rules Store Flight Arrival Moment Operation}
  {promise : System Store Flight → Input Arrival Moment Operation → Prop}
  {Invariant : Store → Prop} {Holds : Store → Flight → Prop} {Guarantee : Store → Store → Prop}

/-- The rule of rely and guarantee: what the terms ask of single moves holds
at every step of every interleaving. -/
theorem Contract.preserves (h : Contract rules promise Invariant Holds Guarantee) :
    Machine.Preserves (step rules) promise (Sound Invariant Holds) := by
  intro system input hSound hPromise
  obtain ⟨hStore, hFlights⟩ := hSound
  cases input with
  | arrive arrival =>
      refine ⟨hStore, ?_⟩
      intro flight hMem
      rcases List.mem_append.mp hMem with hOld | hNew
      · exact hFlights flight hOld
      · rw [List.mem_singleton.mp hNew]
        exact h.arrives system arrival hStore hPromise
  | operate operation =>
      obtain ⟨hNext, hGuarantee⟩ := h.operates system operation hStore hPromise
      exact ⟨hNext, fun flight hMem => h.stable _ _ flight hStore hGuarantee (hFlights flight hMem)⟩
  | advance index moment =>
      cases hFlight : system.flights[index]? with
      | none =>
          rw [step_advance_none hFlight]
          exact ⟨hStore, hFlights⟩
      | some moving =>
          have hHolds := hFlights moving (List.mem_of_getElem? hFlight)
          obtain ⟨hNext, hGuarantee, hMoved⟩ :=
            h.moves system index moment moving hStore hFlight hHolds hPromise
          rw [step_advance hFlight]
          refine ⟨hNext, ?_⟩
          intro flight hMem
          rcases List.mem_or_eq_of_mem_set hMem with hOld | rfl
          · exact h.stable _ _ flight hStore hGuarantee (hFlights flight hOld)
          · exact hMoved

end RelyGuarantee

end Flights
