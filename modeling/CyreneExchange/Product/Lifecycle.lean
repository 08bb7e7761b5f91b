import CyreneExchange.Product.Versions

/-! The lifecycle of a route under edits and confirmations in any interleaving.
A confirmation compares the version it has read with the one it expects; an
edit does not, and its write is sound where the two agree. -/
namespace CyreneExchange.Product

open Integrations (UUID)
open Flights Machine Transaction

/-- The rewriting of a stored draft by the request that has read it. -/
inductive DraftWrite (system : ServiceSystem) (input : ServiceInput) (row : RouteRow) :
    RouteRow → Prop
  | edited (index : Nat) (moment : Moment) (flight : ServiceFlight)
      (command : EditRouteDraftRequest) (hInput : input = .advance index moment)
      (hFlight : system.flights[index]? = some flight)
      (hStage : flight.stage = .editing row.route command)
      (hVersion : command.resourceVersion = row.route.resourceVersion) :
      DraftWrite system input row (row.route.edited command moment.now).row
  | published (index : Nat) (moment : Moment) (flight : ServiceFlight)
      (hInput : input = .advance index moment)
      (hFlight : system.flights[index]? = some flight)
      (hStage : flight.stage = .publishing row.route row.route.resourceVersion) :
      DraftWrite system input row
        (row.route.published row.route.resourceVersion moment.now).row

/-- An edit that is about to write holds the version that its command names,
or the store refuses it. -/
def editsCurrent (system : ServiceSystem) : ServiceInput → Bool
  | .advance index _ =>
      match (system.flights[index]?).map ServiceFlight.stage with
      | some (.editing route command) =>
          route.resourceVersion == command.resourceVersion ||
            (system.store.getRoute route.id).all fun current =>
              current.resourceVersion != command.resourceVersion
      | _ => true
  | .arrive _ | .operate _ => true

/-- The lifecycle of routes over a run: each committed write was computed from
the draft it replaces, under the next version, and an active route stays. -/
structure LifecycleKept (host : Host) (inputs : List ServiceInput) : Prop where
  writes : ∀ e ∈ trace (serviceStep host) inputs { store := {} },
    ∀ row ∈ e.before.store.routes, row ∈ e.after.store.routes ∨
      (row.state = .draft ∧ ∃ row' ∈ e.after.store.routes, row'.id = row.id ∧
        row'.route.resourceVersion = row.route.resourceVersion + 1 ∧
        DraftWrite e.before e.input row row')
  active : (trace (serviceStep host) inputs { store := {} }).Pairwise fun e f =>
    ∀ row ∈ e.after.store.routes, row.state = .active → row ∈ f.after.store.routes

section Steps

variable {host : Host} {system : ServiceSystem} {index : Nat} {moment : Moment}
  {flight : ServiceFlight}

/-- A draft read at the version of a stored row is what that row holds. -/
theorem read_eq_row (hSound : RoutesSound system.store) {row : RouteRow} {read : GatewayRoute}
    (hRow : row ∈ system.store.routes) (hRead : ReadFrom system.store read)
    (hId : row.id = read.id) (hVersion : row.route.resourceVersion = read.resourceVersion) :
    read = row.route := by
  obtain ⟨row', hRow', hLater⟩ := hRead
  have hRowId : row'.id = row.id := by
    rw [hId, ← hLater.id, hSound.route_id hRow']
  obtain rfl := hSound.unique.eq hRow' hRow hRowId
  exact (hLater.eq_of_version hVersion).symm

theorem editsCurrent_version {row : RouteRow} {read : GatewayRoute}
    {command : EditRouteDraftRequest} (hFlight : system.flights[index]? = some flight)
    (hStage : flight.stage = .editing read command)
    (hCurrent : editsCurrent system (.advance index moment) = true)
    (hFind : system.store.findRoute read.id = some row)
    (hVersion : row.route.resourceVersion = command.resourceVersion) :
    read.resourceVersion = command.resourceVersion := by
  simp only [editsCurrent, hFlight, Option.map_some, hStage, ExchangeStore.getRoute, hFind,
    Option.all_some, Bool.or_eq_true, beq_iff_eq, bne_iff_ne] at hCurrent
  exact hCurrent.resolve_right fun hOther => hOther hVersion

/-- The row that a request rewrites is the draft it has read. -/
theorem replaced_row (hSound : RoutesSound system.store)
    (hFlight : system.flights[index]? = some flight)
    (hCarries : CarriesDraft system.store flight)
    (hCurrent : editsCurrent system (.advance index moment) = true) {row : RouteRow}
    (hRow : row ∈ system.store.routes) {route : GatewayRoute} {expected : Nat}
    (hCall : flight.stage.call host flight.principal moment =
      some (.replaceRouteVersion route expected))
    (hId : row.id = route.id) (hVersion : row.route.resourceVersion = expected) :
    row.state = .draft ∧ row.rewritten route = route.row ∧
      route.resourceVersion = row.route.resourceVersion + 1 ∧
      DraftWrite system (.advance index moment) row route.row := by
  have hEndpoint : row.route.endpointId = row.endpointId :=
    congrArg RouteRow.endpointId (hSound.agrees row hRow)
  have hFind : system.store.findRoute row.id = some row :=
    (hSound.unique.find_eq_some row.id).mpr ⟨hRow, rfl⟩
  rcases call_replaceRouteVersion hCall with
    ⟨read, command, hStage, rfl, rfl⟩ | ⟨read, hStage, rfl⟩
  · have hKnown := hCarries read none (by rw [hStage]; rfl)
    have hReadId : row.id = read.id := hId
    have hAgreed := editsCurrent_version hFlight hStage hCurrent (hReadId ▸ hFind) hVersion
    obtain rfl := read_eq_row hSound hRow hKnown.read hReadId (hVersion.trans hAgreed.symm)
    refine ⟨(hSound.route_state hRow).symm.trans hKnown.state, rewritten_eq hId hEndpoint.symm,
      congrArg (· + 1) hAgreed.symm, ?_⟩
    exact .edited index moment flight command rfl hFlight hStage hAgreed.symm
  · have hKnown := hCarries read (some expected) (by rw [hStage]; rfl)
    have hNamed := hKnown.version expected rfl
    have hReadId : row.id = read.id := hId
    obtain rfl := read_eq_row hSound hRow hKnown.read hReadId (hVersion.trans hNamed.symm)
    subst hNamed
    exact ⟨(hSound.route_state hRow).symm.trans hKnown.state, rewritten_eq hId hEndpoint.symm,
      rfl, .published index moment flight rfl hFlight hStage⟩

/-- What one move of a request does to a stored row. -/
theorem move_row (hSound : RoutesSound system.store)
    (hFlight : system.flights[index]? = some flight)
    (hCarries : CarriesDraft system.store flight)
    (hFresh : drawsFresh system (.advance index moment) = true)
    (hCurrent : editsCurrent system (.advance index moment) = true) {row : RouteRow}
    (hRow : row ∈ system.store.routes) :
    row ∈ (flight.move host moment system.store).2.routes ∨
      (row.state = .draft ∧ ∃ row' ∈ (flight.move host moment system.store).2.routes,
        row'.id = row.id ∧ row'.route.resourceVersion = row.route.resourceVersion + 1 ∧
        DraftWrite system (.advance index moment) row row') := by
  have hMove := routeMove_cases host moment flight system.store
  generalize (flight.move host moment system.store).2.routes = rows at hMove ⊢
  cases hMove with
  | kept => exact Or.inl hRow
  | drafted => exact Or.inl (List.mem_append_left _ hRow)
  | created command key route hStage hCreate =>
      cases hCreate
      have hUnused := drawsFresh_route hFlight hStage hFresh
      refine Or.inl (List.mem_append_left _ (Table.mem_deleteWhere.mpr ⟨hRow, ?_⟩))
      exact decide_eq_false (hUnused row hRow)
  | replaced route expected hCall found hFound hId hVersion =>
      by_cases hSame : row = found
      · subst hSame
        obtain ⟨hState, hRewritten, hNext, hDraftWrite⟩ :=
          replaced_row hSound hFlight hCarries hCurrent hRow hCall hId hVersion
        refine Or.inr ⟨hState, route.row, ?_, hId.symm, hNext, hDraftWrite⟩
        rw [← hRewritten]
        exact Table.mem_updateWhere_of_pos hRow (decide_eq_true hId)
      · refine Or.inl (Table.mem_updateWhere_of_neg hRow (decide_eq_false fun hOther => ?_))
        exact hSame (hSound.unique.eq hRow hFound (hOther.trans hId.symm))

/-- What one step does to a stored row. -/
theorem serviceStep_row (host : Host) (hReached : RoutesReached system) {input : ServiceInput}
    (hFresh : drawsFresh system input = true) (hCurrent : editsCurrent system input = true)
    {row : RouteRow} (hRow : row ∈ system.store.routes) :
    row ∈ (serviceStep host input system).2.store.routes ∨
      (row.state = .draft ∧ ∃ row' ∈ (serviceStep host input system).2.store.routes,
        row'.id = row.id ∧ row'.route.resourceVersion = row.route.resourceVersion + 1 ∧
        DraftWrite system input row row') := by
  obtain ⟨hSound, hFlights⟩ := hReached
  rcases store_cases (serviceRules host) input system with hSame |
    ⟨index, moment, flight, rfl, hFlight, hStore⟩ | ⟨call, rfl, hStore⟩
  · exact Or.inl (by rw [serviceStep, hSame]; exact hRow)
  · rw [serviceStep, hStore]
    exact move_row hSound hFlight (hFlights flight (List.mem_of_getElem? hFlight)) hFresh hCurrent
      hRow
  · refine Or.inl ?_
    rw [serviceStep, hStore]
    show row ∈ (storeStep host (.operator call) system.store).2.routes
    rw [operate_routes host call hSound]
    exact hRow

/-- An active route is out of reach of every step. -/
theorem serviceStep_active (hReached : RoutesReached system) {input : ServiceInput}
    (hFresh : drawsFresh system input = true) (hCurrent : editsCurrent system input = true)
    {row : RouteRow} (hRow : row ∈ system.store.routes) (hActive : row.state = .active) :
    row ∈ (serviceStep host input system).2.store.routes := by
  rcases serviceStep_row host hReached hFresh hCurrent hRow with hKept | ⟨hDraft, -⟩
  · exact hKept
  · rw [hActive] at hDraft
    cases hDraft

end Steps

/-- In every run whose edits write only under the version they have read, no
committed write is lost and no active route changes again. -/
theorem route_lifecycle_kept (host : Host) (inputs : List ServiceInput)
    (hAdmitted : Admitted (serviceStep host)
      (fun system input => drawsFresh system input = true ∧ editsCurrent system input = true)
      inputs { store := {} }) : LifecycleKept host inputs := by
  have hReached : Preserves (serviceStep host)
      (fun system input => drawsFresh system input = true ∧ editsCurrent system input = true)
      RoutesReached :=
    fun system input hSound hPromise =>
      (routesContract host).preserves system input hSound hPromise.1
  have hEvents := hReached.trace routesReached_start hAdmitted
  refine ⟨?_, ?_⟩
  · intro e he row hRow
    obtain ⟨hBefore, hPromise, -, hAfter⟩ := hEvents e he
    rw [hAfter]
    exact serviceStep_row host hBefore hPromise.1 hPromise.2 hRow
  · have hLater := (trace_related
      (R := fun system system' : ServiceSystem => ∀ row ∈ system.store.routes,
        row.state = .active → row ∈ system'.store.routes)
      hReached (fun _ _ hRow _ => hRow)
      (fun _ _ _ hst htu row hRow hActive => htu row (hst row hRow hActive) hActive)
      (fun _ _ hSound hPromise row hRow hActive =>
        serviceStep_active hSound hPromise.1 hPromise.2 hRow hActive)
      routesReached_start hAdmitted).2
    refine List.Pairwise.imp_of_mem ?_ hLater
    intro e f _ hf hKept row hRow hActive
    obtain ⟨hBefore, hPromise, -, hAfter⟩ := hEvents f hf
    rw [hAfter]
    exact serviceStep_active hBefore hPromise.1 hPromise.2 (hKept row hRow hActive) hActive

section Sample

def sampleEndpointRequest : CreateEndpointRequest where
  name := ⟨"gateway", by decide +kernel⟩
  publicBaseUrl := ⟨"https://gateway.example", by decide +kernel⟩
  authPolicyRef := ⟨"policy://default", by decide +kernel⟩

def sampleSource : RouteSource where
  resourceUri := ⟨"https://reactor.example/endpoints/1", by decide +kernel⟩
  resourceVersion := 1
  artifactDigest :=
    ⟨"sha256:0000000000000000000000000000000000000000000000000000000000000000",
      by decide +kernel⟩

def sampleDraftRequest : CreateRouteDraftRequest where
  endpointId := sampleUuid 'e'
  modelPattern := ⟨"model-*", by decide +kernel⟩
  targetBindingId := ⟨"binding-1", by decide +kernel⟩
  targetModel := ⟨"model-1", by decide +kernel⟩
  priority := 10
  source := sampleSource

/-- An edit of the draft that names this version. -/
def sampleEditRequest (version : Nat) : EditRouteDraftRequest where
  resourceVersion := version
  modelPattern := ⟨"model-*", by decide +kernel⟩
  targetBindingId := ⟨"binding-2", by decide +kernel⟩
  targetModel := ⟨"model-2", by decide +kernel⟩
  priority := 20

/-- An endpoint and a draft for it, created one after the other. -/
def sampleCreation : List ServiceInput := [
  sampleArrival (.createEndpoint sampleEndpointRequest none),
  sampleAdvance 0 'e', sampleAdvance 0 'e', sampleAdvance 0 'e',
  sampleArrival (.createDraft (.routeDraft sampleDraftRequest) "draft"),
  sampleAdvance 1 'r', sampleAdvance 1 'r']

/-- An edit that names this version reads the draft; before it writes, a
confirmation publishes version 2. -/
def sampleRace (version : Nat) : List ServiceInput := sampleCreation ++ [
  sampleArrival (.editRouteDraft (sampleUuid 'r') (sampleEditRequest version)),
  sampleArrival (.confirmRouteDraft (sampleUuid 'r') 1),
  sampleAdvance 2 'x',
  sampleAdvance 3 'x', sampleAdvance 3 'x', sampleAdvance 3 'x', sampleAdvance 3 'x']

theorem route_lifecycle_kept_sample :
    LifecycleKept sampleHost (sampleRace 1 ++ [sampleAdvance 2 'x']) :=
  route_lifecycle_kept _ _ (by decide +kernel)

/-- The row of the published route. -/
def sampleActiveRow : RouteRow :=
  (((DraftCommand.routeDraft sampleDraftRequest).route sampleOperator
    { draw := sampleUuid 'r' }).published 1 0).row

theorem edit_overwrites_active_route : ¬ ∀ host inputs,
    Admitted (serviceStep host) (fun system input => drawsFresh system input = true) inputs
      { store := {} } → LifecycleKept host inputs := by
  intro h
  have hKept := h sampleHost (sampleRace 2 ++ [sampleAdvance 2 'x']) (by decide +kernel)
  have hBefore : sampleActiveRow ∈
      (run (serviceStep sampleHost) (sampleRace 2) { store := {} }).store.routes := by
    decide +kernel
  have hAfter : sampleActiveRow ∉ (run (serviceStep sampleHost)
      (sampleRace 2 ++ [sampleAdvance 2 'x']) { store := {} }).store.routes := by
    decide +kernel
  rw [run_append] at hAfter
  have hWrites := hKept.writes ⟨_, sampleAdvance 2 'x', (), _⟩
    (by rw [trace_append]; exact List.mem_append_right _ List.mem_cons_self)
  rcases hWrites sampleActiveRow hBefore with hSame | ⟨hDraft, -⟩
  · exact hAfter hSame
  · revert hDraft
    decide +kernel

end Sample

end CyreneExchange.Product
