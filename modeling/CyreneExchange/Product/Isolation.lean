import CyreneExchange.Product.Lifecycle
import CyreneExchange.Product.Routing

/-! Tenants and routing. Whatever the requests of the others do, and in any
order, a principal is offered the same routes. -/
namespace CyreneExchange.Product

open Gateway (Str RequestPrincipal RouteTarget)
open Integrations (UUID)
open Flights Machine Transaction

section Tenants

/-- The control API lets the principal make the request: the global operations
are for principals without an organization, those of a workspace for the rest. -/
def ServiceRequest.admits (principal : ProductPrincipal) : ServiceRequest → Bool
  | .createEndpoint .. | .createRoute .. | .createDraft (.routeDraft _) _ | .editRouteDraft ..
  | .confirmRouteDraft .. | .disableEndpoint _ => principal.organizationId.isNone
  | .createDraft (.scopedRouteDraft ..) _ | .createDraft (.workspaceBindingRouteDraft _) _
  | .confirmWorkspaceRouteDraft .. => principal.organizationId.isSome
  | .createApiKey .. | .revokeApiKey _ => true

def ServiceRequest.disables : ServiceRequest → Bool
  | .disableEndpoint _ => true
  | _ => false

/-- The principal acts in the organization and workspace of the viewer, or both
act in none. -/
def ProductPrincipal.sharesTenant (principal : ProductPrincipal) (viewer : RequestPrincipal) :
    Bool :=
  decide (principal.organizationId.map Gateway.text = viewer.organizationId) &&
    (viewer.organizationId.isNone || decide (Gateway.text principal.workspaceId = viewer.workspaceId))

/-- Only requests of other tenants move, as the control API admits them, and
none of them disables the endpoint that all share. -/
def othersMove (viewer : RequestPrincipal) (system : ServiceSystem) : ServiceInput → Bool
  | .advance index _ =>
      match system.flights[index]? with
      | none => true
      | some flight => flight.request.admits flight.principal && !flight.request.disables &&
          !flight.principal.sharesTenant viewer
  | .arrive _ | .operate _ => true

end Tenants

section Owners

variable {host : Host} {principal : ProductPrincipal} {viewer : RequestPrincipal}
  {moment : Moment} {s : ExchangeStore} {flight : ServiceFlight}

/-- A row of someone else's tenant is out of scope. -/
theorem inScope_of_owner {row : RouteRow}
    (hOrganization : row.organizationId = principal.organizationId)
    (hWorkspace : row.workspaceId = some principal.workspaceId) :
    row.inScope viewer = principal.sharesTenant viewer := by
  unfold RouteRow.inScope ProductPrincipal.sharesTenant
  rw [hOrganization, hWorkspace]
  simp

theorem unscoped_not_inScope {row : RouteRow} (hRow : row.organizationId = none)
    (hPrincipal : principal.organizationId = none)
    (hOther : principal.sharesTenant viewer = false) : row.inScope viewer = false := by
  unfold RouteRow.inScope
  unfold ProductPrincipal.sharesTenant at hOther
  rw [hPrincipal] at hOther
  rw [hRow]
  cases hViewer : viewer.organizationId with
  | none => simp [hViewer] at hOther
  | some organizationId => rfl

/-- A request that the API admits carries drafts of its own tenant. -/
def ServiceFlight.OwnsDraft (flight : ServiceFlight) : Prop :=
  flight.request.admits flight.principal = true →
    ∀ route version, flight.stage.draft = some (route, version) →
      route.organizationId = flight.principal.organizationId ∧
        route.workspaceId = some flight.principal.workspaceId

theorem owned_scope {routeId : UUID} {action : DraftAction} {route : GatewayRoute}
    (hAdmits : (action.request routeId).admits principal = true)
    (h : action.owned principal routeId s = .ok route) :
    route.organizationId = principal.organizationId ∧
      route.workspaceId = some principal.workspaceId := by
  cases action with
  | edit command =>
      obtain ⟨-, hOrganization, hWorkspace, -⟩ := ownedDraft_eq_ok h
      exact ⟨hOrganization.trans (Option.isNone_iff_eq_none.mp hAdmits).symm, hWorkspace⟩
  | confirm version =>
      obtain ⟨-, hOrganization, hWorkspace, -⟩ := ownedDraft_eq_ok h
      exact ⟨hOrganization.trans (Option.isNone_iff_eq_none.mp hAdmits).symm, hWorkspace⟩
  | confirmWorkspace version =>
      obtain ⟨-, hOrganization, hWorkspace, -⟩ := ownedWorkspaceDraft_eq_ok h
      exact ⟨hOrganization, hWorkspace⟩

theorem move_ownsDraft (hOrderly : flight.Orderly) (hOwns : flight.OwnsDraft) :
    (flight.move host moment s).1.OwnsDraft := by
  obtain ⟨hPrincipal, hRequest⟩ := move_request host moment flight s
  unfold ServiceFlight.OwnsDraft
  rw [hPrincipal, hRequest]
  intro hAdmits route version hDraft
  cases hCall : flight.stage.call host flight.principal moment with
  | some call =>
      rw [move_of_call hCall] at hDraft
      exact hOwns hAdmits route version (answered_draft hDraft)
  | none =>
      rw [move_of_none hCall] at hDraft
      rcases proceeds_draft hDraft with hOld | ⟨routeId, action, hStage, hOwned, -⟩
      · exact hOwns hAdmits route version hOld
      · have hServes : flight.stage.Serves flight.request := hOrderly
        rw [hStage] at hServes
        have hRead : flight.request = action.request routeId := hServes
        rw [hRead] at hAdmits
        exact owned_scope hAdmits hOwned

end Owners

section Endpoints

variable {host : Host} {principal : ProductPrincipal} {moment : Moment} {s t : ExchangeStore}
  {stage : ServiceStage} {call : StoreCall}

/-- Every route refers to a stored endpoint. -/
def Referenced (s : ExchangeStore) : Prop :=
  ∀ row ∈ s.routes, ∃ endpoint ∈ s.endpoints, endpoint.id = row.endpointId

theorem requireEndpoint_stored {endpointId : UUID} {u : Unit}
    (h : requireEndpoint endpointId s = .ok (u, t)) :
    ∃ endpoint ∈ s.endpoints, endpoint.id = endpointId := by
  obtain ⟨_, _, hFetch, hRequire⟩ := bind_eq_ok.mp h
  cases hFetch
  obtain ⟨endpoint, hMem, hId⟩ := List.any_eq_true.mp (require_eq_ok.mp hRequire).1
  exact ⟨endpoint, hMem, of_decide_eq_true hId⟩

theorem saveRoute_stored {route : GatewayRoute} {u : Unit} (h : saveRoute route s = .ok (u, t)) :
    ∃ endpoint ∈ s.endpoints, endpoint.id = route.endpointId := by
  obtain ⟨_, _, hRequire, -⟩ := bind_eq_ok.mp h
  exact requireEndpoint_stored hRequire

/-- A draft that is inserted refers to a stored endpoint. -/
theorem createRouteDraft_stored {route answer : GatewayRoute} {key digest : String}
    {scope : IdempotencyScope} {reactorSourceEndpointId : Option UUID}
    {workspaceBindingRoute : Bool}
    (h : createRouteDraft route key digest scope reactorSourceEndpointId workspaceBindingRoute s =
      .ok (answer, t)) :
    t.routes = s.routes ∨ (t.routes = s.routes ++ [route.row] ∧
      ∃ endpoint ∈ s.endpoints, endpoint.id = route.endpointId) := by
  rcases createRouteDraft_eq_ok h with ⟨rfl, -⟩ | ⟨-, hOpen, -, rfl⟩
  · exact Or.inl rfl
  · obtain ⟨_, _, hPermit, h⟩ := bind_eq_ok.mp h
    cases permitDraft_eq_ok hPermit
    obtain ⟨replay, _, hResolve, h⟩ := bind_eq_ok.mp h
    obtain ⟨rfl, hReplay⟩ := resolveIdempotency_eq_ok hResolve
    cases replay with
    | some resourceId =>
        obtain ⟨row, hFind, -⟩ := hReplay
        rw [hOpen] at hFind
        cases hFind
    | none =>
        obtain ⟨_, _, hInsert, -⟩ := bind_eq_ok.mp h
        obtain ⟨_, _, hRequire, -⟩ := bind_eq_ok.mp hInsert
        exact Or.inr ⟨rfl, requireEndpoint_stored hRequire⟩

/-- No endpoint disappears. -/
theorem storeStep_endpoints (host : Host) (call : StoreCall) :
    ∀ endpoint ∈ s.endpoints, ∃ endpoint' ∈ (storeStep host call s).2.endpoints,
      endpoint'.id = endpoint.id := by
  intro endpoint hEndpoint
  by_cases hTable : StoreTable.endpoints ∈ call.tables
  · cases call with
    | saveEndpoint saved =>
        show ∃ endpoint' ∈ Table.deleteWhere (fun row => decide (row.id = saved.id)) s.endpoints ++
          [⟨saved.id, saved⟩], endpoint'.id = endpoint.id
        by_cases hSame : endpoint.id = saved.id
        · exact ⟨⟨saved.id, saved⟩, List.mem_append_right _ List.mem_cons_self, hSame.symm⟩
        · exact ⟨endpoint, List.mem_append_left _ (Table.mem_deleteWhere.mpr
            ⟨hEndpoint, decide_eq_false hSame⟩), rfl⟩
    | operator call => cases call <;> simp [StoreCall.tables] at hTable
    | _ => simp [StoreCall.tables] at hTable
  · rw [storeStep_keeps_endpoints host hTable]
    exact ⟨endpoint, hEndpoint, rfl⟩

/-- The rows after a call refer to endpoints that were there before it. -/
theorem storeStep_refers (call : StoreCall) (h : Referenced s) :
    ∀ row ∈ (storeStep host call s).2.routes,
      ∃ endpoint ∈ s.endpoints, endpoint.id = row.endpointId := by
  have hWrite := storeStep_routes host call s
  have hCommit := commit_cases (storeBody host call) s
  generalize hRoutes : (storeStep host call s).2.routes = rows at hWrite ⊢
  intro row hRow
  cases hWrite with
  | kept => exact h row hRow
  | saved route hCall =>
      rcases List.mem_append.mp hRow with hOld | hNew
      · exact h row (Table.mem_deleteWhere.mp hOld).1
      · subst hCall
        rcases hCommit with ⟨answer, t, hBody, -⟩ | ⟨e, -, hStep⟩
        · obtain ⟨_, _, hSave, -⟩ := bind_eq_ok.mp hBody
          rw [List.mem_singleton.mp hNew]
          exact saveRoute_stored hSave
        · rw [storeStep, hStep] at hRoutes
          exact h row (hRoutes ▸ hRow)
  | drafted route key digest scope reactorSourceEndpointId workspaceBindingRoute hCall hFresh =>
      rcases List.mem_append.mp hRow with hOld | hNew
      · exact h row hOld
      · subst hCall
        rcases hCommit with ⟨answer, t, hBody, hStep⟩ | ⟨e, -, hStep⟩
        · obtain ⟨_, _, hDraft, hPure⟩ := bind_eq_ok.mp hBody
          cases hPure
          rw [storeStep, hStep] at hRoutes
          rcases createRouteDraft_stored hDraft with hSame | ⟨-, hStored⟩
          · exact h row (hSame ▸ hRoutes ▸ hRow)
          · rw [List.mem_singleton.mp hNew]
            exact hStored
        · rw [storeStep, hStep] at hRoutes
          exact h row (hRoutes ▸ hRow)
  | replaced =>
      obtain ⟨old, hOld, ⟨-, rfl⟩ | ⟨-, rfl⟩⟩ := Table.mem_updateWhere.mp hRow
      · exact h old hOld
      · exact h row hOld
  | migrated =>
      obtain ⟨old, hOld, ⟨-, rfl⟩ | ⟨-, rfl⟩⟩ := Table.mem_updateWhere.mp hRow
      · exact h old hOld
      · exact h row hOld

theorem storeStep_referenced (call : StoreCall) (h : Referenced s) :
    Referenced (storeStep host call s).2 := by
  intro row hRow
  obtain ⟨endpoint, hEndpoint, hId⟩ := storeStep_refers call h row hRow
  obtain ⟨endpoint', hEndpoint', hSame⟩ := storeStep_endpoints host call endpoint hEndpoint
  exact ⟨endpoint', hEndpoint', hSame.trans hId⟩

/-- An endpoint is saved as a new one, or to disable it. -/
theorem call_saveEndpoint {endpoint : GatewayEndpoint}
    (h : stage.call host principal moment = some (.saveEndpoint endpoint)) :
    (∃ command key, stage = .saving (.endpoint command) key ∧ endpoint.id = moment.draw) ∨
      ∃ stored, stage = .disabling stored := by
  cases call_cases h with
  | savesEndpoint command key _ hCreate =>
      cases hCreate
      exact Or.inl ⟨command, key, rfl, rfl⟩
  | disables stored => exact Or.inr ⟨stored, rfl⟩

theorem getEndpoint_absent {endpointId : UUID} (h : ∀ row ∈ s.endpoints, row.id ≠ endpointId) :
    s.getEndpoint endpointId = none := by
  unfold ExchangeStore.getEndpoint
  rw [Option.map_eq_none_iff, List.find?_eq_none]
  intro row hRow
  simp [h row hRow]

/-- A new endpoint is found under its own id only. -/
theorem getEndpoint_saved (host : Host) {endpoint : GatewayEndpoint} {endpointId : UUID}
    (hFresh : ∀ row ∈ s.endpoints, row.id ≠ endpoint.id) :
    (storeStep host (.saveEndpoint endpoint) s).2.getEndpoint endpointId =
      if endpoint.id = endpointId then some endpoint else s.getEndpoint endpointId := by
  have hNone : Table.deleteWhere (fun row : EndpointRow => decide (row.id = endpoint.id))
      s.endpoints = s.endpoints :=
    Table.deleteWhere_of_none fun row hRow => decide_eq_false (hFresh row hRow)
  have hSaved : (storeStep host (.saveEndpoint endpoint) s).2.endpoints =
      s.endpoints ++ [⟨endpoint.id, endpoint⟩] := by
    show Table.deleteWhere (fun row : EndpointRow => decide (row.id = endpoint.id)) s.endpoints ++
      _ = _
    rw [hNone]
  unfold ExchangeStore.getEndpoint
  rw [hSaved, List.find?_append]
  split
  · next hSame =>
      subst hSame
      have hFind := Option.map_eq_none_iff.mp (getEndpoint_absent hFresh)
      simp [hFind]
  · next hOther => simp [hOther]

end Endpoints

section Moves

variable {host : Host} {viewer : RequestPrincipal} {moment : Moment} {flight : ServiceFlight}
  {system : ServiceSystem} {index : Nat} {planner : StoredRoutePlanner} {model : Str}

/-- What holds of every reachable system, as far as tenants are kept apart. -/
structure Isolable (system : ServiceSystem) : Prop where
  routes : RoutesReached system
  orderly : Orderly system
  owned : ∀ flight ∈ system.flights, flight.OwnsDraft
  referenced : Referenced system.store

theorem isolable_preserved (host : Host) : Preserves (serviceStep host)
    (fun system input => drawsFresh system input = true) Isolable := by
  intro system input h hFresh
  refine ⟨(routesContract host).preserves system input h.routes hFresh,
    orderly_preserved host system input h.orderly trivial, ?_,
    serviceStep_store (fun call _ => storeStep_referenced call) input h.referenced⟩
  intro flight hFlight
  rcases flight_mem_cases hFlight with hOld | ⟨arrival, -, rfl⟩ |
    ⟨index, moment, before, -, hBefore, rfl⟩
  · exact h.owned flight hOld
  · intro _ route version hDraft
    exact absurd hDraft (arrival_draft arrival)
  · have hMem := List.mem_of_getElem? hBefore
    exact move_ownsDraft (h.orderly before hMem) (h.owned before hMem)

theorem isolable_start : Isolable { store := {} } := by
  refine ⟨routesReached_start, ?_, ?_, ?_⟩
  · rintro flight ⟨⟩
  · rintro flight ⟨⟩
  · rintro row ⟨⟩

/-- The document that a request replaces is of its own tenant, stored and new. -/
theorem replaced_scope (viewer : RequestPrincipal) {route : GatewayRoute} {expected : Nat}
    {row : RouteRow} (h : Isolable system) (hFlight : flight ∈ system.flights)
    (hAdmits : flight.request.admits flight.principal = true)
    (hCall : flight.stage.call host flight.principal moment =
      some (.replaceRouteVersion route expected))
    (hRow : row ∈ system.store.routes) (hId : row.id = route.id) :
    row.inScope viewer = flight.principal.sharesTenant viewer ∧
      ∀ old : RouteRow, (old.rewritten route).inScope viewer =
        flight.principal.sharesTenant viewer := by
  obtain ⟨read, version, hDraft, ⟨hRouteId, -, hOrganization, hWorkspace⟩, -⟩ :=
    call_replace_draft hCall
  obtain ⟨hReadOrganization, hReadWorkspace⟩ := h.owned flight hFlight hAdmits read version hDraft
  obtain ⟨found, hFound, hLater⟩ := (h.routes.2 flight hFlight read version hDraft).read
  have hSame : found = row := by
    apply h.routes.1.unique.eq hFound hRow
    rw [hId, hRouteId, ← hLater.id, h.routes.1.route_id hFound]
  subst hSame
  constructor
  · exact inScope_of_owner (hLater.organizationId.trans hReadOrganization)
      (hLater.workspaceId.trans hReadWorkspace)
  · intro old
    exact inScope_of_owner (hOrganization.trans hReadOrganization)
      (hWorkspace.trans hReadWorkspace)

/-- A move of another tenant leaves the active rows of the viewer's scope alone. -/
theorem move_visible (host : Host) (h : Isolable system)
    (hFlight : system.flights[index]? = some flight)
    (hFresh : drawsFresh system (.advance index moment) = true)
    (hAdmits : flight.request.admits flight.principal = true)
    (hOther : flight.principal.sharesTenant viewer = false) {row : RouteRow}
    (hActive : row.state = .active) (hScope : row.inScope viewer = true) :
    row ∈ (flight.move host moment system.store).2.routes ↔ row ∈ system.store.routes := by
  have hMem := List.mem_of_getElem? hFlight
  have hMove := routeMove_cases host moment flight system.store
  generalize (flight.move host moment system.store).2.routes = rows at hMove ⊢
  cases hMove with
  | kept => exact Iff.rfl
  | created command key route hStage hCreate =>
      -- a route without an organization, under an id of its own
      have hUnused := drawsFresh_route hFlight hStage hFresh
      have hServes : flight.stage.Serves flight.request := h.orderly flight hMem
      rw [hStage] at hServes
      have hRequest : flight.request = .createRoute command key := hServes
      rw [hRequest] at hAdmits
      cases hCreate
      rw [List.mem_append, Table.mem_deleteWhere, List.mem_singleton]
      constructor
      · rintro (⟨hOld, -⟩ | rfl)
        · exact hOld
        · rw [unscoped_not_inScope rfl (Option.isNone_iff_eq_none.mp hAdmits) hOther] at hScope
          cases hScope
      · intro hOld
        exact Or.inl ⟨hOld, decide_eq_false (hUnused row hOld)⟩
  | drafted command hUnused =>
      rw [List.mem_append, List.mem_singleton]
      constructor
      · rintro (hOld | rfl)
        · exact hOld
        · have hState : (command.route flight.principal moment).state = .active := hActive
          rw [(draft_written command flight.principal moment).1] at hState
          cases hState
      · exact Or.inl
  | replaced route expected hCall found hFound hId hVersion =>
      rw [Table.mem_updateWhere]
      constructor
      · rintro ⟨old, hOld, ⟨-, rfl⟩ | ⟨-, rfl⟩⟩
        · have hOwner := (replaced_scope viewer h hMem hAdmits hCall hFound hId).2 old
          rw [hOwner, hOther] at hScope
          cases hScope
        · exact hOld
      · intro hOld
        refine ⟨row, hOld, Or.inr ⟨decide_eq_false ?_, rfl⟩⟩
        intro hSame
        have hOwner := (replaced_scope viewer h hMem hAdmits hCall hOld hSame).1
        rw [hOwner, hOther] at hScope
        cases hScope

/-- The endpoint is found as before, or is a new one that no route refers to. -/
theorem move_endpoint (host : Host) (h : Isolable system)
    (hFlight : system.flights[index]? = some flight)
    (hFresh : drawsFresh system (.advance index moment) = true)
    (hKeeps : flight.request.disables = false) (endpointId : UUID) :
    (flight.move host moment system.store).2.getEndpoint endpointId =
        system.store.getEndpoint endpointId ∨
      (system.store.getEndpoint endpointId = none ∧
        ∀ row ∈ (flight.move host moment system.store).2.routes, row.endpointId ≠ endpointId) := by
  have hMem := List.mem_of_getElem? hFlight
  cases hCall : flight.stage.call host flight.principal moment with
  | none =>
      rw [move_of_none hCall]
      exact Or.inl rfl
  | some call =>
      rw [move_of_call hCall]
      by_cases hTable : StoreTable.endpoints ∈ call.tables
      · cases call with
        | saveEndpoint endpoint =>
            rcases call_saveEndpoint hCall with ⟨command, key, hStage, hDraw⟩ | ⟨stored, hStage⟩
            · have hUnused : ∀ row ∈ system.store.endpoints, row.id ≠ endpoint.id := by
                rw [hDraw]
                simpa [drawsFresh, hFlight, hStage, CreateCommand.fresh] using hFresh
              show (storeStep host (.saveEndpoint endpoint) system.store).2.getEndpoint
                endpointId = _ ∨ _
              rw [getEndpoint_saved host hUnused]
              by_cases hSame : endpoint.id = endpointId
              · subst hSame
                refine Or.inr ⟨getEndpoint_absent hUnused, ?_⟩
                intro row hRow hRefers
                have hStored : row ∈ system.store.routes := by
                  rwa [storeStep_keeps_routes host (by simp [StoreCall.tables])] at hRow
                obtain ⟨known, hKnown, hId⟩ := h.referenced row hStored
                exact hUnused known hKnown (hId.trans hRefers)
              · rw [if_neg hSame]
                exact Or.inl rfl
            · have hServes : flight.stage.Serves flight.request := h.orderly flight hMem
              rw [hStage] at hServes
              obtain ⟨disabled, hRequest⟩ := hServes
              rw [hRequest] at hKeeps
              cases hKeeps
        | operator call => cases call <;> simp [StoreCall.tables] at hTable
        | _ => simp [StoreCall.tables] at hTable
      · left
        unfold ExchangeStore.getEndpoint
        rw [storeStep_keeps_endpoints host hTable]

theorem RouteRow.Offered.inScope {row : RouteRow} {s : ExchangeStore}
    (h : row.Offered s planner viewer model) : row.inScope viewer = true := by
  unfold RouteRow.inScope
  cases hViewer : viewer.organizationId with
  | none => simp [h.organization, hViewer]
  | some organizationId =>
      simp [h.organization, hViewer, h.workspace (by rw [hViewer]; rfl)]

/-- An offer lasts while its row is stored and the endpoint is found as before. -/
theorem RouteRow.Offered.lasts {row : RouteRow} {s t : ExchangeStore}
    (h : row.Offered s planner viewer model) (hStored : row ∈ t.routes)
    (hEndpoint : t.getEndpoint planner.endpointId = s.getEndpoint planner.endpointId) :
    row.Offered t planner viewer model where
  stored := hStored
  endpoint := hEndpoint ▸ h.endpoint
  endpointId := h.endpointId
  state := h.state
  organization := h.organization
  workspace := h.workspace
  pattern := h.pattern

theorem offered_of_eq {row : RouteRow} {s t : ExchangeStore} (hEndpoints : t.endpoints = s.endpoints)
    (hRoutes : t.routes = s.routes) :
    row.Offered t planner viewer model ↔ row.Offered s planner viewer model := by
  have hEndpoint : t.getEndpoint planner.endpointId = s.getEndpoint planner.endpointId := by
    unfold ExchangeStore.getEndpoint
    rw [hEndpoints]
  constructor
  · intro hOffered
    exact hOffered.lasts (hRoutes ▸ hOffered.stored) hEndpoint.symm
  · intro hOffered
    exact hOffered.lasts (hRoutes.symm ▸ hOffered.stored) hEndpoint

/-- A move of another tenant offers the viewer what was offered before. -/
theorem move_offered (h : Isolable system) (hFlight : system.flights[index]? = some flight)
    (hFresh : drawsFresh system (.advance index moment) = true)
    (hAdmits : flight.request.admits flight.principal = true)
    (hKeeps : flight.request.disables = false)
    (hOther : flight.principal.sharesTenant viewer = false) (row : RouteRow) :
    row.Offered (flight.move host moment system.store).2 planner viewer model ↔
      row.Offered system.store planner viewer model := by
  have hEndpoint := move_endpoint host h hFlight hFresh hKeeps planner.endpointId
  constructor
  · intro hOffered
    have hStored := (move_visible host h hFlight hFresh hAdmits hOther hOffered.state
      hOffered.inScope).mp hOffered.stored
    rcases hEndpoint with hSame | ⟨-, hNone⟩
    · exact hOffered.lasts hStored hSame.symm
    · exact absurd hOffered.endpointId (hNone row hOffered.stored)
  · intro hOffered
    have hStored := (move_visible host h hFlight hFresh hAdmits hOther hOffered.state
      hOffered.inScope).mpr hOffered.stored
    rcases hEndpoint with hSame | ⟨hNone, -⟩
    · exact hOffered.lasts hStored hSame
    · obtain ⟨endpoint, hSome, -⟩ := hOffered.endpoint
      rw [hNone] at hSome
      cases hSome

end Moves

section Runs

variable {host : Host} {viewer : RequestPrincipal} {planner : StoredRoutePlanner} {model : Str}
  {s t : ExchangeStore}

/-- What the step of another tenant, or of the operator, offers the viewer. -/
theorem step_offered {system : ServiceSystem} {input : ServiceInput} (h : Isolable system)
    (hFresh : drawsFresh system input = true) (hOthers : othersMove viewer system input = true)
    (row : RouteRow) :
    row.Offered (serviceStep host input system).2.store planner viewer model ↔
      row.Offered system.store planner viewer model := by
  rcases store_cases (serviceRules host) input system with hSame |
    ⟨index, moment, flight, rfl, hFlight, hStore⟩ | ⟨call, rfl, hStore⟩
  · rw [serviceStep, hSame]
  · rw [serviceStep, hStore]
    simp only [othersMove, hFlight, Bool.and_eq_true, Bool.not_eq_true'] at hOthers
    obtain ⟨⟨hAdmits, hKeeps⟩, hOther⟩ := hOthers
    exact move_offered h hFlight hFresh hAdmits hKeeps hOther row
  · rw [serviceStep, hStore]
    refine offered_of_eq (storeStep_keeps_endpoints host ?_) (operate_routes host call h.routes.1)
    cases call <;> simp [StoreCall.tables]

theorem requestPrincipal_storable (credential : CredentialRow) :
    storable [credential.requestPrincipal.organizationId,
      some credential.requestPrincipal.workspaceId] = true := by
  unfold storable CredentialRow.requestPrincipal
  cases credential.identity.organizationId <;> simp [hasSurrogate_text]

/-- The same offers make the same plan, for the principal of any credential. -/
theorem plan_of_offered {credential : CredentialRow} (hs : RoutingSound s) (ht : RoutingSound t)
    (hSame : ∀ row : RouteRow, row.Offered t planner credential.requestPrincipal model ↔
      row.Offered s planner credential.requestPrincipal model) :
    planner.planForPrincipal t credential.requestPrincipal model =
      planner.planForPrincipal s credential.requestPrincipal model := by
  rcases plansExactly hs planner credential.requestPrincipal model with
    ⟨rows, hPlan, hOrder, hRows⟩ | ⟨-, hScope⟩
  · rcases plansExactly ht planner credential.requestPrincipal model with
      ⟨rows', hPlan', hOrder', hRows'⟩ | ⟨-, hScope⟩
    · have hEqual : rows' = rows := Table.eq_of_strict hOrder' hOrder fun row =>
        (hRows' row).trans ((hSame row).trans (hRows row).symm)
      rw [hPlan, hPlan', hEqual]
    · rw [requestPrincipal_storable] at hScope
      cases hScope
  · rw [requestPrincipal_storable] at hScope
    cases hScope

/-- In every store reached, the plan for a principal is made of the routes of
its scope, and no run of the other tenants' requests changes it. -/
structure TenantRouting (host : Host) (inputs : List ServiceInput) : Prop where
  exactly : ∀ planner principal model,
    PlansExactly (run (serviceStep host) inputs { store := {} }).store planner principal model
  isolated : ∀ (planner : StoredRoutePlanner) (credential : CredentialRow)
      (others : List ServiceInput),
    Admitted (serviceStep host) (fun system input => drawsFresh system input = true ∧
        othersMove credential.requestPrincipal system input = true) others
      (run (serviceStep host) inputs { store := {} }) →
    ∀ model, planner.planForPrincipal
        (run (serviceStep host) (inputs ++ others) { store := {} }).store
        credential.requestPrincipal model =
      planner.planForPrincipal (run (serviceStep host) inputs { store := {} }).store
        credential.requestPrincipal model

/-- In every run a plan is made of exactly the routes offered to the principal, and what other
tenants do afterwards leaves it as it is. -/
theorem tenant_routing (host : Host) (inputs : List ServiceInput)
    (hFresh : Admitted (serviceStep host) (fun system input => drawsFresh system input = true)
      inputs { store := {} }) : TenantRouting host inputs where
  exactly := plansExactly (routingSound_reached host inputs)
  isolated := by
    intro planner credential others hOthers model
    apply plan_of_offered (routingSound_reached host inputs)
      (routingSound_reached host (inputs ++ others))
    rw [run_append]
    have hReached := (isolable_preserved host).run isolable_start hFresh
    have hPreserved : Preserves (serviceStep host) (fun system input =>
        drawsFresh system input = true ∧
          othersMove credential.requestPrincipal system input = true) Isolable :=
      fun system input h hPromise => isolable_preserved host system input h hPromise.1
    exact run_related (R := fun system system' : ServiceSystem => ∀ row : RouteRow,
        row.Offered system'.store planner credential.requestPrincipal model ↔
          row.Offered system.store planner credential.requestPrincipal model)
      hPreserved (fun _ _ => Iff.rfl) (fun _ _ _ h h' row => (h' row).trans (h row))
      (fun system input h hPromise row => step_offered h hPromise.1 hPromise.2 row)
      hReached hOthers

theorem tenant_routing_sample : TenantRouting sampleHost sampleCreation :=
  tenant_routing sampleHost sampleCreation (by decide +kernel)

end Runs

end CyreneExchange.Product
