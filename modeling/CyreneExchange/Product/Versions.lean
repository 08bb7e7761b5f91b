import CyreneExchange.Product.Stages

/-! Routes over whole runs. A stored route keeps its identity, endpoint and
scope, its version only grows, and a document read under the version that is
still stored is the stored document. -/
namespace CyreneExchange.Product

open Integrations (UUID)
open Flights Machine Transaction

/-- What later states of a stored route look like. -/
structure GatewayRoute.Later (route later : GatewayRoute) : Prop where
  id : later.id = route.id
  endpointId : later.endpointId = route.endpointId
  organizationId : later.organizationId = route.organizationId
  workspaceId : later.workspaceId = route.workspaceId
  version : later = route ∨ route.resourceVersion < later.resourceVersion

theorem GatewayRoute.Later.refl (route : GatewayRoute) : route.Later route :=
  ⟨rfl, rfl, rfl, rfl, Or.inl rfl⟩

theorem GatewayRoute.Later.trans {route later last : GatewayRoute} (h : route.Later later)
    (h' : later.Later last) : route.Later last := by
  refine ⟨h'.id.trans h.id, h'.endpointId.trans h.endpointId,
    h'.organizationId.trans h.organizationId, h'.workspaceId.trans h.workspaceId, ?_⟩
  rcases h.version with rfl | hLess
  · exact h'.version
  · rcases h'.version with rfl | hLess'
    · exact Or.inr hLess
    · exact Or.inr (Nat.lt_trans hLess hLess')

/-- A document read under the version still stored is the stored one. -/
theorem GatewayRoute.Later.eq_of_version {route later : GatewayRoute} (h : route.Later later)
    (hVersion : later.resourceVersion = route.resourceVersion) : later = route := by
  rcases h.version with hSame | hLess
  · exact hSame
  · omega

/-- Ids are unique and the columns repeat what the documents say. -/
structure RoutesSound (s : ExchangeStore) : Prop where
  unique : Table.KeysUnique RouteRow.id s.routes
  agrees : ∀ row ∈ s.routes, row.route.row = row

/-- Every stored route is still there, at its version or a later one. -/
def RoutesGrow (s t : ExchangeStore) : Prop :=
  ∀ row ∈ s.routes, ∃ row' ∈ t.routes, row.route.Later row'.route

theorem RoutesGrow.refl (s : ExchangeStore) : RoutesGrow s s :=
  fun row hRow => ⟨row, hRow, .refl _⟩

theorem RoutesGrow.of_eq {s t : ExchangeStore} (h : t.routes = s.routes) : RoutesGrow s t :=
  fun row hRow => ⟨row, h ▸ hRow, .refl _⟩

/-- This document was read from a stored route. -/
def ReadFrom (s : ExchangeStore) (route : GatewayRoute) : Prop :=
  ∃ row ∈ s.routes, route.Later row.route

theorem ReadFrom.grow {s t : ExchangeStore} {route : GatewayRoute} (h : ReadFrom s route)
    (hGrow : RoutesGrow s t) : ReadFrom t route := by
  obtain ⟨row, hRow, hLater⟩ := h
  obtain ⟨row', hRow', hLater'⟩ := hGrow row hRow
  exact ⟨row', hRow', hLater.trans hLater'⟩

section Rows

variable {s t : ExchangeStore} {row : RouteRow} {route : GatewayRoute} {routeId : UUID}

theorem findRoute_eq_some (h : s.findRoute routeId = some row) :
    row ∈ s.routes ∧ row.id = routeId :=
  ⟨List.mem_of_find?_eq_some h, by simpa using List.find?_some h⟩

theorem findRoute_eq_none (h : s.findRoute routeId = none) :
    ∀ row ∈ s.routes, row.id ≠ routeId := by
  intro row hRow hSame
  have hNone := List.find?_eq_none.mp h row hRow
  simp [hSame] at hNone

theorem RoutesSound.route_id (h : RoutesSound s) (hRow : row ∈ s.routes) :
    row.route.id = row.id :=
  congrArg RouteRow.id (h.agrees row hRow)

theorem RoutesSound.route_state (h : RoutesSound s) (hRow : row ∈ s.routes) :
    row.route.state = row.state :=
  congrArg RouteRow.state (h.agrees row hRow)

theorem RoutesSound.of_eq (h : RoutesSound s) (hSame : t.routes = s.routes) : RoutesSound t := by
  constructor
  · rw [hSame]
    exact h.unique
  · rw [hSame]
    exact h.agrees

/-- A route of a new id joins the others. -/
theorem RoutesSound.append (h : RoutesSound s) (hFresh : ∀ row ∈ s.routes, row.id ≠ route.id)
    (hRoutes : t.routes = s.routes ++ [route.row]) : RoutesSound t ∧ RoutesGrow s t := by
  refine ⟨⟨?_, ?_⟩, ?_⟩
  · rw [hRoutes]
    exact h.unique.append_singleton hFresh
  · rw [hRoutes]
    intro row hRow
    rcases List.mem_append.mp hRow with hOld | hNew
    · exact h.agrees row hOld
    · rw [List.mem_singleton.mp hNew]
      rfl
  · intro row hRow
    exact ⟨row, hRoutes ▸ List.mem_append_left _ hRow, .refl _⟩

theorem rewritten_eq (hId : row.id = route.id) (hEndpoint : row.endpointId = route.endpointId) :
    row.rewritten route = route.row := by
  unfold RouteRow.rewritten GatewayRoute.row
  rw [hId, hEndpoint]

/-- The stored routes after one of them was rewritten. -/
theorem mem_rewritten (h : RoutesSound s) (hRow : row ∈ s.routes) (hId : row.id = route.id)
    (hEndpoint : row.endpointId = route.endpointId) {r : RouteRow} :
    r ∈ Table.updateWhere (fun row => decide (row.id = route.id))
        (fun row => row.rewritten route) s.routes ↔
      r = route.row ∨ (r ∈ s.routes ∧ r ≠ row) := by
  rw [Table.mem_updateWhere]
  constructor
  · rintro ⟨x, hx, ⟨hWhere, rfl⟩ | ⟨hWhere, rfl⟩⟩
    · obtain rfl : x = row := h.unique.eq hx hRow (by rw [hId]; exact of_decide_eq_true hWhere)
      exact Or.inl (rewritten_eq hId hEndpoint)
    · refine Or.inr ⟨hx, ?_⟩
      rintro rfl
      exact of_decide_eq_false hWhere hId
  · rintro (rfl | ⟨hr, hOther⟩)
    · exact ⟨row, hRow, Or.inl ⟨decide_eq_true hId, (rewritten_eq hId hEndpoint).symm⟩⟩
    · refine ⟨r, hr, Or.inr ⟨decide_eq_false fun hSame => hOther ?_, rfl⟩⟩
      exact h.unique.eq hr hRow (hSame.trans hId.symm)

/-- A stored route gives way to a later state of itself. -/
theorem RoutesSound.rewrite (h : RoutesSound s) (hRow : row ∈ s.routes)
    (hLater : row.route.Later route)
    (hRoutes : t.routes = Table.updateWhere (fun row => decide (row.id = route.id))
      (fun row => row.rewritten route) s.routes) : RoutesSound t ∧ RoutesGrow s t := by
  have hId : row.id = route.id := (h.route_id hRow).symm.trans hLater.id.symm
  have hEndpoint : row.endpointId = route.endpointId :=
    (congrArg RouteRow.endpointId (h.agrees row hRow)).symm.trans hLater.endpointId.symm
  refine ⟨⟨?_, ?_⟩, ?_⟩
  · rw [hRoutes]
    exact h.unique.updateWhere fun _ _ _ => rfl
  · rw [hRoutes]
    intro r hr
    rcases (mem_rewritten h hRow hId hEndpoint).mp hr with rfl | ⟨hr, -⟩
    · rfl
    · exact h.agrees r hr
  · intro r hr
    rw [hRoutes]
    by_cases hSame : r = row
    · subst hSame
      exact ⟨route.row, (mem_rewritten h hRow hId hEndpoint).mpr (Or.inl rfl), hLater⟩
    · exact ⟨r, (mem_rewritten h hRow hId hEndpoint).mpr (Or.inr ⟨hr, hSame⟩), .refl _⟩

/-- There is nothing to migrate where columns and documents agree. -/
theorem migrate_routes (h : RoutesSound s) :
    Table.updateWhere
      (fun row : RouteRow => row.workspaceId.isNone && row.document.workspaceId.any nonblank)
      (fun row => { row with workspaceId := row.document.workspaceId }) s.routes = s.routes := by
  apply Table.updateWhere_of_none
  intro row hRow
  have hSame : row.workspaceId = row.document.workspaceId :=
    congrArg (fun r : RouteRow => r.document.workspaceId) (h.agrees row hRow)
  rw [hSame]
  cases row.document.workspaceId <;> rfl

end Rows

section Writes

/-- What one call can do to the stored routes. -/
inductive RouteWrite (s : ExchangeStore) (call : StoreCall) : List RouteRow → Prop
  | kept : RouteWrite s call s.routes
  | saved (route : GatewayRoute) (hCall : call = .saveRoute route) :
      RouteWrite s call
        (Table.deleteWhere (fun row => decide (row.id = route.id)) s.routes ++ [route.row])
  | drafted (route : GatewayRoute) (key digest : String) (scope : IdempotencyScope)
      (reactorSourceEndpointId : Option UUID) (workspaceBindingRoute : Bool)
      (hCall : call = .createRouteDraft route key digest scope reactorSourceEndpointId
        workspaceBindingRoute)
      (hFresh : ∀ row ∈ s.routes, row.id ≠ route.id) :
      RouteWrite s call (s.routes ++ [route.row])
  | replaced (route : GatewayRoute) (expected : Nat)
      (hCall : call = .replaceRouteVersion route expected) (row : RouteRow)
      (hRow : row ∈ s.routes) (hId : row.id = route.id)
      (hVersion : row.document.resourceVersion = expected) :
      RouteWrite s call (Table.updateWhere (fun row => decide (row.id = route.id))
        (fun row => row.rewritten route) s.routes)
  | migrated (hCall : call = .operator .restart) :
      RouteWrite s call (Table.updateWhere
        (fun row => row.workspaceId.isNone && row.document.workspaceId.any nonblank)
        (fun row => { row with workspaceId := row.document.workspaceId }) s.routes)

/-- The four writers of routes, and everyone else. -/
theorem storeStep_routes (host : Host) (call : StoreCall) (s : ExchangeStore) :
    RouteWrite s call (storeStep host call s).2.routes := by
  have hKept (h : StoreTable.routes ∉ call.tables) :
      RouteWrite s call (storeStep host call s).2.routes := by
    rw [storeStep_keeps_routes host h]
    exact .kept
  have hCommit := commit_cases (storeBody host call) s
  cases call with
  | operator call =>
      cases call with
      | restart => exact .migrated rfl
      | configureCredentials | configureWorkspaceEndpointGrants
      | configureWorkspaceReactorEndpointGrants | disableCredential | saveTenantQuota
      | beginRequest | recordRejection | finishRequest => exact hKept (by simp [StoreCall.tables])
  | saveRoute route =>
      rcases hCommit with ⟨answer, t, hBody, hStep⟩ | ⟨e, -, hStep⟩
      · obtain ⟨_, _, hSave, hPure⟩ := bind_eq_ok.mp hBody
        cases hPure
        rw [storeStep, hStep, saveRoute_eq_ok hSave]
        exact .saved route rfl
      · rw [storeStep, hStep]
        exact .kept
  | createRouteDraft route key digest scope reactorSourceEndpointId workspaceBindingRoute =>
      rcases hCommit with ⟨answer, t, hBody, hStep⟩ | ⟨e, -, hStep⟩
      · obtain ⟨_, _, hCreate, hPure⟩ := bind_eq_ok.mp hBody
        cases hPure
        rw [storeStep, hStep]
        rcases createRouteDraft_eq_ok hCreate with ⟨rfl, -⟩ | ⟨-, -, hNone, rfl⟩
        · exact .kept
        · exact .drafted route key digest scope _ _ rfl (findRoute_eq_none hNone)
      · rw [storeStep, hStep]
        exact .kept
  | replaceRouteVersion route expected =>
      rcases hCommit with ⟨answer, t, hBody, hStep⟩ | ⟨e, -, hStep⟩
      · obtain ⟨_, _, hReplace, hPure⟩ := bind_eq_ok.mp hBody
        cases hPure
        obtain ⟨-, ⟨row, hFind, hVersion⟩, rfl⟩ := replaceRouteVersion_eq_ok hReplace
        obtain ⟨hRow, hId⟩ := findRoute_eq_some hFind
        rw [storeStep, hStep]
        exact .replaced route expected rfl row hRow hId hVersion
      · rw [storeStep, hStep]
        exact .kept
  | saveEndpoint | rememberIdempotency | createApiKey | revokeApiKey =>
      exact hKept (by simp [StoreCall.tables])

end Writes

/-- The document of a draft that a request has read and carries along, and the
version named for it by a confirmation. -/
def ServiceStage.draft : ServiceStage → Option (GatewayRoute × Option Nat)
  | .editing route _ => some (route, none)
  | .permitting route version | .inspecting route version | .validating route version
  | .publishing route version => some (route, some version)
  | _ => none

section Stages

variable {host : Host} {principal : ProductPrincipal} {moment : Moment} {s : ExchangeStore}
  {stage : ServiceStage} {route : GatewayRoute} {routeId : UUID}
  {carried : GatewayRoute × Option Nat}

/-- What the checks of `_owned_draft` leave. -/
theorem ownedDraft_eq_ok (h : ownedDraft principal routeId s = .ok route) :
    (∃ row, s.findRoute routeId = some row ∧ row.route = route) ∧ route.organizationId = none ∧
      route.workspaceId = some principal.workspaceId ∧ route.state = .draft := by
  unfold ownedDraft at h
  cases hFind : s.findRoute routeId with
  | none => simp [ExchangeStore.getLegacyRoute, hFind] at h
  | some row =>
      cases hOrganization : row.organizationId with
      | some organizationId =>
          simp [ExchangeStore.getLegacyRoute, hFind, Option.filter, hOrganization] at h
      | none =>
          simp only [ExchangeStore.getLegacyRoute, hFind, Option.filter, hOrganization,
            Option.isNone_none, if_true, Option.map_some] at h
          split at h
          · cases h
          · next hOwner =>
              split at h
              · cases h
              · next hState =>
                  cases h
                  exact ⟨⟨row, rfl, rfl⟩, hOrganization, not_not.mp (not_or.mp hOwner).1,
                    not_not.mp hState⟩

theorem ownedWorkspaceDraft_eq_ok (h : ownedWorkspaceDraft principal routeId s = .ok route) :
    (∃ row, s.findRoute routeId = some row ∧ row.route = route) ∧
      route.organizationId = principal.organizationId ∧
      route.workspaceId = some principal.workspaceId ∧ route.state = .draft := by
  unfold ownedWorkspaceDraft at h
  cases hFind : s.findRoute routeId with
  | none => simp [ExchangeStore.getRoute, hFind] at h
  | some row =>
      simp only [ExchangeStore.getRoute, hFind, Option.map_some] at h
      split at h
      · cases h
      · next hScope =>
          split at h
          · cases h
          · split at h
            · cases h
            · next hState =>
                cases h
                obtain ⟨hOrganization, hWorkspace⟩ := not_or.mp hScope
                exact ⟨⟨row, rfl, rfl⟩, not_not.mp hOrganization, not_not.mp hWorkspace,
                  not_not.mp hState⟩

/-- Reading a draft yields a stored one. -/
theorem owned_eq_ok {action : DraftAction} (h : action.owned principal routeId s = .ok route) :
    (∃ row, s.findRoute routeId = some row ∧ row.route = route) ∧ route.state = .draft := by
  cases action with
  | edit command =>
      obtain ⟨hRow, -, -, hState⟩ := ownedDraft_eq_ok h
      exact ⟨hRow, hState⟩
  | confirm version =>
      obtain ⟨hRow, -, -, hState⟩ := ownedDraft_eq_ok h
      exact ⟨hRow, hState⟩
  | confirmWorkspace version =>
      obtain ⟨hRow, -, -, hState⟩ := ownedWorkspaceDraft_eq_ok h
      exact ⟨hRow, hState⟩

/-- An answer of the store brings no new draft. -/
theorem answered_draft {answer : Except Failure StoreAnswer}
    (h : (stage.answered moment answer).draft = some carried) : stage.draft = some carried := by
  have hStep := answered_cases moment stage answer
  generalize stage.answered moment answer = next at h hStep
  cases hStep with
  | stays => exact h
  | fails | saved | answers => cases h

/-- A request carries the draft it carried, or the one it has just read. -/
theorem proceeds_draft (h : (stage.proceeds host principal moment s).draft = some carried) :
    stage.draft = some carried ∨ ∃ routeId action, stage = .reading routeId action ∧
      action.owned principal routeId s = .ok carried.1 ∧
      ∀ version, carried.2 = some version → carried.1.resourceVersion = version := by
  have hStep := proceeds_cases host principal moment s stage
  generalize stage.proceeds host principal moment s = next at h hStep
  cases hStep with
  | stays | permitted | inspected | validated => exact Or.inl h
  | edits routeId command route hOwned =>
      cases h
      exact Or.inr ⟨routeId, .edit command, rfl, hOwned, by rintro version ⟨⟩⟩
  | confirms routeId route hOwned =>
      cases h
      refine Or.inr ⟨routeId, .confirm route.resourceVersion, rfl, hOwned, ?_⟩
      rintro version ⟨⟩
      rfl
  | confirmsWorkspace routeId route hOwned =>
      cases h
      refine Or.inr ⟨routeId, .confirmWorkspace route.resourceVersion, rfl, hOwned, ?_⟩
      rintro version ⟨⟩
      rfl
  | _ => cases h

end Stages

section Calls

variable {host : Host} {principal : ProductPrincipal} {moment : Moment} {s : ExchangeStore}
  {stage : ServiceStage} {route : GatewayRoute}

theorem call_saveRoute (h : stage.call host principal moment = some (.saveRoute route)) :
    ∃ command key, stage = .saving (.route command) key ∧
      CreateCommand.create moment (.route command) = .route route := by
  cases call_cases h with
  | savesRoute command key _ hCreate => exact ⟨command, key, rfl, hCreate⟩

/-- What an edit or a confirmation writes: the document it has read, with the
version after the one it expects. -/
theorem call_replaceRouteVersion {expected : Nat}
    (h : stage.call host principal moment = some (.replaceRouteVersion route expected)) :
    (∃ read command, stage = .editing read command ∧ route = read.edited command moment.now ∧
        expected = command.resourceVersion) ∨
      ∃ read, stage = .publishing read expected ∧ route = read.published expected moment.now := by
  cases call_cases h with
  | edits read command => exact Or.inl ⟨read, command, rfl, rfl, rfl⟩
  | publishes read version => exact Or.inr ⟨read, rfl, rfl⟩

/-- A draft is written as its command and principal say. -/
theorem call_createRouteDraft {key digest : String} {scope : IdempotencyScope}
    {reactorSourceEndpointId : Option UUID} {workspaceBindingRoute : Bool}
    (h : stage.call host principal moment = some (.createRouteDraft route key digest scope
      reactorSourceEndpointId workspaceBindingRoute)) :
    ∃ command : DraftCommand, route = command.route principal moment := by
  cases call_cases h with
  | drafts command key => exact ⟨command, rfl⟩

theorem call_ne_operator {call : OperatorCall} :
    stage.call host principal moment ≠ some (.operator call) := by
  intro h
  cases call_cases h

/-- The new document is a later state of the row whose version it expects. -/
theorem later_of_replace {expected : Nat} {row : RouteRow} {read : GatewayRoute}
    (hSound : RoutesSound s) (hRow : row ∈ s.routes) (hId : row.id = route.id)
    (hVersion : row.document.resourceVersion = expected) (hRead : ReadFrom s read)
    (hSame : route.id = read.id ∧ route.endpointId = read.endpointId ∧
      route.organizationId = read.organizationId ∧ route.workspaceId = read.workspaceId)
    (hNext : route.resourceVersion = expected + 1) : row.route.Later route := by
  obtain ⟨row', hRow', hLater⟩ := hRead
  obtain ⟨hReadId, hEndpoint, hOrganization, hWorkspace⟩ := hSame
  have hRowId : row'.id = row.id := by
    rw [hId, hReadId, ← hLater.id, hSound.route_id hRow']
  obtain rfl := hSound.unique.eq hRow' hRow hRowId
  refine ⟨hReadId.trans hLater.id.symm, hEndpoint.trans hLater.endpointId.symm,
    hOrganization.trans hLater.organizationId.symm, hWorkspace.trans hLater.workspaceId.symm,
    Or.inr ?_⟩
  rw [hNext, ← hVersion]
  exact Nat.lt_succ_self _

theorem call_replace_draft {expected : Nat}
    (h : stage.call host principal moment = some (.replaceRouteVersion route expected)) :
    ∃ read version, stage.draft = some (read, version) ∧
      (route.id = read.id ∧ route.endpointId = read.endpointId ∧
        route.organizationId = read.organizationId ∧ route.workspaceId = read.workspaceId) ∧
      route.resourceVersion = expected + 1 := by
  rcases call_replaceRouteVersion h with ⟨read, command, rfl, rfl, rfl⟩ | ⟨read, rfl, rfl⟩
  · exact ⟨read, none, rfl, ⟨rfl, rfl, rfl, rfl⟩, rfl⟩
  · exact ⟨read, some expected, rfl, ⟨rfl, rfl, rfl, rfl⟩, rfl⟩

end Calls

section Moves

variable {host : Host} {moment : Moment} {flight : ServiceFlight} {s : ExchangeStore}

/-- What one move of a request can do to the stored routes. -/
inductive RouteMove (host : Host) (moment : Moment) (flight : ServiceFlight) (s : ExchangeStore) :
    List RouteRow → Prop
  | kept : RouteMove host moment flight s s.routes
  | created (command : CreateRouteRequest) (key : Option String) (route : GatewayRoute)
      (hStage : flight.stage = .saving (.route command) key)
      (hCreate : CreateCommand.create moment (.route command) = .route route) :
      RouteMove host moment flight s
        (Table.deleteWhere (fun row => decide (row.id = route.id)) s.routes ++ [route.row])
  | drafted (command : DraftCommand)
      (hFresh : ∀ row ∈ s.routes, row.id ≠ (command.route flight.principal moment).id) :
      RouteMove host moment flight s
        (s.routes ++ [(command.route flight.principal moment).row])
  | replaced (route : GatewayRoute) (expected : Nat)
      (hCall : flight.stage.call host flight.principal moment =
        some (.replaceRouteVersion route expected)) (row : RouteRow)
      (hRow : row ∈ s.routes) (hId : row.id = route.id)
      (hVersion : row.document.resourceVersion = expected) :
      RouteMove host moment flight s (Table.updateWhere (fun row => decide (row.id = route.id))
        (fun row => row.rewritten route) s.routes)

theorem routeMove_cases (host : Host) (moment : Moment) (flight : ServiceFlight)
    (s : ExchangeStore) :
    RouteMove host moment flight s (flight.move host moment s).2.routes := by
  cases hCall : flight.stage.call host flight.principal moment with
  | none =>
      rw [move_of_none hCall]
      exact .kept
  | some call =>
      rw [move_of_call hCall]
      have hWrite := storeStep_routes host call s
      show RouteMove host moment flight s (storeStep host call s).2.routes
      generalize (storeStep host call s).2.routes = rows at hWrite ⊢
      cases hWrite with
      | kept => exact .kept
      | saved route hSave =>
          subst hSave
          obtain ⟨command, key, hStage, hCreate⟩ := call_saveRoute hCall
          exact .created command key route hStage hCreate
      | drafted route key digest scope _ _ hDraft hFresh =>
          subst hDraft
          obtain ⟨command, rfl⟩ := call_createRouteDraft hCall
          exact .drafted command hFresh
      | replaced route expected hReplace row hRow hId hVersion =>
          subst hReplace
          exact .replaced route expected hCall row hRow hId hVersion
      | migrated hRestart => exact absurd (hRestart ▸ hCall) call_ne_operator

end Moves

/-- What is known of a draft that a request carries along. -/
structure KnownDraft (s : ExchangeStore) (route : GatewayRoute) (version : Option Nat) : Prop where
  state : route.state = .draft
  read : ReadFrom s route
  version : ∀ named, version = some named → route.resourceVersion = named

def CarriesDraft (s : ExchangeStore) (flight : ServiceFlight) : Prop :=
  ∀ route version, flight.stage.draft = some (route, version) → KnownDraft s route version

section Contract

variable {host : Host} {s : ExchangeStore} {flight : ServiceFlight} {moment : Moment}

/-- No request arrives with a draft. -/
theorem arrival_draft (arrival : ServiceArrival) {carried : GatewayRoute × Option Nat} :
    arrival.flight.stage.draft ≠ some carried := by
  intro hDraft
  have hFirst : arrival.flight.stage.isFirst = true :=
    arrives_isFirst arrival.principal arrival.request
  cases hStage : arrival.flight.stage with
  | editing | permitting | inspecting | validating | publishing =>
      rw [hStage] at hFirst
      cases hFirst
  | _ =>
      rw [hStage] at hDraft
      cases hDraft

theorem drawsFresh_route {system : ServiceSystem} {index : Nat} {command : CreateRouteRequest}
    {key : Option String} (hFlight : system.flights[index]? = some flight)
    (hStage : flight.stage = .saving (.route command) key)
    (h : drawsFresh system (.advance index moment) = true) :
    ∀ row ∈ system.store.routes, row.id ≠ moment.draw := by
  simpa [drawsFresh, hFlight, hStage, CreateCommand.fresh] using h

/-- The store after a request moved: its routes are sound and have grown. -/
theorem move_routes (host : Host) {system : ServiceSystem} {index : Nat}
    (hSound : RoutesSound system.store) (hFlight : system.flights[index]? = some flight)
    (hCarries : CarriesDraft system.store flight)
    (hFresh : drawsFresh system (.advance index moment) = true) :
    RoutesSound (flight.move host moment system.store).2 ∧
      RoutesGrow system.store (flight.move host moment system.store).2 := by
  have hMove := routeMove_cases host moment flight system.store
  generalize (flight.move host moment system.store).2 = t at hMove ⊢
  generalize hRows : t.routes = rows at hMove
  cases hMove with
  | kept => exact ⟨hSound.of_eq hRows, .of_eq hRows⟩
  | created command key route hStage hCreate =>
      cases hCreate
      have hUnused := drawsFresh_route hFlight hStage hFresh
      rw [Table.deleteWhere_of_none fun row hRow => decide_eq_false (hUnused row hRow)] at hRows
      exact hSound.append hUnused hRows
  | drafted command hUnused => exact hSound.append hUnused hRows
  | replaced route expected hCall row hRow hId hVersion =>
      obtain ⟨read, version, hDraft, hSame, hVersionNext⟩ := call_replace_draft hCall
      exact hSound.rewrite hRow (later_of_replace hSound hRow hId hVersion
        (hCarries read version hDraft).read hSame hVersionNext) hRows

theorem operate_routes (host : Host) (call : OperatorCall) (hSound : RoutesSound s) :
    (storeStep host (.operator call) s).2.routes = s.routes := by
  have hWrite := storeStep_routes host (.operator call) s
  generalize (storeStep host (.operator call) s).2.routes = rows at hWrite ⊢
  cases hWrite with
  | kept => rfl
  | saved _ hCall => cases hCall
  | drafted _ _ _ _ _ _ hCall => cases hCall
  | replaced _ _ hCall => cases hCall
  | migrated _ => exact migrate_routes hSound

/-- A request in flight knows its draft from the store. -/
theorem move_carries (hGrow : RoutesGrow s (flight.move host moment s).2)
    (hCarries : CarriesDraft s flight) :
    CarriesDraft (flight.move host moment s).2 (flight.move host moment s).1 := by
  intro route version hDraft
  have hBefore : KnownDraft s route version := by
    cases hCall : flight.stage.call host flight.principal moment with
    | some call =>
        rw [move_of_call hCall] at hDraft
        exact hCarries route version (answered_draft hDraft)
    | none =>
        rw [move_of_none hCall] at hDraft
        rcases proceeds_draft hDraft with hOld | ⟨routeId, action, -, hOwned, hVersion⟩
        · exact hCarries route version hOld
        · obtain ⟨⟨row, hFind, hRow⟩, hState⟩ := owned_eq_ok hOwned
          exact ⟨hState, ⟨row, (findRoute_eq_some hFind).1, hRow ▸ .refl _⟩, hVersion⟩
  exact ⟨hBefore.state, hBefore.read.grow hGrow, hBefore.version⟩

/-- The terms under which requests share the routes. -/
theorem routesContract (host : Host) : Contract (serviceRules host)
    (fun system input => drawsFresh system input = true) RoutesSound CarriesDraft RoutesGrow where
  refl := .refl
  arrives := by
    intro system arrival _ _ route version hDraft
    exact absurd hDraft (arrival_draft arrival)
  moves := by
    intro system index moment flight hSound hFlight hCarries hFresh
    obtain ⟨hNext, hGrow⟩ := move_routes host hSound hFlight hCarries hFresh
    exact ⟨hNext, hGrow, move_carries hGrow hCarries⟩
  operates := by
    intro system call hSound _
    have hSame := operate_routes host call hSound
    exact ⟨hSound.of_eq hSame, .of_eq hSame⟩
  stable := by
    intro s t flight _ hGrow hCarries route version hDraft
    have hKnown := hCarries route version hDraft
    exact ⟨hKnown.state, hKnown.read.grow hGrow, hKnown.version⟩

/-- Every system reached from the empty one is sound. -/
def RoutesReached (system : ServiceSystem) : Prop := Sound RoutesSound CarriesDraft system

theorem routesReached_start : RoutesReached { store := {} } := by
  refine ⟨⟨List.nodup_nil, ?_⟩, ?_⟩
  · rintro row ⟨⟩
  · rintro flight ⟨⟩

end Contract

end CyreneExchange.Product
