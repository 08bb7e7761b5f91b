import CyreneExchange.General.OrderBy
import CyreneExchange.Product.Requests
import CyreneExchange.Product.Versions
import Mathlib

/-! Routing over the stored routes. The queries read the scope columns, and the
planner asks them for the scope of the principal. -/
namespace CyreneExchange.Product

open Gateway (Str RequestPrincipal RouteTarget fnmatchcase)
open Integrations (UUID)
open Flights Machine

section Queries

/-- `ORDER BY priority ASC, id ASC`. -/
def RouteRow.order (row : RouteRow) : Priority ×ₗ String := toLex (row.priority, row.id.text)

/-- The routes that a query over `gateway_routes` returns. -/
def ExchangeStore.selectRoutes (s : ExchangeStore) (selected : RouteRow → Bool) :
    List GatewayRoute :=
  (Table.orderBy RouteRow.order (s.routes.filter selected)).map RouteRow.route

/-- `active_routes`: an incomplete scope has no routes. -/
def ExchangeStore.activeRoutes (s : ExchangeStore) (endpointId : UUID)
    (organizationId workspaceId : Option Str) : Except Failure (List GatewayRoute) :=
  match organizationId with
  | none =>
      if workspaceId.isSome then .ok []
      else .ok (s.selectRoutes fun row => decide (row.endpointId = endpointId) &&
        decide (row.state = .active) && row.organizationId.isNone)
  | some organizationId =>
      match workspaceId with
      | none | some [] => .ok []
      | some workspaceId =>
          if storable [some organizationId, some workspaceId] then
            .ok (s.selectRoutes fun row => decide (row.endpointId = endpointId) &&
              decide (row.state = .active) &&
              decide (row.organizationId.map Gateway.text = some organizationId) &&
              decide (row.workspaceId.map Gateway.text = some workspaceId))
          else .error .unicodeEncodeError

/-- `list_active_routes`: the unscoped ones, of every endpoint. -/
def ExchangeStore.listActiveRoutes (s : ExchangeStore) : List GatewayRoute :=
  s.selectRoutes fun row => decide (row.state = .active) && row.organizationId.isNone

end Queries

section Planner

/-- The target that a planned route stands for. -/
def GatewayRoute.target (route : GatewayRoute) : RouteTarget where
  providerRef := Gateway.text route.targetBindingId.text
  routeId := Gateway.text route.id.text
  model := route.targetModel.map fun model => Gateway.text model.text

/-- `fnmatchcase(request.model, route.model_pattern)`. -/
def GatewayRoute.serves (route : GatewayRoute) (model : Str) : Bool :=
  fnmatchcase model (Gateway.text route.modelPattern.text)

structure StoredRoutePlanner where
  endpointId : UUID

namespace StoredRoutePlanner

variable (planner : StoredRoutePlanner) (s : ExchangeStore)

/-- `_plan_for_scope`. -/
def planForScope (model : Str) (organizationId workspaceId : Option Str) :
    Except Failure (List RouteTarget) :=
  match s.getEndpoint planner.endpointId with
  | none => .ok []
  | some endpoint =>
      if endpoint.state ≠ .active then .ok []
      else
        (s.activeRoutes endpoint.id organizationId workspaceId).map fun routes =>
          (routes.filter fun route => route.serves model).map GatewayRoute.target

def planForPrincipal (principal : RequestPrincipal) (model : Str) :
    Except Failure (List RouteTarget) :=
  planner.planForScope s model principal.organizationId
    (principal.organizationId.map fun _ => principal.workspaceId)

end StoredRoutePlanner

end Planner

section Scopes

/-- The row lies in the scope of the principal: its columns are those of the
principal, and only unscoped rows serve a principal without an organization. -/
def RouteRow.inScope (row : RouteRow) (principal : RequestPrincipal) : Bool :=
  decide (row.organizationId.map Gateway.text = principal.organizationId) &&
    (principal.organizationId.isNone ||
      decide (row.workspaceId.map Gateway.text = some principal.workspaceId))

/-- What the planner selects for a principal. -/
def RouteRow.selectedFor (row : RouteRow) (endpointId : UUID) (principal : RequestPrincipal) :
    Bool :=
  decide (row.endpointId = endpointId) && decide (row.state = .active) && row.inScope principal

/-- A row of an organization names its workspace. -/
def RouteRow.Scoped (row : RouteRow) : Prop :=
  row.organizationId = none ∨ ∃ workspaceId, row.workspaceId = some workspaceId ∧
    nonblank workspaceId = true

variable {s : ExchangeStore} {row : RouteRow} {endpointId : UUID} {principal : RequestPrincipal}

theorem inScope_unscoped (h : principal.organizationId = none) :
    row.inScope principal = row.organizationId.isNone := by
  unfold RouteRow.inScope
  rw [h]
  cases row.organizationId <;> rfl

theorem inScope_organization {organizationId : Str}
    (h : principal.organizationId = some organizationId) :
    row.inScope principal = (decide (row.organizationId.map Gateway.text = some organizationId) &&
      decide (row.workspaceId.map Gateway.text = some principal.workspaceId)) := by
  unfold RouteRow.inScope
  rw [h]
  rfl

/-- No row of an organization lies in a workspace without a name. -/
theorem RouteRow.Scoped.not_nameless (h : row.Scoped) {organizationId : Str}
    (hOrganization : principal.organizationId = some organizationId)
    (hWorkspace : principal.workspaceId = []) : row.inScope principal = false := by
  rw [inScope_organization hOrganization, hWorkspace]
  rcases h with hNone | ⟨workspaceId, hStored, hNonblank⟩
  · simp [hNone]
  · have hText : workspaceId.toList ≠ [] := by
      intro hEmpty
      rw [String.toList_eq_nil_iff.mp hEmpty] at hNonblank
      cases hNonblank
    simp [hStored, Gateway.text, hText]

/-- The query of the planner selects by the scope of the principal, unless that
is no text SQLite takes. -/
theorem activeRoutes_cases (hScoped : ∀ row ∈ s.routes, row.Scoped) :
    s.activeRoutes endpointId principal.organizationId
        (principal.organizationId.map fun _ => principal.workspaceId) =
      .ok (s.selectRoutes fun row => row.selectedFor endpointId principal) ∨
    (s.activeRoutes endpointId principal.organizationId
        (principal.organizationId.map fun _ => principal.workspaceId) =
      .error .unicodeEncodeError ∧
      storable [principal.organizationId, some principal.workspaceId] = false) := by
  unfold RouteRow.selectedFor
  cases hOrganization : principal.organizationId with
  | none =>
      left
      simp only [inScope_unscoped hOrganization]
      rfl
  | some organizationId =>
      cases hWorkspace : principal.workspaceId with
      | nil =>
          left
          have hNothing : s.routes.filter (fun row => decide (row.endpointId = endpointId) &&
              decide (row.state = .active) && row.inScope principal) = [] := by
            apply List.filter_eq_nil_iff.mpr
            intro row hRow
            simp [(hScoped row hRow).not_nameless hOrganization hWorkspace]
          rw [ExchangeStore.selectRoutes, hNothing]
          rfl
      | cons head rest =>
          simp only [inScope_organization hOrganization, hWorkspace, ← Bool.and_assoc]
          cases hStorable : storable [some organizationId, some (head :: rest)] with
          | true =>
              left
              simp [ExchangeStore.activeRoutes, hStorable]
          | false =>
              right
              simp [ExchangeStore.activeRoutes, hStorable]

end Scopes

section Exact

variable {s : ExchangeStore} {planner : StoredRoutePlanner} {principal : RequestPrincipal}
  {model : Str}

/-- The rows that the planner offers a principal for a model. -/
structure RouteRow.Offered (row : RouteRow) (s : ExchangeStore) (planner : StoredRoutePlanner)
    (principal : RequestPrincipal) (model : Str) : Prop where
  stored : row ∈ s.routes
  endpoint : ∃ endpoint, s.getEndpoint planner.endpointId = some endpoint ∧ endpoint.state = .active
  endpointId : row.endpointId = planner.endpointId
  state : row.state = .active
  organization : row.organizationId.map Gateway.text = principal.organizationId
  workspace : principal.organizationId.isSome = true →
    row.workspaceId.map Gateway.text = some principal.workspaceId
  pattern : fnmatchcase model (Gateway.text row.document.modelPattern.text) = true

/-- The plan is the offered rows and no others, in the order of their priorities
and ids. Only a principal whose scope is no text for SQLite gets an error. -/
def PlansExactly (s : ExchangeStore) (planner : StoredRoutePlanner) (principal : RequestPrincipal)
    (model : Str) : Prop :=
  (∃ rows : List RouteRow,
    planner.planForPrincipal s principal model = .ok (rows.map fun row => row.route.target) ∧
      rows.Pairwise (fun row row' => row.order < row'.order) ∧
      ∀ row, row ∈ rows ↔ row.Offered s planner principal model) ∨
  (planner.planForPrincipal s principal model = .error .unicodeEncodeError ∧
    storable [principal.organizationId, some principal.workspaceId] = false)

/-- Rows of different ids have different places in the order. -/
theorem order_unique {rows : List RouteRow} (h : Table.KeysUnique RouteRow.id rows) :
    Table.KeysUnique RouteRow.order rows := by
  have hInjective : Function.Injective UUID.text := by
    rintro ⟨text, _⟩ ⟨text', _⟩ rfl
    rfl
  have hTexts : ((rows.map RouteRow.order).map fun place => (ofLex place).2).Nodup := by
    have hMapped := List.Nodup.map hInjective h
    rw [List.map_map] at hMapped ⊢
    exact hMapped
  exact List.Nodup.of_map _ hTexts

theorem offered_iff {row : RouteRow} {endpoint : GatewayEndpoint}
    (hEndpoint : s.getEndpoint planner.endpointId = some endpoint)
    (hActive : endpoint.state = .active) :
    row.Offered s planner principal model ↔
      (row ∈ s.routes ∧ row.selectedFor planner.endpointId principal = true) ∧
        row.route.serves model = true := by
  unfold RouteRow.selectedFor RouteRow.inScope
  constructor
  · intro h
    refine ⟨⟨h.stored, ?_⟩, h.pattern⟩
    have hWorkspace : (principal.organizationId.isNone ||
        decide (row.workspaceId.map Gateway.text = some principal.workspaceId)) = true := by
      cases hOrganization : principal.organizationId with
      | none => rfl
      | some organizationId => simp [h.workspace (by rw [hOrganization]; rfl)]
    simp only [h.endpointId, h.state, h.organization, hWorkspace, decide_true, Bool.and_self]
  · rintro ⟨⟨hRow, hSelected⟩, hPattern⟩
    simp only [Bool.and_eq_true, Bool.or_eq_true, decide_eq_true_eq] at hSelected
    obtain ⟨⟨hId, hState⟩, hOrganization, hWorkspace⟩ := hSelected
    refine ⟨hRow, ⟨endpoint, hEndpoint, hActive⟩, hId, hState, hOrganization, ?_, hPattern⟩
    intro hSome
    rcases hWorkspace with hNone | hSame
    · rw [Option.isNone_iff_eq_none.mp hNone] at hSome
      cases hSome
    · exact hSame

/-- A planner whose endpoint is not there, or disabled, offers nothing. -/
theorem plansExactly_closed
    (h : ∀ endpoint, s.getEndpoint planner.endpointId = some endpoint → endpoint.state ≠ .active) :
    PlansExactly s planner principal model := by
  refine Or.inl ⟨[], ?_, List.Pairwise.nil, ?_⟩
  · unfold StoredRoutePlanner.planForPrincipal StoredRoutePlanner.planForScope
    split
    · rfl
    · next endpoint hEndpoint =>
        rw [if_pos (h endpoint hEndpoint)]
        rfl
  · intro row
    constructor
    · rintro ⟨⟩
    · intro hOffered
      obtain ⟨endpoint, hEndpoint, hActive⟩ := hOffered.endpoint
      exact absurd hActive (h endpoint hEndpoint)

/-- What the stored routes and endpoints look like in every reachable store. -/
structure RoutingSound (s : ExchangeStore) : Prop where
  unique : Table.KeysUnique RouteRow.id s.routes
  endpoints : EndpointIds s
  scopes : ∀ row ∈ s.routes, row.Scoped

/-- The plan over an active endpoint, once the query has answered. -/
theorem plansExactly_open (h : RoutingSound s) {endpoint : GatewayEndpoint}
    (hEndpoint : s.getEndpoint planner.endpointId = some endpoint)
    (hActive : endpoint.state = .active) : PlansExactly s planner principal model := by
  have hPlan : planner.planForPrincipal s principal model =
      (s.activeRoutes planner.endpointId principal.organizationId
        (principal.organizationId.map fun _ => principal.workspaceId)).map fun routes =>
          (routes.filter fun route => route.serves model).map GatewayRoute.target := by
    simp [StoredRoutePlanner.planForPrincipal, StoredRoutePlanner.planForScope, hEndpoint, hActive,
      getEndpoint_id h.endpoints hEndpoint]
  unfold PlansExactly
  rw [hPlan]
  rcases activeRoutes_cases h.scopes with hRoutes | ⟨hFails, hScope⟩
  · rw [hRoutes]
    refine Or.inl ⟨(Table.orderBy RouteRow.order (s.routes.filter fun row =>
      row.selectedFor planner.endpointId principal)).filter fun row => row.route.serves model,
      ?_, ?_, ?_⟩
    · simp only [Except.map, ExchangeStore.selectRoutes, List.filter_map, List.map_map]
      rfl
    · have hUnique : Table.KeysUnique RouteRow.id (s.routes.filter fun row =>
          row.selectedFor planner.endpointId principal) :=
        List.Nodup.sublist (List.Sublist.map _ List.filter_sublist) h.unique
      exact (Table.orderBy_strict (order_unique hUnique)).filter _
    · intro row
      rw [List.mem_filter, Table.mem_orderBy, List.mem_filter]
      exact (offered_iff hEndpoint hActive).symm
  · rw [hFails]
    exact Or.inr ⟨rfl, hScope⟩

theorem plansExactly (h : RoutingSound s) (planner : StoredRoutePlanner)
    (principal : RequestPrincipal) (model : Str) : PlansExactly s planner principal model := by
  by_cases hOpen : ∃ endpoint, s.getEndpoint planner.endpointId = some endpoint ∧
      endpoint.state = .active
  · obtain ⟨endpoint, hEndpoint, hActive⟩ := hOpen
    exact plansExactly_open h hEndpoint hActive
  · apply plansExactly_closed
    intro endpoint hEndpoint hActive
    exact hOpen ⟨endpoint, hEndpoint, hActive⟩

end Exact

section Runs

variable {host : Host} {s : ExchangeStore} {moment : Moment} {flight : ServiceFlight}

theorem draft_written (command : DraftCommand) (principal : ProductPrincipal) (moment : Moment) :
    (command.route principal moment).state = .draft ∧
      (command.route principal moment).workspaceId = some principal.workspaceId := by
  cases command <;> exact ⟨rfl, rfl⟩

theorem workspace_nonblank (principal : ProductPrincipal) :
    nonblank principal.workspaceId = true := by
  have hPrincipal := principal.nonempty
  simp only [Bool.and_eq_true] at hPrincipal
  exact hPrincipal.1.1.2

/-- No call brings two rows of one id. -/
theorem storeStep_unique (call : StoreCall) (h : Table.KeysUnique RouteRow.id s.routes) :
    Table.KeysUnique RouteRow.id (storeStep host call s).2.routes := by
  have hWrite := storeStep_routes host call s
  generalize (storeStep host call s).2.routes = rows at hWrite ⊢
  cases hWrite with
  | kept => exact h
  | saved route hCall =>
      apply h.deleteWhere.append_singleton
      intro row hRow
      exact of_decide_eq_false (Table.mem_deleteWhere.mp hRow).2
  | drafted route key digest scope _ _ hCall hFresh => exact h.append_singleton hFresh
  | replaced => exact h.updateWhere fun _ _ _ => rfl
  | migrated => exact h.updateWhere fun _ _ _ => rfl

/-- A request carries drafts whose scope is complete. -/
def CarriesScoped (flight : ServiceFlight) : Prop :=
  ∀ route version, flight.stage.draft = some (route, version) → route.row.Scoped

theorem move_scopes (hScopes : ∀ row ∈ s.routes, row.Scoped) (hCarries : CarriesScoped flight) :
    ∀ row ∈ (flight.move host moment s).2.routes, row.Scoped := by
  have hMove := routeMove_cases host moment flight s
  generalize (flight.move host moment s).2.routes = rows at hMove ⊢
  intro row hRow
  cases hMove with
  | kept => exact hScopes row hRow
  | created command key route hStage hCreate =>
      rcases List.mem_append.mp hRow with hOld | hNew
      · exact hScopes row (Table.mem_deleteWhere.mp hOld).1
      · rw [List.mem_singleton.mp hNew]
        cases hCreate
        exact Or.inl rfl
  | drafted command hFresh =>
      rcases List.mem_append.mp hRow with hOld | hNew
      · exact hScopes row hOld
      · rw [List.mem_singleton.mp hNew]
        exact Or.inr ⟨flight.principal.workspaceId,
          (draft_written command flight.principal moment).2, workspace_nonblank flight.principal⟩
  | replaced route expected hCall found hFound hId hVersion =>
      obtain ⟨read, version, hDraft, ⟨-, -, hOrganization, hWorkspace⟩, -⟩ :=
        call_replace_draft hCall
      obtain ⟨old, hOld, ⟨-, rfl⟩ | ⟨-, rfl⟩⟩ := Table.mem_updateWhere.mp hRow
      · rcases hCarries read version hDraft with hNone | ⟨workspaceId, hSome, hNonblank⟩
        · exact Or.inl (hOrganization.trans hNone)
        · exact Or.inr ⟨workspaceId, hWorkspace.trans hSome, hNonblank⟩
      · exact hScopes row hOld

theorem move_carriesScoped (hScopes : ∀ row ∈ s.routes, row.Scoped)
    (hCarries : CarriesScoped flight) : CarriesScoped (flight.move host moment s).1 := by
  intro route version hDraft
  cases hCall : flight.stage.call host flight.principal moment with
  | some call =>
      rw [move_of_call hCall] at hDraft
      exact hCarries route version (answered_draft hDraft)
  | none =>
      rw [move_of_none hCall] at hDraft
      rcases proceeds_draft hDraft with hOld | ⟨routeId, action, -, hOwned, -⟩
      · exact hCarries route version hOld
      · obtain ⟨⟨row, hFind, rfl⟩, -⟩ := owned_eq_ok hOwned
        exact hScopes row (findRoute_eq_some hFind).1

theorem operate_scopes (call : OperatorCall) (hScopes : ∀ row ∈ s.routes, row.Scoped) :
    ∀ row ∈ (storeStep host (.operator call) s).2.routes, row.Scoped := by
  have hWrite := storeStep_routes host (.operator call) s
  generalize (storeStep host (.operator call) s).2.routes = rows at hWrite ⊢
  intro row hRow
  cases hWrite with
  | kept => exact hScopes row hRow
  | saved _ hCall => cases hCall
  | drafted _ _ _ _ _ _ hCall => cases hCall
  | replaced _ _ hCall => cases hCall
  | migrated _ =>
      obtain ⟨old, hOld, ⟨hWhere, rfl⟩ | ⟨-, rfl⟩⟩ := Table.mem_updateWhere.mp hRow
      · rcases hScopes old hOld with hNone | ⟨workspaceId, hSome, -⟩
        · exact Or.inl hNone
        · simp [hSome] at hWhere
      · exact hScopes row hOld

/-- The terms under which requests keep the routes fit for the planner. -/
theorem routingContract (host : Host) : Contract (serviceRules host) (fun _ _ => True)
    RoutingSound (fun _ => CarriesScoped) (fun _ _ => True) where
  refl := fun _ => trivial
  arrives := by
    intro system arrival _ _ route version hDraft
    exact absurd hDraft (arrival_draft arrival)
  moves := by
    intro system index moment flight hSound _ hCarries _
    refine ⟨⟨?_, ?_, move_scopes hSound.scopes hCarries⟩, trivial,
      move_carriesScoped hSound.scopes hCarries⟩
    · exact move_store (P := fun s => Table.KeysUnique RouteRow.id s.routes)
        (fun call _ => storeStep_unique call) hSound.unique
    · exact move_store (P := EndpointIds) (fun call _ => storeStep_endpointIds call)
        hSound.endpoints
  operates := by
    intro system call hSound _
    exact ⟨⟨storeStep_unique (.operator call) hSound.unique,
      storeStep_endpointIds (.operator call) hSound.endpoints,
      operate_scopes call hSound.scopes⟩, trivial⟩
  stable := fun _ _ _ _ _ hCarries => hCarries

theorem routingSound_empty : RoutingSound {} := by
  refine ⟨List.nodup_nil, ?_, ?_⟩
  · rintro row ⟨⟩
  · rintro row ⟨⟩

/-- Every reachable store is fit for the planner. -/
theorem routingSound_reached (host : Host) (inputs : List ServiceInput) :
    RoutingSound (run (serviceStep host) inputs { store := {} }).store := by
  have hStart : Sound RoutingSound (fun _ => CarriesScoped) ({ store := {} } : ServiceSystem) := by
    refine ⟨routingSound_empty, ?_⟩
    rintro flight ⟨⟩
  exact ((routingContract host).preserves.run hStart
    (admitted_of_forall (fun _ _ => trivial) inputs _)).1

end Runs

end CyreneExchange.Product
