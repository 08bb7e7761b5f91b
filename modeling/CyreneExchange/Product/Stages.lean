import CyreneExchange.Product.Service

/-! What one step can do to a request: where requests arrive, where they
proceed without writing, and where an answer of the store leads. -/
namespace CyreneExchange.Product

open Integrations (UUID)
open Transaction

section Moves

variable {host : Host} {moment : Moment} {flight : ServiceFlight} {call : StoreCall}

/-- A request that calls a writing method of the store. -/
theorem move_of_call (h : flight.stage.call host flight.principal moment = some call)
    (s : ExchangeStore) : flight.move host moment s =
      ({ flight with stage := flight.stage.answered moment (storeStep host call s).1 },
        (storeStep host call s).2) := by
  rw [ServiceFlight.move, h]

/-- A request that writes nothing. -/
theorem move_of_none (h : flight.stage.call host flight.principal moment = none)
    (s : ExchangeStore) : flight.move host moment s =
      ({ flight with stage := flight.stage.proceeds host flight.principal moment s }, s) := by
  rw [ServiceFlight.move, h]

end Moves

/-- The writing calls of a request, one for each stage that makes one. -/
inductive Calls (host : Host) (principal : ProductPrincipal) (moment : Moment) :
    ServiceStage → StoreCall → Prop
  | savesEndpoint (command : CreateEndpointRequest) (key : Option String)
      (endpoint : GatewayEndpoint)
      (hCreate : CreateCommand.create moment (.endpoint command) = .endpoint endpoint) :
      Calls host principal moment (.saving (.endpoint command) key) (.saveEndpoint endpoint)
  | savesRoute (command : CreateRouteRequest) (key : Option String) (route : GatewayRoute)
      (hCreate : CreateCommand.create moment (.route command) = .route route) :
      Calls host principal moment (.saving (.route command) key) (.saveRoute route)
  | remembers (command : CreateCommand) (key : Option String) (resource : Resource) :
      Calls host principal moment (.remembering command key resource)
        (.rememberIdempotency command.scope key (command.digest host) resource.id)
  | drafts (command : DraftCommand) (key : String) :
      Calls host principal moment (.drafting command key)
        (.createRouteDraft (command.route principal moment) key (command.digest host principal)
          (command.scope host principal) command.reactorSourceEndpointId
          command.workspaceBindingRoute)
  | edits (read : GatewayRoute) (command : EditRouteDraftRequest) :
      Calls host principal moment (.editing read command)
        (.replaceRouteVersion (read.edited command moment.now) command.resourceVersion)
  | publishes (read : GatewayRoute) (version : Nat) :
      Calls host principal moment (.publishing read version)
        (.replaceRouteVersion (read.published version moment.now) version)
  | disables (endpoint : GatewayEndpoint) :
      Calls host principal moment (.disabling endpoint)
        (.saveEndpoint (endpoint.disabled moment.now))
  | issues (command : CreateApiKeyRequest) (key : Option String) :
      Calls host principal moment (.issuing command key)
        (.createApiKey (command.apiKey principal moment) (host.hexdigest moment.secret) key
          (command.digest host principal) (CreateApiKeyRequest.scope host principal)
          moment.unixMs)
  | revokes (apiKeyId : UUID) :
      Calls host principal moment (.revoking apiKeyId) (.revokeApiKey apiKeyId moment.unixMs)

theorem call_cases {host : Host} {principal : ProductPrincipal} {moment : Moment}
    {stage : ServiceStage} {call : StoreCall} (h : stage.call host principal moment = some call) :
    Calls host principal moment stage call := by
  cases stage with
  | saving command key =>
      cases command with
      | endpoint command =>
          cases h
          exact .savesEndpoint command key _ rfl
      | route command =>
          cases h
          exact .savesRoute command key _ rfl
  | remembering command key resource =>
      cases h
      exact .remembers command key resource
  | drafting command key =>
      cases h
      exact .drafts command key
  | editing read command =>
      cases h
      exact .edits read command
  | publishing read version =>
      cases h
      exact .publishes read version
  | disabling endpoint =>
      cases h
      exact .disables endpoint
  | issuing command key =>
      simp only [ServiceStage.call] at h
      split at h
      · cases h
      · cases h
        exact .issues command key
  | revoking apiKeyId =>
      cases h
      exact .revokes apiKeyId
  | _ => cases h

/-- The stages that requests arrive at. -/
def ServiceStage.isFirst : ServiceStage → Bool
  | .finding .. | .resolving .. | .locating .. | .drafting .. | .reading .. | .checking _
  | .issuing .. | .owning _ | .done _ => true
  | .replaying .. | .saving .. | .remembering .. | .editing .. | .permitting .. | .inspecting ..
  | .validating .. | .publishing .. | .disabling _ | .revoking _ => false

theorem arrives_isFirst (principal : ProductPrincipal) (request : ServiceRequest) :
    (request.arrives principal).isFirst = true := by
  cases request with
  | createDraft command key =>
      simp only [ServiceRequest.arrives]
      split
      · rfl
      · cases command <;> rfl
  | _ => rfl

/-- The steps of a request that write nothing. -/
inductive Proceeds (host : Host) (principal : ProductPrincipal) (moment : Moment)
    (s : ExchangeStore) : ServiceStage → ServiceStage → Prop
  | stays (stage : ServiceStage) : Proceeds host principal moment s stage stage
  | fails (stage : ServiceStage) (failure : Failure) :
      Proceeds host principal moment s stage (.done (.error failure))
  | found (command : CreateRouteRequest) (key : Option String) :
      Proceeds host principal moment s (.finding command key) (.resolving (.route command) key)
  | unrecorded (command : CreateCommand) (key : Option String)
      (hOpen : ∀ text, key = some text → s.findIdempotency command.scope text = none) :
      Proceeds host principal moment s (.resolving command key) (.saving command key)
  | recorded (command : CreateCommand) (key : String) (row : IdempotencyRow)
      (hFind : s.findIdempotency command.scope key = some row)
      (hHash : row.requestHash = command.digest host) :
      Proceeds host principal moment s (.resolving command (some key))
        (.replaying command row.resourceId)
  | replayedEndpoint (command : CreateEndpointRequest) (resourceId : UUID)
      (endpoint : GatewayEndpoint) (hEndpoint : s.getEndpoint resourceId = some endpoint) :
      Proceeds host principal moment s (.replaying (.endpoint command) resourceId)
        (.done (.ok (.resource (.endpoint endpoint))))
  | replayedRoute (command : CreateRouteRequest) (resourceId : UUID) (route : GatewayRoute)
      (hRoute : s.getRoute resourceId = some route) :
      Proceeds host principal moment s (.replaying (.route command) resourceId)
        (.done (.ok (.resource (.route route))))
  | located (command : DraftCommand) (key : String) :
      Proceeds host principal moment s (.locating command key) (.drafting command key)
  | edits (routeId : UUID) (command : EditRouteDraftRequest) (route : GatewayRoute)
      (hOwned : ownedDraft principal routeId s = .ok route) :
      Proceeds host principal moment s (.reading routeId (.edit command)) (.editing route command)
  | confirms (routeId : UUID) (route : GatewayRoute)
      (hOwned : ownedDraft principal routeId s = .ok route) :
      Proceeds host principal moment s (.reading routeId (.confirm route.resourceVersion))
        (.inspecting route route.resourceVersion)
  | confirmsWorkspace (routeId : UUID) (route : GatewayRoute)
      (hOwned : ownedWorkspaceDraft principal routeId s = .ok route) :
      Proceeds host principal moment s (.reading routeId (.confirmWorkspace route.resourceVersion))
        (.permitting route route.resourceVersion)
  | permitted (route : GatewayRoute) (version : Nat) :
      Proceeds host principal moment s (.permitting route version) (.inspecting route version)
  | inspected (route : GatewayRoute) (version : Nat) :
      Proceeds host principal moment s (.inspecting route version) (.validating route version)
  | validated (route : GatewayRoute) (version : Nat) (hPassed : moment.validation = none) :
      Proceeds host principal moment s (.validating route version) (.publishing route version)
  | answersDisabled (endpointId : UUID) (endpoint : GatewayEndpoint) :
      Proceeds host principal moment s (.checking endpointId)
        (.done (.ok (.resource (.endpoint endpoint))))
  | checked (endpointId : UUID) (endpoint : GatewayEndpoint)
      (hEndpoint : s.getEndpoint endpointId = some endpoint) :
      Proceeds host principal moment s (.checking endpointId) (.disabling endpoint)
  | owned (apiKeyId : UUID) :
      Proceeds host principal moment s (.owning apiKeyId) (.revoking apiKeyId)

section Proceeds

variable (host : Host) (principal : ProductPrincipal) (moment : Moment) (s : ExchangeStore)

theorem resolving_proceeds (command : CreateCommand) (key : Option String) :
    Proceeds host principal moment s (.resolving command key)
      ((ServiceStage.resolving command key).proceeds host principal moment s) := by
  simp only [ServiceStage.proceeds]
  cases key with
  | none => exact .unrecorded command none (by rintro text ⟨⟩)
  | some key =>
      rcases commit_cases (resolveIdempotency command.scope (some key) (command.digest host)) s
        with ⟨replay, t, hBody, hCommit⟩ | ⟨failure, -, hCommit⟩
      · rw [hCommit]
        cases replay with
        | none =>
            have hOpen := (resolveIdempotency_eq_ok hBody).2
            refine .unrecorded command (some key) ?_
            rintro text ⟨⟩
            exact hOpen
        | some resourceId =>
            obtain ⟨-, row, hFind, hHash, rfl⟩ := resolveIdempotency_eq_ok hBody
            exact .recorded command key row hFind hHash
      · rw [hCommit]
        exact .fails _ failure

theorem reading_proceeds (routeId : UUID) (action : DraftAction) :
    Proceeds host principal moment s (.reading routeId action)
      ((ServiceStage.reading routeId action).proceeds host principal moment s) := by
  simp only [ServiceStage.proceeds]
  cases hOwned : action.owned principal routeId s with
  | error failure => exact .fails _ failure
  | ok route =>
      cases action with
      | edit command => exact .edits routeId command route hOwned
      | confirm version =>
          by_cases hVersion : route.resourceVersion = version
          · subst hVersion
            simp only [DraftAction.begins, ne_eq, not_true_eq_false, if_false]
            exact .confirms routeId route hOwned
          · simp only [DraftAction.begins, ne_eq, hVersion, not_false_eq_true, if_true]
            exact .fails _ _
      | confirmWorkspace version =>
          by_cases hVersion : route.resourceVersion = version
          · subst hVersion
            simp only [DraftAction.begins, ne_eq, not_true_eq_false, if_false]
            exact .confirmsWorkspace routeId route hOwned
          · simp only [DraftAction.begins, ne_eq, hVersion, not_false_eq_true, if_true]
            exact .fails _ _

theorem replaying_proceeds (command : CreateCommand) (resourceId : UUID) :
    Proceeds host principal moment s (.replaying command resourceId)
      ((ServiceStage.replaying command resourceId).proceeds host principal moment s) := by
  cases command with
  | endpoint command =>
      simp only [ServiceStage.proceeds]
      cases hEndpoint : s.getEndpoint resourceId with
      | none => exact .fails _ _
      | some endpoint => exact .replayedEndpoint command resourceId endpoint hEndpoint
  | route command =>
      simp only [ServiceStage.proceeds]
      cases hRoute : s.getRoute resourceId with
      | none => exact .fails _ _
      | some route => exact .replayedRoute command resourceId route hRoute

/-- One case for each stage, and each outcome of it. -/
theorem proceeds_cases (stage : ServiceStage) :
    Proceeds host principal moment s stage (stage.proceeds host principal moment s) := by
  cases stage with
  | resolving command key => exact resolving_proceeds host principal moment s command key
  | reading routeId action => exact reading_proceeds host principal moment s routeId action
  | replaying command resourceId =>
      exact replaying_proceeds host principal moment s command resourceId
  | finding command key =>
      simp only [ServiceStage.proceeds]
      split
      · exact .fails _ _
      · exact .found command key
  | locating command key =>
      simp only [ServiceStage.proceeds]
      split
      · exact .fails _ _
      · exact .located command key
  | permitting route version =>
      simp only [ServiceStage.proceeds]
      split
      · exact .permitted route version
      · exact .fails _ _
  | inspecting route version =>
      simp only [ServiceStage.proceeds]
      split
      · exact .fails _ _
      · split
        · exact .fails _ _
        · exact .inspected route version
  | validating route version =>
      simp only [ServiceStage.proceeds]
      cases hPassed : moment.validation with
      | some failure => exact .fails _ failure
      | none => exact .validated route version hPassed
  | checking endpointId =>
      simp only [ServiceStage.proceeds]
      cases hEndpoint : s.getEndpoint endpointId with
      | none => exact .fails _ _
      | some endpoint =>
          by_cases hDisabled : endpoint.state = .disabled
          · simp only [hDisabled, if_true]
            exact .answersDisabled endpointId endpoint
          · simp only [hDisabled, if_false]
            exact .checked endpointId endpoint hEndpoint
  | issuing command key =>
      simp only [ServiceStage.proceeds]
      split
      · exact .fails _ _
      · exact .stays _
  | owning apiKeyId =>
      simp only [ServiceStage.proceeds]
      split
      · exact .fails _ _
      · exact .fails _ _
      · split
        · exact .owned apiKeyId
        · exact .fails _ _
  | saving | remembering | drafting | editing | publishing | disabling | revoking | done =>
      exact .stays _

end Proceeds

/-- Where an answer of the store leads. -/
inductive Answered (moment : Moment) :
    ServiceStage → Except Failure StoreAnswer → ServiceStage → Prop
  | stays (stage : ServiceStage) (answer : Except Failure StoreAnswer) :
      Answered moment stage answer stage
  | fails (stage : ServiceStage) (answer : Except Failure StoreAnswer) (failure : Failure) :
      Answered moment stage answer (.done (.error failure))
  | saved (command : CreateCommand) (key : Option String) (answer : StoreAnswer) :
      Answered moment (.saving command key) (.ok answer)
        (.remembering command key (command.create moment))
  | answers (stage : ServiceStage) (stored : StoreAnswer) (answer : ServiceAnswer) :
      Answered moment stage (.ok stored) (.done (.ok answer))

theorem answered_cases (moment : Moment) (stage : ServiceStage)
    (answer : Except Failure StoreAnswer) :
    Answered moment stage answer (stage.answered moment answer) := by
  cases stage with
  | done outcome => cases answer <;> exact .stays _ _
  | saving command key =>
      cases answer with
      | error failure => exact .fails _ _ failure
      | ok stored => exact .saved command key stored
  | _ =>
      cases answer with
      | error failure => exact .fails _ _ failure
      | ok stored =>
          cases stored with
          | revoked apiKey =>
              cases apiKey <;>
                first | exact .stays _ _ | exact .answers _ _ _ | exact .fails _ _ _
          | _ => first | exact .stays _ _ | exact .answers _ _ _

end CyreneExchange.Product
