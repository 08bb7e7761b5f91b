import CyreneExchange.Product.Stages

/-! Requests and their stages. A request in flight only ever stands at a stage
of its own, whatever the other requests and the operator do. -/
namespace CyreneExchange.Product

open Integrations (UUID)
open Flights Machine

/-- The request that sends a creation. -/
def CreateCommand.request (key : Option String) : CreateCommand → ServiceRequest
  | .endpoint command => .createEndpoint command key
  | .route command => .createRoute command key

/-- The request that acts on a draft. -/
def DraftAction.request (routeId : UUID) : DraftAction → ServiceRequest
  | .edit command => .editRouteDraft routeId command
  | .confirm version => .confirmRouteDraft routeId version
  | .confirmWorkspace version => .confirmWorkspaceRouteDraft routeId version

/-- A confirmation of this version, of either kind. -/
def ServiceRequest.Confirms (request : ServiceRequest) (version : Nat) : Prop :=
  ∃ routeId, request = .confirmRouteDraft routeId version ∨
    request = .confirmWorkspaceRouteDraft routeId version

/-- The requests that pass through a stage. -/
def ServiceStage.Serves : ServiceStage → ServiceRequest → Prop
  | .finding command key, request => request = .createRoute command key
  | .resolving command key, request | .saving command key, request
  | .remembering command key _, request => request = command.request key
  | .replaying command _, request => ∃ key, request = command.request (some key)
  | .locating command key, request | .drafting command key, request =>
      request = .createDraft command key
  | .reading routeId action, request => request = action.request routeId
  | .editing _ command, request => ∃ routeId, request = .editRouteDraft routeId command
  | .permitting _ version, request | .inspecting _ version, request
  | .validating _ version, request | .publishing _ version, request => request.Confirms version
  | .checking endpointId, request => request = .disableEndpoint endpointId
  | .disabling _, request => ∃ endpointId, request = .disableEndpoint endpointId
  | .issuing command key, request => request = .createApiKey command key
  | .owning apiKeyId, request | .revoking apiKeyId, request => request = .revokeApiKey apiKeyId
  | .done _, _ => True

section Stages

variable {host : Host} {principal : ProductPrincipal} {moment : Moment} {s : ExchangeStore}
  {stage : ServiceStage} {request : ServiceRequest}

theorem arrives_serves (principal : ProductPrincipal) (request : ServiceRequest) :
    (request.arrives principal).Serves request := by
  cases request with
  | createDraft command key =>
      simp only [ServiceRequest.arrives]
      split
      · trivial
      · cases command <;> rfl
  | _ => rfl

/-- An answer of the store leads to a stage of the same request. -/
theorem answered_serves {answer : Except Failure StoreAnswer} (h : stage.Serves request) :
    (stage.answered moment answer).Serves request := by
  have hStep := answered_cases moment stage answer
  generalize stage.answered moment answer = next at hStep ⊢
  cases hStep with
  | stays | saved => exact h
  | fails | answers => trivial

/-- So does a step that writes nothing. -/
theorem proceeds_serves (h : stage.Serves request) :
    (stage.proceeds host principal moment s).Serves request := by
  have hStep := proceeds_cases host principal moment s stage
  generalize stage.proceeds host principal moment s = next at hStep ⊢
  cases hStep with
  | recorded command key row hFind hHash => exact ⟨key, h⟩
  | edits routeId command route hOwned => exact ⟨routeId, h⟩
  | confirms routeId route hOwned => exact ⟨routeId, Or.inl h⟩
  | confirmsWorkspace routeId route hOwned => exact ⟨routeId, Or.inr h⟩
  | checked endpointId endpoint hEndpoint => exact ⟨endpointId, h⟩
  | stays | found | unrecorded | located | permitted | inspected | validated | owned => exact h
  | fails | replayedEndpoint | replayedRoute | answersDisabled => trivial

end Stages

/-- The request in flight stands at a stage of its own. -/
def ServiceFlight.Orderly (flight : ServiceFlight) : Prop := flight.stage.Serves flight.request

theorem move_orderly {host : Host} {moment : Moment} {flight : ServiceFlight}
    (s : ExchangeStore) (h : flight.Orderly) : (flight.move host moment s).1.Orderly := by
  unfold ServiceFlight.move
  split
  · exact proceeds_serves h
  · exact answered_serves h

/-- Every request in flight stands at a stage of its own. -/
def Orderly (system : ServiceSystem) : Prop := ∀ flight ∈ system.flights, flight.Orderly

theorem orderly_preserved (host : Host) :
    Preserves (serviceStep host) (fun _ _ => True) Orderly := by
  intro system input hOrderly _ flight hFlight
  rcases flight_mem_cases hFlight with hOld | ⟨arrival, -, rfl⟩ |
    ⟨index, moment, before, -, hBefore, rfl⟩
  · exact hOrderly flight hOld
  · exact arrives_serves arrival.principal arrival.request
  · exact move_orderly system.store (hOrderly before (List.mem_of_getElem? hBefore))

/-- The principal and the request of a flight are those it arrived with. -/
theorem move_request (host : Host) (moment : Moment) (flight : ServiceFlight) (s : ExchangeStore) :
    (flight.move host moment s).1.principal = flight.principal ∧
      (flight.move host moment s).1.request = flight.request := by
  unfold ServiceFlight.move
  split <;> exact ⟨rfl, rfl⟩

/-- What every call of the store preserves, every move preserves. -/
theorem move_store {host : Host} {P : ExchangeStore → Prop}
    (hStep : ∀ call s, P s → P (storeStep host call s).2) {moment : Moment}
    {flight : ServiceFlight} {s : ExchangeStore} (h : P s) : P (flight.move host moment s).2 := by
  unfold ServiceFlight.move
  split
  · exact h
  · exact hStep _ s h

/-- What every call of the store preserves, the system preserves. -/
theorem serviceStep_store {host : Host} {P : ExchangeStore → Prop}
    (hStep : ∀ call s, P s → P (storeStep host call s).2) {system : ServiceSystem}
    (input : ServiceInput) (h : P system.store) : P (serviceStep host input system).2.store := by
  rcases store_cases (serviceRules host) input system with hSame |
    ⟨index, moment, flight, -, -, hStore⟩ | ⟨call, -, hStore⟩
  · rw [serviceStep, hSame]
    exact h
  · rw [serviceStep, hStore]
    exact move_store hStep h
  · rw [serviceStep, hStore]
    exact hStep (.operator call) system.store h

end CyreneExchange.Product
