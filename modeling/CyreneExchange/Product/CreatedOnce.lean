import CyreneExchange.Product.Keys
import CyreneExchange.Product.Versions

/-! Drafts and API keys under idempotency keys. The key is looked up, and the
resource and its record are inserted, in one transaction of the store. -/
namespace CyreneExchange.Product

open Integrations (UUID CollisionFree)
open Flights Machine Transaction

/-- The secret that an answer discloses. -/
def ServiceAnswer.secret : ServiceAnswer → Option String
  | .createdApiKey created => created.secret
  | .resource _ | .apiKey _ => none

/-- Exactly one row of a new id and the record of its key have been added. -/
inductive Created (host : Host) (flight : ServiceFlight) (moment : Moment) (s : ExchangeStore) :
    ExchangeStore → Prop
  | draft (command : DraftCommand) (key : String)
      (hRequest : flight.request = .createDraft command key)
      (hOpen : s.findIdempotency (command.scope host flight.principal) key = none)
      (hNew : ∀ row ∈ s.routes, row.id ≠ moment.draw) :
      Created host flight moment s { s with
        routes := s.routes ++ [(command.route flight.principal moment).row]
        idempotency := s.idempotency ++ [⟨command.scope host flight.principal, key,
          command.digest host flight.principal, moment.draw⟩] }
  | apiKey (command : CreateApiKeyRequest) (key : String)
      (hRequest : flight.request = .createApiKey command (some key))
      (hOpen : s.findIdempotency (CreateApiKeyRequest.scope host flight.principal) key = none)
      (hNew : ∀ row ∈ s.credentials, row.apiKeyId ≠ some moment.draw) :
      Created host flight moment s { s with
        credentials := s.credentials ++ [(command.apiKey flight.principal moment).credentialRow host
          (host.hexdigest moment.secret) moment.unixMs]
        idempotency := s.idempotency ++ [⟨CreateApiKeyRequest.scope host flight.principal, key,
          command.digest host flight.principal, moment.draw⟩] }

/-- The request has what it needs to create its resource in this step: what its
command asks for is permitted, and what it draws is new. -/
def ServiceFlight.Passes (host : Host) (moment : Moment) (flight : ServiceFlight)
    (s : ExchangeStore) : Prop :=
  match flight.stage with
  | .drafting command _ =>
      s.Permits (command.route flight.principal moment) command.reactorSourceEndpointId
          command.workspaceBindingRoute ∧
        (s.getEndpoint command.endpointId).isSome = true ∧ ∀ row ∈ s.routes, row.id ≠ moment.draw
  | .issuing command _ =>
      command.refusal flight.principal moment = none ∧ ∀ found ∈ s.credentials,
        ¬ ((command.apiKey flight.principal moment).credentialRow host
          (host.hexdigest moment.secret) moment.unixMs).Clashes found
  | _ => False

/-- What a request for a draft or an API key can do in one step. -/
inductive CreationMove (host : Host) (moment : Moment) (flight : ServiceFlight)
    (slot : IdempotencyScope × String) (s : ExchangeStore) : ServiceStage → ExchangeStore → Prop
  | ended (outcome : Except Failure ServiceAnswer) (hStage : flight.stage = .done outcome) :
      CreationMove host moment flight slot s (.done outcome) s
  | located (command : DraftCommand) (key : String) (hStage : flight.stage = .locating command key) :
      CreationMove host moment flight slot s (.drafting command key) s
  | failed (failure : Failure) : CreationMove host moment flight slot s (.done (.error failure)) s
  | replayed (answer : ServiceAnswer) (row : IdempotencyRow)
      (hFind : s.findIdempotency slot.1 slot.2 = some row)
      (hHash : row.requestHash = host.hexdigest (flight.request.source host flight.principal))
      (hId : answer.id = row.resourceId) (hSecret : answer.secret = none) :
      CreationMove host moment flight slot s (.done (.ok answer)) s
  | created (answer : ServiceAnswer) (t : ExchangeStore) (hCreated : Created host flight moment s t)
      (hId : answer.id = moment.draw)
      (hSecret : ∀ secret, answer.secret = some secret → secret = moment.secret) :
      CreationMove host moment flight slot s (.done (.ok answer)) t

/-- A creation closes the slot of its request. -/
theorem Created.recorded {host : Host} {flight : ServiceFlight} {moment : Moment}
    {s t : ExchangeStore} {slot : IdempotencyScope × String} (h : Created host flight moment s t)
    (hSlot : flight.request.slot host flight.principal = some slot) :
    s.findIdempotency slot.1 slot.2 = none ∧ t.findIdempotency slot.1 slot.2 =
      some ⟨slot.1, slot.2, host.hexdigest (flight.request.source host flight.principal),
        moment.draw⟩ := by
  cases h with
  | draft command key hRequest hOpen hNew =>
      rw [hRequest] at hSlot ⊢
      obtain rfl := Option.some.inj hSlot
      exact ⟨hOpen, findIdempotency_append ⟨_, key, command.digest host flight.principal,
        moment.draw⟩ rfl hOpen⟩
  | apiKey command key hRequest hOpen hNew =>
      rw [hRequest] at hSlot ⊢
      obtain rfl := Option.some.inj hSlot
      exact ⟨hOpen, findIdempotency_append ⟨_, key, command.digest host flight.principal,
        moment.draw⟩ rfl hOpen⟩

/-- The documents of routes carry the ids of their rows. -/
def DocumentIds (s : ExchangeStore) : Prop := ∀ row ∈ s.routes, row.document.id = row.id

section Steps

variable {host : Host} {principal : ProductPrincipal} {moment : Moment} {s : ExchangeStore}
  {stage : ServiceStage} {slot : IdempotencyScope × String}

theorem serves_draft {command : DraftCommand} {key : String}
    (h : stage.Serves (.createDraft command key)) :
    stage = .locating command key ∨ stage = .drafting command key ∨
      ∃ outcome, stage = .done outcome := by
  cases stage with
  | locating command' key' =>
      cases h
      exact Or.inl rfl
  | drafting command' key' =>
      cases h
      exact Or.inr (Or.inl rfl)
  | done outcome => exact Or.inr (Or.inr ⟨outcome, rfl⟩)
  | resolving command' key' | saving command' key' | remembering command' key' resource =>
      cases command' <;> cases h
  | replaying command' resourceId =>
      obtain ⟨key', h⟩ := h
      cases command' <;> cases h
  | reading routeId action => cases action <;> cases h
  | permitting | inspecting | validating | publishing =>
      obtain ⟨routeId, h | h⟩ := h <;> cases h
  | editing | disabling =>
      obtain ⟨otherId, h⟩ := h
      cases h
  | finding | checking | issuing | owning | revoking => cases h

theorem serves_apiKey {command : CreateApiKeyRequest} {key : Option String}
    (h : stage.Serves (.createApiKey command key)) :
    stage = .issuing command key ∨ ∃ outcome, stage = .done outcome := by
  cases stage with
  | issuing command' key' =>
      cases h
      exact Or.inl rfl
  | done outcome => exact Or.inr ⟨outcome, rfl⟩
  | resolving command' key' | saving command' key' | remembering command' key' resource =>
      cases command' <;> cases h
  | replaying command' resourceId =>
      obtain ⟨key', h⟩ := h
      cases command' <;> cases h
  | reading routeId action => cases action <;> cases h
  | permitting | inspecting | validating | publishing =>
      obtain ⟨routeId, h | h⟩ := h <;> cases h
  | editing | disabling =>
      obtain ⟨otherId, h⟩ := h
      cases h
  | finding | locating | drafting | checking | owning | revoking => cases h

theorem storeStep_documentIds (call : StoreCall) (h : DocumentIds s) :
    DocumentIds (storeStep host call s).2 := by
  have hWrite := storeStep_routes host call s
  unfold DocumentIds
  generalize (storeStep host call s).2.routes = rows at hWrite ⊢
  cases hWrite with
  | kept => exact h
  | saved route hCall =>
      intro row hRow
      rcases List.mem_append.mp hRow with hOld | hNew
      · exact h row (Table.mem_deleteWhere.mp hOld).1
      · rw [List.mem_singleton.mp hNew]
        rfl
  | drafted route key digest scope _ _ hCall hFresh =>
      intro row hRow
      rcases List.mem_append.mp hRow with hOld | hNew
      · exact h row hOld
      · rw [List.mem_singleton.mp hNew]
        rfl
  | replaced route expected hCall found hFound hId hVersion =>
      intro row hRow
      obtain ⟨old, hOld, ⟨hWhere, rfl⟩ | ⟨-, rfl⟩⟩ := Table.mem_updateWhere.mp hRow
      · exact (of_decide_eq_true hWhere).symm
      · exact h row hOld
  | migrated hCall =>
      intro row hRow
      obtain ⟨old, hOld, ⟨-, rfl⟩ | ⟨-, rfl⟩⟩ := Table.mem_updateWhere.mp hRow
      · exact h old hOld
      · exact h row hOld

theorem getRoute_id (h : DocumentIds s) {routeId : UUID} {route : GatewayRoute}
    (hRoute : s.getRoute routeId = some route) : route.id = routeId := by
  obtain ⟨row, hFind, rfl⟩ := Option.map_eq_some_iff.mp hRoute
  obtain ⟨hRow, hId⟩ := findRoute_eq_some hFind
  exact (h row hRow).trans hId

/-- The step of a draft request. -/
theorem draft_move {command : DraftCommand} {key : String} (hIds : DocumentIds s)
    (hServes : stage.Serves (.createDraft command key)) :
    CreationMove host moment ⟨principal, .createDraft command key, stage⟩
      (command.scope host principal, key) s
      (ServiceFlight.move host moment ⟨principal, .createDraft command key, stage⟩ s).1.stage
      (ServiceFlight.move host moment ⟨principal, .createDraft command key, stage⟩ s).2 := by
  rcases serves_draft hServes with rfl | rfl | ⟨outcome, rfl⟩
  · simp only [ServiceFlight.move, ServiceStage.call, ServiceStage.proceeds]
    split
    · exact .failed _
    · exact .located command key rfl
  · simp only [ServiceFlight.move, ServiceStage.call, storeStep]
    rcases commit_cases (storeBody host (.createRouteDraft (command.route principal moment) key
        (command.digest host principal) (command.scope host principal)
        command.reactorSourceEndpointId command.workspaceBindingRoute)) s with
      ⟨answer, t, hBody, hStep⟩ | ⟨failure, -, hStep⟩
    · rw [hStep]
      obtain ⟨route, _, hCreate, hPure⟩ := bind_eq_ok.mp hBody
      cases hPure
      rcases createRouteDraft_eq_ok hCreate with ⟨rfl, row, hFind, hHash, hRoute⟩ |
        ⟨rfl, hOpen, hNone, rfl⟩
      · exact .replayed (.resource (.route route)) row hFind hHash (getRoute_id hIds hRoute) rfl
      · have hId : (command.route principal moment).id = moment.draw := by cases command <;> rfl
        have hCreated := @Created.draft host ⟨principal, .createDraft command key,
          .drafting command key⟩ moment s command key rfl hOpen (hId ▸ findRoute_eq_none hNone)
        rw [hId]
        exact .created (.resource (.route (command.route principal moment))) _ hCreated hId
          (by rintro secret ⟨⟩)
    · rw [hStep]
      exact .failed failure
  · exact .ended outcome rfl

/-- The step of an API key request. -/
theorem apiKey_move {command : CreateApiKeyRequest} {key : String}
    (hServes : stage.Serves (.createApiKey command (some key))) :
    CreationMove host moment ⟨principal, .createApiKey command (some key), stage⟩
      (CreateApiKeyRequest.scope host principal, key) s
      (ServiceFlight.move host moment ⟨principal, .createApiKey command (some key), stage⟩ s).1.stage
      (ServiceFlight.move host moment ⟨principal, .createApiKey command (some key), stage⟩ s).2 := by
  rcases serves_apiKey hServes with rfl | ⟨outcome, rfl⟩
  · cases hRefusal : command.refusal principal moment with
    | some failure =>
        simp only [ServiceFlight.move, ServiceStage.call, ServiceStage.proceeds, hRefusal]
        exact .failed failure
    | none =>
        simp only [ServiceFlight.move, ServiceStage.call, hRefusal, storeStep]
        rcases commit_cases (storeBody host (.createApiKey (command.apiKey principal moment)
            (host.hexdigest moment.secret) (some key) (command.digest host principal)
            (CreateApiKeyRequest.scope host principal) moment.unixMs)) s with
          ⟨answer, t, hBody, hStep⟩ | ⟨failure, -, hStep⟩
        · rw [hStep]
          obtain ⟨⟨apiKey, created⟩, _, hCreate, hPure⟩ := bind_eq_ok.mp hBody
          cases hPure
          rcases createApiKey_eq_ok hCreate with
            ⟨rfl, rfl, text, row, found, hKey, hFind, hHash, -, rfl⟩ | ⟨rfl, rfl, hOpen, hApart, rfl⟩
          · cases hKey
            exact .replayed (.createdApiKey ⟨found.apiKey host row.resourceId, none⟩) row hFind
              hHash rfl rfl
          · refine .created (.createdApiKey ⟨command.apiKey principal moment, some moment.secret⟩)
              _ (.apiKey command key rfl (hOpen key rfl) ?_) rfl ?_
            · intro row hRow hSame
              rcases (hApart row hRow).2.2 with hNone | hOther
              · rw [hSame] at hNone
                cases hNone
              · exact hOther hSame
            · intro secret hSecret
              exact (Option.some.inj hSecret).symm
        · rw [hStep]
          exact .failed failure
  · exact .ended outcome rfl

theorem draft_creates {command : DraftCommand} {key : String}
    (hOpen : s.findIdempotency (command.scope host principal) key = none)
    (hPasses : ServiceFlight.Passes host moment
      ⟨principal, .createDraft command key, .drafting command key⟩ s) :
    let flight : ServiceFlight := ⟨principal, .createDraft command key, .drafting command key⟩
    Created host flight moment s (flight.move host moment s).2 ∧
      ∃ answer, (flight.move host moment s).1.stage = .done (.ok answer) := by
  intro flight
  obtain ⟨hPermits, hEndpoint, hNew⟩ := hPasses
  have hId : (command.route principal moment).id = moment.draw := by cases command <;> rfl
  have hEndpointId : (command.route principal moment).endpointId = command.endpointId := by
    cases command <;> rfl
  have hAbsent : s.findRoute (command.route principal moment).id = none := by
    rw [hId]
    exact List.find?_eq_none.mpr fun row hRow => by simpa using hNew row hRow
  have hBody := createRouteDraft_of_open (command.digest host principal) hPermits hOpen
    (hEndpointId ▸ hEndpoint) hAbsent
  have hStep : storeStep host (.createRouteDraft (command.route principal moment) key
      (command.digest host principal) (command.scope host principal)
      command.reactorSourceEndpointId command.workspaceBindingRoute) s = (.ok (.route _), _) :=
    commit_of_ok ((bind_of_ok hBody).trans rfl)
  rw [move_of_call (show flight.stage.call host flight.principal moment = some _ from rfl), hStep]
  refine ⟨?_, _, rfl⟩
  rw [hId]
  exact .draft command key rfl hOpen hNew

theorem apiKey_creates {command : CreateApiKeyRequest} {key : String}
    (hOpen : s.findIdempotency (CreateApiKeyRequest.scope host principal) key = none)
    (hPasses : ServiceFlight.Passes host moment
      ⟨principal, .createApiKey command (some key), .issuing command (some key)⟩ s) :
    let flight : ServiceFlight :=
      ⟨principal, .createApiKey command (some key), .issuing command (some key)⟩
    Created host flight moment s (flight.move host moment s).2 ∧
      ∃ answer, (flight.move host moment s).1.stage = .done (.ok answer) := by
  intro flight
  obtain ⟨hAdmitted, hApart⟩ := hPasses
  have hBody := createApiKey_of_open (command.digest host principal) hOpen hApart
  have hStep : storeStep host (.createApiKey (command.apiKey principal moment)
      (host.hexdigest moment.secret) (some key) (command.digest host principal)
      (CreateApiKeyRequest.scope host principal) moment.unixMs) s = (.ok (.apiKey _ true), _) :=
    commit_of_ok ((bind_of_ok hBody).trans rfl)
  have hCall : flight.stage.call host flight.principal moment =
      some (.createApiKey (command.apiKey principal moment) (host.hexdigest moment.secret)
        (some key) (command.digest host principal) (CreateApiKeyRequest.scope host principal)
        moment.unixMs) := by
    simp only [flight, ServiceStage.call, hAdmitted]
  rw [move_of_call hCall, hStep]
  refine ⟨.apiKey command key rfl hOpen ?_, _, rfl⟩
  intro row hRow hSame
  exact hApart row hRow (Or.inr (Or.inr ⟨by rw [hSame]; rfl, hSame⟩))

/-- The scopes whose keys are recorded together with their resources. -/
def IdempotencyScope.isAtomic (scope : IdempotencyScope) : Bool :=
  match scope.kind with
  | .draft | .apiKey => true
  | .endpoint | .route => false

theorem creation_move {flight : ServiceFlight} (hIds : DocumentIds s) (hOrderly : flight.Orderly)
    (hSlot : flight.request.slot host flight.principal = some slot)
    (hAtomic : slot.1.isAtomic = true) :
    CreationMove host moment flight slot s (flight.move host moment s).1.stage
      (flight.move host moment s).2 := by
  obtain ⟨principal, request, stage⟩ := flight
  obtain ⟨scope, key⟩ := slot
  have hServes : stage.Serves request := hOrderly
  have hKind := slot_cases hSlot
  cases hScope : scope.kind with
  | draft =>
      rw [hScope] at hKind
      obtain ⟨command, rfl⟩ := hKind
      obtain rfl : command.scope host principal = scope := congrArg Prod.fst (Option.some.inj hSlot)
      exact draft_move hIds hServes
  | apiKey =>
      rw [hScope] at hKind
      obtain ⟨command, rfl⟩ := hKind
      obtain rfl : CreateApiKeyRequest.scope host principal = scope :=
        congrArg Prod.fst (Option.some.inj hSlot)
      exact apiKey_move hServes
  | endpoint | route => simp [IdempotencyScope.isAtomic, hScope] at hAtomic

/-- A request under an open key that has what it needs creates its resource. -/
theorem creates_of_passes {flight : ServiceFlight} (hOrderly : flight.Orderly)
    (hSlot : flight.request.slot host flight.principal = some slot)
    (hAtomic : slot.1.isAtomic = true) (hOpen : s.findIdempotency slot.1 slot.2 = none)
    (hPasses : flight.Passes host moment s) :
    Created host flight moment s (flight.move host moment s).2 ∧
      ∃ answer, (flight.move host moment s).1.stage = .done (.ok answer) := by
  obtain ⟨principal, request, stage⟩ := flight
  obtain ⟨scope, key⟩ := slot
  have hServes : stage.Serves request := hOrderly
  have hKind := slot_cases hSlot
  cases hScope : scope.kind with
  | draft =>
      rw [hScope] at hKind
      obtain ⟨command, rfl⟩ := hKind
      obtain rfl : command.scope host principal = scope := congrArg Prod.fst (Option.some.inj hSlot)
      rcases serves_draft hServes with rfl | rfl | ⟨outcome, rfl⟩
      · exact hPasses.elim
      · exact draft_creates hOpen hPasses
      · exact hPasses.elim
  | apiKey =>
      rw [hScope] at hKind
      obtain ⟨command, rfl⟩ := hKind
      obtain rfl : CreateApiKeyRequest.scope host principal = scope :=
        congrArg Prod.fst (Option.some.inj hSlot)
      rcases serves_apiKey hServes with rfl | ⟨outcome, rfl⟩
      · exact apiKey_creates hOpen hPasses
      · exact hPasses.elim
  | endpoint | route => simp [IdempotencyScope.isAtomic, hScope] at hAtomic

/-- Only a draft of a workspace needs a principal of an organization. -/
def ServiceArrival.Entitled (arrival : ServiceArrival) : Prop :=
  match arrival.request with
  | .createDraft command _ =>
      command.needsOrganization = true → arrival.principal.organizationId.isSome = true
  | _ => True

theorem unended_of_arrival {arrival : ServiceArrival} (hEntitled : arrival.Entitled)
    (hSlot : arrival.request.slot host arrival.principal = some slot)
    (hAtomic : slot.1.isAtomic = true) (outcome : Except Failure ServiceAnswer) :
    arrival.flight.stage ≠ .done outcome := by
  obtain ⟨principal, request⟩ := arrival
  obtain ⟨scope, key⟩ := slot
  have hKind := slot_cases hSlot
  cases hScope : scope.kind with
  | draft =>
      rw [hScope] at hKind
      obtain ⟨command, rfl⟩ := hKind
      simp only [ServiceArrival.flight, ServiceRequest.arrives]
      rw [if_neg]
      · cases command <;> simp
      · intro hRefused
        rw [Bool.and_eq_true, Option.isNone_iff_eq_none] at hRefused
        have hSome := hEntitled hRefused.1
        rw [hRefused.2] at hSome
        cases hSome
  | apiKey =>
      rw [hScope] at hKind
      obtain ⟨command, rfl⟩ := hKind
      simp [ServiceArrival.flight, ServiceRequest.arrives]
  | endpoint | route => simp [IdempotencyScope.isAtomic, hScope] at hAtomic

end Steps

section Runs

/-- The request creates its resource here. -/
def SlotMove.Creates {host : Host} {slot : IdempotencyScope × String}
    {e : Event ServiceSystem ServiceInput Unit} (move : SlotMove host slot e) : Prop :=
  Created host move.flight move.moment e.before.store e.after.store

/-- What holds of the slot of a draft or API key over a run. -/
structure CreatedOnce (host : Host) (inputs : List ServiceInput)
    (slot : IdempotencyScope × String) : Prop where
  begins : ∀ e ∈ trace (serviceStep host) inputs { store := {} }, ∀ arrival : ServiceArrival,
    e.input = .arrive arrival → arrival.request.slot host arrival.principal = some slot →
      arrival.Entitled → e.after.flights = e.before.flights ++ [arrival.flight] ∧
        ∀ outcome, arrival.flight.stage ≠ .done outcome
  locates : ∀ e ∈ trace (serviceStep host) inputs { store := {} },
    ∀ (move : SlotMove host slot e) command key, move.flight.stage = .locating command key →
      (e.before.store.getEndpoint command.endpointId).isSome = true →
        move.stage = .drafting command key
  creates : ∀ e ∈ trace (serviceStep host) inputs { store := {} }, ∀ move : SlotMove host slot e,
    e.before.store.findIdempotency slot.1 slot.2 = none →
      move.flight.Passes host move.moment e.before.store →
        move.Creates ∧ ∃ answer, move.Ends (.ok answer)
  once : (trace (serviceStep host) inputs { store := {} }).Pairwise fun e f =>
    ∀ (move : SlotMove host slot e) (move' : SlotMove host slot f), move.Creates → ¬ move'.Creates
  quiet : ∀ e ∈ trace (serviceStep host) inputs { store := {} }, ∀ move : SlotMove host slot e,
    e.after.store = e.before.store ∨ move.Creates
  returned : ∀ earlier e later, trace (serviceStep host) inputs { store := {} } =
      earlier ++ e :: later → ∀ (move : SlotMove host slot e) answer, move.Ends (.ok answer) →
    ∃ c ∈ earlier ++ [e], ∃ creator : SlotMove host slot c, creator.Creates ∧
      answer.id = creator.moment.draw ∧ creator.flight.request.body = move.flight.request.body
  disclosed : ∀ e ∈ trace (serviceStep host) inputs { store := {} },
    ∀ (move : SlotMove host slot e) answer secret, move.Ends (.ok answer) →
      answer.secret = some secret → move.Creates ∧ secret = move.moment.secret
  refused : ∀ earlier e later, trace (serviceStep host) inputs { store := {} } =
      earlier ++ e :: later → ∀ c ∈ earlier, ∀ creator : SlotMove host slot c, creator.Creates →
    ∀ move : SlotMove host slot e, move.flight.request.body ≠ creator.flight.request.body →
      (∀ outcome, move.flight.stage ≠ .done outcome) →
        e.after.store = e.before.store ∧ ((∃ failure, move.Ends (.error failure)) ∨
          ∃ command key, move.flight.stage = .locating command key)

variable {host : Host} {inputs : List ServiceInput} {slot : IdempotencyScope × String}
  {e : Event ServiceSystem ServiceInput Unit}

theorem documentIds_before (host : Host) (inputs : List ServiceInput) :
    ∀ e ∈ trace (serviceStep host) inputs { store := {} }, DocumentIds e.before.store := by
  intro e he
  have hPreserved : Preserves (serviceStep host) (fun _ _ => True)
      fun system => DocumentIds system.store :=
    fun system input hIds _ =>
      serviceStep_store (fun call s => storeStep_documentIds call) input hIds
  have hStart : DocumentIds ({ store := {} } : ServiceSystem).store := by
    rintro row ⟨⟩
  exact (hPreserved.trace hStart (admitted_of_forall (fun _ _ => trivial) inputs _) e he).1

/-- The step rule, at an event of a run. -/
theorem SlotMove.creation (he : e ∈ trace (serviceStep host) inputs { store := {} })
    (hAtomic : slot.1.isAtomic = true) (move : SlotMove host slot e) :
    CreationMove host move.moment move.flight slot e.before.store move.stage e.after.store := by
  rw [move.store_eq he]
  exact creation_move (documentIds_before host inputs e he) (move.orderly he) move.ofSlot hAtomic

/-- The record found for an atomic slot was written by its creator. -/
theorem creator_of_found (hAtomic : slot.1.isAtomic = true) {row : IdempotencyRow}
    {earlier later : List (Event ServiceSystem ServiceInput Unit)}
    (hTrace : trace (serviceStep host) inputs { store := {} } = earlier ++ e :: later)
    (hFind : e.before.store.findIdempotency slot.1 slot.2 = some row) :
    ∃ c ∈ earlier, ∃ creator : SlotMove host slot c, creator.Creates ∧
      row = ⟨slot.1, slot.2, host.hexdigest
        (creator.flight.request.source host creator.flight.principal), creator.moment.draw⟩ := by
  obtain ⟨c, hc, index, moment, flight, call, hInput, hFlight, hCall, hRecord, hOpen, -, hRows⟩ :=
    found_records hTrace hFind
  have hEvent : c ∈ trace (serviceStep host) inputs { store := {} } := by
    rw [hTrace]
    exact List.mem_append_left _ hc
  obtain ⟨hScope, hKey⟩ := findIdempotency_eq_some hFind
  have hOrderly := ((arrivedIn_events host inputs c hEvent).1 flight
    (List.mem_of_getElem? hFlight)).1
  have hSlot : flight.request.slot host flight.principal = some slot := by
    rw [(call_record hOrderly hCall hRecord).1, hScope, hKey]
  let creator : SlotMove host slot c := ⟨index, moment, flight, hInput, hFlight, hSlot⟩
  have hCreates : creator.Creates := by
    have hMove := creator.creation hEvent hAtomic
    have hChanged : c.after.store ≠ c.before.store := by
      intro hSame
      rw [hSame] at hRows
      simpa using congrArg List.length hRows
    unfold SlotMove.Creates
    generalize creator.stage = stage at hMove
    generalize c.after.store = t at hMove hChanged ⊢
    cases hMove with
    | created answer t hCreated _ _ => exact hCreated
    | ended | located | failed | replayed => exact absurd rfl hChanged
  refine ⟨c, hc, creator, hCreates, ?_⟩
  have hFound := findIdempotency_append row hRows hOpen
  rw [hScope, hKey] at hFound
  exact Option.some.inj (hFound.symm.trans (hCreates.recorded hSlot).2)

/-- Under one key a draft or API key is created once, by the first request that
has what it needs; every request that succeeds returns it, only the one that
created it discloses the secret, and another body is refused. -/
theorem created_once (host : Host) (inputs : List ServiceInput) (slot : IdempotencyScope × String)
    (hAtomic : slot.1.isAtomic = true)
    (hFree : CollisionFree host.hexdigest (hashedTexts host inputs)) :
    CreatedOnce host inputs slot := by
  refine ⟨?_, ?_, ?_, ?_, ?_, ?_, ?_, ?_⟩
  · intro e he arrival hInput hSlot hEntitled
    refine ⟨?_, unended_of_arrival hEntitled hSlot hAtomic⟩
    rw [(arrivedIn_events host inputs e he).2, hInput]
    rfl
  · intro e he move command key hStage hEndpoint
    unfold SlotMove.stage
    rw [move_of_none (by rw [hStage]; rfl), hStage]
    obtain ⟨endpoint, hFound⟩ := Option.isSome_iff_exists.mp hEndpoint
    simp only [ServiceStage.proceeds, hFound]
  · intro e he move hOpen hPasses
    obtain ⟨hCreated, answer, hAnswer⟩ :=
      creates_of_passes (move.orderly he) move.ofSlot hAtomic hOpen hPasses
    refine ⟨?_, answer, hAnswer, ?_⟩
    · unfold SlotMove.Creates
      rw [move.store_eq he]
      exact hCreated
    · intro outcome hDone
      rw [ServiceFlight.Passes, hDone] at hPasses
      exact hPasses
  · refine (records_stay host inputs).imp ?_
    intro e f hStays move move' hCreates hCreates'
    have hClosed := hStays _ _ _ (hCreates.recorded move.ofSlot).2
    rw [(hCreates'.recorded move'.ofSlot).1] at hClosed
    cases hClosed
  · intro e he move
    have hMove := move.creation he hAtomic
    unfold SlotMove.Creates
    generalize move.stage = stage at hMove
    generalize e.after.store = t at hMove ⊢
    cases hMove with
    | created answer t hCreated _ _ => exact Or.inr hCreated
    | ended | located | failed | replayed => exact Or.inl rfl
  · intro earlier e later hTrace move answer hEnds
    have he : e ∈ trace (serviceStep host) inputs { store := {} } := by
      rw [hTrace]
      exact List.mem_append_right _ List.mem_cons_self
    have hMove := move.creation he hAtomic
    have hOutcome := hEnds.1
    generalize move.stage = stage at hMove hOutcome
    generalize hAfter : e.after.store = t at hMove
    cases hMove with
    | ended outcome hStage => exact absurd hStage (hEnds.2 outcome)
    | located | failed => cases hOutcome
    | replayed answer' row hFind hHash hId _ =>
        cases hOutcome
        obtain ⟨c, hc, creator, hCreates, rfl⟩ := creator_of_found hAtomic hTrace hFind
        have hEvent : c ∈ trace (serviceStep host) inputs { store := {} } := by
          rw [hTrace]
          exact List.mem_append_left _ hc
        exact ⟨c, List.mem_append_left _ hc, creator, hCreates, hId,
          SlotMove.body_eq hFree hEvent he creator move hHash⟩
    | created answer' t hCreated hId _ =>
        cases hOutcome
        refine ⟨e, List.mem_append_right _ (List.mem_singleton.mpr rfl), move, ?_, hId, rfl⟩
        unfold SlotMove.Creates
        rw [hAfter]
        exact hCreated
  · intro e he move answer secret hEnds hSecret
    have hMove := move.creation he hAtomic
    have hOutcome := hEnds.1
    unfold SlotMove.Creates
    generalize move.stage = stage at hMove hOutcome
    generalize e.after.store = t at hMove ⊢
    cases hMove with
    | ended outcome hStage => exact absurd hStage (hEnds.2 outcome)
    | located | failed => cases hOutcome
    | replayed answer' row _ _ _ hNone =>
        cases hOutcome
        rw [hNone] at hSecret
        cases hSecret
    | created answer' t hCreated _ hDisclosed =>
        cases hOutcome
        exact ⟨hCreated, hDisclosed secret hSecret⟩
  · intro earlier e later hTrace c hc creator hCreates move hOther hUnended
    have he : e ∈ trace (serviceStep host) inputs { store := {} } := by
      rw [hTrace]
      exact List.mem_append_right _ List.mem_cons_self
    have hEvent : c ∈ trace (serviceStep host) inputs { store := {} } := by
      rw [hTrace]
      exact List.mem_append_left _ hc
    have hClosed := record_stays hTrace hc (hCreates.recorded creator.ofSlot).2
    have hMove := move.creation he hAtomic
    unfold SlotMove.Ends
    generalize move.stage = stage at hMove ⊢
    generalize e.after.store = t at hMove ⊢
    cases hMove with
    | ended outcome hStage => exact absurd hStage (hUnended outcome)
    | located command key hStage => exact ⟨rfl, Or.inr ⟨command, key, hStage⟩⟩
    | failed failure => exact ⟨rfl, Or.inl ⟨failure, rfl, hUnended⟩⟩
    | replayed answer row hFind hHash _ _ =>
        obtain rfl := Option.some.inj (hFind.symm.trans hClosed)
        exact absurd (SlotMove.body_eq hFree he hEvent move creator hHash.symm) hOther
    | created answer t hCreated _ _ =>
        rw [(hCreated.recorded move.ofSlot).1] at hClosed
        cases hClosed

end Runs

/-- Two requests for one key of one slot, the second while the first is under way. -/
def sampleKeyRace : List ServiceInput := [
  sampleArrival (.createApiKey { name := ⟨"key", by decide +kernel⟩ } (some "once")),
  sampleArrival (.createApiKey { name := ⟨"key", by decide +kernel⟩ } (some "once")),
  sampleAdvance 1 'k', sampleAdvance 0 'l']

/-- The second request creates the key and is told its secret; the first one
gets the same key without it. -/
theorem created_once_sample :
    CreatedOnce sampleHost sampleKeyRace (.createApiKey, "once") ∧
      let system := run (serviceStep sampleHost) sampleKeyRace { store := {} }
      system.store.credentials.map CredentialRow.apiKeyId = [some (sampleUuid 'k')] ∧
        system.store.idempotency.map IdempotencyRow.resourceId = [sampleUuid 'k'] ∧
        system.flights.map (fun flight => match flight.stage with
          | .done (.ok answer) => some (answer.id, answer.secret)
          | _ => none) = [some (sampleUuid 'k', none), some (sampleUuid 'k', some "cyk_")] :=
  ⟨created_once _ _ _ rfl (by unfold CollisionFree; decide +kernel), by decide +kernel⟩

end CyreneExchange.Product
