import CyreneExchange.Product.CreatedOnce
import CyreneExchange.Product.Lifecycle

/-! Endpoints and routes under idempotency keys. The key is resolved, the
resource saved and the key remembered by three calls of the store, so between
the last two the slot is claimed by a request in flight only. -/
namespace CyreneExchange.Product

open Integrations (UUID CollisionFree)
open Flights Machine Transaction

/-- The record that a request is about to write for what it has saved. -/
def ServiceStage.pending (host : Host) : ServiceStage → Option IdempotencyRow
  | .remembering command (some key) resource =>
      some ⟨command.scope, key, command.digest host, resource.id⟩
  | _ => none

/-- The slot is claimed under this record, which is stored or pending. -/
def Claimed (host : Host) (slot : IdempotencyScope × String) (row : IdempotencyRow)
    (system : ServiceSystem) : Prop :=
  system.store.findIdempotency slot.1 slot.2 = some row ∨
    ((row.scope, row.key) = slot ∧
      ∃ flight ∈ system.flights, flight.stage.pending host = some row)

/-- Nothing is recorded for the slot, and no request has saved for it without
remembering. -/
def ServiceSystem.unclaimed (system : ServiceSystem) (scope : IdempotencyScope) (key : String) :
    Bool :=
  (system.store.findIdempotency scope key).isNone && system.flights.all fun other =>
    match other.stage with
    | .remembering command (some key') _ => decide ((command.scope, key') ≠ (scope, key))
    | _ => true

/-- A keyed request saves only while its slot is unclaimed, and only then does
one look for an endpoint that is not there. -/
def savesAlone (system : ServiceSystem) : ServiceInput → Bool
  | .advance index _ =>
      match (system.flights[index]?).map ServiceFlight.stage with
      | some (.saving command (some key)) => system.unclaimed command.scope key
      | some (.finding command (some key)) =>
          (system.store.getEndpoint command.endpointId).isSome ||
            system.unclaimed .createRoute key
      | _ => true
  | .arrive _ | .operate _ => true

section Steps

variable {host : Host} {principal : ProductPrincipal} {moment : Moment} {s : ExchangeStore}
  {stage : ServiceStage} {row : IdempotencyRow} {slot : IdempotencyScope × String}
  {system : ServiceSystem}

/-- A request comes to remember only what it has just saved. -/
theorem answered_pending {answer : Except Failure StoreAnswer}
    (h : (stage.answered moment answer).pending host = some row) :
    stage.pending host = some row ∨
      ∃ command key stored, stage = .saving command (some key) ∧ answer = .ok stored ∧
        row = ⟨command.scope, key, command.digest host, (command.create moment).id⟩ := by
  have hStep := answered_cases moment stage answer
  generalize stage.answered moment answer = next at h hStep
  cases hStep with
  | stays => exact Or.inl h
  | saved command key stored =>
      cases key with
      | none => cases h
      | some key =>
          cases h
          exact Or.inr ⟨command, key, stored, rfl, rfl, rfl⟩
  | fails | answers => cases h

theorem proceeds_pending (h : (stage.proceeds host principal moment s).pending host = some row) :
    stage.pending host = some row := by
  have hStep := proceeds_cases host principal moment s stage
  generalize stage.proceeds host principal moment s = next at h hStep
  cases hStep with
  | stays => exact h
  | _ => cases h

theorem arrives_pending (principal : ProductPrincipal) (request : ServiceRequest) :
    (request.arrives principal).pending host = none := by
  have hFirst := arrives_isFirst principal request
  cases hStage : request.arrives principal with
  | remembering =>
      rw [hStage] at hFirst
      cases hFirst
  | _ => rfl

theorem pending_eq (h : stage.pending host = some row) :
    ∃ command key resource, stage = .remembering command (some key) resource ∧
      row = ⟨command.scope, key, command.digest host, resource.id⟩ := by
  cases stage with
  | remembering command key resource =>
      cases key with
      | none => cases h
      | some key =>
          cases h
          exact ⟨command, key, resource, rfl, rfl⟩
  | _ => cases h

/-- Once a key has been remembered it is recorded, by this call or before. -/
theorem remember_recorded (scope : IdempotencyScope) (key digest : String) (resourceId : UUID) :
    (storeStep host (.rememberIdempotency scope (some key) digest resourceId) s).2.findIdempotency
      scope key = some ((s.findIdempotency scope key).getD ⟨scope, key, digest, resourceId⟩) := by
  cases hFind : s.findIdempotency scope key with
  | some found => exact (storeStep_idempotency host _ s).keeps hFind
  | none =>
      have hBody : storeBody host (.rememberIdempotency scope (some key) digest resourceId) s =
          .ok (.done, { s with
            idempotency := s.idempotency ++ [⟨scope, key, digest, resourceId⟩] }) := by
        simp [storeBody, rememberIdempotency, insertIdempotency, bind_apply, hFind, require]
      rw [storeStep, commit_of_ok hBody]
      exact findIdempotency_append ⟨scope, key, digest, resourceId⟩ rfl hFind

/-- A record outside the atomic scopes is written by a request that held it pending. -/
theorem pending_of_record {call : StoreCall}
    (hCall : stage.call host principal moment = some call) (hRecord : call.record = some row)
    (hScope : row.scope.isAtomic = false) : stage.pending host = some row := by
  cases call_cases hCall with
  | remembers command key resource =>
      obtain ⟨text, rfl, rfl⟩ := Option.map_eq_some_iff.mp hRecord
      rfl
  | drafts command key =>
      cases hRecord
      cases command <;> cases hScope
  | issues command key =>
      obtain ⟨text, rfl, rfl⟩ := Option.map_eq_some_iff.mp hRecord
      simp [IdempotencyScope.isAtomic, apiKey_scope_kind] at hScope
  | savesEndpoint | savesRoute | edits | publishes | disables | revokes => cases hRecord

end Steps

section Claims

variable {host : Host} {row row' : IdempotencyRow} {slot : IdempotencyScope × String}
  {system : ServiceSystem} {input : ServiceInput}

/-- In this step a request saves its resource and takes up this record. -/
structure TakesUp (host : Host) (row : IdempotencyRow) (system : ServiceSystem)
    (input : ServiceInput) (index : Nat) (moment : Moment) (flight : ServiceFlight)
    (command : CreateCommand) (key : String) : Prop where
  input : input = .advance index moment
  found : system.flights[index]? = some flight
  stage : flight.stage = .saving command (some key)
  saved : ∃ answer, (storeStep host (command.create moment).save system.store).1 = .ok answer
  row : row = ⟨command.scope, key, command.digest host, (command.create moment).id⟩

theorem Claimed.slot_eq (h : Claimed host slot row system) : (row.scope, row.key) = slot := by
  rcases h with hFind | ⟨hSlot, -⟩
  · obtain ⟨hScope, hKey⟩ := findIdempotency_eq_some hFind
    rw [hScope, hKey]
  · exact hSlot

/-- A slot is claimed by saving. -/
theorem claimed_cause (hScope : slot.1.isAtomic = false)
    (hBefore : ¬ Claimed host slot row system)
    (hAfter : Claimed host slot row (serviceStep host input system).2) :
    ∃ index moment flight command key,
      TakesUp host row system input index moment flight command key := by
  have hSlot := hAfter.slot_eq
  rcases hAfter with hFind | ⟨-, flight, hFlight, hPending⟩
  · have hUnknown : ¬ system.store.findIdempotency slot.1 slot.2 = some row :=
      fun hKnown => hBefore (Or.inl hKnown)
    obtain ⟨index, moment, flight, call, -, hFlight, hCall, hRecord, -⟩ :=
      records_of_found hUnknown hFind
    have hRowScope : row.scope.isAtomic = false := by
      rw [← hSlot] at hScope
      exact hScope
    exact absurd (Or.inr ⟨hSlot, flight, List.mem_of_getElem? hFlight,
      pending_of_record hCall hRecord hRowScope⟩) hBefore
  · rcases flight_mem_cases hFlight with hOld | ⟨arrival, -, rfl⟩ |
      ⟨index, moment, before, rfl, hFound, rfl⟩
    · exact absurd (Or.inr ⟨hSlot, flight, hOld, hPending⟩) hBefore
    · have hNone : (arrival.request.arrives arrival.principal).pending host = some row := hPending
      rw [arrives_pending] at hNone
      cases hNone
    · have hMoved : ((before.move host moment system.store).1.stage).pending host = some row :=
        hPending
      cases hCall : before.stage.call host before.principal moment with
      | none =>
          rw [move_of_none hCall] at hMoved
          exact absurd (Or.inr ⟨hSlot, before, List.mem_of_getElem? hFound,
            proceeds_pending hMoved⟩) hBefore
      | some call =>
          rw [move_of_call hCall] at hMoved
          rcases answered_pending hMoved with hOld | ⟨command, key, stored, hStage, hSaved, hRow⟩
          · exact absurd (Or.inr ⟨hSlot, before, List.mem_of_getElem? hFound, hOld⟩) hBefore
          · rw [hStage] at hCall
            cases hCall
            exact ⟨index, moment, before, command, key, rfl, hFound, hStage, ⟨stored, hSaved⟩,
              hRow⟩

/-- The only claim of a slot stays. -/
theorem claimed_stays (hOnly : ∀ other, Claimed host slot other system → other = row)
    (h : Claimed host slot row system) (input : ServiceInput) :
    Claimed host slot row (serviceStep host input system).2 := by
  rcases h with hFind | ⟨rfl, flight, hFlight, hPending⟩
  · exact Or.inl (serviceStep_found input hFind)
  · obtain ⟨position, hPosition⟩ := List.getElem?_of_mem hFlight
    cases input with
    | arrive arrival =>
        exact Or.inr ⟨rfl, flight, List.mem_append_left _ hFlight, hPending⟩
    | operate call => exact Or.inr ⟨rfl, flight, hFlight, hPending⟩
    | advance index moment =>
        cases hMoved : system.flights[index]? with
        | none =>
            rw [serviceStep, step_advance_none hMoved]
            exact Or.inr ⟨rfl, flight, hFlight, hPending⟩
        | some moving =>
            rw [serviceStep, step_advance hMoved]
            by_cases hSame : index = position
            · subst hSame
              obtain rfl := Option.some.inj (hMoved.symm.trans hPosition)
              obtain ⟨command, key, resource, hStage, rfl⟩ := pending_eq hPending
              have hStore : (moving.move host moment system.store).2 = (storeStep host
                  (.rememberIdempotency command.scope (some key) (command.digest host)
                    resource.id) system.store).2 :=
                congrArg Prod.snd (move_of_call (by rw [hStage]; rfl) system.store)
              refine Or.inl ?_
              show (moving.move host moment system.store).2.findIdempotency command.scope key = _
              rw [hStore, remember_recorded]
              cases hFind : system.store.findIdempotency command.scope key with
              | none => rfl
              | some other => rw [Option.getD_some, hOnly other (Or.inl hFind)]
            · have hStill : (system.flights.set index
                  ((serviceRules host).move moment moving system.store).1)[position]? =
                    some flight := by
                rw [List.getElem?_set_ne hSame]
                exact hPosition
              exact Or.inr ⟨rfl, flight, List.mem_of_getElem? hStill, hPending⟩

theorem not_claimed {scope : IdempotencyScope} {key : String}
    (h : system.unclaimed scope key = true) : ¬ Claimed host (scope, key) row system := by
  simp only [ServiceSystem.unclaimed, Bool.and_eq_true, Option.isNone_iff_eq_none,
    List.all_eq_true] at h
  obtain ⟨hOpen, hOthers⟩ := h
  rintro (hFind | ⟨hSlot, other, hOther, hPending⟩)
  · rw [hOpen] at hFind
    cases hFind
  · obtain ⟨command, key', resource, hStage, rfl⟩ := pending_eq hPending
    have hApart := hOthers other hOther
    rw [hStage] at hApart
    exact of_decide_eq_true hApart hSlot

/-- A request that saves alone finds its slot unclaimed. -/
theorem savesAlone_open (host : Host) (row : IdempotencyRow) {index : Nat} {moment : Moment}
    {flight : ServiceFlight} {command : CreateCommand} {key : String}
    (hFound : system.flights[index]? = some flight)
    (hStage : flight.stage = .saving command (some key))
    (hAlone : savesAlone system (.advance index moment) = true) :
    ¬ Claimed host (command.scope, key) row system := by
  simp only [savesAlone, hFound, Option.map_some, hStage] at hAlone
  exact not_claimed hAlone

/-- A slot has one claim at most. -/
def ClaimsUnique (host : Host) (slot : IdempotencyScope × String) (system : ServiceSystem) : Prop :=
  ∀ row row', Claimed host slot row system → Claimed host slot row' system → row = row'

theorem claimsUnique_preserved (host : Host) (hScope : slot.1.isAtomic = false) :
    Preserves (serviceStep host) (fun system input => savesAlone system input = true)
      (ClaimsUnique host slot) := by
  -- a new claim comes where there was none, and both rows are new then
  have hNew {system : ServiceSystem} {input : ServiceInput} {row row' : IdempotencyRow}
      (hAlone : savesAlone system input = true) (hBefore : ¬ Claimed host slot row system)
      (hAfter : Claimed host slot row (serviceStep host input system).2)
      (hAfter' : Claimed host slot row' (serviceStep host input system).2) : row = row' := by
    obtain ⟨index, moment, flight, command, key, hTakes⟩ := claimed_cause hScope hBefore hAfter
    have hSlot : (command.scope, key) = slot := by
      rw [← hAfter.slot_eq, hTakes.row]
    obtain rfl := hTakes.input
    have hBefore' : ¬ Claimed host slot row' system := by
      rw [← hSlot]
      exact savesAlone_open host row' hTakes.found hTakes.stage hAlone
    obtain ⟨index', moment', flight', command', key', hTakes'⟩ :=
      claimed_cause hScope hBefore' hAfter'
    cases hTakes'.input
    obtain rfl := Option.some.inj (hTakes.found.symm.trans hTakes'.found)
    cases hTakes.stage.symm.trans hTakes'.stage
    exact hTakes.row.trans hTakes'.row.symm
  intro system input hUnique hAlone row row' hAfter hAfter'
  by_cases hBefore : Claimed host slot row system
  · by_cases hBefore' : Claimed host slot row' system
    · exact hUnique row row' hBefore hBefore'
    · exact (hNew hAlone hBefore' hAfter' hAfter).symm
  · exact hNew hAlone hBefore hAfter hAfter'

end Claims

section Replays

variable {host : Host} {s t : ExchangeStore} {moment : Moment} {flight : ServiceFlight}

/-- The record that a request for one key replays. -/
def Replays (host : Host) (s : ExchangeStore) (flight : ServiceFlight) : Prop :=
  ∀ command resourceId, flight.stage = .replaying command resourceId →
    ∃ key row, flight.request = command.request (some key) ∧
      s.findIdempotency command.scope key = some row ∧
      row.requestHash = command.digest host ∧ row.resourceId = resourceId

/-- Recorded keys keep their records. -/
def RecordsKept (s t : ExchangeStore) : Prop :=
  ∀ scope key row, s.findIdempotency scope key = some row →
    t.findIdempotency scope key = some row

theorem storeStep_recordsKept (call : StoreCall) (s : ExchangeStore) :
    RecordsKept s (storeStep host call s).2 :=
  fun _ _ _ hFind => (storeStep_idempotency host call s).keeps hFind

/-- A request comes to replay what its key is recorded for. -/
theorem proceeds_replaying {principal : ProductPrincipal} {stage : ServiceStage}
    {command : CreateCommand} {resourceId : UUID}
    (h : stage.proceeds host principal moment s = .replaying command resourceId) :
    stage = .replaying command resourceId ∨
      ∃ key row, stage = .resolving command (some key) ∧
        s.findIdempotency command.scope key = some row ∧
        row.requestHash = command.digest host ∧ row.resourceId = resourceId := by
  have hStep := proceeds_cases host principal moment s stage
  rw [h] at hStep
  cases hStep with
  | stays => exact Or.inl rfl
  | recorded _ key row hFind hHash => exact Or.inr ⟨key, row, rfl, hFind, hHash, rfl⟩

theorem answered_replaying {stage : ServiceStage} {answer : Except Failure StoreAnswer}
    {command : CreateCommand} {resourceId : UUID}
    (h : stage.answered moment answer = .replaying command resourceId) :
    stage = .replaying command resourceId := by
  have hStep := answered_cases moment stage answer
  rw [h] at hStep
  cases hStep
  rfl

/-- The terms under which replaying requests rely on recorded keys. -/
theorem replaysContract (host : Host) : Contract (serviceRules host) (fun _ _ => True)
    (fun _ => True) (fun s flight => flight.Orderly ∧ Replays host s flight) RecordsKept where
  refl := fun _ _ _ _ hFind => hFind
  arrives := by
    intro system arrival _ _
    refine ⟨arrives_serves arrival.principal arrival.request, ?_⟩
    intro command resourceId hStage
    have hFirst := arrives_isFirst arrival.principal arrival.request
    have hArrives : arrival.request.arrives arrival.principal = .replaying command resourceId :=
      hStage
    rw [hArrives] at hFirst
    cases hFirst
  moves := by
    intro system index moment flight _ _ hHolds _
    obtain ⟨hOrderly, hReplays⟩ := hHolds
    have hKept : RecordsKept system.store (flight.move host moment system.store).2 := by
      unfold ServiceFlight.move
      split
      · exact fun _ _ _ hFind => hFind
      · exact storeStep_recordsKept _ system.store
    refine ⟨trivial, hKept, move_orderly system.store hOrderly, ?_⟩
    intro command resourceId hStage
    have hMoved : (flight.move host moment system.store).1.stage = .replaying command resourceId :=
      hStage
    have hRequest : (flight.move host moment system.store).1.request = flight.request :=
      (move_request host moment flight system.store).2
    have hStill (h : flight.stage = .replaying command resourceId) :
        ∃ key row, (flight.move host moment system.store).1.request = command.request (some key) ∧
          (flight.move host moment system.store).2.findIdempotency command.scope key = some row ∧
          row.requestHash = command.digest host ∧ row.resourceId = resourceId := by
      obtain ⟨key, row, hKeyed, hFind, hHash, hId⟩ := hReplays command resourceId h
      exact ⟨key, row, hRequest.trans hKeyed, hKept _ _ _ hFind, hHash, hId⟩
    cases hCall : flight.stage.call host flight.principal moment with
    | some call =>
        rw [move_of_call hCall] at hMoved
        exact hStill (answered_replaying hMoved)
    | none =>
        rw [move_of_none hCall] at hMoved
        rcases proceeds_replaying hMoved with hSame | ⟨key, row, hResolving, hFind, hHash, hId⟩
        · exact hStill hSame
        · have hServes : flight.stage.Serves flight.request := hOrderly
          rw [hResolving] at hServes
          exact ⟨key, row, hRequest.trans hServes, hKept _ _ _ hFind, hHash, hId⟩
  operates := fun system call _ _ =>
    ⟨trivial, storeStep_recordsKept (.operator call) system.store⟩
  stable := by
    intro s t flight _ hKept hHolds
    refine ⟨hHolds.1, ?_⟩
    intro command resourceId hStage
    obtain ⟨key, row, hRequest, hFind, hHash, hId⟩ := hHolds.2 command resourceId hStage
    exact ⟨key, row, hRequest, hKept _ _ _ hFind, hHash, hId⟩

end Replays

section Moves

variable {host : Host} {principal : ProductPrincipal} {moment : Moment} {s : ExchangeStore}
  {stage : ServiceStage} {slot : IdempotencyScope × String}

/-- The stages of a creation. -/
theorem serves_create {command : CreateCommand} {key : Option String}
    (h : stage.Serves (command.request key)) :
    (∃ route, command = .route route ∧ stage = .finding route key) ∨
      stage = .resolving command key ∨ (∃ resourceId, stage = .replaying command resourceId) ∨
      stage = .saving command key ∨ (∃ resource, stage = .remembering command key resource) ∨
      ∃ outcome, stage = .done outcome := by
  cases command <;> cases stage with
  | done outcome => exact Or.inr (Or.inr (Or.inr (Or.inr (Or.inr ⟨outcome, rfl⟩))))
  | finding route key' =>
      cases h
      all_goals exact Or.inl ⟨_, rfl, rfl⟩
  | checking | issuing | owning | revoking | locating | drafting => cases h
  | resolving command' key' =>
      cases command' <;> cases h
      exact Or.inr (Or.inl rfl)
  | replaying command' resourceId =>
      obtain ⟨key', h⟩ := h
      cases command' <;> cases h
      exact Or.inr (Or.inr (Or.inl ⟨resourceId, rfl⟩))
  | saving command' key' =>
      cases command' <;> cases h
      exact Or.inr (Or.inr (Or.inr (Or.inl rfl)))
  | remembering command' key' resource =>
      cases command' <;> cases h
      exact Or.inr (Or.inr (Or.inr (Or.inr (Or.inl ⟨resource, rfl⟩))))
  | reading routeId action => cases action <;> cases h
  | permitting | inspecting | validating | publishing =>
      obtain ⟨routeId, h | h⟩ := h <;> cases h
  | editing | disabling =>
      obtain ⟨otherId, h⟩ := h
      cases h

/-- The command of a slot that is not atomic. -/
theorem slot_create {request : ServiceRequest} (hScope : slot.1.isAtomic = false)
    (h : request.slot host principal = some slot) :
    ∃ command : CreateCommand, request = command.request (some slot.2) ∧ command.scope = slot.1 ∧
      command.digest host = host.hexdigest (request.source host principal) := by
  have hKind := slot_cases h
  cases hScopeKind : slot.1.kind with
  | endpoint =>
      rw [hScopeKind] at hKind
      obtain ⟨command, rfl⟩ := hKind
      exact ⟨.endpoint command, rfl, congrArg Prod.fst (Option.some.inj h), rfl⟩
  | route =>
      rw [hScopeKind] at hKind
      obtain ⟨command, rfl⟩ := hKind
      exact ⟨.route command, rfl, congrArg Prod.fst (Option.some.inj h), rfl⟩
  | draft | apiKey => simp [IdempotencyScope.isAtomic, hScopeKind] at hScope

/-- What a request that replays shows is what its key is recorded for. -/
theorem replaying_id {command : CreateCommand} {resourceId : UUID} {answer : ServiceAnswer}
    (hEndpoints : EndpointIds s) (hRoutes : DocumentIds s)
    (h : (ServiceStage.replaying command resourceId).proceeds host principal moment s =
      .done (.ok answer)) : answer.id = resourceId := by
  have hStep := proceeds_cases host principal moment s (.replaying command resourceId)
  rw [h] at hStep
  cases hStep with
  | replayedEndpoint _ _ endpoint hEndpoint => exact getEndpoint_id hEndpoints hEndpoint
  | replayedRoute _ _ route hRoute => exact getRoute_id hRoutes hRoute

end Moves

section Runs

variable {host : Host} {inputs : List ServiceInput} {slot : IdempotencyScope × String}
  {e : Event ServiceSystem ServiceInput Unit}

/-- The request saves its resource here, and the store commits it. -/
def SlotMove.Saves (move : SlotMove host slot e) : Prop :=
  ∃ command, move.flight.stage = .saving command (some slot.2) ∧
    (∃ answer, (storeStep host (command.create move.moment).save e.before.store).1 = .ok answer) ∧
    e.after.store = (storeStep host (command.create move.moment).save e.before.store).2

/-- What holds of the slot of an endpoint or route over a run. -/
structure SavedOnce (host : Host) (inputs : List ServiceInput)
    (slot : IdempotencyScope × String) : Prop where
  once : (trace (serviceStep host) inputs { store := {} }).Pairwise fun e f =>
    ∀ (move : SlotMove host slot e) (move' : SlotMove host slot f), move.Saves → ¬ move'.Saves
  quiet : ∀ e ∈ trace (serviceStep host) inputs { store := {} }, ∀ move : SlotMove host slot e,
    (e.after.store.endpoints = e.before.store.endpoints ∧
      e.after.store.routes = e.before.store.routes) ∨ move.Saves
  returned : ∀ earlier e later, trace (serviceStep host) inputs { store := {} } =
      earlier ++ e :: later → ∀ (move : SlotMove host slot e) answer, move.Ends (.ok answer) →
    ∃ c ∈ earlier, ∃ creator : SlotMove host slot c, creator.Saves ∧
      answer.id = creator.moment.draw ∧ creator.flight.request.body = move.flight.request.body
  conflicts : ∀ earlier e later, trace (serviceStep host) inputs { store := {} } =
      earlier ++ e :: later → ∀ c ∈ earlier, ∀ creator : SlotMove host slot c, creator.Saves →
    ∀ move : SlotMove host slot e, move.flight.request.body ≠ creator.flight.request.body →
      ∀ outcome, move.Ends outcome →
        e.after.store = e.before.store ∧ outcome = .error (.product idempotencyConflict)

/-- The record that a request takes up by saving. -/
def SlotMove.claim (move : SlotMove host slot e) : IdempotencyRow :=
  ⟨slot.1, slot.2, host.hexdigest (move.flight.request.source host move.flight.principal),
    move.moment.draw⟩

theorem create_id (command : CreateCommand) (moment : Moment) :
    (command.create moment).id = moment.draw := by
  cases command <;> rfl

/-- Who saves takes up a claim, which stands after the event. -/
theorem SlotMove.Saves.claimed (hScope : slot.1.isAtomic = false)
    (he : e ∈ trace (serviceStep host) inputs { store := {} }) {move : SlotMove host slot e}
    (h : move.Saves) : Claimed host slot move.claim e.after := by
  obtain ⟨command, hStage, ⟨answer, hSaved⟩, -⟩ := h
  obtain ⟨command', hRequest, hCommandScope, hDigest⟩ := slot_create hScope move.ofSlot
  have hServes : move.flight.stage.Serves move.flight.request := move.orderly he
  rw [hStage] at hServes
  obtain rfl : command' = command := by
    have hSame : command'.request (some slot.2) = command.request (some slot.2) :=
      hRequest.symm.trans hServes
    cases command' <;> cases command <;> cases hSame <;> rfl
  have hCall : move.flight.stage.call host move.flight.principal move.moment =
      some (command'.create move.moment).save := by
    rw [hStage]
    rfl
  have hMoved : (move.flight.move host move.moment e.before.store).1.stage =
      .remembering command' (some slot.2) (command'.create move.moment) := by
    rw [move_of_call hCall, hSaved, hStage]
    rfl
  have hPosition : e.after.flights[move.index]? =
      some (move.flight.move host move.moment e.before.store).1 := by
    rw [(arrivedIn_events host inputs e he).2, move.input, serviceStep, step_advance move.found]
    exact List.getElem?_set_self (List.getElem?_eq_some_iff.mp move.found).1
  refine Or.inr ⟨rfl, _, List.mem_of_getElem? hPosition, ?_⟩
  rw [hMoved, SlotMove.claim, ← hDigest, ← hCommandScope, ← create_id command' move.moment]
  rfl

/-- Every claim was taken up by a request that saved. -/
theorem claimed_creator (hScope : slot.1.isAtomic = false) {row : IdempotencyRow}
    {earlier later : List (Event ServiceSystem ServiceInput Unit)}
    (hTrace : trace (serviceStep host) inputs { store := {} } = earlier ++ e :: later)
    (hClaimed : Claimed host slot row e.before) :
    ∃ c ∈ earlier, ∃ creator : SlotMove host slot c, creator.Saves ∧ row = creator.claim := by
  have hEmpty : ¬ Claimed host slot row ({ store := {} } : ServiceSystem) := by
    rintro (hFind | ⟨-, flight, ⟨⟩, -⟩)
    cases hFind
  obtain ⟨c, hc, ⟨index, moment, flight, command, key, hTakes⟩, hAfter⟩ :=
    trace_cause (Claimed host slot row)
      (fun c => (∃ index moment flight command key,
        TakesUp host row c.before c.input index moment flight command key) ∧
          Claimed host slot row c.after)
      (fun _ _ hBefore hAfter => ⟨claimed_cause hScope hBefore hAfter, hAfter⟩)
      hEmpty hTrace hClaimed
  have hEvent : c ∈ trace (serviceStep host) inputs { store := {} } := by
    rw [hTrace]
    exact List.mem_append_left _ hc
  have hServes : flight.stage.Serves flight.request :=
    ((arrivedIn_events host inputs c hEvent).1 flight (List.mem_of_getElem? hTakes.found)).1
  rw [hTakes.stage] at hServes
  obtain rfl : (command.scope, key) = slot := by rw [← hAfter.slot_eq, hTakes.row]
  have hRequest : flight.request = command.request (some key) := hServes
  have hSlot : flight.request.slot host flight.principal = some (command.scope, key) := by
    rw [hRequest]
    cases command <;> rfl
  let creator : SlotMove host (command.scope, key) c :=
    ⟨index, moment, flight, hTakes.input, hTakes.found, hSlot⟩
  have hCall : flight.stage.call host flight.principal moment =
      some (command.create moment).save := by
    rw [hTakes.stage]
    rfl
  have hStore : c.after.store = (storeStep host (command.create moment).save c.before.store).2 :=
    (creator.store_eq hEvent).trans (congrArg Prod.snd (move_of_call hCall c.before.store))
  refine ⟨c, hc, creator, ⟨command, hTakes.stage, hTakes.saved, hStore⟩, ?_⟩
  have hDigest : command.digest host =
      host.hexdigest (flight.request.source host flight.principal) := by
    rw [hRequest]
    cases command <;> rfl
  rw [hTakes.row, create_id, hDigest]
  rfl

theorem claimsUnique_before (hScope : slot.1.isAtomic = false)
    (hAdmitted : Admitted (serviceStep host)
      (fun system input => savesAlone system input = true) inputs { store := {} }) :
    ∀ e ∈ trace (serviceStep host) inputs { store := {} },
      ClaimsUnique host slot e.before ∧ savesAlone e.before e.input = true := by
  intro e he
  have hStart : ClaimsUnique host slot ({ store := {} } : ServiceSystem) := by
    rintro row row' (hFind | ⟨-, flight, ⟨⟩, -⟩)
    cases hFind
  obtain ⟨hUnique, hAlone, -⟩ := (claimsUnique_preserved host hScope).trace hStart hAdmitted e he
  exact ⟨hUnique, hAlone⟩

/-- A claim stands from the event that took it up. -/
theorem claims_stay (hScope : slot.1.isAtomic = false)
    (hAdmitted : Admitted (serviceStep host)
      (fun system input => savesAlone system input = true) inputs { store := {} }) :
    (trace (serviceStep host) inputs { store := {} }).Pairwise fun e f =>
      ∀ row, Claimed host slot row e.after → Claimed host slot row f.before := by
  have hStart : ClaimsUnique host slot ({ store := {} } : ServiceSystem) := by
    rintro row row' (hFind | ⟨-, flight, ⟨⟩, -⟩)
    cases hFind
  refine (trace_related (R := fun system system' : ServiceSystem => ∀ row,
      Claimed host slot row system → Claimed host slot row system')
    (claimsUnique_preserved host hScope) (fun _ _ hClaimed => hClaimed)
    (fun _ _ _ hst htu row hClaimed => htu row (hst row hClaimed)) ?_ hStart hAdmitted).2
  intro system input hUnique _ row hClaimed
  exact claimed_stays (fun other hOther => hUnique other row hOther hClaimed) hClaimed input

theorem replays_before (host : Host) (inputs : List ServiceInput) :
    ∀ e ∈ trace (serviceStep host) inputs { store := {} }, ∀ flight ∈ e.before.flights,
      Replays host e.before.store flight := by
  intro e he flight hFlight
  have hStart : Sound (fun _ => True) (fun s flight => flight.Orderly ∧ Replays host s flight)
      ({ store := {} } : ServiceSystem) := by
    refine ⟨trivial, ?_⟩
    rintro flight ⟨⟩
  have hSound := ((replaysContract host).preserves.trace hStart
    (admitted_of_forall (fun _ _ => trivial) inputs _) e he).1
  exact (hSound.2 flight hFlight).2

theorem resourceIds_before (host : Host) (inputs : List ServiceInput) :
    ∀ e ∈ trace (serviceStep host) inputs { store := {} },
      EndpointIds e.before.store ∧ DocumentIds e.before.store := by
  intro e he
  have hPreserved : Preserves (serviceStep host) (fun _ _ => True)
      fun system => EndpointIds system.store :=
    fun system input hIds _ =>
      serviceStep_store (fun call s => storeStep_endpointIds call) input hIds
  have hStart : EndpointIds ({ store := {} } : ServiceSystem).store := by
    rintro row ⟨⟩
  exact ⟨(hPreserved.trace hStart (admitted_of_forall (fun _ _ => trivial) inputs _) e he).1,
    documentIds_before host inputs e he⟩

/-- The command that a request of the slot carries, and its stage. -/
theorem SlotMove.create (hScope : slot.1.isAtomic = false)
    (he : e ∈ trace (serviceStep host) inputs { store := {} }) (move : SlotMove host slot e) :
    ∃ command : CreateCommand, move.flight.request = command.request (some slot.2) ∧
      command.scope = slot.1 ∧
      command.digest host =
        host.hexdigest (move.flight.request.source host move.flight.principal) ∧
      move.flight.stage.Serves (command.request (some slot.2)) := by
  obtain ⟨command, hRequest, hCommandScope, hDigest⟩ := slot_create hScope move.ofSlot
  refine ⟨command, hRequest, hCommandScope, hDigest, ?_⟩
  rw [← hRequest]
  exact move.orderly he

/-- A step that writes nothing leaves the store and proceeds. -/
theorem SlotMove.of_none (he : e ∈ trace (serviceStep host) inputs { store := {} })
    (move : SlotMove host slot e)
    (hCall : move.flight.stage.call host move.flight.principal move.moment = none) :
    e.after.store = e.before.store ∧ move.stage =
      move.flight.stage.proceeds host move.flight.principal move.moment e.before.store := by
  constructor
  · rw [move.store_eq he, move_of_none hCall]
  · rw [SlotMove.stage, move_of_none hCall]

theorem SlotMove.of_call (he : e ∈ trace (serviceStep host) inputs { store := {} })
    (move : SlotMove host slot e) {call : StoreCall}
    (hCall : move.flight.stage.call host move.flight.principal move.moment = some call) :
    e.after.store = (storeStep host call e.before.store).2 ∧ move.stage =
      move.flight.stage.answered move.moment (storeStep host call e.before.store).1 := by
  constructor
  · rw [move.store_eq he, move_of_call hCall]
  · rw [SlotMove.stage, move_of_call hCall]

theorem save_quiet (hScope : slot.1.isAtomic = false)
    (he : e ∈ trace (serviceStep host) inputs { store := {} }) (move : SlotMove host slot e) :
    (e.after.store.endpoints = e.before.store.endpoints ∧
      e.after.store.routes = e.before.store.routes) ∨ move.Saves := by
  obtain ⟨command, -, -, -, hServes⟩ := move.create hScope he
  have hSame (h : move.flight.stage.call host move.flight.principal move.moment = none) :
      (e.after.store.endpoints = e.before.store.endpoints ∧
        e.after.store.routes = e.before.store.routes) ∨ move.Saves := by
    rw [(move.of_none he h).1]
    exact Or.inl ⟨rfl, rfl⟩
  rcases serves_create hServes with ⟨route, -, hStage⟩ | hStage | ⟨resourceId, hStage⟩ | hStage |
    ⟨resource, hStage⟩ | ⟨outcome, hStage⟩
  · exact hSame (by rw [hStage]; rfl)
  · exact hSame (by rw [hStage]; rfl)
  · exact hSame (by rw [hStage]; rfl)
  · have hCall : move.flight.stage.call host move.flight.principal move.moment =
        some (command.create move.moment).save := by
      rw [hStage]
      rfl
    obtain ⟨hStore, -⟩ := move.of_call he hCall
    rcases commit_cases (storeBody host (command.create move.moment).save) e.before.store with
      ⟨answer, t, -, hCommit⟩ | ⟨failure, -, hCommit⟩
    · have hSaved : (storeStep host (command.create move.moment).save e.before.store).1 =
          .ok answer := by
        rw [storeStep, hCommit]
      exact Or.inr ⟨command, hStage, ⟨answer, hSaved⟩, hStore⟩
    · rw [hStore, storeStep, hCommit]
      exact Or.inl ⟨rfl, rfl⟩
  · have hCall : move.flight.stage.call host move.flight.principal move.moment = some
        (.rememberIdempotency command.scope (some slot.2) (command.digest host) resource.id) := by
      rw [hStage]
      rfl
    rw [(move.of_call he hCall).1]
    exact Or.inl ⟨storeStep_keeps_endpoints host (by simp [StoreCall.tables]),
      storeStep_keeps_routes host (by simp [StoreCall.tables])⟩
  · exact hSame (by rw [hStage]; rfl)

/-- A request that succeeds shows the resource its slot is claimed for. -/
theorem ends_claimed (hScope : slot.1.isAtomic = false)
    (he : e ∈ trace (serviceStep host) inputs { store := {} }) {move : SlotMove host slot e}
    {answer : ServiceAnswer} (hEnds : move.Ends (.ok answer)) :
    Claimed host slot ⟨slot.1, slot.2,
      host.hexdigest (move.flight.request.source host move.flight.principal), answer.id⟩
        e.before := by
  obtain ⟨command, hRequest, hCommandScope, hDigest, hServes⟩ := move.create hScope he
  have hFlight := List.mem_of_getElem? move.found
  have hProceeds (h : move.flight.stage.call host move.flight.principal move.moment = none) :
      move.flight.stage.proceeds host move.flight.principal move.moment e.before.store =
        .done (.ok answer) :=
    (move.of_none he h).2.symm.trans hEnds.1
  rcases serves_create hServes with ⟨route, -, hStage⟩ | hStage | ⟨resourceId, hStage⟩ | hStage |
    ⟨resource, hStage⟩ | ⟨outcome, hStage⟩
  · rw [hStage] at hProceeds
    have hStep := proceeds_cases host move.flight.principal move.moment e.before.store
      (.finding route (some slot.2))
    rw [hProceeds rfl] at hStep
    cases hStep
  · rw [hStage] at hProceeds
    have hStep := proceeds_cases host move.flight.principal move.moment e.before.store
      (.resolving command (some slot.2))
    rw [hProceeds rfl] at hStep
    cases hStep
  · rw [hStage] at hProceeds
    obtain ⟨hEndpoints, hRoutes⟩ := resourceIds_before host inputs e he
    have hId := replaying_id hEndpoints hRoutes (hProceeds rfl)
    obtain ⟨key, row, hKeyed, hFind, hHash, hResource⟩ :=
      replays_before host inputs e he move.flight hFlight command resourceId hStage
    have hKey : key = slot.2 := by
      have hSame : command.request (some key) = command.request (some slot.2) :=
        hKeyed.symm.trans hRequest
      cases command <;> cases hSame <;> rfl
    subst hKey
    obtain ⟨hRowScope, hRowKey⟩ := findIdempotency_eq_some hFind
    have hRow : row = ⟨slot.1, slot.2,
        host.hexdigest (move.flight.request.source host move.flight.principal), answer.id⟩ := by
      rw [← hDigest, hId, ← hResource, ← hHash, ← hCommandScope, ← hRowScope, ← hRowKey]
    refine Or.inl ?_
    rw [← hRow, ← hCommandScope]
    exact hFind
  · have hCall : move.flight.stage.call host move.flight.principal move.moment =
        some (command.create move.moment).save := by
      rw [hStage]
      rfl
    have hAnswered := (move.of_call he hCall).2.symm.trans hEnds.1
    rw [hStage] at hAnswered
    cases hStored : (storeStep host (command.create move.moment).save e.before.store).1 with
    | error failure =>
        rw [hStored] at hAnswered
        cases hAnswered
    | ok stored =>
        rw [hStored] at hAnswered
        cases hAnswered
  · have hCall : move.flight.stage.call host move.flight.principal move.moment = some
        (.rememberIdempotency command.scope (some slot.2) (command.digest host) resource.id) := by
      rw [hStage]
      rfl
    have hAnswered := (move.of_call he hCall).2.symm.trans hEnds.1
    rw [hStage] at hAnswered
    generalize (storeStep host _ e.before.store).1 = stored at hAnswered
    cases stored with
    | error failure => cases hAnswered
    | ok stored =>
        cases hAnswered
        refine Or.inr ⟨rfl, move.flight, hFlight, ?_⟩
        rw [hStage, ← hDigest, ← hCommandScope]
        rfl
  · exact absurd hStage (hEnds.2 outcome)

/-- A request whose slot is claimed for another body ends in the conflict. -/
theorem ends_conflict (hScope : slot.1.isAtomic = false)
    (he : e ∈ trace (serviceStep host) inputs { store := {} })
    (hUnique : ClaimsUnique host slot e.before) (hAlone : savesAlone e.before e.input = true)
    {row : IdempotencyRow} (hClaimed : Claimed host slot row e.before)
    {move : SlotMove host slot e}
    (hOther : row.requestHash ≠
      host.hexdigest (move.flight.request.source host move.flight.principal))
    {outcome : Except Failure ServiceAnswer} (hEnds : move.Ends outcome) :
    e.after.store = e.before.store ∧ outcome = .error (.product idempotencyConflict) := by
  obtain ⟨command, hRequest, hCommandScope, hDigest, hServes⟩ := move.create hScope he
  have hFlight := List.mem_of_getElem? move.found
  have hProceeds (h : move.flight.stage.call host move.flight.principal move.moment = none) :
      move.flight.stage.proceeds host move.flight.principal move.moment e.before.store =
        .done outcome :=
    (move.of_none he h).2.symm.trans hEnds.1
  rw [move.input] at hAlone
  rcases serves_create hServes with ⟨route, hRoute, hStage⟩ | hStage | ⟨resourceId, hStage⟩ |
    hStage | ⟨resource, hStage⟩ | ⟨ended, hStage⟩
  · -- the endpoint is there, so the request goes on
    have hSlot : slot = (.createRoute, slot.2) := by
      rw [hRoute] at hCommandScope
      exact Prod.ext hCommandScope.symm rfl
    simp only [savesAlone, move.found, Option.map_some, hStage, Bool.or_eq_true] at hAlone
    rcases hAlone with hThere | hOpen
    · rw [hStage] at hProceeds
      obtain ⟨endpoint, hEndpoint⟩ := Option.isSome_iff_exists.mp hThere
      have hGoesOn := hProceeds rfl
      simp [ServiceStage.proceeds, hEndpoint] at hGoesOn
    · rw [hSlot] at hClaimed
      exact absurd hClaimed (not_claimed hOpen)
  · rw [hStage] at hProceeds
    have hOutcome := hProceeds rfl
    refine ⟨(move.of_none he (by rw [hStage]; rfl)).1, ?_⟩
    simp only [ServiceStage.proceeds] at hOutcome
    cases hFind : e.before.store.findIdempotency command.scope slot.2 with
    | none => simp [resolveIdempotency, hFind, commit] at hOutcome
    | some found =>
        have hFound : e.before.store.findIdempotency slot.1 slot.2 = some found := by
          rw [← hCommandScope]
          exact hFind
        obtain rfl := hUnique found row (Or.inl hFound) hClaimed
        rw [← hDigest] at hOther
        rw [commit, resolveIdempotency_conflicts hFind hOther] at hOutcome
        cases hOutcome
        rfl
  · obtain ⟨key, found, hKeyed, hFind, hHash, -⟩ :=
      replays_before host inputs e he move.flight hFlight command resourceId hStage
    have hKey : key = slot.2 := by
      have hSame : command.request (some key) = command.request (some slot.2) :=
        hKeyed.symm.trans hRequest
      cases command <;> cases hSame <;> rfl
    rw [hKey, hCommandScope] at hFind
    obtain rfl := hUnique found row (Or.inl hFind) hClaimed
    rw [← hDigest] at hOther
    exact absurd hHash hOther
  · have hOpen := savesAlone_open host row move.found hStage hAlone
    rw [hCommandScope] at hOpen
    exact absurd hClaimed hOpen
  · have hPending : Claimed host slot
        ⟨slot.1, slot.2, command.digest host, resource.id⟩ e.before := by
      refine Or.inr ⟨rfl, move.flight, hFlight, ?_⟩
      rw [hStage, ← hCommandScope]
      rfl
    obtain rfl := hUnique _ row hPending hClaimed
    exact absurd hDigest hOther
  · exact absurd hStage (hEnds.2 ended)

/-- While keyed requests save only into unclaimed slots, the requests of a slot create one
resource between them. -/
theorem saved_once (host : Host) (inputs : List ServiceInput) (slot : IdempotencyScope × String)
    (hScope : slot.1.isAtomic = false)
    (hFree : CollisionFree host.hexdigest (hashedTexts host inputs))
    (hAdmitted : Admitted (serviceStep host)
      (fun system input => savesAlone system input = true) inputs { store := {} }) :
    SavedOnce host inputs slot := by
  have hUniques := claimsUnique_before hScope hAdmitted
  refine ⟨?_, ?_, ?_, ?_⟩
  · refine List.Pairwise.imp_of_mem ?_ (claims_stay hScope hAdmitted)
    intro e f he hf hStay move move' hSaves hSaves'
    have hClaimed := hStay _ (hSaves.claimed hScope he)
    obtain ⟨command, hStage, -, -⟩ := hSaves'
    obtain ⟨command', -, hCommandScope, -, hServes⟩ := move'.create hScope hf
    rw [hStage] at hServes
    obtain rfl : command' = command := by
      have hSame : command'.request (some slot.2) = command.request (some slot.2) := hServes
      cases command' <;> cases command <;> cases hSame <;> rfl
    have hAlone := (hUniques f hf).2
    rw [move'.input] at hAlone
    have hOpen := savesAlone_open host move.claim move'.found hStage hAlone
    rw [hCommandScope] at hOpen
    exact hOpen hClaimed
  · intro e he move
    exact save_quiet hScope he move
  · intro earlier e later hTrace move answer hEnds
    have he : e ∈ trace (serviceStep host) inputs { store := {} } := by
      rw [hTrace]
      exact List.mem_append_right _ List.mem_cons_self
    obtain ⟨c, hc, creator, hSaves, hClaim⟩ :=
      claimed_creator hScope hTrace (ends_claimed hScope he hEnds)
    have hEvent : c ∈ trace (serviceStep host) inputs { store := {} } := by
      rw [hTrace]
      exact List.mem_append_left _ hc
    have hHash := congrArg IdempotencyRow.requestHash hClaim
    exact ⟨c, hc, creator, hSaves, congrArg IdempotencyRow.resourceId hClaim,
      SlotMove.body_eq hFree hEvent he creator move hHash.symm⟩
  · intro earlier e later hTrace c hc creator hSaves move hOther outcome hEnds
    have he : e ∈ trace (serviceStep host) inputs { store := {} } := by
      rw [hTrace]
      exact List.mem_append_right _ List.mem_cons_self
    have hEvent : c ∈ trace (serviceStep host) inputs { store := {} } := by
      rw [hTrace]
      exact List.mem_append_left _ hc
    have hPairs := claims_stay hScope hAdmitted
    rw [hTrace, List.pairwise_append] at hPairs
    have hClaimed := hPairs.2.2 c hc e List.mem_cons_self _ (hSaves.claimed hScope hEvent)
    obtain ⟨hUnique, hAlone⟩ := hUniques e he
    refine ends_conflict hScope he hUnique hAlone hClaimed ?_ hEnds
    intro hHash
    exact hOther (SlotMove.body_eq hFree he hEvent move creator hHash.symm)

end Runs

section Sample

/-- A request to create the sample endpoint under the key `once`. -/
def sampleOnce : ServiceRequest := .createEndpoint sampleEndpointRequest (some "once")

/-- One request creates the endpoint, the same request comes again later. -/
def sampleRetry : List ServiceInput := [
  sampleArrival sampleOnce, sampleAdvance 0 'e', sampleAdvance 0 'e', sampleAdvance 0 'e',
  sampleArrival sampleOnce, sampleAdvance 1 'f', sampleAdvance 1 'f']

theorem saved_once_sample : SavedOnce sampleHost sampleRetry (.createEndpoint, "once") :=
  saved_once _ _ _ rfl (by unfold CollisionFree; decide +kernel) (by decide +kernel)

/-- Two such requests have both found the key unused. -/
def sampleBothUnused : List ServiceInput := [
  sampleArrival sampleOnce, sampleArrival sampleOnce, sampleAdvance 0 'x', sampleAdvance 1 'x']

theorem concurrent_requests_save_twice : ¬ ∀ host inputs slot, slot.1.isAtomic = false →
    CollisionFree host.hexdigest (hashedTexts host inputs) → SavedOnce host inputs slot := by
  intro h
  have hOnce := (h sampleHost (sampleBothUnused ++ [sampleAdvance 0 'e', sampleAdvance 1 'f'])
    (.createEndpoint, "once") rfl (by unfold CollisionFree; decide +kernel)).once
  rw [trace_append, List.pairwise_append] at hOnce
  have hPair := (List.pairwise_cons.mp hOnce.2.1).1 _ List.mem_cons_self
  let flight : ServiceFlight :=
    ⟨sampleOperator, sampleOnce, .saving (.endpoint sampleEndpointRequest) (some "once")⟩
  refine hPair ⟨0, { draw := sampleUuid 'e' }, flight, rfl, by decide +kernel, rfl⟩
    ⟨1, { draw := sampleUuid 'f' }, flight, rfl, by decide +kernel, rfl⟩
    ⟨.endpoint sampleEndpointRequest, rfl, ⟨.done, by decide +kernel⟩, by decide +kernel⟩
    ⟨.endpoint sampleEndpointRequest, rfl, ⟨.done, by decide +kernel⟩, by decide +kernel⟩

end Sample

end CyreneExchange.Product
