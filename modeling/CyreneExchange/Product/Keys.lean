import CyreneExchange.Product.Requests

/-! Idempotency keys over whole runs. A recorded key keeps its record, and the
record was written by a request of that key. -/
namespace CyreneExchange.Product

open Integrations (Json UUID CollisionFree)
open Flights Machine Transaction

section Calls

/-- The record that a call writes for its key, if it is given one. -/
def StoreCall.record : StoreCall → Option IdempotencyRow
  | .createRouteDraft route key digest scope _ _ => some ⟨scope, key, digest, route.id⟩
  | .rememberIdempotency scope key digest resourceId =>
      key.map fun text => ⟨scope, text, digest, resourceId⟩
  | .createApiKey apiKey _ key requestDigest scope _ =>
      key.map fun text => ⟨scope, text, requestDigest, apiKey.id⟩
  | .operator _ | .saveEndpoint _ | .saveRoute _ | .replaceRouteVersion .. | .revokeApiKey .. => none

/-- What one call can do to the recorded keys. -/
inductive KeyWrite (s : ExchangeStore) (call : StoreCall) : List IdempotencyRow → Prop
  | kept : KeyWrite s call s.idempotency
  | recorded (row : IdempotencyRow) (hCall : call.record = some row)
      (hNone : s.findIdempotency row.scope row.key = none) :
      KeyWrite s call (s.idempotency ++ [row])

/-- The three writers of keys, and everyone else. -/
theorem storeStep_idempotency (host : Host) (call : StoreCall) (s : ExchangeStore) :
    KeyWrite s call (storeStep host call s).2.idempotency := by
  have hKept (h : StoreTable.idempotency ∉ call.tables) :
      KeyWrite s call (storeStep host call s).2.idempotency := by
    rw [storeStep_keeps_idempotency host h]
    exact .kept
  have hCommit := commit_cases (storeBody host call) s
  cases call with
  | createRouteDraft route key digest scope reactorSourceEndpointId workspaceBindingRoute =>
      rcases hCommit with ⟨answer, t, hBody, hStep⟩ | ⟨e, -, hStep⟩
      · obtain ⟨_, _, hCreate, hPure⟩ := bind_eq_ok.mp hBody
        cases hPure
        rw [storeStep, hStep]
        rcases createRouteDraft_eq_ok hCreate with ⟨rfl, -⟩ | ⟨-, hNone, -, rfl⟩
        · exact .kept
        · exact .recorded ⟨scope, key, digest, route.id⟩ rfl hNone
      · rw [storeStep, hStep]
        exact .kept
  | rememberIdempotency scope key digest resourceId =>
      rcases hCommit with ⟨answer, t, hBody, hStep⟩ | ⟨e, -, hStep⟩
      · obtain ⟨_, _, hRemember, hPure⟩ := bind_eq_ok.mp hBody
        cases hPure
        rw [storeStep, hStep]
        rcases rememberIdempotency_eq_ok hRemember with ⟨-, rfl⟩ | ⟨text, rfl, hNone, rfl⟩
        · exact .kept
        · exact .recorded ⟨scope, text, digest, resourceId⟩ rfl hNone
      · rw [storeStep, hStep]
        exact .kept
  | createApiKey apiKey secretDigest key requestDigest scope now =>
      rcases hCommit with ⟨answer, t, hBody, hStep⟩ | ⟨e, -, hStep⟩
      · obtain ⟨⟨answer, created⟩, _, hCreate, hPure⟩ := bind_eq_ok.mp hBody
        cases hPure
        rw [storeStep, hStep]
        rcases createApiKey_eq_ok hCreate with ⟨-, rfl, -⟩ | ⟨-, -, hNone, -, rfl⟩
        · exact .kept
        · cases key with
          | none => simpa using KeyWrite.kept
          | some text =>
              exact .recorded ⟨scope, text, requestDigest, apiKey.id⟩ rfl (hNone text rfl)
      · rw [storeStep, hStep]
        exact .kept
  | operator call => cases call <;> exact hKept (by simp [StoreCall.tables])
  | saveEndpoint | saveRoute | replaceRouteVersion | revokeApiKey =>
      exact hKept (by simp [StoreCall.tables])

variable {s : ExchangeStore} {call : StoreCall} {rows : List IdempotencyRow}
  {row : IdempotencyRow} {scope : IdempotencyScope} {key : String}

theorem findIdempotency_eq_some (h : s.findIdempotency scope key = some row) :
    row.scope = scope ∧ row.key = key := by
  have hKey := List.find?_some h
  simpa using hKey

theorem findIdempotency_append {s t : ExchangeStore} (row : IdempotencyRow)
    (hRows : t.idempotency = s.idempotency ++ [row])
    (hOpen : s.findIdempotency row.scope row.key = none) :
    t.findIdempotency row.scope row.key = some row := by
  unfold ExchangeStore.findIdempotency at hOpen ⊢
  rw [hRows, List.find?_append, hOpen, Option.none_or]
  simp

/-- A recorded key keeps its record. -/
theorem KeyWrite.keeps {t : ExchangeStore} (h : KeyWrite s call t.idempotency)
    (hFind : s.findIdempotency scope key = some row) : t.findIdempotency scope key = some row := by
  unfold ExchangeStore.findIdempotency at hFind ⊢
  generalize t.idempotency = rows at h ⊢
  cases h with
  | kept => exact hFind
  | recorded added _ _ => rw [List.find?_append, hFind, Option.some_or]

/-- A key that was open and is recorded now was recorded by this call. -/
theorem KeyWrite.record_eq {t : ExchangeStore} (h : KeyWrite s call t.idempotency)
    (hBefore : s.findIdempotency scope key ≠ some row)
    (hAfter : t.findIdempotency scope key = some row) :
    call.record = some row ∧ s.findIdempotency scope key = none ∧
      t.idempotency = s.idempotency ++ [row] := by
  have hNone : s.findIdempotency scope key = none := by
    cases hFind : s.findIdempotency scope key with
    | none => rfl
    | some other =>
        have hSame : some other = some row := (h.keeps hFind).symm.trans hAfter
        rw [hFind] at hBefore
        exact absurd hSame hBefore
  unfold ExchangeStore.findIdempotency at hBefore hAfter
  generalize t.idempotency = rows at h hAfter ⊢
  cases h with
  | kept => exact absurd hAfter hBefore
  | recorded added hCall _ =>
      have hOpen : s.idempotency.find? (fun row => decide ((row.scope, row.key) = (scope, key))) =
          none := hNone
      rw [List.find?_append, hOpen, Option.none_or] at hAfter
      obtain rfl := List.mem_singleton.mp (List.mem_of_find?_eq_some hAfter)
      exact ⟨hCall, hNone, rfl⟩

end Calls

section Slots

/-- The scope and key of a request that is to be done once. -/
def ServiceRequest.slot (host : Host) (principal : ProductPrincipal) :
    ServiceRequest → Option (IdempotencyScope × String)
  | .createEndpoint _ key => key.map fun text => (.createEndpoint, text)
  | .createRoute _ key => key.map fun text => (.createRoute, text)
  | .createDraft command key => some (command.scope host principal, key)
  | .createApiKey _ key => key.map fun text => (CreateApiKeyRequest.scope host principal, text)
  | .editRouteDraft .. | .confirmRouteDraft .. | .confirmWorkspaceRouteDraft ..
  | .disableEndpoint _ | .revokeApiKey _ => none

/-- The body of such a request. -/
def ServiceRequest.body : ServiceRequest → Option Json
  | .createEndpoint command _ => some command.body
  | .createRoute command _ => some command.body
  | .createDraft command _ => some command.body
  | .createApiKey command _ => some command.body
  | .editRouteDraft .. | .confirmRouteDraft .. | .confirmWorkspaceRouteDraft ..
  | .disableEndpoint _ | .revokeApiKey _ => none

/-- The text that the digest of such a request is taken of. -/
def ServiceRequest.source (host : Host) (principal : ProductPrincipal) : ServiceRequest → String
  | .createDraft command _ => command.source host principal
  | .createApiKey command _ => command.source host principal
  | request => (request.body.map compact).getD ""

/-- All texts that the digest of a request rests on. -/
def ServiceRequest.hashed (host : Host) (principal : ProductPrincipal) (request : ServiceRequest) :
    List String :=
  request.source host principal :: (request.body.map compact).toList

variable {host : Host} {principal principal' : ProductPrincipal}
  {request request' : ServiceRequest} {moment : Moment} {stage : ServiceStage} {call : StoreCall}
  {row : IdempotencyRow}

theorem plain_draft (command : DraftCommand) : plain command.body = true := by
  cases command with
  | routeDraft command => exact plain_routeDraft command
  | scopedRouteDraft _ idempotencyCommand _ => exact plain_workspaceRouteDraft idempotencyCommand
  | workspaceBindingRouteDraft command => exact plain_workspaceBindingRouteDraft command

/-- The record that a request writes names its own scope, key and digest. -/
theorem call_record (hServes : stage.Serves request)
    (hCall : stage.call host principal moment = some call) (hRecord : call.record = some row) :
    request.slot host principal = some (row.scope, row.key) ∧
      row.requestHash = host.hexdigest (request.source host principal) := by
  cases call_cases hCall with
  | remembers command key resource =>
      have hRequest : request = command.request key := hServes
      subst hRequest
      obtain ⟨text, rfl, rfl⟩ := Option.map_eq_some_iff.mp hRecord
      cases command <;> exact ⟨rfl, rfl⟩
  | drafts command key =>
      have hRequest : request = .createDraft command key := hServes
      subst hRequest
      cases hRecord
      exact ⟨rfl, rfl⟩
  | issues command key =>
      have hRequest : request = .createApiKey command key := hServes
      subst hRequest
      obtain ⟨text, rfl, rfl⟩ := Option.map_eq_some_iff.mp hRecord
      exact ⟨rfl, rfl⟩
  | savesEndpoint | savesRoute | edits | publishes | disables | revokes => cases hRecord

/-- The kinds of scopes, one for each kind of request. -/
inductive ScopeKind where
  | endpoint
  | route
  | draft
  | apiKey
deriving DecidableEq

def IdempotencyScope.kind : IdempotencyScope → ScopeKind
  | .createEndpoint => .endpoint
  | .createRoute => .route
  | .createRouteDraft | .createRouteDraftV1 _ | .createWorkspaceBindingRouteDraftV1 _ => .draft
  | .createApiKey | .createApiKeyV1 _ => .apiKey

theorem draft_scope_kind (host : Host) (principal : ProductPrincipal) (command : DraftCommand) :
    (command.scope host principal).kind = .draft := by
  cases command <;> rfl

theorem apiKey_scope_kind (host : Host) (principal : ProductPrincipal) :
    (CreateApiKeyRequest.scope host principal).kind = .apiKey := by
  unfold CreateApiKeyRequest.scope
  split <;> rfl

/-- The request that a slot of each kind belongs to. -/
theorem slot_cases {slot : IdempotencyScope × String}
    (h : request.slot host principal = some slot) :
    match slot.1.kind with
    | .endpoint => ∃ command, request = .createEndpoint command (some slot.2)
    | .route => ∃ command, request = .createRoute command (some slot.2)
    | .draft => ∃ command, request = .createDraft command slot.2
    | .apiKey => ∃ command, request = .createApiKey command (some slot.2) := by
  cases request with
  | createEndpoint command key =>
      obtain ⟨text, rfl, rfl⟩ := Option.map_eq_some_iff.mp h
      exact ⟨command, rfl⟩
  | createRoute command key =>
      obtain ⟨text, rfl, rfl⟩ := Option.map_eq_some_iff.mp h
      exact ⟨command, rfl⟩
  | createDraft command key =>
      obtain rfl := Option.some.inj h
      simp only [draft_scope_kind]
      exact ⟨command, rfl⟩
  | createApiKey command key =>
      obtain ⟨text, rfl, rfl⟩ := Option.map_eq_some_iff.mp h
      simp only [apiKey_scope_kind]
      exact ⟨command, rfl⟩
  | _ => cases h

/-- In one slot, sources that agree stem from one body. -/
theorem body_eq_of_source {texts : List String} (hFree : CollisionFree host.hexdigest texts)
    (hTexts : request.hashed host principal ⊆ texts)
    (hTexts' : request'.hashed host principal' ⊆ texts)
    {slot : IdempotencyScope × String} (hSlot : request.slot host principal = some slot)
    (hSlot' : request'.slot host principal' = some slot)
    (h : request.source host principal = request'.source host principal') :
    request.body = request'.body := by
  have hKind := slot_cases hSlot
  have hKind' := slot_cases hSlot'
  cases hScope : slot.1.kind with
  | endpoint =>
      rw [hScope] at hKind hKind'
      obtain ⟨command, rfl⟩ := hKind
      obtain ⟨command', rfl⟩ := hKind'
      exact congrArg some (compact_inj (plain_endpoint command) (plain_endpoint command') h)
  | route =>
      rw [hScope] at hKind hKind'
      obtain ⟨command, rfl⟩ := hKind
      obtain ⟨command', rfl⟩ := hKind'
      exact congrArg some (compact_inj (plain_route command) (plain_route command') h)
  | draft =>
      rw [hScope] at hKind hKind'
      obtain ⟨command, rfl⟩ := hKind
      obtain ⟨command', rfl⟩ := hKind'
      have hBody : compact command.body ∈ texts := hTexts (by simp [ServiceRequest.hashed,
        ServiceRequest.body])
      have hBody' : compact command'.body ∈ texts := hTexts' (by simp [ServiceRequest.hashed,
        ServiceRequest.body])
      exact congrArg some (body_eq_of_requestHash hFree hBody hBody' (plain_draft command)
        (plain_draft command') (requestHash_of_digestSource h))
  | apiKey =>
      rw [hScope] at hKind hKind'
      obtain ⟨command, rfl⟩ := hKind
      obtain ⟨command', rfl⟩ := hKind'
      have hBody : compact command.body ∈ texts := hTexts (by simp [ServiceRequest.hashed,
        ServiceRequest.body])
      have hBody' : compact command'.body ∈ texts := hTexts' (by simp [ServiceRequest.hashed,
        ServiceRequest.body])
      exact congrArg some (body_eq_of_requestHash hFree hBody hBody' (plain_apiKey command)
        (plain_apiKey command') (requestHash_of_digestSource h))

/-- So do digests that agree. -/
theorem body_eq_of_digest {texts : List String} (hFree : CollisionFree host.hexdigest texts)
    (hTexts : request.hashed host principal ⊆ texts)
    (hTexts' : request'.hashed host principal' ⊆ texts)
    {slot : IdempotencyScope × String} (hSlot : request.slot host principal = some slot)
    (hSlot' : request'.slot host principal' = some slot)
    (h : host.hexdigest (request.source host principal) =
      host.hexdigest (request'.source host principal')) : request.body = request'.body := by
  have hSource : request.source host principal ∈ texts := hTexts List.mem_cons_self
  have hSource' : request'.source host principal' ∈ texts := hTexts' List.mem_cons_self
  exact body_eq_of_source hFree hTexts hTexts' hSlot hSlot' (hFree _ hSource _ hSource' h)

end Slots

section Runs

/-- Everything that a digest is taken of in a run. -/
def hashedTexts (host : Host) (inputs : List ServiceInput) : List String :=
  inputs.flatMap fun
    | .arrive arrival => arrival.request.hashed host arrival.principal
    | .advance .. | .operate _ => []

/-- Every request in flight arrived in the run, and stands at a stage of its own. -/
def ArrivedIn (inputs : List ServiceInput) (system : ServiceSystem) : Prop :=
  ∀ flight ∈ system.flights, flight.Orderly ∧
    .arrive ⟨flight.principal, flight.request⟩ ∈ inputs

theorem arrivedIn_preserved (host : Host) (inputs : List ServiceInput) :
    Preserves (serviceStep host) (fun _ input => input ∈ inputs) (ArrivedIn inputs) := by
  intro system input hArrived hInput flight hFlight
  rcases flight_mem_cases hFlight with hOld | ⟨arrival, rfl, rfl⟩ |
    ⟨index, moment, before, rfl, hBefore, rfl⟩
  · exact hArrived flight hOld
  · exact ⟨arrives_serves arrival.principal arrival.request, hInput⟩
  · obtain ⟨hOrderly, hArrival⟩ := hArrived before (List.mem_of_getElem? hBefore)
    obtain ⟨hPrincipal, hRequest⟩ := move_request host moment before system.store
    refine ⟨move_orderly system.store hOrderly, ?_⟩
    show .arrive ⟨(before.move host moment system.store).1.principal,
      (before.move host moment system.store).1.request⟩ ∈ inputs
    rw [hPrincipal, hRequest]
    exact hArrival

theorem ArrivedIn.hashed_subset {host : Host} {inputs : List ServiceInput}
    {system : ServiceSystem} {flight : ServiceFlight} (h : ArrivedIn inputs system)
    (hFlight : flight ∈ system.flights) :
    flight.request.hashed host flight.principal ⊆ hashedTexts host inputs := by
  intro text hText
  exact List.mem_flatMap.mpr ⟨_, (h flight hFlight).2, hText⟩

/-- The events of a run, with what holds of the requests in flight. -/
theorem arrivedIn_events (host : Host) (inputs : List ServiceInput) :
    ∀ e ∈ trace (serviceStep host) inputs { store := {} }, ArrivedIn inputs e.before ∧
      e.after = (serviceStep host e.input e.before).2 := by
  intro e he
  have hStart : ArrivedIn inputs { store := {} } := by
    rintro flight ⟨⟩
  have hAdmitted : Admitted (serviceStep host) (fun _ input => input ∈ inputs) inputs
      { store := {} } :=
    admitted_of_mem (fun _ hInput _ => hInput) _
  obtain ⟨hArrived, -, -, hAfter⟩ :=
    (arrivedIn_preserved host inputs).trace hStart hAdmitted e he
  exact ⟨hArrived, hAfter⟩

/-- The request at `index` records this row in the event. -/
def Records (host : Host) (row : IdempotencyRow) (e : Event ServiceSystem ServiceInput Unit) :
    Prop :=
  ∃ index moment flight call, e.input = .advance index moment ∧
    e.before.flights[index]? = some flight ∧
    flight.stage.call host flight.principal moment = some call ∧ call.record = some row ∧
    e.before.store.findIdempotency row.scope row.key = none ∧
    e.after.store = (storeStep host call e.before.store).2 ∧
    e.after.store.idempotency = e.before.store.idempotency ++ [row]

/-- A record enters the store by an event of its own. -/
theorem records_of_found {host : Host} {scope : IdempotencyScope} {key : String}
    {row : IdempotencyRow} {system : ServiceSystem} {input : ServiceInput}
    (hBefore : ¬ system.store.findIdempotency scope key = some row)
    (hAfter : (serviceStep host input system).2.store.findIdempotency scope key = some row) :
    Records host row
      ⟨system, input, (serviceStep host input system).1, (serviceStep host input system).2⟩ := by
  obtain ⟨rfl, rfl⟩ := findIdempotency_eq_some hAfter
  rcases store_cases (serviceRules host) input system with hSame |
    ⟨index, moment, flight, rfl, hFlight, hStore⟩ | ⟨call, rfl, hStore⟩
  · rw [serviceStep, hSame] at hAfter
    exact absurd hAfter hBefore
  · cases hCall : flight.stage.call host flight.principal moment with
    | none =>
        have hSame : ((serviceRules host).move moment flight system.store).2 = system.store :=
          congrArg Prod.snd (move_of_none hCall _)
        rw [serviceStep, hStore, hSame] at hAfter
        exact absurd hAfter hBefore
    | some call =>
        have hStep : (serviceStep host (.advance index moment) system).2.store =
            (storeStep host call system.store).2 := by
          rw [serviceStep, hStore]
          exact congrArg Prod.snd (move_of_call hCall _)
        rw [hStep] at hAfter
        obtain ⟨hRecord, hNone, hRows⟩ :=
          (storeStep_idempotency host call system.store).record_eq hBefore hAfter
        exact ⟨index, moment, flight, call, rfl, hFlight, hCall, hRecord, hNone, hStep,
          by rw [hStep]; exact hRows⟩
  · have hStep : (serviceStep host (.operate call) system).2.store =
        (storeStep host (.operator call) system.store).2 := hStore
    rw [hStep] at hAfter
    have hRecord := ((storeStep_idempotency host (.operator call) system.store).record_eq
      hBefore hAfter).1
    cases hRecord

/-- A record in the store was written earlier in the run. -/
theorem found_records {host : Host} {inputs : List ServiceInput} {scope : IdempotencyScope}
    {key : String} {row : IdempotencyRow}
    {earlier later : List (Event ServiceSystem ServiceInput Unit)}
    {e : Event ServiceSystem ServiceInput Unit}
    (hTrace : trace (serviceStep host) inputs { store := {} } = earlier ++ e :: later)
    (hFind : e.before.store.findIdempotency scope key = some row) :
    ∃ c ∈ earlier, Records host row c := by
  have hEmpty : ¬ ({ store := {} } : ServiceSystem).store.findIdempotency scope key = some row := by
    rintro ⟨⟩
  exact trace_cause (fun system : ServiceSystem =>
      system.store.findIdempotency scope key = some row) (Records host row)
    (fun _ _ => records_of_found) hEmpty hTrace hFind

/-- A recorded key stays recorded. -/
theorem serviceStep_found {host : Host} {scope : IdempotencyScope} {key : String}
    {row : IdempotencyRow} {system : ServiceSystem} (input : ServiceInput)
    (h : system.store.findIdempotency scope key = some row) :
    (serviceStep host input system).2.store.findIdempotency scope key = some row :=
  serviceStep_store (P := fun s => s.findIdempotency scope key = some row)
    (fun call s hFind => (storeStep_idempotency host call s).keeps hFind) input h

/-- A recorded key keeps its record over a run. -/
theorem records_stay (host : Host) (inputs : List ServiceInput) :
    (trace (serviceStep host) inputs { store := {} }).Pairwise fun e f =>
      ∀ scope key row, e.after.store.findIdempotency scope key = some row →
        f.before.store.findIdempotency scope key = some row := by
  have hPreserved : Preserves (serviceStep host) (fun _ _ => True) fun _ => True :=
    fun _ _ _ _ => trivial
  refine (trace_related (R := fun system system' : ServiceSystem => ∀ scope key row,
      system.store.findIdempotency scope key = some row →
        system'.store.findIdempotency scope key = some row)
    hPreserved (fun _ _ _ _ hFind => hFind)
    (fun _ _ _ hst htu scope key row hFind => htu scope key row (hst scope key row hFind))
    ?_ trivial (admitted_of_forall (fun _ _ => trivial) inputs _)).2
  intro system input _ _ scope key row hFind
  exact serviceStep_found input hFind

theorem record_stays {host : Host} {inputs : List ServiceInput} {scope : IdempotencyScope}
    {key : String} {row : IdempotencyRow}
    {earlier later : List (Event ServiceSystem ServiceInput Unit)}
    {e c : Event ServiceSystem ServiceInput Unit}
    (hTrace : trace (serviceStep host) inputs { store := {} } = earlier ++ e :: later)
    (hc : c ∈ earlier) (hFind : c.after.store.findIdempotency scope key = some row) :
    e.before.store.findIdempotency scope key = some row := by
  have hPairs := records_stay host inputs
  rw [hTrace, List.pairwise_append] at hPairs
  exact hPairs.2.2 c hc e List.mem_cons_self scope key row hFind

/-- The id of the resource that an answer shows. -/
def ServiceAnswer.id : ServiceAnswer → UUID
  | .resource found => found.id
  | .createdApiKey created => created.apiKey.id
  | .apiKey found => found.id

/-- A request of this slot moves in this event. -/
structure SlotMove (host : Host) (slot : IdempotencyScope × String)
    (e : Event ServiceSystem ServiceInput Unit) where
  index : Nat
  moment : Moment
  flight : ServiceFlight
  input : e.input = .advance index moment
  found : e.before.flights[index]? = some flight
  ofSlot : flight.request.slot host flight.principal = some slot

namespace SlotMove

variable {host : Host} {slot : IdempotencyScope × String}
  {e : Event ServiceSystem ServiceInput Unit}

/-- The stage that the request stands at after the event. -/
def stage (move : SlotMove host slot e) : ServiceStage :=
  (move.flight.move host move.moment e.before.store).1.stage

/-- The request ends with this outcome here, and has not ended before. -/
def Ends (move : SlotMove host slot e) (outcome : Except Failure ServiceAnswer) : Prop :=
  move.stage = .done outcome ∧ ∀ outcome, move.flight.stage ≠ .done outcome

/-- After the event the store is what the request made of it. -/
theorem store_eq {inputs : List ServiceInput}
    (he : e ∈ trace (serviceStep host) inputs { store := {} }) (move : SlotMove host slot e) :
    e.after.store = (move.flight.move host move.moment e.before.store).2 := by
  rw [(arrivedIn_events host inputs e he).2, move.input, serviceStep, step_advance move.found]
  rfl

theorem orderly {inputs : List ServiceInput}
    (he : e ∈ trace (serviceStep host) inputs { store := {} }) (move : SlotMove host slot e) :
    move.flight.Orderly :=
  ((arrivedIn_events host inputs e he).1 move.flight (List.mem_of_getElem? move.found)).1

/-- Requests of one slot and digest have one body. -/
theorem body_eq {inputs : List ServiceInput} {f : Event ServiceSystem ServiceInput Unit}
    (hFree : CollisionFree host.hexdigest (hashedTexts host inputs))
    (he : e ∈ trace (serviceStep host) inputs { store := {} })
    (hf : f ∈ trace (serviceStep host) inputs { store := {} }) (move : SlotMove host slot e)
    (move' : SlotMove host slot f)
    (h : host.hexdigest (move.flight.request.source host move.flight.principal) =
      host.hexdigest (move'.flight.request.source host move'.flight.principal)) :
    move.flight.request.body = move'.flight.request.body :=
  body_eq_of_digest hFree
    ((arrivedIn_events host inputs e he).1.hashed_subset (List.mem_of_getElem? move.found))
    ((arrivedIn_events host inputs f hf).1.hashed_subset (List.mem_of_getElem? move'.found))
    move.ofSlot move'.ofSlot h

end SlotMove

end Runs

end CyreneExchange.Product
