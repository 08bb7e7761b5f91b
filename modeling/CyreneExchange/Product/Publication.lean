import CyreneExchange.Product.Lifecycle
import CyreneExchange.Product.Requests

/-! What a confirmation publishes. The target validation runs between the read
of a draft and the write of the active route, while other edits and
confirmations commit. -/
namespace CyreneExchange.Product

open Integrations (UUID)
open Flights Machine Transaction

/-- The two documents send requests to the same place. -/
structure GatewayRoute.SameTarget (route validated : GatewayRoute) : Prop where
  id : route.id = validated.id
  targetBindingId : route.targetBindingId = validated.targetBindingId
  targetModel : route.targetModel = validated.targetModel
  modelPattern : route.modelPattern = validated.modelPattern
  priority : route.priority = validated.priority
  source : route.source = validated.source

/-- In this event the request at `index` had `validated` checked, and the
check passed. -/
def Validates (index : Nat) (validated : GatewayRoute) (version : Nat)
    (e : Event ServiceSystem ServiceInput Unit) : Prop :=
  ∃ moment flight, e.input = .advance index moment ∧ e.before.flights[index]? = some flight ∧
    flight.stage = .validating validated version ∧ moment.validation = none

/-- The request at `index` is about to publish what it has had validated. -/
def Publishes (index : Nat) (validated : GatewayRoute) (version : Nat)
    (system : ServiceSystem) : Prop :=
  ∃ flight, system.flights[index]? = some flight ∧ flight.stage = .publishing validated version

section Steps

variable {host : Host} {principal : ProductPrincipal} {moment : Moment} {s : ExchangeStore}
  {stage : ServiceStage} {validated : GatewayRoute} {version : Nat}

/-- Only a passed validation leads on to the publication. -/
theorem proceeds_publishing
    (h : stage.proceeds host principal moment s = .publishing validated version) :
    stage = .publishing validated version ∨
      (stage = .validating validated version ∧ moment.validation = none) := by
  have hStep := proceeds_cases host principal moment s stage
  rw [h] at hStep
  cases hStep with
  | stays => exact Or.inl rfl
  | validated _ _ hPassed => exact Or.inr ⟨rfl, hPassed⟩

theorem answered_publishing {answer : Except Failure StoreAnswer}
    (h : stage.answered moment answer = .publishing validated version) :
    stage = .publishing validated version := by
  have hStep := answered_cases moment stage answer
  rw [h] at hStep
  cases hStep
  rfl

/-- A request comes to publish only through its own validation. -/
theorem publishes_cause {index : Nat} {system : ServiceSystem} {input : ServiceInput}
    (hBefore : ¬ Publishes index validated version system)
    (hAfter : Publishes index validated version (serviceStep host input system).2) :
    Validates index validated version
      ⟨system, input, (serviceStep host input system).1, (serviceStep host input system).2⟩ := by
  obtain ⟨flight, hFlight, hStage⟩ := hAfter
  rcases flight_cases hFlight with hSame | ⟨arrival, -, rfl, -⟩ | ⟨moment, before, rfl, hOld, rfl⟩
  · exact absurd ⟨flight, hSame, hStage⟩ hBefore
  · have hDraft : arrival.flight.stage.draft = some (validated, some version) :=
      congrArg ServiceStage.draft hStage
    exact absurd hDraft (arrival_draft arrival)
  · have hMoved : (before.move host moment system.store).1.stage =
        .publishing validated version := hStage
    cases hCall : before.stage.call host before.principal moment with
    | some call =>
        rw [move_of_call hCall] at hMoved
        exact absurd ⟨before, hOld, answered_publishing hMoved⟩ hBefore
    | none =>
        rw [move_of_none hCall] at hMoved
        rcases proceeds_publishing hMoved with hPublishing | ⟨hValidating, hPassed⟩
        · exact absurd ⟨before, hOld, hPublishing⟩ hBefore
        · exact ⟨moment, before, rfl, hOld, hValidating, hPassed⟩

/-- A confirmation calls the store only to publish. -/
theorem confirms_call {flight : ServiceFlight} {call : StoreCall} {named : Nat}
    (hOrderly : flight.Orderly) (hConfirms : flight.request.Confirms named)
    (hCall : flight.stage.call host flight.principal moment = some call) :
    ∃ read, flight.stage = .publishing read named ∧
      call = .replaceRouteVersion (read.published named moment.now) named := by
  obtain ⟨principal, request, stage⟩ := flight
  obtain ⟨routeId, hRequest⟩ := hConfirms
  have hServes : stage.Serves request := hOrderly
  cases stage with
  | publishing read version =>
      obtain ⟨otherId, hOther⟩ := hServes
      have hVersion : version = named := by
        rcases hRequest with rfl | rfl <;> rcases hOther with h | h <;> cases h <;> rfl
      subst hVersion
      cases hCall
      exact ⟨read, rfl, rfl⟩
  | saving command key | remembering command key resource =>
      have hCreate : request = command.request key := hServes
      subst hCreate
      cases command <;> rcases hRequest with h | h <;> cases h
  | drafting command key =>
      have hCreate : request = .createDraft command key := hServes
      subst hCreate
      rcases hRequest with h | h <;> cases h
  | editing read command =>
      obtain ⟨otherId, rfl⟩ := hServes
      rcases hRequest with h | h <;> cases h
  | disabling endpoint =>
      obtain ⟨otherId, rfl⟩ := hServes
      rcases hRequest with h | h <;> cases h
  | issuing command key =>
      have hCreate : request = .createApiKey command key := hServes
      subst hCreate
      rcases hRequest with h | h <;> cases h
  | revoking apiKeyId =>
      have hRevoke : request = .revokeApiKey apiKeyId := hServes
      subst hRevoke
      rcases hRequest with h | h <;> cases h
  | _ => cases hCall

/-- A row that a publication changes holds the published document. -/
theorem publication_row {read : GatewayRoute} {row : RouteRow}
    (hRow : row ∈ (storeStep host
      (.replaceRouteVersion (read.published version moment.now) version) s).2.routes)
    (hNew : row ∉ s.routes) :
    row.route.SameTarget read ∧ row.priority = read.priority ∧ row.state = .active := by
  have hWrite := storeStep_routes host
    (.replaceRouteVersion (read.published version moment.now) version) s
  generalize (storeStep host _ s).2.routes = rows at hRow hWrite
  cases hWrite with
  | kept => exact absurd hRow hNew
  | saved _ hCall => cases hCall
  | drafted _ _ _ _ _ _ hCall => cases hCall
  | migrated hCall => cases hCall
  | replaced route expected hCall found hFound hId hVersion =>
      cases hCall
      obtain ⟨old, hOld, ⟨hWhere, rfl⟩ | ⟨hWhere, rfl⟩⟩ := Table.mem_updateWhere.mp hRow
      · exact ⟨⟨rfl, rfl, rfl, rfl, rfl, rfl⟩, rfl, rfl⟩
      · exact absurd hOld hNew

end Steps

/-- Over a run, whatever a confirmation of a version writes is an active route
with the target that this confirmation had validated before. -/
def PublishesValidated (host : Host) (inputs : List ServiceInput) : Prop :=
  ∀ earlier e later, trace (serviceStep host) inputs { store := {} } = earlier ++ e :: later →
    ∀ index moment flight version, e.input = .advance index moment →
      e.before.flights[index]? = some flight → flight.request.Confirms version →
        ∀ row ∈ e.after.store.routes, row ∉ e.before.store.routes →
          row.state = .active ∧ ∃ validated, row.route.SameTarget validated ∧
            row.priority = validated.priority ∧ ∃ c ∈ earlier, Validates index validated version c

/-- In every interleaving, what a confirmation publishes has passed its own validation. -/
theorem confirmation_publishes_validated (host : Host) (inputs : List ServiceInput) :
    PublishesValidated host inputs := by
  intro earlier e later hTrace index moment flight version hInput hFlight hConfirms row hRow hNew
  have hAdmitted : Admitted (serviceStep host) (fun _ _ => True) inputs { store := {} } :=
    admitted_of_forall (fun _ _ => trivial) inputs _
  have hStart : Orderly { store := {} } := by
    rintro flight ⟨⟩
  have hEvent : e ∈ trace (serviceStep host) inputs { store := {} } := by
    rw [hTrace]
    exact List.mem_append_right _ List.mem_cons_self
  obtain ⟨hOrderly, -, -, hAfter⟩ := (orderly_preserved host).trace hStart hAdmitted e hEvent
  -- the request wrote a row, so it stood at its publication
  rw [hAfter, hInput, serviceStep, step_advance hFlight] at hRow
  cases hCall : flight.stage.call host flight.principal moment with
  | none =>
      have hSame : ((serviceRules host).move moment flight e.before.store).2 = e.before.store :=
        congrArg Prod.snd (move_of_none hCall _)
      rw [hSame] at hRow
      exact absurd hRow hNew
  | some call =>
      obtain ⟨read, hStage, rfl⟩ :=
        confirms_call (hOrderly flight (List.mem_of_getElem? hFlight)) hConfirms hCall
      have hMove : ((serviceRules host).move moment flight e.before.store).2 =
          (storeStep host (.replaceRouteVersion (read.published version moment.now) version)
            e.before.store).2 := congrArg Prod.snd (move_of_call hCall _)
      rw [hMove] at hRow
      obtain ⟨hTarget, hPriority, hActive⟩ := publication_row hRow hNew
      have hEmpty : ¬ Publishes index read version ({ store := {} } : ServiceSystem) := by
        rintro ⟨flight, ⟨⟩, -⟩
      have hCause := trace_cause (Publishes index read version) (Validates index read version)
        (fun _ _ => publishes_cause) hEmpty hTrace ⟨flight, hFlight, hStage⟩
      exact ⟨hActive, read, hTarget, hPriority, hCause⟩

/-- A confirmation reads the draft, has it validated and publishes it. -/
def sampleConfirmation : List ServiceInput := sampleCreation ++ [
  sampleArrival (.confirmRouteDraft (sampleUuid 'r') 1),
  sampleAdvance 2 'x', sampleAdvance 2 'x', sampleAdvance 2 'x', sampleAdvance 2 'x']

example : (run (serviceStep sampleHost) sampleConfirmation { store := {} }).store.routes =
    [sampleActiveRow] := by decide +kernel

end CyreneExchange.Product
