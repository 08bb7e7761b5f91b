import CyreneExchange.Integrations.Graph.Setup

/-! Discovery: the pages of one fixed provider listing, projected to the targets
that the host lets through. -/
namespace CyreneExchange.Integrations.Graph
open CyreneExchange.General CyreneExchange.Gateway

section Resources

/-- `_RESOURCE_TYPES`. -/
inductive ResourceType where
  | plannerPlans
  | todoLists
  | sharepointDrives
  | calendars
  | mailFolders
  | freebusySubjects
deriving DecidableEq, Repr

namespace ResourceType

/-- The target field of the resource type. -/
def target : ResourceType → OfficeTarget
  | plannerPlans => .plannerPlanIds
  | todoLists => .toDoTaskListIds
  | sharepointDrives => .sharePointDriveIds
  | calendars => .calendarIds
  | mailFolders => .mailFolderIds
  | freebusySubjects => .freebusySubjects

/-- The identifier, the label and the kind of a discovered item. -/
def fields : ResourceType → String × String × String
  | plannerPlans => ("plan_id", "title", "planner_plan")
  | todoLists => ("task_list_id", "display_name", "todo_list")
  | sharepointDrives => ("drive_id", "name", "sharepoint_drive")
  | calendars => ("calendar_id", "name", "calendar")
  | mailFolders => ("folder_id", "display_name", "mail_folder")
  | freebusySubjects => ("freebusy_subject", "display_name", "person")

/-- `_RESOURCE_OPERATIONS`: free/busy subjects are not read from the provider. -/
def operation : ResourceType → Option String
  | plannerPlans => some "microsoft_graph.planner.plans.list"
  | todoLists => some "microsoft_graph.todo.lists.list"
  | sharepointDrives => some "microsoft_graph.sharepoint.drives.list"
  | calendars => some "microsoft_graph.calendar.calendars.list"
  | mailFolders => some "microsoft_graph.mail.folders.list"
  | freebusySubjects => none

end ResourceType

/-- What the setup page sees of a discovered target. -/
structure DiscoveryItem where
  id : Str
  displayName : Str
  kind : String
  siteId : Option Str
  driveType : Option Str
deriving DecidableEq, Repr

/-- A text of at least one character and at most so many. -/
def shortText (maximum : Nat) (value : Value) : Option Str :=
  value.asStr.filter fun s => !s.isEmpty && decide (s.length ≤ maximum)

/-- `_discovery_item`. -/
def discoveryItem (resourceType : ResourceType) (value : Value) :
    Except SetupFailure DiscoveryItem := do
  let item ← expectSome value.asDict "office_graph_discovery_item_invalid"
  let id ← expectSome (shortText 512 (item.get resourceType.fields.1))
    "office_graph_discovery_item_invalid"
  let displayName := (shortText 255 (item.get resourceType.fields.2.1)).getD id
  let kind := resourceType.fields.2.2
  if resourceType = .sharepointDrives then do
    let siteId ← expectSome ((item.get "site_id").asStr.filter fun s => decide (s.length ≤ 600))
      "office_graph_discovery_item_invalid"
    let driveType := (item.get "drive_type").asStr.filter fun s => decide (s.length ≤ 40)
    pure { id, displayName, kind, siteId := some siteId, driveType }
  else pure { id, displayName, kind, siteId := none, driveType := none }

/-- What `_discover_targets` answers with. -/
structure DiscoveredPage where
  items : List DiscoveryItem
  pageCursor : Option Str
  nextCursor : Value
  complete : Bool
  truncated : Bool
  credentialRevision : Value
  siteId : Option Str

def DiscoveredPage.ids (page : DiscoveredPage) : List Str := page.items.map DiscoveryItem.id

/-- The cursor of the page to read next. -/
def DiscoveredPage.following (page : DiscoveredPage) : Option Str :=
  page.nextCursor.asStr.filter fun next => !next.isEmpty

end Resources

section Pages

/-- `_bounded_text` of a page cursor. -/
def isCursor (s : Str) : Bool :=
  decide (1 ≤ s.length) && decide (s.length ≤ 12000) && decide (s.strip = s) &&
    s.all fun c => decide (0x20 ≤ c.val) && c.val != 0x7f

/-- The SharePoint site of a scope. -/
def ProfileScope.siteId : ProfileScope → Option Str
  | .v1 scope => scope.sharepoint.siteId
  | .v2 scope => scope.sharepoint.siteId

/-- A profile whose authorization cannot be used. -/
def requireAuthorization (services : Services) (profile : Dict) : Setup Unit := do
  if isHealthy profile then do
    let scope ← .lift (storedScope profile)
    let metadata ← readMetadata services profile scope
    if metadata.reauthRequired then
      .fail (.office "office_graph_authorization_required" "AUTHORIZATION_REQUIRED")
    else pure ()
  else .fail (.office "office_graph_authorization_required" "AUTHORIZATION_REQUIRED")

/-- A page cursor as an argument. -/
def cursorArgument : Option Str → Except SetupFailure Dict
  | none => .ok []
  | some s =>
      (require (isCursor s) "office_setup_pageCursor_invalid").map fun _ =>
        [(text "page_cursor", Value.str s)]

/-- The site that the drives are listed of. -/
def siteArgument (scope : ProfileScope) (resourceType : ResourceType) : Except SetupFailure Dict :=
  if resourceType = .sharepointDrives then
    (expectSome scope.siteId "office_graph_sharepoint_site_not_configured").map fun s =>
      [(text "site_id", Value.str s)]
  else .ok []

/-- The arguments of a listing. -/
def pageArguments (scope : ProfileScope) (resourceType : ResourceType) (pageCursor : Option Str) :
    Except SetupFailure Dict := do
  let cursor ← cursorArgument pageCursor
  let site ← siteArgument scope resourceType
  pure ((text "page_size", .int 50) :: cursor ++ site)

/-- What a listing must look like. -/
def readResponse : Except String Value → Except SetupFailure Dict
  | .error reason => .error (.provider reason)
  | .ok (.dict result) =>
      if (Dict.get result "status").hashable then
        (require (!(Dict.get result "status").asStr.any fun status =>
            ([text "UNKNOWN", text "FAILED", text "REJECTED"] : List Str).contains status)
          "office_graph_provider_read_failed").map fun _ => result
      else .error (.unexpected "TypeError")
  | .ok _ => .error (officeError "office_graph_provider_response_invalid")

/-- `_invoke_read_operation`: all that happens before the provider answers is one read. -/
def invokeReadOperation (services : Services) (operationId : String) (arguments : Dict) :
    Setup Dict := do
  let response ← .ask (.pageRead operationId arguments)
    fun history => services.page history operationId arguments
  .lift (readResponse response)

/-- The page of a listing, without what the host does not let through. -/
def projectPage (office : OfficeV2Profile) (profile : Dict) (scope : ProfileScope)
    (resourceType : ResourceType) (pageCursor : Option Str) (result : Dict) :
    Except SetupFailure DiscoveredPage := do
  let rawItems ← expectSome
    ((listItems (result.get "items")).filter fun items => decide (items.length ≤ 100))
    "office_graph_discovery_response_invalid"
  let projected ← each (fun _ item => discoveryItem resourceType item) 0 rawItems
  let hostAllowlist := office.targets resourceType.target
  pure
    { items := projected.filter fun item => hostAllowlist.isEmpty || hostAllowlist.contains item.id
      pageCursor
      nextCursor := result.get "next_cursor"
      complete := (result.get "complete").asBool = some true
      truncated := (result.get "truncated").asBool = some true
      credentialRevision := profile.get "credential_revision"
      siteId := if resourceType = .sharepointDrives then scope.siteId else none }

/-- The free/busy subjects that are selected already and on the host's allowlist. -/
def freebusyPage (office : OfficeV2Profile) (profile : Dict) (scope : ProfileScope)
    (pageCursor : Option Str) : Except SetupFailure DiscoveredPage :=
  match scope with
  | .v1 _ => .error (.unexpected "KeyError")
  | .v2 scope => do
      let subjects := scope.calendar.freebusySubjects.filter
        (office.targets .freebusySubjects).contains
      let items ← each (fun _ subject => discoveryItem .freebusySubjects
        (.dict [("freebusy_subject", .str subject), ("display_name", .str subject)])) 0 subjects
      pure
        { items, pageCursor
          nextCursor := .none
          complete := true
          truncated := false
          credentialRevision := profile.get "credential_revision"
          siteId := none }

/-- `_discover_targets`. -/
def discoverTargets (services : Services) (office : OfficeV2Profile) (profile : Dict)
    (resourceType : ResourceType) (pageCursor : Option Str) : Setup DiscoveredPage := do
  let scope ← .lift (storedScope profile)
  requireAuthorization services profile
  match resourceType.operation with
  | none => .lift (freebusyPage office profile scope pageCursor)
  | some operationId => do
      let arguments ← .lift (pageArguments scope resourceType pageCursor)
      let result ← invokeReadOperation services operationId arguments
      .lift (projectPage office profile scope resourceType pageCursor result)

/-- The loop of `_discover_all_ids`, for so many pages more. -/
def discoverPages (services : Services) (office : OfficeV2Profile) (profile : Dict)
    (resourceType : ResourceType) : Nat → Option Str → List Str → Setup (List Str)
  | 0, _, _ => .fail (officeError "office_graph_discovery_incomplete")
  | pages + 1, cursor, found => do
      let page ← discoverTargets services office profile resourceType cursor
      if page.complete then pure (found ++ page.ids)
      else match page.following with
        | some next =>
            discoverPages services office profile resourceType pages (some next) (found ++ page.ids)
        | none => .fail (officeError "office_graph_discovery_incomplete")

/-- `_discover_all_ids`. -/
def discoverAllIds (services : Services) (office : OfficeV2Profile) (profile : Dict)
    (resourceType : ResourceType) : Setup (List Str) :=
  discoverPages services office profile resourceType 20 none []

end Pages

section Exchanges

open General.Dialogue

variable {services : Services} {office : OfficeV2Profile} {profile : Dict}
  {resourceType : ResourceType} {cursor : Option Str}

/-- A reading of the clock, or of a page of this listing. -/
def IsPageOf (resourceType : ResourceType) : SetupEvent → Prop
  | .clockRead _ => True
  | .pageRead operationId _ _ => resourceType.operation = some operationId
  | _ => False

theorem requireAuthorization_emits :
    Emits (fun event => ∃ now, event = .clockRead now) (requireAuthorization services profile) := by
  unfold requireAuthorization
  split
  · refine .bind (emits_lift _) fun scope => .bind ?_ fun metadata => ?_
    · exact .bind (emits_ask (fun now => ⟨now, rfl⟩) _) fun _ => emits_lift _
    split
    · exact emits_lift _
    · exact emits_pure _
  · exact emits_lift _

theorem discoverTargets_emits :
    Emits (IsPageOf resourceType) (discoverTargets services office profile resourceType cursor) := by
  refine .bind (emits_lift _) fun scope => .bind ?_ fun _ => ?_
  · refine requireAuthorization_emits.imp ?_
    rintro _ ⟨now, rfl⟩
    trivial
  split
  · exact emits_lift _
  next operationId hOperation =>
    refine .bind (emits_lift _) fun arguments => .bind ?_ fun result => emits_lift _
    have hPage : ∀ response, IsPageOf resourceType (.pageRead operationId arguments response) :=
      fun _ => hOperation
    exact .bind (emits_ask hPage _) fun _ => emits_lift _

theorem discoverPages_emits {pages : Nat} {found : List Str} :
    Emits (IsPageOf resourceType)
      (discoverPages services office profile resourceType pages cursor found) := by
  induction pages generalizing cursor found with
  | zero => exact emits_lift _
  | succ pages ih =>
      refine .bind discoverTargets_emits fun page => ?_
      split
      · exact emits_pure _
      split
      · exact ih
      · exact emits_lift _

theorem requireAuthorization_fails :
    Fails IsOtherFailure (requireAuthorization services profile) := by
  have hRequired : IsOtherFailure
      (.office "office_graph_authorization_required" "AUTHORIZATION_REQUIRED") := by decide
  unfold requireAuthorization
  split
  · refine .bind (fails_lift (settles_passing _)) fun scope => .bind readMetadata_fails fun _ => ?_
    split
    · exact fails_lift ((settles_error _).mpr hRequired)
    · exact fails_pure ()
  · exact fails_lift ((settles_error _).mpr hRequired)

theorem discoveryItem_settles {value : Value} :
    Settles IsOtherFailure (discoveryItem resourceType value) := by
  refine settles_bind.mpr ⟨settles_expectSome (by decide), fun item _ => ?_⟩
  refine settles_bind.mpr ⟨settles_expectSome (by decide), fun id _ => ?_⟩
  dsimp only
  split
  · exact settles_bind.mpr ⟨settles_expectSome (by decide), fun _ _ => settles_ok _⟩
  · exact settles_ok _

theorem pageArguments_settles {scope : ProfileScope} :
    Settles IsOtherFailure (pageArguments scope resourceType cursor) := by
  refine settles_bind.mpr ⟨?_, fun arguments _ => settles_bind.mpr ⟨?_, fun site _ => settles_ok _⟩⟩
  · cases cursor with
    | none => exact settles_ok _
    | some s => exact settles_map.mpr (settles_require (by decide))
  · unfold siteArgument
    split
    · exact settles_map.mpr (settles_expectSome (by decide))
    · exact settles_ok _

theorem readResponse_settles {response : Except String Value} :
    Settles IsOtherFailure (readResponse response) := by
  unfold readResponse
  split
  · exact (settles_error _).mpr rfl
  · split
    · exact settles_map.mpr (settles_require (by decide))
    · exact (settles_error _).mpr rfl
  · exact (settles_error _).mpr (by decide)

theorem projectPage_settles {scope : ProfileScope} {result : Dict} :
    Settles IsOtherFailure (projectPage office profile scope resourceType cursor result) := by
  refine settles_bind.mpr ⟨settles_expectSome (by decide), fun items _ => ?_⟩
  exact settles_bind.mpr ⟨settles_each (fun _ _ => discoveryItem_settles) 0 items,
    fun projected _ => settles_ok _⟩

theorem freebusyPage_settles {scope : ProfileScope} :
    Settles IsOtherFailure (freebusyPage office profile scope cursor) := by
  cases scope with
  | v1 scope => exact (settles_error _).mpr rfl
  | v2 scope =>
      exact settles_bind.mpr ⟨settles_each (fun _ _ => discoveryItem_settles) 0 _,
        fun items _ => settles_ok _⟩

theorem discoverTargets_fails :
    Fails IsOtherFailure (discoverTargets services office profile resourceType cursor) := by
  refine .bind (fails_lift (settles_passing _)) fun scope => ?_
  refine .bind requireAuthorization_fails fun _ => ?_
  split
  · exact fails_lift freebusyPage_settles
  · refine .bind (fails_lift pageArguments_settles) fun arguments => .bind ?_ fun result => ?_
    · exact .bind (fails_ask _ _) fun _ => fails_lift readResponse_settles
    · exact fails_lift projectPage_settles

theorem discoverPages_fails {pages : Nat} {found : List Str} :
    Fails IsOtherFailure
      (discoverPages services office profile resourceType pages cursor found) := by
  induction pages generalizing cursor found with
  | zero => exact fails_lift ((settles_error _).mpr (by decide))
  | succ pages ih =>
      refine .bind discoverTargets_fails fun page => ?_
      split
      · exact fails_pure _
      split
      · exact ih
      · exact fails_lift ((settles_error _).mpr (by decide))

end Exchanges

section Found

/-- The provider listed the identifier on a page. -/
def Lists (resourceType : ResourceType) (id : Str) : SetupEvent → Prop
  | .pageRead operationId _ (.ok response) =>
      resourceType.operation = some operationId ∧ ∃ items, field response "items" = .list items ∧
        ∃ item ∈ items, field item resourceType.fields.1 = .str id
  | _ => False

/-- The identifier was found: on a page, or as a free/busy subject in the stored scope. -/
def Found (stored : ProfileScopeV2) (events : List SetupEvent) (resourceType : ResourceType)
    (id : Str) : Prop :=
  match resourceType.operation with
  | none => id ∈ stored.calendar.freebusySubjects
  | some _ => ∃ event ∈ events, Lists resourceType id event

/-- The host lets the identifier through. An empty allowlist admits everything, but for
SharePoint lists and free/busy subjects it admits nothing. -/
def Admits (office : OfficeV2Profile) (name : OfficeTarget) (id : Str) : Prop :=
  id ∈ office.targets name ∨
    office.targets name = [] ∧ name ≠ .sharePointListIds ∧ name ≠ .freebusySubjects

variable {services : Services} {office : OfficeV2Profile} {profile : Dict} {stored : ProfileScopeV2}
  {resourceType : ResourceType} {cursor : Option Str} {history : List SetupEvent} {id : Str}

theorem found_append {first second : List SetupEvent} :
    Found stored (first ++ second) resourceType id ↔
      Found stored first resourceType id ∨ Found stored second resourceType id := by
  unfold Found
  cases resourceType.operation with
  | none => exact (or_self_iff).symm
  | some operationId => simp only [List.mem_append, or_and_right, exists_or]

theorem found_nil_imp {events : List SetupEvent} (h : Found stored [] resourceType id) :
    Found stored events resourceType id := by
  unfold Found at h ⊢
  cases hOperation : resourceType.operation with
  | none =>
      rw [hOperation] at h
      exact h
  | some operationId =>
      rw [hOperation] at h
      obtain ⟨event, hMem, -⟩ := h
      cases hMem

theorem discoveryItem_id {value : Value} {item : DiscoveryItem}
    (h : discoveryItem resourceType value = .ok item) :
    field value resourceType.fields.1 = .str item.id := by
  obtain ⟨d, hDict, h⟩ := except_bind_eq_ok.mp h
  obtain ⟨found, hFound, h⟩ := except_bind_eq_ok.mp h
  obtain ⟨hStr, -⟩ := Option.filter_eq_some_iff.mp (expectSome_eq_ok.mp hFound)
  have hField : field value resourceType.fields.1 = .str found := by
    rw [field, expectSome_eq_ok.mp hDict]
    exact Value.asStr_eq_some.mp hStr
  dsimp only at h
  split at h
  · obtain ⟨siteId, -, h⟩ := except_bind_eq_ok.mp h
    cases h
    exact hField
  · cases h
    exact hField

/-- The projected items carry the identifiers of the raw ones. -/
theorem each_discoveryItem_ids {rawItems : List Value} {items : List DiscoveryItem}
    (h : each (fun _ item => discoveryItem resourceType item) 0 rawItems = .ok items) :
    rawItems.map (fun item => field item resourceType.fields.1) =
      items.map fun item => .str item.id := by
  rw [← List.forall₂_eq_eq_eq, List.forall₂_map_left_iff, List.forall₂_map_right_iff]
  exact forall₂_of_each (fun _ _ _ _ hItem => discoveryItem_id hItem) h

theorem projectPage_ids {scope : ProfileScope} {result : Dict} {page : DiscoveredPage}
    (hName : resourceType ≠ .freebusySubjects)
    (h : projectPage office profile scope resourceType cursor result = .ok page) :
    id ∈ page.ids ↔
      (∃ items, field (.dict result) "items" = .list items ∧
        ∃ item ∈ items, field item resourceType.fields.1 = .str id) ∧
      Admits office resourceType.target id := by
  obtain ⟨rawItems, hRaw, h⟩ := except_bind_eq_ok.mp h
  obtain ⟨projected, hProjected, h⟩ := except_bind_eq_ok.mp h
  cases h
  have hItems : field (.dict result) "items" = .list rawItems := by
    obtain ⟨hList, -⟩ := Option.filter_eq_some_iff.mp (expectSome_eq_ok.mp hRaw)
    exact listItems_eq_some.mp hList
  have hIds : (∃ item ∈ rawItems, field item resourceType.fields.1 = .str id) ↔
      ∃ item ∈ projected, item.id = id := by
    have hSame := each_discoveryItem_ids hProjected
    rw [← List.mem_map, hSame, List.mem_map]
    simp only [Value.str.injEq]
  have hAdmits : Admits office resourceType.target id ↔
      office.targets resourceType.target = [] ∨ id ∈ office.targets resourceType.target := by
    have hOther : resourceType.target ≠ .sharePointListIds ∧
        resourceType.target ≠ .freebusySubjects := by
      cases resourceType <;> simp_all [ResourceType.target]
    rw [Admits, and_iff_left hOther, or_comm]
  simp only [DiscoveredPage.ids, hItems, Value.list.injEq, exists_eq_left', hIds, hAdmits, List.mem_map,
    List.mem_filter, Bool.or_eq_true, List.isEmpty_iff, List.contains_iff_mem]
  constructor
  · rintro ⟨item, ⟨hMem, hAllowed⟩, rfl⟩
    exact ⟨⟨item, hMem, rfl⟩, hAllowed⟩
  · rintro ⟨⟨item, hMem, rfl⟩, hAllowed⟩
    exact ⟨item, ⟨hMem, hAllowed⟩, rfl⟩

theorem freebusyPage_ids {page : DiscoveredPage}
    (h : freebusyPage office profile (.v2 stored) cursor = .ok page) :
    id ∈ page.ids ↔
      id ∈ stored.calendar.freebusySubjects ∧ id ∈ office.targets .freebusySubjects := by
  obtain ⟨items, hItems, h⟩ := except_bind_eq_ok.mp h
  cases h
  have hSubjects : List.Forall₂ (fun subject item => subject = DiscoveryItem.id item)
      (stored.calendar.freebusySubjects.filter (office.targets .freebusySubjects).contains)
        items := by
    refine forall₂_of_each (fun subject _ _ item hItem => ?_) hItems
    have hId := discoveryItem_id hItem
    exact Value.str.inj hId
  rw [← List.forall₂_map_right_iff, List.forall₂_eq_eq_eq] at hSubjects
  rw [DiscoveredPage.ids, ← hSubjects, List.mem_filter, List.contains_iff_mem]

theorem readResponse_eq_ok {response : Except String Value} {result : Dict}
    (h : readResponse response = .ok result) : response = .ok (.dict result) := by
  unfold readResponse at h
  split at h
  · cases h
  · split at h
    next found _ =>
      cases hStatus : require (!(Dict.get found "status").asStr.any fun status =>
          ([text "UNKNOWN", text "FAILED", text "REJECTED"] : List Str).contains status)
          "office_graph_provider_read_failed" with
      | error e =>
          rw [hStatus] at h
          cases h
      | ok u =>
          rw [hStatus] at h
          cases h
          rfl
    · cases h
  · cases h

theorem invokeReadOperation_eq_ok {operationId : String} {arguments result : Dict}
    (h : (invokeReadOperation services operationId arguments history).result = .ok result) :
    (invokeReadOperation services operationId arguments history).events =
      [.pageRead operationId arguments (.ok (.dict result))] := by
  obtain ⟨response, hAsk, h⟩ := Dialogue.result_bind_eq_ok.mp h
  have hResponse : response = .ok (.dict result) := readResponse_eq_ok h
  rw [invokeReadOperation, Dialogue.events_bind_of_ok hAsk, ← hResponse, ← Except.ok.inj hAsk]
  rfl

/-- After readings of the clock, one page has found what stands on it. -/
theorem found_of_page {before : List SetupEvent} {operationId : String} {arguments result : Dict}
    (hOperation : resourceType.operation = some operationId)
    (hClock : ∀ event ∈ before, ∃ now, event = .clockRead now) :
    Found stored (before ++ [.pageRead operationId arguments (.ok (.dict result))]) resourceType id ↔
      ∃ items, field (.dict result) "items" = .list items ∧
        ∃ item ∈ items, field item resourceType.fields.1 = .str id := by
  unfold Found
  rw [hOperation]
  constructor
  · rintro ⟨event, hMem, hLists⟩
    rcases List.mem_append.mp hMem with hMem | hMem
    · obtain ⟨now, rfl⟩ := hClock event hMem
      cases hLists
    · rw [List.mem_singleton.mp hMem] at hLists
      exact hLists.2
  · intro hListed
    exact ⟨_, List.mem_append_right _ List.mem_cons_self, hOperation, hListed⟩

/-- What the pages of a listing show is what was found and is let through. -/
theorem discoverTargets_ids {page : DiscoveredPage}
    (hStored : storedScope profile = .ok (.v2 stored))
    (h : (discoverTargets services office profile resourceType cursor history).result = .ok page) :
    id ∈ page.ids ↔
      Found stored (discoverTargets services office profile resourceType cursor history).events
        resourceType id ∧ Admits office resourceType.target id := by
  rw [discoverTargets, Dialogue.lift_bind_of_ok hStored] at h ⊢
  obtain ⟨_, hAuthorized, h⟩ := Dialogue.result_bind_eq_ok.mp h
  rw [Dialogue.events_bind_of_ok hAuthorized]
  cases hOperation : resourceType.operation with
  | none =>
      have hSame : resourceType = .freebusySubjects := by
        cases resourceType <;> first | rfl | cases hOperation
      subst hSame
      refine (freebusyPage_ids h).trans (and_congr Iff.rfl ?_)
      simp [Admits, ResourceType.target]
  | some operationId =>
      rw [hOperation] at h
      obtain ⟨arguments, hArguments, h⟩ := Dialogue.result_bind_eq_ok.mp h
      obtain ⟨result, hResult, h⟩ := Dialogue.result_bind_eq_ok.mp h
      have hName : resourceType ≠ .freebusySubjects := by
        rintro rfl
        cases hOperation
      dsimp only
      rw [Dialogue.events_bind_of_ok hArguments, Dialogue.events_bind_of_ok hResult,
        invokeReadOperation_eq_ok hResult, projectPage_ids hName h]
      exact and_congr (found_of_page hOperation (requireAuthorization_emits history)).symm Iff.rfl

/-- What all pages of a listing show, and what was there before them. -/
theorem discoverPages_ids {pages : Nat} {found ids : List Str}
    (hStored : storedScope profile = .ok (.v2 stored))
    (h : (discoverPages services office profile resourceType pages cursor found history).result =
      .ok ids) :
    id ∈ ids ↔ id ∈ found ∨ Found stored
      (discoverPages services office profile resourceType pages cursor found history).events
        resourceType id ∧ Admits office resourceType.target id := by
  induction pages generalizing cursor found history with
  | zero => cases h
  | succ pages ih =>
      rw [discoverPages] at h ⊢
      obtain ⟨page, hPage, h⟩ := Dialogue.result_bind_eq_ok.mp h
      have hIds : id ∈ page.ids ↔
          Found stored (discoverTargets services office profile resourceType cursor history).events
            resourceType id ∧ Admits office resourceType.target id := discoverTargets_ids hStored hPage
      rw [Dialogue.events_bind_of_ok hPage, found_append, or_and_right, ← hIds, ← or_assoc,
        ← List.mem_append]
      split at h
      next hComplete =>
        cases h
        rw [if_pos hComplete]
        refine (or_iff_left_of_imp ?_).symm
        rintro ⟨hFound, hAdmits⟩
        exact List.mem_append_right _ (hIds.mpr ⟨found_nil_imp hFound, hAdmits⟩)
      next hComplete =>
        rw [if_neg hComplete]
        cases hNext : page.following with
        | none =>
            rw [hNext] at h
            cases h
        | some next =>
            rw [hNext] at h
            exact ih h

/-- `_discover_all_ids` finds all that was found and is let through. -/
theorem discoverAllIds_ids {ids : List Str} (hStored : storedScope profile = .ok (.v2 stored))
    (h : (discoverAllIds services office profile resourceType history).result = .ok ids) :
    id ∈ ids ↔
      Found stored (discoverAllIds services office profile resourceType history).events
        resourceType id ∧ Admits office resourceType.target id := by
  rw [discoverPages_ids hStored h]
  simp [discoverAllIds]

end Found

end CyreneExchange.Integrations.Graph
